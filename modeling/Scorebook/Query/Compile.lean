import Scorebook.Intent.Strategy
import Scorebook.Query.Aggregated
import Scorebook.Query.EventLevel

/-!
# From an intent to a query

The two kinds of statements under one name, chosen by the strategy.
-/

namespace Scorebook.Catalogue

/-- The statement that answers an intent by a strategy. -/
def statement (c : Catalogue) (strategy : Strategy) (defaultLimit : UInt32) (intent : Intent) :
    Except Obstacle Statement :=
  match strategy with
  | .aggregated => c.aggregated defaultLimit intent
  | .eventLevel => c.eventLevel defaultLimit intent

/-- The query that answers an intent by a strategy, or why there is none. -/
def compile (c : Catalogue) (strategy : Strategy) (defaultLimit : UInt32) (intent : Intent) :
    Except Obstacle Query :=
  (c.statement strategy defaultLimit intent).map Statement.query

end Scorebook.Catalogue
