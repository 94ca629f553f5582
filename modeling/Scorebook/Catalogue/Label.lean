import Scorebook.Catalogue.Basic
import Scorebook.Text.Case
import Scorebook.Text.Search

/-!
# Labels of columns

A column is shown under its label. One without a label is shown as its words: the parts between
underscores that are not empty, each with its first character in upper case.
-/

namespace Scorebook.Catalogue

/-- A word with its first character in upper case. -/
def capitalized : List Char → List Char
  | [] => []
  | c :: cs => Text.upperChar c ++ cs

/-- The words of a column name. -/
def wordsOf (column : String) : List String :=
  ((Text.splitAt '_' column.toList).filter fun word => !word.isEmpty).map fun word =>
    String.ofList (capitalized word)

/-- The label that a column is shown under. -/
def labelFor (c : Catalogue) (column : String) : String :=
  (c.labels.get? column).getD (Text.joinWith " " (wordsOf column))

end Scorebook.Catalogue
