import Scorebook.Catalogue.Basic
import Scorebook.Json.Printer
import Scorebook.Text.Search

/-!
# The prompt of the extraction

What a model is told before it turns a question into an intent: the rules, the terms of every
vocabulary, and the metrics of the catalogue in ascending order.
-/

namespace Scorebook

/-- The rules of the extraction. -/
def extractionRules : String :=
  Text.joinWith "\n"
    ["You convert baseball statistics questions into a JSON intent.",
     "",
     "Return ONLY a JSON object, no markdown, with these optional fields:",
     "- \"query_type\": one of the query types below",
     "- \"split_type\": required when query_type ends in \"_splits\"",
     "- \"metrics\": list of metric keys from the list below, or [\"main_stats\"] for the "
       ++ "default stats",
     "- \"subject_name\": the player's name exactly as asked, letters only",
     "- \"season\": four-digit year",
     "- \"inning\": list of innings 1-9",
     "- \"strikes\": 0-3",
     "- \"balls\": 0-3",
     "- \"pitcher_throws\": \"RHP\" or \"LHP\"",
     "- \"pitch_type\": list of pitch names such as \"Slider\" or \"Changeup\" (letters, spaces "
       ++ "and hyphens only)",
     "- \"game_score\": one of the game score buckets below",
     "- \"order_by\": a metric key to sort by",
     "- \"limit\": 1-1000 rows",
     "- \"output_format\": \"narrative\" for a sentence answer, \"table\" for a list or comparison",
     "",
     "Leave a field out when the question does not mention it. Never invent a season.",
     "Career questions never carry a season."]

/-- The metrics of all tables. -/
def Catalogue.tableMetrics (c : Catalogue) : KeySet :=
  KeySet.of (c.tables.values.flatMap fun table => table.metrics.keys)

/-- A line with the terms that a field may have. -/
def termsLine (title : String) (terms : List String) : String :=
  title ++ ": " ++ Text.joinWith ", " terms

/-- The terms that the prompt lists as metrics. -/
def Catalogue.advertisedMetrics (c : Catalogue) : String :=
  Text.joinWith ", " c.tableMetrics.keys ++ ", " ++ mainStats

/-- The prompt for a catalogue, with a season for questions that name none if there is one. -/
def Catalogue.prompt (c : Catalogue) (defaultSeason : Option Int32) : String :=
  extractionRules ++ "\n\n"
    ++ Text.joinWith "\n"
      [termsLine "Query types" (Vocabulary.names QueryType),
       termsLine "Split types" (Vocabulary.names Split),
       termsLine "Pitcher hands" (Vocabulary.names Hand),
       termsLine "Game score buckets" (Vocabulary.names ScoreBucket),
       "Metrics: " ++ c.advertisedMetrics]
    ++ match defaultSeason with
      | none => ""
      | some season =>
        "\n\nWhen the question names no season and is not about a career, use "
          ++ String.ofList (Json.intText season.toInt) ++ "."

end Scorebook
