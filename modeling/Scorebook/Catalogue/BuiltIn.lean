import Scorebook.Catalogue.Basic

/-!
# The built-in catalogue of baseball statistics

Season and career tables, a table for each split, and the table of single pitches. Pitchers have no
split by the hand that they throw with.
-/

namespace Scorebook.Catalogue.BuiltIn

/-- A table of the built-in data set. -/
def qualified (name : String) : String := "mlb_analytics." ++ name

/-- Metrics with a single column each. -/
def direct (pairs : List (String × String)) : List (String × Descriptor) :=
  pairs.map fun (metric, column) => (metric, .direct column)

/-- The seasons of batters. -/
def seasonBatting : Table where
  source := qualified "batting_season"
  nameCol := "player_name"
  yearCol := some "season"
  teamCol := some "team"
  mainStats := ["games", "plate_appearances", "batting_average", "homerun", "rbi",
    "on_base_percentage", "slugging_percentage", "ops", "war"]
  metrics := Dict.ofList <| direct
    [("games", "g"), ("plate_appearances", "pa"), ("at_bats", "ab"), ("runs", "r"), ("hits", "h"),
     ("doubles", "doubles"), ("triples", "triples"), ("homerun", "hr"), ("rbi", "rbi"),
     ("walks", "bb"), ("strikeouts", "so"), ("stolen_bases", "sb"), ("batting_average", "avg"),
     ("on_base_percentage", "obp"), ("slugging_percentage", "slg"), ("ops", "ops"),
     ("woba", "woba"), ("wrc_plus", "wrc_plus"), ("war", "war"), ("babip", "babip"),
     ("iso", "iso"), ("k_rate", "k_pct"), ("bb_rate", "bb_pct"), ("hard_hit_rate", "hard_hit_pct"),
     ("barrel_rate", "barrel_pct"), ("avg_exit_velocity", "avg_exit_velo")]

/-- The seasons of pitchers. -/
def seasonPitching : Table where
  source := qualified "pitching_season"
  nameCol := "player_name"
  yearCol := some "season"
  teamCol := some "team"
  mainStats := ["games", "wins", "losses", "era", "innings_pitched", "strikeouts", "whip", "fip",
    "war"]
  metrics := Dict.ofList <| direct
    [("games", "g"), ("games_started", "gs"), ("wins", "w"), ("losses", "l"), ("saves", "sv"),
     ("innings_pitched", "ip"), ("era", "era"), ("whip", "whip"), ("fip", "fip"),
     ("strikeouts", "so"), ("walks", "bb"), ("hits_allowed", "h"), ("homerun", "hr"),
     ("homeruns_allowed", "hr"), ("k_per_9", "k_9"), ("bb_per_9", "bb_9"), ("k_rate", "k_pct"),
     ("bb_rate", "bb_pct"), ("opponent_avg", "avg_against"), ("avg_fastball_velocity", "fb_velo"),
     ("war", "war")]

/-- A metric with a column for the career and for each of its two situations. -/
def careerMetric (stem : String) : Descriptor :=
  .career ⟨some ("career_" ++ stem), some ("risp_" ++ stem), some ("bases_loaded_" ++ stem)⟩

/-- The careers of batters; a career spans seasons and teams, so it has neither column. -/
def careerBatting : Table where
  source := qualified "batting_career"
  nameCol := "player_name"
  identityCols := ["first_season", "last_season", "seasons_played"]
  mainStats := ["games", "hits", "homerun", "rbi", "batting_average", "on_base_percentage", "ops",
    "war"]
  metrics := Dict.ofList <|
    [("games", "career_g"), ("runs", "career_r"), ("stolen_bases", "career_sb"),
     ("war", "career_war")].map
      (fun (metric, column) => (metric, .career { career := some column }))
    ++ [("plate_appearances", "pa"), ("at_bats", "ab"), ("hits", "h"), ("doubles", "doubles"),
        ("homerun", "hr"), ("rbi", "rbi"), ("walks", "bb"), ("strikeouts", "so"),
        ("batting_average", "avg"), ("on_base_percentage", "obp"), ("slugging_percentage", "slg"),
        ("ops", "ops")].map (fun (metric, stem) => (metric, careerMetric stem))

/-- A split of batters, with the metrics that it has beyond the common ones. -/
def battingSplit (name : String) (more : List (String × String)) : Table where
  source := qualified ("batting_splits_" ++ name)
  nameCol := "player_name"
  yearCol := some "season"
  teamCol := some "team"
  weightCol := some "pa"
  mainStats := ["plate_appearances", "batting_average", "homerun", "rbi", "on_base_percentage",
    "slugging_percentage", "ops"]
  metrics := Dict.ofList <| direct <|
    [("plate_appearances", "pa"), ("at_bats", "ab"), ("hits", "h"), ("doubles", "doubles"),
     ("triples", "triples"), ("homerun", "hr"), ("rbi", "rbi"), ("walks", "bb"),
     ("strikeouts", "so"), ("batting_average", "avg"), ("on_base_percentage", "obp"),
     ("slugging_percentage", "slg"), ("ops", "ops")] ++ more

/-- A split of pitchers, with the metrics that it has beyond the common ones. -/
def pitchingSplit (name : String) (more : List (String × String)) : Table where
  source := qualified ("pitching_splits_" ++ name)
  nameCol := "player_name"
  yearCol := some "season"
  teamCol := some "team"
  weightCol := some "tbf"
  mainStats := ["batters_faced", "opponent_avg", "strikeouts", "walks", "homeruns_allowed",
    "opponent_ops"]
  metrics := Dict.ofList <| direct <|
    [("batters_faced", "tbf"), ("hits_allowed", "h"), ("homerun", "hr"),
     ("homeruns_allowed", "hr"), ("strikeouts", "so"), ("walks", "bb"),
     ("opponent_avg", "avg_against"), ("opponent_obp", "obp_against"),
     ("opponent_slg", "slg_against"), ("opponent_ops", "ops_against"), ("k_rate", "k_pct"),
     ("bb_rate", "bb_pct")] ++ more

/-- A table that tells its rows apart by the inning, and filters by it. -/
def byInning (t : Table) : Table :=
  { t with identityCols := ["inning"], filters := { inning := some "inning" } }

/-- A table that tells its rows apart by the type of pitch, and filters by it. -/
def byPitch (t : Table) : Table :=
  { t with identityCols := ["pitch_name"], filters := { pitchType := some "pitch_name" } }

/-- A table that tells its rows apart by the score, and filters by it. -/
def byScore (t : Table) : Table :=
  { t with identityCols := ["score_situation"], filters := { gameScore := some "score_situation" } }

/-- A table that tells its rows apart by the count, and filters by it. -/
def byCount (t : Table) : Table :=
  { t with
    identityCols := ["balls", "strikes"]
    filters := { strikes := some "strikes", balls := some "balls" } }

/-- The splits of batters. -/
def battingSplits : List (Split × Table) :=
  [(.risp, battingSplit "risp" []),
   (.basesLoaded, battingSplit "bases_loaded" []),
   (.runnerOnFirst, battingSplit "runner_on_1b" []),
   (.inning, byInning (battingSplit "inning" [])),
   (.pitcherThrows,
    { battingSplit "pitcher_hand" [] with
      identityCols := ["pitcher_throws"]
      filters := { pitcherThrows := some "pitcher_throws" } }),
   (.pitchType,
    byPitch (battingSplit "pitch_type"
      [("whiff_rate", "whiff_pct"), ("hard_hit_rate", "hard_hit_pct"),
       ("avg_exit_velocity", "avg_exit_velo")])),
   (.gameScoreSituation, byScore (battingSplit "game_score" [])),
   (.monthly, { battingSplit "monthly" [] with monthCol := some "month" }),
   (.countSituation, byCount (battingSplit "count" [])),
   (.runnerSituation, { battingSplit "runners" [] with identityCols := ["runner_state"] })]

/-- The splits of pitchers. -/
def pitchingSplits : List (Split × Table) :=
  [(.risp, pitchingSplit "risp" []),
   (.basesLoaded, pitchingSplit "bases_loaded" []),
   (.runnerOnFirst, pitchingSplit "runner_on_1b" []),
   (.inning, byInning (pitchingSplit "inning" [("innings_pitched", "ip"), ("era", "era")])),
   (.pitchType,
    byPitch (pitchingSplit "pitch_type"
      [("whiff_rate", "whiff_pct"), ("avg_velocity", "avg_velo"), ("usage_rate", "usage_pct")])),
   (.gameScoreSituation, byScore (pitchingSplit "game_score" [])),
   (.monthly,
    { pitchingSplit "monthly" [("innings_pitched", "ip"), ("era", "era"), ("whip", "whip")] with
      monthCol := some "month" }),
   (.countSituation, byCount (pitchingSplit "count" [])),
   (.runnerSituation, { pitchingSplit "runners" [] with identityCols := ["runner_state"] })]

/-- The context of a split. -/
def splitContext (queryType : QueryType) (entry : Split × Table) : String × Table :=
  (Vocabulary.name queryType ++ "_" ++ Vocabulary.name entry.1, entry.2)

/-- The table of single pitches. -/
def master : MasterTable where
  source := qualified "statcast_pitches"
  batterCol := "batter_name"
  pitcherCol := "pitcher_name"
  seasonCol := "game_year"
  dateCol := "game_date"
  columns := Dict.ofList
    [("plate_appearances", "plate_appearances"), ("at_bats", "at_bats"), ("hits", "hits"),
     ("singles", "singles"), ("doubles", "doubles"), ("triples", "triples"),
     ("homerun", "home_runs"), ("extra_base_hits", "extra_base_hits"), ("walks", "walks"),
     ("strikeouts", "strikeouts"), ("batting_average", "batting_average"),
     ("on_base_percentage", "on_base_percentage"), ("slugging_percentage", "slugging_percentage"),
     ("ops", "ops"), ("hard_hit_rate", "hard_hit_rate"), ("barrel_rate", "barrel_rate"),
     ("whiff_rate", "swinging_strike_rate"), ("swinging_strike_rate", "swinging_strike_rate")]

/-- The labels of columns. -/
def labels : List (String × String) :=
  [("name", "Player"), ("g", "G"), ("gs", "GS"), ("pa", "PA"), ("ab", "AB"), ("r", "R"),
   ("h", "H"), ("doubles", "2B"), ("triples", "3B"), ("hr", "HR"), ("rbi", "RBI"), ("bb", "BB"),
   ("so", "SO"), ("sb", "SB"), ("avg", "AVG"), ("obp", "OBP"), ("slg", "SLG"), ("ops", "OPS"),
   ("woba", "wOBA"), ("wrc_plus", "wRC+"), ("war", "WAR"), ("babip", "BABIP"), ("iso", "ISO"),
   ("k_pct", "K%"), ("bb_pct", "BB%"), ("hard_hit_pct", "Hard-Hit%"), ("barrel_pct", "Barrel%"),
   ("whiff_pct", "Whiff%"), ("usage_pct", "Usage%"), ("avg_exit_velo", "Avg EV"),
   ("avg_velo", "Avg Velo"), ("fb_velo", "FB Velo"), ("w", "W"), ("l", "L"), ("sv", "SV"),
   ("ip", "IP"), ("era", "ERA"), ("whip", "WHIP"), ("fip", "FIP"), ("k_9", "K/9"),
   ("bb_9", "BB/9"), ("tbf", "TBF"), ("avg_against", "Opp AVG"), ("obp_against", "Opp OBP"),
   ("slg_against", "Opp SLG"), ("ops_against", "Opp OPS"), ("career_hr", "Career HR"),
   ("risp_hr", "RISP HR"), ("bases_loaded_hr", "Bases Loaded HR"), ("career_avg", "Career AVG"),
   ("risp_avg", "RISP AVG"), ("bases_loaded_avg", "Bases Loaded AVG"), ("home_runs", "HR")]

end BuiltIn

/-- The built-in catalogue. -/
def builtIn : Catalogue where
  version := "2024.1"
  tables := Dict.ofList <|
    [("season_batting", BuiltIn.seasonBatting), ("season_pitching", BuiltIn.seasonPitching),
     ("career_batting", BuiltIn.careerBatting)]
    ++ BuiltIn.battingSplits.map (BuiltIn.splitContext .battingSplits)
    ++ BuiltIn.pitchingSplits.map (BuiltIn.splitContext .pitchingSplits)
  master := some BuiltIn.master
  lowerIsBetter := KeySet.of ["era", "whip", "fip"]
  decimalMetrics := KeySet.of
    ["batting_average", "on_base_percentage", "slugging_percentage", "ops", "woba", "babip", "iso",
     "era", "whip", "fip", "k_per_9", "bb_per_9", "k_rate", "bb_rate", "hard_hit_rate",
     "barrel_rate", "whiff_rate", "usage_rate", "avg_exit_velocity", "avg_velocity",
     "avg_fastball_velocity", "opponent_avg", "opponent_obp", "opponent_slg", "opponent_ops",
     "swinging_strike_rate"]
  labels := Dict.ofList BuiltIn.labels

end Scorebook.Catalogue
