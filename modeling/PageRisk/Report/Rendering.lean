import PageRisk.Json.Printer
import PageRisk.Message.Response
import PageRisk.Report.Format

set_option autoImplicit false

/-! # Showing decisions, rules and cached entries

The texts that commands print, without the line end after the last line. -/

namespace PageRisk.Report

/-! ## Decisions -/

/-- How a level is announced; both announcements are of one width. -/
def levelLabel : RiskLevel → String
  | .high => "[HIGH RISK]"
  | .low => "[LOW RISK] "

/-- What is said of the source of a score. -/
def sourceLabel : ScoreSource → String
  | .cache => " (cached)"
  | .fresh => ""

/-- The lines of the reasons. -/
def tagLines (tags : List String) : String :=
  if tags.isEmpty then "           no issues found\n"
  else String.join (tags.map fun tag => "           - " ++ tag ++ "\n")

/-- A score with one place after the point. -/
def scoreText (score : Float) : String :=
  String.ofList (Decimal.tenthsText score)

/-- A decision for a person to read, by lines. -/
def console (hostname : String) (outcome : Outcome) (threshold : UInt32) : String :=
  match outcome with
  | .allowlisted => "\n  " ++ hostname ++ " is allowlisted, not analyzed.\n\n"
  | .disabled => "\n  Analysis is disabled.\n\n"
  | .scored a source =>
    "\n  " ++ levelLabel (RiskLevel.classify a.score threshold) ++ " " ++ hostname ++ " score "
      ++ scoreText a.score ++ sourceLabel source ++ "\n" ++ tagLines a.tags
      ++ "\n  Threshold: " ++ String.ofList (Decimal.natText threshold.toNat) ++ "\n\n"

/-- A decision in a format. -/
def render (hostname : String) (outcome : Outcome) (threshold : UInt32) : OutputFormat → String
  | .console => console hostname outcome threshold
  | .json => (Message.Response.ofOutcome outcome).toJson.prettyText

/-! ## Tables -/

/-- A text filled up with spaces on its right. -/
def padRight (width : Nat) (text : String) : String :=
  text ++ String.ofList (List.replicate (width - text.length) ' ')

/-- A text filled up with spaces on its left. -/
def padLeft (width : Nat) (text : String) : String :=
  String.ofList (List.replicate (width - text.length) ' ') ++ text

/-- The line under the heading of a table. -/
def rule : String :=
  String.ofList (List.replicate 80 '-')

/-- Lines, each with its end. -/
def lines (ls : List String) : String :=
  String.join (ls.map (· ++ "\n"))

/-- The findings that there are, as a table. -/
def findingsTable (findings : List Csp.Finding) : String :=
  let row (tag weight description : String) : String :=
    padRight 28 tag ++ " " ++ padRight 8 weight ++ " " ++ description
  lines (row "TAG" "WEIGHT" "DESCRIPTION" :: rule :: findings.map fun f =>
    row f.tag (String.ofList (Decimal.natText f.weight)) f.description)

/-- The findings that there are, as JSON. -/
def findingsJson (findings : List Csp.Finding) : Json :=
  .array (findings.map fun f =>
    .object [("tag", .string f.tag), ("weight", .ofNat32 f.weight),
      ("description", .string f.description)])

/-- Cached entries, as a table. -/
def entriesTable (entries : List (String × CacheEntry)) : String :=
  let row (host score tags : String) : String :=
    padRight 40 host ++ " " ++ padLeft 8 score ++ "  " ++ tags
  lines (row "HOST" "SCORE" "TAGS" :: rule :: entries.map fun (host, e) =>
    row host (scoreText e.score) (String.intercalate ", " e.tags))

end PageRisk.Report
