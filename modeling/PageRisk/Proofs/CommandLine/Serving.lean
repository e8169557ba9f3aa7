import PageRisk.Proofs.CommandLine.Lines
import PageRisk.Proofs.Message.RoundTrip

set_option autoImplicit false

/-! # Serving requests

Where the input has a line with the text of each request, serving answers the requests one after the other
and prints the texts of the responses, one line each (`perform_serve`). -/

namespace PageRisk.CommandLine

open Message Surroundings

variable {σ : Type} (s : Surroundings σ) (config : ScoringConfig)

theorem allBlank_toJson (request : Request) :
    Text.allBlank request.toJson.compactText.toList = false := by
  obtain ⟨name, kind, fields, hobject, -⟩ := request.exists_members
  rw [hobject, Json.compactText, String.toList_ofList, Json.compact]
  rfl

theorem run_serveLine_toJson (request : Request) (w : Situation σ) :
    s.run (serveLine config request.toJson.compactText) w
      = (some (s.run (handle config request) w).1.toJson.compactText,
        (s.run (handle config request) w).2) := by
  rw [serveLine, allBlank_toJson, if_neg (by decide), run_andThen, run_answerLine_toJson, run_done]

/-- `serveLines` answers the lines of requests as `handle` answers the requests. -/
theorem run_serveLines_toJson (requests : List Request) (w : Situation σ) :
    s.run (serveLines config (requests.map fun request => some request.toJson.compactText)) w
      = (((s.run (requests.mapM (handle config)) w).1.map (·.toJson.compactText), true),
        (s.run (requests.mapM (handle config)) w).2) := by
  induction requests generalizing w with
  | nil => rfl
  | cons request rest ih =>
    rw [List.map_cons, serveLines, run_andThen, run_serveLine_toJson, run_andThen, ih, run_mapM_cons]
    rfl

/-- The input that has the lines of requests. -/
def inputOf (requests : List Request) : ByteArray :=
  (Report.lines (requests.map (·.toJson.compactText))).toUTF8

theorem textLines_inputOf (requests : List Request) :
    textLines (inputOf requests) = requests.map fun request => some request.toJson.compactText := by
  rw [inputOf, textLines_lines, List.map_map]
  · rfl
  · intro text htext
    obtain ⟨request, -, rfl⟩ := List.mem_map.1 htext
    rw [Json.compactText, String.toList_ofList]
    exact Json.unbroken_compact _

theorem perform_serve (requests : List Request) (w : Situation σ) :
    s.perform (serve (inputOf requests) config) w
      = (.ok ⟨0, Report.lines ((s.run (requests.mapM (handle config)) w).1.map (·.toJson.compactText)), ""⟩,
        (s.run (requests.mapM (handle config)) w).2) := by
  have hlift : ∀ p : Program services Output, s.perform (ExceptT.lift p) w
      = (.ok (s.run p w).1, (s.run p w).2) := fun p => run_andThen s p _ w
  rw [serve, hlift, textLines_inputOf, run_andThen, run_serveLines_toJson]
  rfl

end PageRisk.CommandLine
