import PageRisk.Proofs.Errors
import PageRisk.Proofs.Message.Grammar
import PageRisk.Proofs.Message.Handling
import PageRisk.Proofs.Store.Errors

set_option autoImplicit false

/-! # Lines that are acted on

A line that is refused changes nothing and asks nothing, and every line that is not refused is a request.
What clients are told is that a line in no `Documented` form is refused (`ActsAsDocumented`). A list, or a
number in place of the name of a type, is acted on all the same (`Undocumented`), and these are all the
exceptions (`acts_as_documented_iff`). -/

namespace PageRisk.Message

open Json (readDocument)
open Request (Documented Undocumented)

/-- Whether a response says that a message is invalid. -/
def Response.IsInvalidMessage : Response → Prop
  | .error text => "Invalid message".toList <+: text.toList
  | _ => False

theorem second_of_invalid {start rest : String} (hlong : 1 < start.toList.length)
    (h : "Invalid message".toList <+: (start ++ rest).toList) : start.toList[1]? = some 'n' := by
  obtain ⟨more, hmore⟩ := h
  rw [String.toList_append] at hmore
  have hsecond := congrArg (fun cs => cs[1]?) hmore
  simp only [List.getElem?_append_left hlong] at hsecond
  exact hsecond.symm

/-- Of the errors only `GuardError.message` reads as if it spoke of an invalid message: the second letter
    tells. -/
theorem isInvalidMessage_ofError_iff (e : GuardError) :
    (Response.ofError e).IsInvalidMessage ↔ e.IsMessage := by
  cases e with
  | message description =>
    have hstart : "Invalid message: ".toList = "Invalid message".toList ++ ": ".toList := by decide
    have hprefix : "Invalid message".toList <+: ("Invalid message: " ++ description).toList := by
      rw [String.toList_append, hstart, List.append_assoc]
      exact List.prefix_append _ _
    exact iff_of_true hprefix trivial
  | config description =>
    exact iff_of_false (fun h => absurd (second_of_invalid (by decide) h) (by decide)) id
  | storage description =>
    exact iff_of_false (fun h => absurd (second_of_invalid (by decide) h) (by decide)) id
  | file failure =>
    exact iff_of_false (fun h => absurd (second_of_invalid (by decide) h) (by decide)) id
  | json description =>
    exact iff_of_false (fun h => absurd (second_of_invalid (by decide) h) (by decide)) id
  | toml =>
    have htext : GuardError.toml.text = "TOML parse error" ++ "" := rfl
    refine iff_of_false (fun h => ?_) id
    rw [Response.ofError, Response.IsInvalidMessage, htext] at h
    exact absurd (second_of_invalid (by decide) h) (by decide)

/-! ## Requests -/

section Run

variable {σ α β : Type} {s : Surroundings σ} {config : ScoringConfig} {w : Situation σ}

theorem exists_of_perform_map {work : Task α} {f : α → β} {b : β}
    (h : (s.perform (work >>= fun a => pure (f a)) w).1 = .ok b) : ∃ a, b = f a := by
  rw [Surroundings.perform_bind] at h
  cases hwork : s.perform work w with
  | mk result w' =>
    rw [hwork] at h
    cases result with
    | ok a => exact ⟨a, (Except.ok.inj h).symm⟩
    | error e => exact absurd h (by simp)

/-- A request that worked is not answered by an error. -/
theorem not_isInvalidMessage_of_ok {request : Request} {response : Response}
    (h : (s.perform (perform config request) w).1 = .ok response) : ¬ response.IsInvalidMessage := by
  cases request with
  | analyze hostname csp =>
    obtain ⟨outcome, rfl⟩ := exists_of_perform_map h
    cases outcome <;> exact id
  | toggle enabled =>
    obtain ⟨_, rfl⟩ := exists_of_perform_map h
    exact id
  | toggleAllowlist hostname enabled =>
    obtain ⟨_, rfl⟩ := exists_of_perform_map h
    exact id
  | setThreshold threshold =>
    obtain ⟨_, rfl⟩ := exists_of_perform_map h
    exact id
  | clearCache =>
    obtain ⟨_, rfl⟩ := exists_of_perform_map h
    exact id

/-- `handle` never answers as to an invalid message, as long as the store has no such error. -/
theorem not_isInvalidMessage_of_handle (hstore : s.StoreErrs fun e => ¬ e.IsMessage)
    (request : Request) : ¬ (s.run (handle config request) w).1.IsInvalidMessage := by
  rw [run_handle]
  have herrs := relays_perform config request s (fun e => ¬ e.IsMessage) hstore w
  have hok := @not_isInvalidMessage_of_ok σ s config w request
  cases hperform : s.perform (perform config request) w with
  | mk result w' =>
    rw [hperform] at herrs hok
    cases result with
    | ok response => exact hok rfl
    | error e => exact fun h => herrs e rfl ((isInvalidMessage_ofError_iff e).1 h)

/-! ## Lines -/

/-- `respond` answers a line as an invalid message just where `Request.ofLine` reads no request in it. -/
theorem isInvalidMessage_iff (hstore : s.StoreErrs fun e => ¬ e.IsMessage) (line : String) :
    (s.run (respond config line) w).1.IsInvalidMessage
      ↔ ∃ description, Request.ofLine line = .error description := by
  cases hline : Request.ofLine line with
  | ok request =>
    rw [respond_of_ofLine hline]
    exact iff_of_false (not_isInvalidMessage_of_handle hstore request) (by simp)
  | error description =>
    rw [run_respond_of_error hline]
    exact iff_of_true ((isInvalidMessage_ofError_iff _).2 trivial) ⟨description, rfl⟩

/-- Whether `respond` answers the line as the request that it is in one of the `Documented` forms. -/
def ActsAsDocumented (config : ScoringConfig) (line : String) : Prop :=
  ∃ v request, readDocument line = .ok v ∧ Documented v request
    ∧ respond config line = handle config request

/-- Every line that is a request is acted on as documented (`ActsAsDocumented`) just where it holds no
    `Undocumented` value: such a line is a request too. -/
theorem actsAsDocumented_iff_not_undocumented (config : ScoringConfig) (line : String) :
    ((¬ ∃ description, Request.ofLine line = .error description) → ActsAsDocumented config line)
      ↔ ¬ ∃ v request, readDocument line = .ok v ∧ Undocumented v request := by
  refine ⟨fun hacts => ?_, fun hno hline => ?_⟩
  · -- Such a line is acted on, and could be as documented only if its value were of both kinds.
    rintro ⟨v, request, hread, hundocumented⟩
    have hline : Request.ofLine line = .ok request := (Request.ofLine_eq_ok_iff line request).2
      ⟨v, hread, (Request.ofValue_eq_ok_iff v request).2 (.inr hundocumented)⟩
    obtain ⟨v', request', hread', hdocumented, -⟩ := hacts (by simp [hline])
    obtain rfl := Except.ok.inj (hread.symm.trans hread')
    exact hdocumented.not_undocumented hundocumented
  · cases hrequest : Request.ofLine line with
    | error description => exact absurd ⟨description, hrequest⟩ hline
    | ok request =>
      obtain ⟨v, hread, hvalue⟩ := (Request.ofLine_eq_ok_iff line request).1 hrequest
      rcases (Request.ofValue_eq_ok_iff v request).1 hvalue with hdocumented | hundocumented
      · exact ⟨v, request, hread, hdocumented, respond_of_ofLine hrequest⟩
      · exact absurd ⟨v, request, hread, hundocumented⟩ hno

/-- A line that is refused leaves everything as it is. -/
theorem snd_run_respond_of_refused (hstore : s.StoreErrs fun e => ¬ e.IsMessage) {line : String}
    (h : (s.run (respond config line) w).1.IsInvalidMessage) : (s.run (respond config line) w).2 = w := by
  obtain ⟨description, hline⟩ := (isInvalidMessage_iff hstore line).1 h
  rw [run_respond_of_error hline]

/-- Over any store whose errors are not `GuardError.message`: a line that is not answered as an invalid
    message is answered as the request that it holds in a `Documented` form (`ActsAsDocumented`), exactly
    where it holds no `Undocumented` value. A line that is answered as an invalid message leaves everything
    as it is: the store, the lookups that were asked for and the readings of the clock. -/
theorem acts_as_documented_iff (hstore : s.StoreErrs fun e => ¬ e.IsMessage) (line : String) :
    ((¬ (s.run (respond config line) w).1.IsInvalidMessage → ActsAsDocumented config line)
        ↔ ¬ ∃ v request, readDocument line = .ok v ∧ Undocumented v request)
      ∧ ((s.run (respond config line) w).1.IsInvalidMessage → (s.run (respond config line) w).2 = w) := by
  refine ⟨?_, snd_run_respond_of_refused hstore⟩
  rw [isInvalidMessage_iff hstore]
  exact actsAsDocumented_iff_not_undocumented config line

end Run

/-- `Surroundings.onDisk` has no `GuardError.message` of its own, whatever the disk holds and wherever it
    fails, so that lines are acted on as `acts_as_documented_iff` says. -/
theorem onDisk_acts_as_documented (path : String) (source : List String → String → Reputation.Outcome)
    (clock : Nat → Int64) (config : ScoringConfig) (w : Situation Files.Disk) (line : String) :
    let responded := (Surroundings.onDisk path source clock).run (respond config line) w
    ((¬ responded.1.IsInvalidMessage → ActsAsDocumented config line)
        ↔ ¬ ∃ v request, readDocument line = .ok v ∧ Undocumented v request)
      ∧ (responded.1.IsInvalidMessage → responded.2 = w) := by
  intro responded
  have hstore := Store.onDisk_storeErrs source clock path
  refine ⟨?_, snd_run_respond_of_refused hstore⟩
  rw [isInvalidMessage_iff hstore]
  exact actsAsDocumented_iff_not_undocumented config line

/-- A store in memory where no reputation is available. -/
def quiet : Surroundings (Table Json) :=
  Surroundings.inMemory (fun _ _ => .unavailable) fun _ => 0

theorem quiet_storeErrs : quiet.StoreErrs fun e => ¬ e.IsMessage :=
  Store.memory_storeErrs _ _ _

/-- A request of a type that nobody knows, as an object. -/
@[irreducible] def unknownObject : String :=
  "\x7b\"type\":\"launch-missiles\",\"hostname\":\"example.com\"\x7d"

theorem unknownObject_refused :
    (quiet.run (respond {} unknownObject) { stored := Table.empty }).1.IsInvalidMessage
      ∧ (quiet.run (respond {} unknownObject) { stored := Table.empty }).2 = { stored := Table.empty }
      ∧ ¬ ∃ v request, readDocument unknownObject = .ok v ∧ Undocumented v request := by
  have hline : Request.ofLine unknownObject
      = .error "data did not match any variant of untagged enum Inbound" := by decide +kernel
  have hinvalid : (quiet.run (respond {} unknownObject) { stored := Table.empty }).1.IsInvalidMessage :=
    (isInvalidMessage_iff quiet_storeErrs unknownObject).2 ⟨_, hline⟩
  obtain ⟨hiff, hkept⟩ := @acts_as_documented_iff (Table Json) quiet {} { stored := Table.empty }
    quiet_storeErrs unknownObject
  exact ⟨hinvalid, hkept hinvalid, hiff.1 fun hacted => absurd hinvalid hacted⟩

/-- The same as a list. -/
def unknownList : String :=
  "[\"launch-missiles\",\"example.com\"]"

/-- As a list, a request of a type that nobody knows is taken for the report of a page on a host of that
    name. -/
theorem unknownList_analyzed :
    respond {} unknownList = handle {} (.analyze "launch-missiles" (some "example.com"))
      ∧ ¬ (¬ (quiet.run (respond {} unknownList) { stored := Table.empty }).1.IsInvalidMessage →
        ActsAsDocumented {} unknownList) := by
  have hline : Request.ofLine unknownList = .ok (.analyze "launch-missiles" (some "example.com")) := by
    decide +kernel
  have hread : (readDocument unknownList).toOption
      = some (.array [.string "launch-missiles", .string "example.com"]) := by decide +kernel
  refine ⟨respond_of_ofLine hline, fun h => ?_⟩
  have hacted : ¬ (quiet.run (respond {} unknownList) { stored := Table.empty }).1.IsInvalidMessage := by
    rw [respond_of_ofLine hline]
    exact not_isInvalidMessage_of_handle quiet_storeErrs _
  obtain ⟨v, request, hdocument, hdocumented, -⟩ := h hacted
  rw [hdocument] at hread
  obtain rfl := Option.some.inj hread
  cases hdocumented

end PageRisk.Message
