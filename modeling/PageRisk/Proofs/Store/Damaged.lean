import PageRisk.Proofs.Message.Handling
import PageRisk.Proofs.Store.Refinement

set_option autoImplicit false

/-! # Damaged files

A store's file that holds no JSON object is left alone. Every operation of the store reads the file before
anything else, and where it stands for no entries (`Damaged`, `damaged_iff`), each of them fails and changes
nothing. Work that starts with such an operation (`Task.NeedsStore`) fails with it: all settings, the whole
cache, and the decision on a page before any lookup. So any number of uses and lines leave the file, the
disk around it and the source of reputation untouched (`damaged_left_alone`). -/

namespace PageRisk

open Surroundings

variable {σ α β : Type}

/-! ## Stores that refuse everything -/

/-- Whether the store `s.store` answers every operation in the state `x` with the error `e`, and stays as it
    is. -/
def Surroundings.Refuses (s : Surroundings σ) (x : σ) (e : GuardError) : Prop :=
  ∀ op, s.store op x = (.error e, x)

namespace Task

/-- Whether some work begins with the store: over one that `Refuses`, the work ends with the error of the
    store and has done nothing. -/
def NeedsStore (work : Task α) : Prop :=
  ∀ {σ : Type} (s : Surroundings σ) (e : GuardError) (w : Situation σ), s.Refuses w.stored e →
    s.perform work w = (.error e, w)

theorem needsStore_store (op : StoreOp) : NeedsStore (Task.store op) := by
  intro σ s e w h
  rw [perform_store, h op]

/-- It is the first part of some work that makes it `NeedsStore`. -/
theorem needsStore_bind {work : Task α} (h : NeedsStore work) (next : α → Task β) :
    NeedsStore (work >>= next) := by
  intro σ s e w hrefuses
  rw [perform_bind, h s e w hrefuses]

theorem needsStore_get? (key : String) : NeedsStore (Task.get? key) :=
  needsStore_bind (needsStore_store _) _

theorem needsStore_put (key : String) (value : Json) : NeedsStore (Task.put key value) :=
  needsStore_store _

end Task

open PageRisk.Task

/-! ## Settings, cache and gate -/

theorem Settings.needsStore_enabled : NeedsStore Settings.enabled :=
  needsStore_bind (needsStore_get? _) _

theorem Settings.needsStore_threshold (default : UInt32) : NeedsStore (Settings.threshold default) :=
  needsStore_bind (needsStore_get? _) _

theorem Settings.needsStore_allowlist : NeedsStore Settings.allowlist :=
  needsStore_bind (needsStore_get? _) _

theorem Settings.needsStore_setAllowlisted (host : String) (listed : Bool) :
    NeedsStore (Settings.setAllowlisted host listed) :=
  needsStore_bind Settings.needsStore_allowlist _

theorem Cache.needsStore_keys : NeedsStore Cache.keys :=
  needsStore_bind (needsStore_store _) _

theorem Cache.needsStore_clear : NeedsStore Cache.clear :=
  needsStore_bind Cache.needsStore_keys _

/-- `Gate.evaluate` reads the switch before it does anything else, so that no page is looked up. -/
theorem Gate.needsStore_evaluate (config : ScoringConfig) (page : Page) :
    NeedsStore (Gate.evaluate config page) :=
  needsStore_bind Settings.needsStore_enabled _

theorem Message.needsStore_perform (config : ScoringConfig) (request : Message.Request) :
    NeedsStore (Message.perform config request) := by
  cases request with
  | analyze hostname csp => exact needsStore_bind (Gate.needsStore_evaluate config _) _
  | toggle enabled => exact needsStore_bind (needsStore_put _ _) _
  | toggleAllowlist hostname enabled => exact needsStore_bind (Settings.needsStore_setAllowlisted _ _) _
  | setThreshold threshold => exact needsStore_bind (needsStore_put _ _) _
  | clearCache => exact needsStore_bind Cache.needsStore_clear _

/-! ## All uses of a store -/

/-- What can be asked of a store, of the settings and the cache in it, and of the gate over these. -/
inductive Use where
  | call (c : Store.Call)
  | enabled
  | setEnabled (b : Bool)
  | threshold (default : UInt32)
  | setThreshold (n : UInt32)
  | allowlist
  | isAllowlisted (host : String)
  | setAllowlisted (host : String) (listed : Bool)
  | classify (default : UInt32) (score : Float)
  | cached (maxAge : Option UInt64) (host : String)
  | cache (host : String) (entry : CacheEntry)
  | cachedEntries
  | clearCache
  | evaluate (config : ScoringConfig) (page : Page)

namespace Use

/-- What a use gives. -/
abbrev Result : Use → Type
  | call _ => Store.Reply
  | enabled | isAllowlisted _ | setAllowlisted _ _ => Bool
  | setEnabled _ | setThreshold _ | cache _ _ => Unit
  | threshold _ => UInt32
  | allowlist => TextSet
  | classify _ _ => RiskLevel
  | cached _ _ => Option CacheEntry
  | cachedEntries => List (String × CacheEntry)
  | clearCache => Nat
  | evaluate _ _ => Outcome

/-- The `Task` of a use. -/
def task : (u : Use) → Task u.Result
  | call c => c.task
  | enabled => Settings.enabled
  | setEnabled b => Settings.setEnabled b
  | threshold default => Settings.threshold default
  | setThreshold n => Settings.setThreshold n
  | allowlist => Settings.allowlist
  | isAllowlisted host => Settings.isAllowlisted host
  | setAllowlisted host listed => Settings.setAllowlisted host listed
  | classify default score => Settings.classify default score
  | cached maxAge host => Cache.get maxAge host
  | cache host entry => Cache.put host entry
  | cachedEntries => Cache.entries
  | clearCache => Cache.clear
  | evaluate config page => Gate.evaluate config page

theorem needsStore : (u : Use) → NeedsStore u.task
  | call c => by rw [task, Store.Call.task_eq]; exact needsStore_bind (needsStore_store _) _
  | enabled => Settings.needsStore_enabled
  | setEnabled b => needsStore_put _ _
  | threshold default => Settings.needsStore_threshold default
  | setThreshold n => needsStore_put _ _
  | allowlist => Settings.needsStore_allowlist
  | isAllowlisted host => needsStore_bind Settings.needsStore_allowlist _
  | setAllowlisted host listed => Settings.needsStore_setAllowlisted host listed
  | classify default score => needsStore_bind (Settings.needsStore_threshold default) _
  | cached maxAge host => needsStore_bind (needsStore_get? _) _
  | cache host entry => needsStore_put _ _
  | cachedEntries => needsStore_bind Cache.needsStore_keys _
  | clearCache => Cache.needsStore_clear
  | evaluate config page => Gate.needsStore_evaluate config page

end Use

/-- Something that happens to a store: it is used, or a line is answered over it. -/
inductive Event where
  | use (u : Use)
  | line (config : ScoringConfig) (text : String)

/-- What an event gives to whoever caused it: the error that a use ended with, or the text of a
    response. -/
inductive Event.Notice where
  | done
  | failed (e : GuardError)
  | response (text : String)
  deriving DecidableEq

/-- An `Event` as a program. -/
def Event.run : Event → Program services Event.Notice
  | use u => u.task.run.andThen fun
    | .ok _ => .done .done
    | .error e => .done (.failed e)
  | line config text => (Message.answerLine config text).andThen fun response => .done (.response response)

/-- Whether a notice tells of a failure: an error, or the text of an object with an `error`. -/
def Event.Notice.TellsFailure : Event.Notice → Prop
  | done => False
  | failed _ => True
  | response text => ∃ description, text = (Message.Response.error description).toJson.compactText

section Refused

variable {s : Surroundings σ} {e : GuardError} {w : Situation σ}

/-- Over a store that `Refuses`, `answerLine` answers every line by an error, whether or not it is a
    request. -/
theorem Message.run_answerLine_of_refuses (h : s.Refuses w.stored e) (config : ScoringConfig)
    (line : String) :
    ∃ description, s.run (Message.answerLine config line) w
      = ((Message.Response.error description).toJson.compactText, w) := by
  rw [Message.answerLine, run_andThen]
  cases hline : Message.Request.ofLine line with
  | error description =>
    rw [Message.run_respond_of_error hline]
    exact ⟨_, rfl⟩
  | ok request =>
    rw [Message.respond_of_ofLine hline, Message.run_handle,
      Message.needsStore_perform config request s e w h]
    exact ⟨e.text, rfl⟩

theorem Event.run_of_refuses (h : s.Refuses w.stored e) (event : Event) :
    ∃ notice, s.run event.run w = (notice, w) ∧ notice.TellsFailure := by
  cases event with
  | use u =>
    have hwork : s.run u.task.run w = (.error e, w) := u.needsStore s e w h
    refine ⟨.failed e, ?_, trivial⟩
    rw [Event.run, run_andThen, hwork]
    rfl
  | line config text =>
    obtain ⟨description, hline⟩ := Message.run_answerLine_of_refuses h config text
    refine ⟨.response _, ?_, description, rfl⟩
    rw [Event.run, run_andThen, hline]
    rfl

theorem Event.run_mapM_of_refuses (h : s.Refuses w.stored e) (events : List Event) :
    ∃ notices, s.run (events.mapM Event.run) w = (notices, w)
      ∧ ∀ notice ∈ notices, notice.TellsFailure := by
  induction events with
  | nil => exact ⟨[], rfl, by simp⟩
  | cons event rest ih =>
    obtain ⟨notice, hrun, hfails⟩ := event.run_of_refuses h
    obtain ⟨notices, hrest, hall⟩ := ih
    refine ⟨notice :: notices, ?_, List.forall_mem_cons.2 ⟨hfails, hall⟩⟩
    rw [run_mapM_cons, hrun, hrest]

end Refused

/-! ## Damaged contents -/

namespace Json

theorem not_numberStart_of_blank {c : Char} (h : Text.isBlank c = true) :
    (c == '-' || c.isDigit) = false := by
  have hminus : c ≠ '-' := by
    rintro rfl
    exact absurd h (by decide)
  have hdigit : c.isDigit = false := by
    simp only [Text.isBlank, Char.toNat, Bool.or_eq_true, Bool.and_eq_true, decide_eq_true_eq,
      beq_iff_eq] at h
    simp only [Char.isDigit, Bool.and_eq_false_iff, decide_eq_false_iff_not, ge_iff_le,
      UInt32.le_iff_toNat_le]
    have hzero : '0'.val.toNat = 48 := rfl
    have hnine : '9'.val.toNat = 57 := rfl
    omega
  rw [beq_false_of_ne hminus, hdigit]
  rfl

/-- No value starts with white space, of any kind: `valueWith` fails there. -/
theorem valueWith_of_blank {cs : List Char} (h : Text.allBlank cs = true) (fuel : Nat)
    (inner : Option (Reader Json)) : ∃ fault, valueWith fuel inner cs = .error fault := by
  have hblank : ∀ c ∈ skipSpace cs, Text.isBlank c = true := fun c hc =>
    List.all_eq_true.1 h c ((List.dropWhile_suffix _).subset hc)
  have hstart : ∀ {c : Char} {rest : List Char}, skipSpace cs = c :: rest → Text.isBlank c = true :=
    fun hskip => hblank _ (by rw [hskip]; exact List.mem_cons_self)
  rw [valueWith]
  split
  · exact ⟨_, rfl⟩
  case h_8 c rest _ _ _ _ _ _ hskip =>
    rw [not_numberStart_of_blank (hstart hskip)]
    exact ⟨_, rfl⟩
  all_goals
    next hskip => exact absurd (hstart hskip) (by decide)

theorem parse_of_blank {text : String} (h : Text.allBlank text.toList = true) :
    ∃ description, parse text = .error description := by
  obtain ⟨fault, hfault⟩ := valueWith_of_blank h text.toList.length
    (some (value text.toList.length (depthLimit - 1)))
  have hvalue : value text.toList.length depthLimit text.toList = .error fault := hfault
  refine ⟨fault.message text.toList, ?_⟩
  rw [parse, readDocument, readAll, hvalue]

end Json

namespace Store

open Files

/-- Whether the contents of a file are those of a damaged store: no text, or a text that is not blank and no
    JSON, or another value than an object. -/
inductive Damaged (contents : ByteArray) : Prop where
  | notText (h : String.fromUTF8? contents = none)
  | notJson (text : String) (htext : String.fromUTF8? contents = some text)
    (hblank : Text.allBlank text.toList = false) (h : ∀ v, Json.parse text ≠ .ok v)
  | notObject (text : String) (htext : String.fromUTF8? contents = some text) (v : Json)
    (hparse : Json.parse text = .ok v) (h : ∀ members, v ≠ .object members)

/-- `Damaged` contents are those for which `entriesOf` has no entries. -/
theorem damaged_iff (path : String) (contents : ByteArray) :
    Damaged contents ↔ ∃ e, entriesOf path contents = .error e := by
  unfold entriesOf
  constructor
  · rintro (htext | ⟨text, htext, hblank, hparse⟩ | ⟨text, htext, v, hparse, hkind⟩)
    · rw [htext]
      exact ⟨_, rfl⟩
    · simp only [htext, hblank, Bool.false_eq_true, if_false]
      cases hresult : Json.parse text with
      | error description => exact ⟨_, rfl⟩
      | ok v => exact absurd hresult (hparse v)
    · have hblank : Text.allBlank text.toList = false := by
        by_contra hblank
        obtain ⟨description, herror⟩ := Json.parse_of_blank (by simpa using hblank)
        exact absurd (hparse.symm.trans herror) (by simp)
      simp only [htext, hblank, Bool.false_eq_true, if_false, hparse]
      cases v with
      | object members => exact absurd rfl (hkind members)
      | _ => exact ⟨_, rfl⟩
  · rintro ⟨e, he⟩
    cases htext : String.fromUTF8? contents with
    | none => exact .notText htext
    | some text =>
      simp only [htext] at he
      split_ifs at he with hblank
      split at he
      · next description hparse =>
        exact .notJson text htext (by simpa using hblank) fun v hv => by simp [hv] at hparse
      · exact absurd he (by simp)
      · next v hkind hparse => exact .notObject text htext v hparse hkind

theorem onDisk_refuses {d : Disk} {path : String} {e : GuardError} (h : entriesIn d path = .error e)
    (source : List String → String → Reputation.Outcome) (clock : Nat → Int64) :
    (Surroundings.onDisk path source clock).Refuses d e := by
  intro op
  change onDisk path op d = (.error e, d)
  cases op with
  | get keys => rw [onDisk_get, h]
  | set entries => rw [onDisk_set, h]
  | remove keys => rw [onDisk_remove, h]
  | keys => rw [onDisk_keys, h]

/-- Over a file that is `Damaged` nothing works and nothing happens: every `Event` ends with the same error,
    every line is answered by an error, and so it goes on for any number of events. All this leaves the
    whole disk as it is, asks for no reputation and reads no clock. -/
theorem damaged_left_alone {d : Disk} {path : String} {contents : ByteArray}
    (hfile : d.find? path = some (.file contents)) (hdamaged : Damaged contents)
    (source : List String → String → Reputation.Outcome) (clock : Nat → Int64)
    (asked : List String) (readings : Nat) :
    let s := Surroundings.onDisk path source clock
    let w : Situation Disk := ⟨d, asked, readings⟩
    (∃ e, entriesOf path contents = .error e ∧ ∀ u : Use, s.perform u.task w = (.error e, w))
      ∧ (∀ config line, ∃ description, s.run (Message.answerLine config line) w
          = ((Message.Response.error description).toJson.compactText, w))
      ∧ ∀ events : List Event, ∃ notices, s.run (events.mapM Event.run) w = (notices, w)
          ∧ ∀ notice ∈ notices, notice.TellsFailure := by
  obtain ⟨e, he⟩ := (damaged_iff path contents).1 hdamaged
  have hentries : entriesIn d path = .error e := by
    rw [entriesIn, hfile]
    exact he
  have hrefuses := onDisk_refuses hentries source clock
  intro s w
  exact ⟨⟨e, he, fun u => u.needsStore s e w hrefuses⟩,
    fun config line => Message.run_answerLine_of_refuses hrefuses config line,
    fun events => Event.run_mapM_of_refuses hrefuses events⟩

/-- A disk with a file in which a list stands. -/
def listDisk : Disk :=
  ⟨Table.ofList [("home", .directory), ("home/store.json", .file "[1]".toUTF8)], ["home"]⟩

theorem listDisk_left_alone :
    listDisk.find? "store.json" = some (.file "[1]".toUTF8) ∧ Damaged "[1]".toUTF8
      ∧ ∀ page, ((Surroundings.onDisk "store.json" (fun _ _ => .unavailable) fun _ => 0).perform
          (Gate.evaluate {} page) ⟨listDisk, [], 0⟩)
        = (.error (.storage "store.json does not hold a JSON object (found array)"),
          ⟨listDisk, [], 0⟩) := by
  have hfile : listDisk.find? "store.json" = some (.file "[1]".toUTF8) := by decide +kernel
  have hentries : entriesOf "store.json" "[1]".toUTF8
      = .error (.storage "store.json does not hold a JSON object (found array)") := by decide +kernel
  have hdamaged : Damaged "[1]".toUTF8 := (damaged_iff "store.json" _).2 ⟨_, hentries⟩
  obtain ⟨⟨e, he, huses⟩, -⟩ :=
    damaged_left_alone hfile hdamaged (fun _ _ => .unavailable) (fun _ => 0) [] 0
  obtain rfl := Except.error.inj (he.symm.trans hentries)
  exact ⟨hfile, hdamaged, fun page => huses (.evaluate {} page)⟩

end Store

end PageRisk
