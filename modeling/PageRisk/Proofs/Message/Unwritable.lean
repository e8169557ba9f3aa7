import PageRisk.Proofs.Cache.Entries
import PageRisk.Proofs.Message.Handling

set_option autoImplicit false

/-! # Requests to a store that cannot be written

Where a store can be read but refuses every change (`Surroundings.Unwritable`), only the requests that
change something fail. Pages are decided on as they would be over the same contents in memory, each as if it
were the only one, since no assessment is kept for the next (`run_unwritable`). -/

namespace PageRisk

/-! ## Stores that refuse every change -/

/-- Whether a store shows its contents in every state, and refuses every change with an error. A refusal
    may leave another state, but with the same contents. -/
structure Surroundings.Unwritable {σ : Type} (s : Surroundings σ) (contents : σ → Table Json)
    (e : GuardError) : Prop where
  reads : ∀ x, s.Reads x (contents x)
  keys : ∀ x, s.store .keys x = (.ok (contents x).keys, x)
  set_refused : ∀ entries x, (s.store (.set entries) x).1 = .error e
  set_contents : ∀ entries x, contents (s.store (.set entries) x).2 = contents x
  remove_refused : ∀ keys x, (s.store (.remove keys) x).1 = .error e
  remove_contents : ∀ keys x, contents (s.store (.remove keys) x).2 = contents x

/-- `Surroundings` with a store that can only be read. -/
def Surroundings.onlyReading (source : List String → String → Reputation.Outcome)
    (clock : Nat → Int64) : Surroundings (Table Json) :=
  ⟨fun op contents => (Store.readOnly contents op, contents), source, clock⟩

theorem Surroundings.onlyReading_unwritable (source : List String → String → Reputation.Outcome)
    (clock : Nat → Int64) :
    (Surroundings.onlyReading source clock).Unwritable id Store.quotaExceeded where
  reads _ _ := rfl
  keys _ := rfl
  set_refused _ _ := rfl
  set_contents _ _ := rfl
  remove_refused _ _ := rfl
  remove_contents _ _ := rfl

namespace Surroundings.Unwritable

open Surroundings

variable {σ : Type} {s : Surroundings σ} {contents : σ → Table Json} {e : GuardError}

/-- Whether `work` fails with the error of the store and leaves its contents. -/
def Refused (s : Surroundings σ) (contents : σ → Table Json) (e : GuardError) {α : Type}
    (work : Task α) (w : Situation σ) : Prop :=
  ∃ w', s.perform work w = (.error e, w') ∧ contents w'.stored = contents w.stored

theorem Refused.bind {α β : Type} {work : Task α} {w : Situation σ}
    (h : Refused s contents e work w) (next : α → Task β) :
    Refused s contents e (work >>= next) w := by
  obtain ⟨w', hperform, hcontents⟩ := h
  refine ⟨w', ?_, hcontents⟩
  rw [perform_bind, hperform]

theorem refused_set (h : s.Unwritable contents e) (entries : Table Json) (w : Situation σ) :
    Refused s contents e (Task.store (.set entries)) w := by
  refine ⟨{ w with stored := (s.store (.set entries) w.stored).2 }, ?_, h.set_contents entries w.stored⟩
  rw [perform_store, h.set_refused]

theorem shows (h : s.Unwritable contents e) (x : σ) : s.Shows x (contents x) where
  reads := h.reads x
  keys := h.keys x

theorem refused_clear (h : s.Unwritable contents e) (w : Situation σ) :
    Refused s contents e Cache.clear w := by
  have hremove : ∀ keys, s.store (.remove keys) w.stored
      = (.error e, (s.store (.remove keys) w.stored).2) := fun keys =>
    Prod.ext (h.remove_refused keys w.stored) rfl
  exact ⟨_, Cache.perform_clear_of_error (h.shows w.stored) (hremove _), h.remove_contents _ w.stored⟩

/-- `Settings.setAllowlisted` is `Refused` where it would change the list, and writes nothing where it would
    not. -/
theorem perform_setAllowlisted (h : s.Unwritable contents e) (host : String) (listed : Bool)
    (w : Situation σ) :
    if Settings.isListed (Settings.allowlistOf ((contents w.stored).get? Settings.allowlistKey)) host
        = listed
    then s.perform (Settings.setAllowlisted host listed) w = (.ok false, w)
    else Refused s contents e (Settings.setAllowlisted host listed) w := by
  have hlist := Settings.perform_allowlist (h.reads w.stored)
  split_ifs with hsame
  · rw [Settings.setAllowlisted, perform_bind_of_ok hlist]
    simp [hsame]
  · have hchanged : (Settings.isListed (Settings.allowlistOf
        ((contents w.stored).get? Settings.allowlistKey)) host != listed) = true := by
      simpa using hsame
    rw [Refused, Settings.setAllowlisted, perform_bind_of_ok hlist, if_pos hchanged]
    exact (h.refused_set _ w).bind _

end Surroundings.Unwritable

namespace Message

open Surroundings
open Surroundings.Unwritable (Refused)

/-! ## Single requests -/

/-- The response to a request over contents that cannot be written. `Request.analyze` gets the response that
    it would get over the same contents in memory. `Request.toggleAllowlist` is refused just if it would
    change the list, and every other request is. -/
def unwritten (config : ScoringConfig) (reputation : String → Reputation.Outcome) (clock : Nat → Int64)
    (e : GuardError) (t : Table Json) : Request → Response
  | .analyze hostname csp =>
    ((inMemory (fun _ => reputation) clock).run (handle config (.analyze hostname csp))
      { stored := t }).1
  | .toggleAllowlist hostname enabled =>
    if Settings.isListed (Settings.allowlistOf (t.get? Settings.allowlistKey)) hostname = !enabled
    then .done
    else .ofError e
  | _ => .ofError e

variable {σ : Type} {s : Surroundings σ} {contents : σ → Table Json} {e : GuardError}
  {config : ScoringConfig} {reputation : String → Reputation.Outcome}

/-- What is `Refused` is answered by the error. -/
theorem run_handle_of_refused {request : Request} {w : Situation σ}
    (h : Refused s contents e (perform config request) w) :
    ∃ w', s.run (handle config request) w = (.ofError e, w')
      ∧ contents w'.stored = contents w.stored := by
  obtain ⟨w', hperform, hcontents⟩ := h
  refine ⟨w', ?_, hcontents⟩
  rw [run_handle, hperform]

/-- `Gate.evaluate` decides as over the same contents in memory, whatever was asked before. -/
theorem perform_evaluate_unwritable (h : s.Unwritable contents e)
    (hsource : ∀ asked, s.source asked = reputation) (hage : config.cacheMaxAge = none)
    (clock : Nat → Int64) (page : Page) (w : Situation σ) :
    ∃ outcome w', s.perform (Gate.evaluate config page) w = (.ok outcome, w')
      ∧ contents w'.stored = contents w.stored
      ∧ ((inMemory (fun _ => reputation) clock).perform (Gate.evaluate config page)
          { stored := contents w.stored }).1 = .ok outcome := by
  obtain ⟨readings, -, hperform⟩ := Gate.perform_evaluate (h.reads w.stored) config page
  have hmemory := Gate.perform_evaluate_inMemory (fun _ => reputation) clock hage page
    { stored := contents w.stored }
  simp only [hage, hsource] at hperform hmemory
  rw [Gate.standing_none_eq _ _ (clock 0)] at hperform
  rw [hmemory, hperform]
  cases Gate.standing none (contents w.stored) (clock 0) (Hostname.normalize page.hostname) with
  | some outcome => exact ⟨outcome, { w with readings := readings }, rfl, rfl, rfl⟩
  | none =>
    refine ⟨_, Gate.afterFresh s config (Hostname.normalize page.hostname) page.csp
      { w with readings := readings }, rfl, ?_, rfl⟩
    exact h.set_contents _ w.stored

/-- `handle` answers as `unwritten` says and leaves the contents. -/
theorem run_handle_unwritable (h : s.Unwritable contents e)
    (hsource : ∀ asked, s.source asked = reputation) (hage : config.cacheMaxAge = none)
    (clock : Nat → Int64) (request : Request) (w : Situation σ) :
    ∃ w', s.run (handle config request) w
        = (unwritten config reputation clock e (contents w.stored) request, w')
      ∧ contents w'.stored = contents w.stored := by
  cases request with
  | analyze hostname csp =>
    obtain ⟨outcome, w', hperform, hcontents, hmemory⟩ :=
      perform_evaluate_unwritable h hsource hage clock ⟨hostname, csp⟩ w
    refine ⟨w', ?_, hcontents⟩
    rw [run_handle_analyze hperform, unwritten, run_handle_analyze (Prod.ext hmemory rfl)]
  | toggle enabled => exact run_handle_of_refused ((h.refused_set _ w).bind _)
  | toggleAllowlist hostname enabled =>
    have hset := h.perform_setAllowlisted hostname (!enabled) w
    rw [unwritten]
    split_ifs at hset ⊢ with hsame
    · refine ⟨w, run_handle_of_ok ?_, rfl⟩
      rw [perform, perform_bind_of_ok hset, perform_pure]
    · exact run_handle_of_refused (hset.bind _)
  | setThreshold threshold => exact run_handle_of_refused ((h.refused_set _ w).bind _)
  | clearCache => exact run_handle_of_refused ((h.refused_clear w).bind _)

/-! ## Sequences of requests -/

/-- Where reputation is a function of the URL and there is no `cacheMaxAge`, any requests to a store that is
    `Unwritable` get the responses that each gets by itself (`unwritten`), and the contents stay. -/
theorem run_unwritable (h : s.Unwritable contents e)
    (hsource : ∀ asked, s.source asked = reputation) (hage : config.cacheMaxAge = none)
    (clock : Nat → Int64) (requests : List Request) (w : Situation σ) :
    (s.run (requests.mapM (handle config)) w).1
        = requests.map (unwritten config reputation clock e (contents w.stored))
      ∧ contents (s.run (requests.mapM (handle config)) w).2.stored = contents w.stored := by
  induction requests generalizing w with
  | nil => exact ⟨rfl, rfl⟩
  | cons request rest ih =>
    obtain ⟨w', hrun, hcontents⟩ := run_handle_unwritable h hsource hage clock request w
    obtain ⟨hresponses, hleft⟩ := ih w'
    rw [run_mapM_cons, hrun, hresponses, List.map_cons, hcontents]
    exact ⟨rfl, hleft.trans hcontents⟩

/-- Requests of every kind; the first host is listed already where `oneListed` is stored. -/
def everyKind : List Request :=
  [.analyze "example.com" (some "script-src *"), .toggle false,
    .toggleAllowlist "www.listed.example" false, .toggleAllowlist "example.com" false,
    .setThreshold 30, .clearCache]

/-- A table in which one host is on the allowlist. -/
def oneListed : Table Json :=
  Table.empty.insert Settings.allowlistKey (.ofStrings ["listed.example"])

theorem everyKind_unwritable :
    let source : List String → String → Reputation.Outcome := fun _ _ => .unavailable
    let clock : Nat → Int64 := fun _ => 0
    (onlyReading source clock).Unwritable id Store.quotaExceeded
      ∧ (∀ asked, source asked = fun _ => .unavailable) ∧ ({} : ScoringConfig).cacheMaxAge = none
      ∧ ((onlyReading source clock).run (everyKind.mapM (handle {})) { stored := oneListed }).1
        = [((inMemory source clock).run (handle {} (.analyze "example.com" (some "script-src *")))
              { stored := oneListed }).1,
            .error "Storage error: quota exceeded", .done, .error "Storage error: quota exceeded",
            .error "Storage error: quota exceeded", .error "Storage error: quota exceeded"]
      ∧ ((onlyReading source clock).run (everyKind.mapM (handle {})) { stored := oneListed }).2.stored
        = oneListed := by
  intro source clock
  have hunwritable := onlyReading_unwritable source clock
  have hsource : ∀ asked, source asked = fun _ => .unavailable := fun _ => rfl
  obtain ⟨hresponses, hcontents⟩ := run_unwritable hunwritable hsource
    (show ({} : ScoringConfig).cacheMaxAge = none from rfl) clock everyKind { stored := oneListed }
  refine ⟨hunwritable, hsource, rfl, ?_, hcontents⟩
  have hlisted : Settings.isListed (Settings.allowlistOf (oneListed.get? Settings.allowlistKey))
      "www.listed.example" = true := by decide +kernel
  have hunlisted : Settings.isListed (Settings.allowlistOf (oneListed.get? Settings.allowlistKey))
      "example.com" = false := by decide +kernel
  rw [hresponses]
  simp only [everyKind, List.map_cons, List.map_nil, unwritten, id_eq, hlisted, hunlisted, Bool.not_false,
    if_true, Bool.false_eq_true, if_false]
  rfl

end Message

end PageRisk
