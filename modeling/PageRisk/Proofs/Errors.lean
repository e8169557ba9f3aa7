import PageRisk.Message.Dispatcher
import PageRisk.Proofs.Gate

set_option autoImplicit false

/-! # Where errors come from

Whatever goes wrong in a piece of work went wrong in the store: the work only passes it on
(`Task.Relays`), whichever request it is done for (`Message.relays_perform`). -/

namespace PageRisk

variable {σ α β : Type}

/-- Whether all errors of `s.store` have the property `P`. -/
def Surroundings.StoreErrs (s : Surroundings σ) (P : GuardError → Prop) : Prop :=
  ∀ op x e, (s.store op x).1 = .error e → P e

namespace Task

open Surroundings

/-- Whether all errors that some work ends with are errors of the store: what holds of these (`StoreErrs`)
    holds of them. -/
def Relays (work : Task α) : Prop :=
  ∀ {σ : Type} (s : Surroundings σ) (P : GuardError → Prop), s.StoreErrs P →
    ∀ w e, (s.perform work w).1 = .error e → P e

/-! ## Sequences and single operations -/

theorem relays_pure (a : α) : Relays (pure a : Task α) := by
  intro σ s P _ w e he
  exact absurd he (by simp)

theorem relays_bind {work : Task α} {next : α → Task β} (h : Relays work)
    (hnext : ∀ a, Relays (next a)) : Relays (work >>= next) := by
  intro σ s P hstore w e he
  rw [perform_bind] at he
  cases hwork : s.perform work w with
  | mk result w' =>
    rw [hwork] at he
    cases result with
    | ok a => exact hnext a s P hstore w' e he
    | error e' =>
      obtain rfl := Except.error.inj he
      exact h s P hstore w e' (by rw [hwork])

theorem relays_store (op : StoreOp) : Relays (Task.store op) := fun _ _ hstore w e he =>
  hstore op w.stored e he

theorem relays_lookup (url : String) : Relays (Task.lookup url) := by
  intro σ s P _ w e he
  exact absurd he (by simp)

theorem relays_now : Relays Task.now := by
  intro σ s P _ w e he
  exact absurd he (by simp)

theorem relays_get? (key : String) : Relays (Task.get? key) :=
  relays_bind (relays_store _) fun _ => relays_pure _

theorem relays_put (key : String) (value : Json) : Relays (Task.put key value) :=
  relays_store _

end Task

open PageRisk.Task

/-! ## Settings, cache and gate -/

theorem Settings.relays_enabled : Relays Settings.enabled :=
  relays_bind (relays_get? _) fun _ => relays_pure _

theorem Settings.relays_allowlist : Relays Settings.allowlist :=
  relays_bind (relays_get? _) fun _ => relays_pure _

theorem Settings.relays_isAllowlisted (host : String) : Relays (Settings.isAllowlisted host) :=
  relays_bind Settings.relays_allowlist fun _ => relays_pure _

theorem Settings.relays_setAllowlisted (host : String) (listed : Bool) :
    Relays (Settings.setAllowlisted host listed) := by
  refine relays_bind Settings.relays_allowlist fun hosts => ?_
  simp only
  split
  · exact relays_bind (relays_put _ _) fun _ => relays_pure _
  · exact relays_bind (relays_pure _) fun _ => relays_pure _

theorem Cache.relays_get (maxAge : Option UInt64) (host : String) : Relays (Cache.get maxAge host) := by
  refine relays_bind (relays_get? _) fun stored => ?_
  split
  · exact relays_pure _
  · split
    · exact relays_pure _
    · exact relays_bind relays_now fun _ => relays_pure _

theorem Cache.relays_clear : Relays Cache.clear :=
  relays_bind (relays_bind (relays_store _) fun _ => relays_pure _) fun _ =>
    relays_bind (relays_store _) fun _ => relays_pure _

theorem Gate.relays_assess (config : ScoringConfig) (host : String) (csp : Option String) :
    Relays (Gate.assess config host csp) := by
  unfold Gate.assess
  simp only
  split
  · exact relays_pure _
  · exact relays_bind (relays_lookup _) fun _ => relays_pure _

/-- `Gate.remember` hides that an assessment cannot be kept. -/
theorem Gate.relays_remember (host : String) (a : Assessment) : Relays (Gate.remember host a) := by
  refine relays_bind relays_now fun time => ?_
  intro σ s P _ w e he
  rw [Surroundings.perform, ExceptT.run_mk, Surroundings.run_andThen] at he
  exact absurd he (by simp)

theorem Gate.relays_evaluate (config : ScoringConfig) (page : Page) :
    Relays (Gate.evaluate config page) := by
  refine relays_bind Settings.relays_enabled fun enabled => ?_
  split
  · exact relays_pure _
  · refine relays_bind (Settings.relays_isAllowlisted _) fun listed => ?_
    split
    · exact relays_pure _
    · refine relays_bind (Cache.relays_get _ _) fun found => ?_
      split
      · exact relays_pure _
      · exact relays_bind (Gate.relays_assess _ _ _) fun _ =>
          relays_bind (Gate.relays_remember _ _) fun _ => relays_pure _

/-! ## Requests -/

theorem Message.relays_perform (config : ScoringConfig) (request : Message.Request) :
    Relays (Message.perform config request) := by
  cases request with
  | analyze hostname csp => exact relays_bind (Gate.relays_evaluate config _) fun _ => relays_pure _
  | toggle enabled => exact relays_bind (relays_put _ _) fun _ => relays_pure _
  | toggleAllowlist hostname enabled =>
    exact relays_bind (Settings.relays_setAllowlisted _ _) fun _ => relays_pure _
  | setThreshold threshold => exact relays_bind (relays_put _ _) fun _ => relays_pure _
  | clearCache => exact relays_bind Cache.relays_clear fun _ => relays_pure _

/-! ## Kinds of errors -/

/-- Whether an error speaks of an invalid message. -/
def GuardError.IsMessage : GuardError → Prop
  | .message _ => True
  | _ => False

end PageRisk
