import PageRisk.Proofs.Services

set_option autoImplicit false

/-! # Programs without lookups

Where the source of reputation is never available, a program may as well not ask: `Program.unasked` goes
on at once as after a lookup that failed. It then ends with the same result over the same state of the
store, and has read the clock as often (`run_unasked`). So two programs that differ only in what they
ask for, or in what they make of the answers, give the same. -/

namespace PageRisk

variable {σ α β : Type}

namespace Program

/-- The program that goes on at each `lookup` as where the service is unavailable. -/
def unasked : Program services α → Program services α
  | done a => done a
  | call (.lookup _) next => (next .unavailable).unasked
  | call (.store op) next => call (I := services) (.store op) fun answer => (next answer).unasked
  | call .now next => call (I := services) .now fun time => (next time).unasked

theorem unasked_andThen (p : Program services α) (f : α → Program services β) :
    (p.andThen f).unasked = p.unasked.andThen fun a => (f a).unasked := by
  induction p with
  | done a => rfl
  | call op next ih =>
    cases op with
    | store op => exact congrArg (call (I := services) (.store op)) (funext ih)
    | lookup url => exact ih .unavailable
    | now => exact congrArg (call (I := services) .now) (funext ih)

theorem unasked_mapM (f : α → Program services β) (l : List α) :
    (l.mapM f).unasked = l.mapM fun a => (f a).unasked := by
  induction l with
  | nil => rfl
  | cons a rest ih =>
    have hrest : ∀ b, ((rest.mapM f).andThen fun bs => done (b :: bs)).unasked
        = (rest.mapM fun a => (f a).unasked).andThen fun bs => done (b :: bs) := by
      intro b
      rw [unasked_andThen, ih]
      rfl
    rw [List.mapM_cons, List.mapM_cons, bind_eq, unasked_andThen]
    exact congrArg (f a).unasked.andThen (funext hrest)

end Program

/-- The situation but for what was asked. -/
def Situation.unasked (w : Situation σ) : Situation σ :=
  { w with asked := [] }

namespace Surroundings

/-- Whether the source of reputation is `unavailable` whatever is asked. -/
def Silent (s : Surroundings σ) : Prop :=
  ∀ asked url, s.source asked url = .unavailable

/-- Over `Silent` surroundings a program runs as the `unasked` one does, but for what was asked. -/
theorem run_unasked {s : Surroundings σ} (hsilent : s.Silent) (p : Program services α)
    (w : Situation σ) :
    s.run p.unasked w.unasked = ((s.run p w).1, (s.run p w).2.unasked) := by
  induction p generalizing w with
  | done a => rfl
  | call op next ih =>
    cases op with
    | store op => exact ih _ { w with stored := (s.store op w.stored).2 }
    | lookup url =>
      have hcall : s.run (.call (.lookup url) next) w
          = s.run (next .unavailable) { w with asked := url :: w.asked } := by
        rw [← hsilent w.asked url]
        rfl
      rw [hcall]
      exact ih .unavailable { w with asked := url :: w.asked }
    | now => exact ih _ { w with readings := w.readings + 1 }

/-- Programs that are the same but for their lookups end alike over `Silent` surroundings. -/
theorem run_eq_of_unasked_eq {s : Surroundings σ} (hsilent : s.Silent)
    {p q : Program services α} (h : p.unasked = q.unasked) (w : Situation σ) :
    (s.run p w).1 = (s.run q w).1 ∧ (s.run p w).2.unasked = (s.run q w).2.unasked := by
  have hrun := run_unasked hsilent p w
  rw [h, run_unasked hsilent q w] at hrun
  exact ⟨(Prod.mk.inj hrun).1.symm, (Prod.mk.inj hrun).2.symm⟩

end Surroundings

/-! ## Work that differs in its lookups -/

namespace Task

/-- Whether two pieces of work are the same but for their lookups. -/
def SameUnasked (work work' : Task α) : Prop :=
  work.run.unasked = work'.run.unasked

theorem SameUnasked.refl (work : Task α) : SameUnasked work work := rfl

theorem SameUnasked.bind {work work' : Task α} {next next' : α → Task β} (h : SameUnasked work work')
    (hnext : ∀ a, SameUnasked (next a) (next' a)) : SameUnasked (work >>= next) (work' >>= next') := by
  change (work.run.andThen _).unasked = (work'.run.andThen _).unasked
  rw [Program.unasked_andThen, Program.unasked_andThen, h]
  congr 1
  funext result
  cases result with
  | ok a => exact hnext a
  | error e => rfl

end Task

end PageRisk
