import PageRisk.Program

set_option autoImplicit false

/-! # Runs on a state

A program runs on a state where each operation gives an answer and the next state. Programs that stand one
after the other run in the states that those before them leave (`runWith_mapM_cons`). A run meets a
state at each of its operations, and `Throughout` says that something holds at all of them. -/

namespace PageRisk.Program

variable {I : Interface} {α β σ : Type}

/-! ## Sequences -/

section Sequences

variable (answer : (op : I.Op) → StateM σ (I.Answer op))

theorem runWith_andThen_apply (p : Program I α) (f : α → Program I β) (s : σ) :
    (p.andThen f).runWith answer s
      = (f (p.runWith answer s).1).runWith answer (p.runWith answer s).2 :=
  congrFun (runWith_andThen (m := StateM σ) answer p f) s

/-- `mapM` runs programs one after the other, each in the state that those before it leave. -/
theorem runWith_mapM_cons (f : α → Program I β) (a : α) (rest : List α) (s : σ) :
    ((a :: rest).mapM f).runWith answer s
      = (((f a).runWith answer s).1
          :: ((rest.mapM f).runWith answer ((f a).runWith answer s).2).1,
        ((rest.mapM f).runWith answer ((f a).runWith answer s).2).2) := by
  rw [List.mapM_cons, bind_eq, runWith_andThen_apply, bind_eq, runWith_andThen_apply]
  rfl

theorem getElem?_runWith_mapM (f : α → Program I β) (before : List α) (a : α) (after : List α) (s : σ) :
    (((before ++ a :: after).mapM f).runWith answer s).1[before.length]?
      = some ((f a).runWith answer ((before.mapM f).runWith answer s).2).1 := by
  induction before generalizing s with
  | nil => rw [List.nil_append, runWith_mapM_cons]; rfl
  | cons b rest ih =>
    rw [List.cons_append, runWith_mapM_cons, runWith_mapM_cons, List.length_cons,
      List.getElem?_cons_succ]
    exact ih _

theorem length_runWith_mapM (f : α → Program I β) (as : List α) (s : σ) :
    ((as.mapM f).runWith answer s).1.length = as.length := by
  induction as generalizing s with
  | nil => rfl
  | cons a rest ih => rw [runWith_mapM_cons, List.length_cons, ih, List.length_cons]

/-- Every result of `mapM` is that of one of the programs, run in some state. -/
theorem exists_of_mem_runWith_mapM {f : α → Program I β} {as : List α} {s : σ} {b : β}
    (h : b ∈ ((as.mapM f).runWith answer s).1) : ∃ a ∈ as, ∃ s', b = ((f a).runWith answer s').1 := by
  induction as generalizing s with
  | nil => exact absurd h List.not_mem_nil
  | cons a rest ih =>
    rw [runWith_mapM_cons] at h
    rcases List.mem_cons.1 h with rfl | hrest
    · exact ⟨a, List.mem_cons_self, s, rfl⟩
    · obtain ⟨a', hmem, s', heq⟩ := ih hrest
      exact ⟨a', List.mem_cons_of_mem _ hmem, s', heq⟩

end Sequences

/-! ## All states of a run -/

/-- Whether `good` holds of every operation that a program asks for, with the state that it is asked in. -/
def Throughout (answer : (op : I.Op) → StateM σ (I.Answer op)) (good : I.Op → σ → Prop) :
    Program I α → σ → Prop
  | done _, _ => True
  | call op next, s => good op s ∧ Throughout answer good (next (answer op s).1) (answer op s).2

variable (answer : (op : I.Op) → StateM σ (I.Answer op)) (good : I.Op → σ → Prop)

instance decidableThroughout [∀ op s, Decidable (good op s)] :
    (p : Program I α) → (s : σ) → Decidable (p.Throughout answer good s)
  | done _, _ => isTrue trivial
  | call op next, s =>
    have := decidableThroughout (next (answer op s).1) (answer op s).2
    inferInstanceAs (Decidable (good op s ∧ Throughout answer good _ _))

theorem throughout_andThen (p : Program I α) (f : α → Program I β) (s : σ) :
    (p.andThen f).Throughout answer good s
      ↔ p.Throughout answer good s
        ∧ (f (p.runWith answer s).1).Throughout answer good (p.runWith answer s).2 := by
  induction p generalizing s with
  | done a => exact ⟨fun h => ⟨trivial, h⟩, fun h => h.2⟩
  | call op next ih =>
    rw [call_andThen, Throughout, Throughout, ih, and_assoc]
    rfl

end PageRisk.Program
