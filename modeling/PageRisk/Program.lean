set_option autoImplicit false

/-! # Programs that ask for services

A program is a value: either it is done, or it asks for one operation of an interface and goes on with
the answer. What the operations do is left to a handler, so that the same program runs over a store in
memory, over files that are only modelled, or over the files of the machine. -/

namespace PageRisk

/-- A set of operations with the type of the answers of each. -/
structure Interface where
  Op : Type
  Answer : Op → Type

/-- A program over an interface: done with a result, or the call of one operation and what to do with each
    answer. -/
inductive Program (I : Interface) (α : Type) : Type where
  | done (result : α)
  | call (op : I.Op) (next : I.Answer op → Program I α)

namespace Program

variable {I : Interface} {α β γ : Type}

/-- The program that goes on with `next` where `p` is done. -/
def andThen (p : Program I α) (next : α → Program I β) : Program I β :=
  match p with
  | done a => next a
  | call op k => call op fun answer => (k answer).andThen next

instance : Monad (Program I) where
  pure := done
  bind := andThen

/-- The program that asks for one operation and gives its answer. -/
def ask (op : I.Op) : Program I (I.Answer op) :=
  call op done

/-- Runs a program: every operation is answered by `handle`. -/
def runWith {m : Type → Type} [Monad m] (handle : (op : I.Op) → m (I.Answer op)) :
    Program I α → m α
  | done a => pure a
  | call op next => handle op >>= fun answer => runWith handle (next answer)

/-! ## Laws -/

@[simp] theorem pure_eq (a : α) : (pure a : Program I α) = done a := rfl

@[simp] theorem bind_eq (p : Program I α) (f : α → Program I β) : p >>= f = p.andThen f := rfl

@[simp] theorem done_andThen (a : α) (f : α → Program I β) : (done a).andThen f = f a := rfl

@[simp] theorem call_andThen (op : I.Op) (k : I.Answer op → Program I α) (f : α → Program I β) :
    (call op k).andThen f = call op fun answer => (k answer).andThen f := rfl

theorem andThen_done (p : Program I α) : p.andThen done = p := by
  induction p with
  | done a => rfl
  | call op k ih => simp [ih]

theorem andThen_assoc (p : Program I α) (f : α → Program I β) (g : β → Program I γ) :
    (p.andThen f).andThen g = p.andThen fun a => (f a).andThen g := by
  induction p with
  | done a => rfl
  | call op k ih => simp [ih]

instance : LawfulMonad (Program I) :=
  LawfulMonad.mk' (Program I) (fun p => andThen_done p) (fun _ _ => rfl) andThen_assoc

@[simp] theorem runWith_done {m : Type → Type} [Monad m]
    (handle : (op : I.Op) → m (I.Answer op)) (a : α) :
    (done a : Program I α).runWith handle = pure a := rfl

@[simp] theorem runWith_call {m : Type → Type} [Monad m]
    (handle : (op : I.Op) → m (I.Answer op)) (op : I.Op) (k : I.Answer op → Program I α) :
    (call op k).runWith handle = handle op >>= fun answer => (k answer).runWith handle := rfl

theorem runWith_andThen {m : Type → Type} [Monad m] [LawfulMonad m]
    (handle : (op : I.Op) → m (I.Answer op)) (p : Program I α) (f : α → Program I β) :
    (p.andThen f).runWith handle = p.runWith handle >>= fun a => (f a).runWith handle := by
  induction p with
  | done a => simp
  | call op k ih => simp [ih]

end Program

end PageRisk
