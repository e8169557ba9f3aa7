set_option autoImplicit false

/-! # Tables with text keys

A finite map from text to values, kept as the list of its entries in ascending order of their keys.
The order is part of the type, so two tables with the same entries are equal. -/

namespace PageRisk

/-- Entries in strictly ascending order of their keys. -/
def Ascending {β : Type} (entries : List (String × β)) : Prop :=
  entries.Pairwise fun a b => a.1 < b.1

/-- A finite map from text to values. -/
structure Table (β : Type) where
  /-- The entries, by ascending key. -/
  toList : List (String × β)
  ascending : Ascending toList

namespace Table

variable {β : Type}

/-! ## Entries in order -/

/-- The entries with `value` under `key`, in place of what was there; `Ascending` entries stay so. -/
def place (key : String) (value : β) : List (String × β) → List (String × β)
  | [] => [(key, value)]
  | (k, v) :: rest =>
    if key = k then (key, value) :: rest
    else if key < k then (key, value) :: (k, v) :: rest
    else (k, v) :: place key value rest

theorem mem_place {key : String} {value : β} {entries : List (String × β)} {e : String × β}
    (h : e ∈ place key value entries) : e = (key, value) ∨ e ∈ entries := by
  induction entries with
  | nil => simpa [place] using h
  | cons head rest ih =>
    obtain ⟨k, v⟩ := head
    simp only [place] at h
    split at h
    · rcases List.mem_cons.1 h with h | h
      · exact .inl h
      · exact .inr (List.mem_cons_of_mem _ h)
    · split at h
      · rcases List.mem_cons.1 h with h | h
        · exact .inl h
        · exact .inr h
      · rcases List.mem_cons.1 h with h | h
        · exact .inr (h ▸ List.mem_cons_self)
        · exact (ih h).imp_right (List.mem_cons_of_mem _)

theorem ascending_place (key : String) (value : β) {entries : List (String × β)}
    (h : Ascending entries) : Ascending (place key value entries) := by
  induction entries with
  | nil => simp [place, Ascending]
  | cons head rest ih =>
    obtain ⟨k, v⟩ := head
    obtain ⟨hk, hrest⟩ := List.pairwise_cons.1 h
    simp only [place]
    split
    · next heq => exact List.pairwise_cons.2 ⟨heq ▸ hk, hrest⟩
    · next hne =>
      split
      · next hlt =>
        refine List.pairwise_cons.2 ⟨fun e he => ?_, h⟩
        rcases List.mem_cons.1 he with rfl | he
        · exact hlt
        · exact String.lt_trans hlt (hk e he)
      · next hnlt =>
        refine List.pairwise_cons.2 ⟨fun e he => ?_, ih hrest⟩
        rcases mem_place he with rfl | he
        · exact String.not_le.1 fun hle => hne (String.le_antisymm hle (String.not_lt.1 hnlt))
        · exact hk e he

/-! ## Operations -/

/-- The table without entries. -/
def empty : Table β :=
  ⟨[], List.Pairwise.nil⟩

/-- The value under a key. -/
def get? (t : Table β) (key : String) : Option β :=
  t.toList.lookup key

/-- The table with `value` under `key`, in place of what was there. -/
def insert (t : Table β) (key : String) (value : β) : Table β :=
  ⟨place key value t.toList, ascending_place key value t.ascending⟩

/-- The table without the key. -/
def erase (t : Table β) (key : String) : Table β :=
  ⟨t.toList.filter fun e => e.1 != key, t.ascending.filter _⟩

/-- The keys, in ascending order. -/
def keys (t : Table β) : List String :=
  t.toList.map Prod.fst

/-- The number of entries. -/
def size (t : Table β) : Nat :=
  t.toList.length

/-- The table with all of `entries` written one after the other; of two with the same key the later
    one stays. -/
def insertAll (t : Table β) (entries : List (String × β)) : Table β :=
  entries.foldl (fun t e => t.insert e.1 e.2) t

/-- The table without any of `keys`. -/
def eraseAll (t : Table β) (keys : List String) : Table β :=
  keys.foldl erase t

/-- The table of some entries; of two with the same key the later one stays. -/
def ofList (entries : List (String × β)) : Table β :=
  empty.insertAll entries

/-- The entries of those of `keys` that the table has. -/
def select (t : Table β) (keys : List String) : Table β :=
  ofList (keys.filterMap fun k => (t.get? k).map fun v => (k, v))

/-- The entries of those of `keys` that the table has, each taken out of it as it is found: a key that
    comes again finds nothing. -/
def drain (t : Table β) : List String → List (String × β)
  | [] => []
  | key :: rest => match t.get? key with
    | some value => (key, value) :: drain (t.erase key) rest
    | none => drain t rest

theorem ext {t u : Table β} (h : t.toList = u.toList) : t = u := by
  cases t; cases u; cases h; rfl

instance [DecidableEq β] : DecidableEq (Table β) := fun t u =>
  decidable_of_iff (t.toList = u.toList) ⟨ext, fun h => h ▸ rfl⟩

end Table

end PageRisk
