import PageRisk.Table
import Mathlib.Data.List.Basic
import Mathlib.Tactic.Common

set_option autoImplicit false

/-! # Laws of tables

What a lookup gives after each operation on a table, and what follows: a table is determined by its
lookups (`Table.ext_get?`), and writing its entries again changes nothing (`Table.ofList_toList`). -/

namespace PageRisk.Table

variable {β : Type}

/-! ## Lookups after one change -/

theorem lookup_cons_eq (k l : String) (v : β) (rest : List (String × β)) :
    ((l, v) :: rest).lookup k = if k = l then some v else rest.lookup k := by
  by_cases hk : k = l
  · simp [hk]
  · rw [List.lookup_cons, beq_false_of_ne hk, if_neg hk]

theorem isSome_lookup_iff (k : String) (entries : List (String × β)) :
    (entries.lookup k).isSome ↔ ∃ e ∈ entries, e.1 = k := by
  induction entries with
  | nil => simp
  | cons head rest ih =>
    obtain ⟨l, v⟩ := head
    rw [lookup_cons_eq]
    by_cases hk : k = l
    · simp [hk]
    · simp [hk, ih, Ne.symm hk]

/-- `place` changes the lookup of its own key only. No order is needed: all keys before the place
    where the entry goes are different from it. -/
theorem lookup_place (key k : String) (value : β) (entries : List (String × β)) :
    (place key value entries).lookup k = if k = key then some value else entries.lookup k := by
  induction entries with
  | nil => rw [place, lookup_cons_eq]
  | cons head rest ih =>
    obtain ⟨l, v⟩ := head
    rw [place, lookup_cons_eq]
    by_cases heq : key = l
    · rw [if_pos heq, lookup_cons_eq]
      by_cases hk : k = key <;> simp [hk, ← heq]
    · rw [if_neg heq]
      split
      · rw [lookup_cons_eq, lookup_cons_eq]
      · rw [lookup_cons_eq, ih]
        by_cases hkl : k = l
        · simp [hkl, Ne.symm heq]
        · simp [hkl]

theorem lookup_filter_ne (key k : String) (entries : List (String × β)) :
    (entries.filter fun e => e.1 != key).lookup k
      = if k = key then none else entries.lookup k := by
  induction entries with
  | nil => simp
  | cons head rest ih =>
    obtain ⟨l, v⟩ := head
    rw [lookup_cons_eq]
    by_cases hl : l = key
    · rw [List.filter_cons_of_neg (by simp [hl]), ih, hl]
      by_cases hk : k = key <;> simp [hk]
    · rw [List.filter_cons_of_pos (by simpa using hl), lookup_cons_eq, ih]
      by_cases hkl : k = l
      · simp [hkl, hl]
      · simp [hkl]

@[simp] theorem get?_empty (k : String) : (empty : Table β).get? k = none := rfl

theorem get?_insert (t : Table β) (key k : String) (value : β) :
    (t.insert key value).get? k = if k = key then some value else t.get? k :=
  lookup_place key k value t.toList

@[simp] theorem get?_insert_self (t : Table β) (key : String) (value : β) :
    (t.insert key value).get? key = some value := by
  rw [get?_insert, if_pos rfl]

theorem get?_insert_of_ne (t : Table β) {key k : String} (value : β) (h : k ≠ key) :
    (t.insert key value).get? k = t.get? k := by
  rw [get?_insert, if_neg h]

theorem get?_erase (t : Table β) (key k : String) :
    (t.erase key).get? k = if k = key then none else t.get? k :=
  lookup_filter_ne key k t.toList

theorem get?_eraseAll (t : Table β) (keys : List String) (k : String) :
    (t.eraseAll keys).get? k = if k ∈ keys then none else t.get? k := by
  unfold eraseAll
  induction keys generalizing t with
  | nil => simp
  | cons key rest ih =>
    rw [List.foldl_cons, ih, get?_erase]
    by_cases hrest : k ∈ rest <;> by_cases hkey : k = key <;> simp [hrest, hkey]

/-! ## Lookups after many changes -/

theorem insertAll_cons (t : Table β) (e : String × β) (entries : List (String × β)) :
    t.insertAll (e :: entries) = (t.insert e.1 e.2).insertAll entries := rfl

/-- Of two entries with the same key `insertAll` keeps the later one, so the entries are looked up from the
    end. -/
theorem get?_insertAll (t : Table β) (entries : List (String × β)) (k : String) :
    (t.insertAll entries).get? k = (entries.reverse.lookup k).or (t.get? k) := by
  induction entries generalizing t with
  | nil => simp [insertAll]
  | cons e rest ih =>
    rw [insertAll_cons, ih, get?_insert, List.reverse_cons, List.lookup_append, Option.or_assoc,
      lookup_cons_eq]
    by_cases hk : k = e.1 <;> simp [hk]

theorem get?_ofList (entries : List (String × β)) (k : String) :
    (ofList entries).get? k = entries.reverse.lookup k := by
  rw [ofList, get?_insertAll, get?_empty, Option.or_none]

theorem lookup_selected (t : Table β) (keys : List String) (k : String) :
    (keys.filterMap fun l => (t.get? l).map fun v => (l, v)).lookup k
      = if k ∈ keys then t.get? k else none := by
  induction keys with
  | nil => simp
  | cons l rest ih =>
    rw [List.filterMap_cons]
    cases hl : t.get? l with
    | none =>
      rw [Option.map_none, ih]
      by_cases hk : k = l
      · subst hk
        simp [hl]
      · simp [hk]
    | some v =>
      rw [Option.map_some]
      by_cases hk : k = l
      · simp [hk, hl]
      · rw [lookup_cons_eq, if_neg hk, ih]
        simp [hk]

theorem get?_select (t : Table β) (keys : List String) (k : String) :
    (t.select keys).get? k = if k ∈ keys then t.get? k else none := by
  rw [select, get?_ofList, ← List.filterMap_reverse, lookup_selected]
  simp

/-! ## Keys -/

/-- `lookup` finds the entries of a list where no key comes twice. -/
theorem lookup_eq_some_iff {entries : List (String × β)} (h : Ascending entries) (k : String)
    (v : β) : entries.lookup k = some v ↔ (k, v) ∈ entries := by
  induction entries with
  | nil => simp
  | cons head rest ih =>
    obtain ⟨l, u⟩ := head
    obtain ⟨hl, hrest⟩ := List.pairwise_cons.1 h
    rw [lookup_cons_eq, List.mem_cons, Prod.mk.injEq]
    by_cases hk : k = l
    · subst hk
      have hnot : (k, v) ∉ rest := fun hmem => String.lt_irrefl k (hl _ hmem)
      simp [hnot, eq_comm]
    · simp [hk, ih hrest]

theorem get?_eq_some_iff (t : Table β) (k : String) (v : β) :
    t.get? k = some v ↔ (k, v) ∈ t.toList :=
  lookup_eq_some_iff t.ascending k v

theorem mem_keys_iff (t : Table β) (k : String) : k ∈ t.keys ↔ (t.get? k).isSome := by
  rw [keys, List.mem_map, Option.isSome_iff_exists]
  constructor
  · rintro ⟨⟨l, v⟩, hmem, rfl⟩
    exact ⟨v, (t.get?_eq_some_iff l v).2 hmem⟩
  · rintro ⟨v, hv⟩
    exact ⟨(k, v), (t.get?_eq_some_iff k v).1 hv, rfl⟩

theorem nodup_keys (t : Table β) : t.keys.Nodup := by
  refine List.Pairwise.imp ?_ (List.pairwise_map.2 t.ascending)
  rintro k l hlt rfl
  exact String.lt_irrefl _ hlt

/-! ## Equal tables -/

/-- A `Table` is determined by its lookups. -/
theorem ext_get? {t u : Table β} (h : ∀ k, t.get? k = u.get? k) : t = u := by
  have hmem : ∀ e : String × β, e ∈ t.toList ↔ e ∈ u.toList := fun (k, v) => by
    rw [← get?_eq_some_iff, ← get?_eq_some_iff, h]
  have hnodup : ∀ {entries : List (String × β)}, Ascending entries → entries.Nodup := by
    intro entries hasc
    refine List.Pairwise.imp ?_ hasc
    rintro a b hlt rfl
    exact String.lt_irrefl _ hlt
  have hperm : t.toList.Perm u.toList :=
    (List.perm_ext_iff_of_nodup (hnodup t.ascending) (hnodup u.ascending)).2 hmem
  refine ext (hperm.eq_of_pairwise (fun a b _ _ hab hba => ?_) t.ascending u.ascending)
  exact absurd hba (String.lt_asymm hab)

theorem insert_erase (t : Table β) (key : String) (value : β) :
    (t.erase key).insert key value = t.insert key value := by
  refine ext_get? fun k => ?_
  rw [get?_insert, get?_insert, get?_erase]
  by_cases hk : k = key <;> simp [hk]

theorem erase_insert (t : Table β) (key : String) (value : β) :
    (t.insert key value).erase key = t.erase key := by
  refine ext_get? fun k => ?_
  rw [get?_erase, get?_erase, get?_insert]
  by_cases hk : k = key <;> simp [hk]

/-- Where `eraseAll` leaves as many entries as before it deletes nothing. -/
theorem eraseAll_eq_of_size {t : Table β} {keys : List String}
    (h : (t.eraseAll keys).size = t.size) : t.eraseAll keys = t := by
  have hsub : ∀ u : Table β, (u.eraseAll keys).toList.Sublist u.toList := by
    clear h
    induction keys with
    | nil => exact fun u => List.Sublist.refl _
    | cons key rest ih => exact fun u => (ih (u.erase key)).trans List.filter_sublist
  exact ext ((hsub t).eq_of_length h)

theorem eraseAll_eq_self_iff (t : Table β) (keys : List String) :
    t.eraseAll keys = t ↔ ∀ k ∈ keys, t.get? k = none := by
  constructor
  · intro h k hk
    rw [← h, get?_eraseAll, if_pos hk]
  · intro h
    refine ext_get? fun k => ?_
    rw [get?_eraseAll]
    split
    · next hk => exact (h k hk).symm
    · rfl

/-- `drain` gives each key once at most, so looking from the end finds the same. -/
theorem lookup_reverse_drain (t : Table β) (keys : List String) (k : String) :
    (t.drain keys).reverse.lookup k = if k ∈ keys then t.get? k else none := by
  induction keys generalizing t with
  | nil => simp [drain]
  | cons key rest ih =>
    rw [drain]
    cases hkey : t.get? key with
    | none =>
      simp only [ih]
      by_cases hk : k = key
      · simp [hk, hkey]
      · simp [hk]
    | some value =>
      simp only [List.reverse_cons, List.lookup_append, ih, get?_erase, lookup_cons_eq]
      by_cases hk : k = key
      · simp [hk, hkey]
      · simp [hk]

theorem ofList_drain (t : Table β) (keys : List String) : ofList (t.drain keys) = t.select keys := by
  refine ext_get? fun k => ?_
  rw [get?_select, get?_ofList, lookup_reverse_drain]

/-! ## Entries in order -/

/-- `place` puts an entry whose key is beyond all others at the end. -/
theorem place_of_last {entries : List (String × β)} {key : String} (value : β)
    (h : ∀ e ∈ entries, e.1 < key) : place key value entries = entries ++ [(key, value)] := by
  induction entries with
  | nil => rfl
  | cons e entries ih =>
    have hlt : e.1 < key := h e List.mem_cons_self
    have hne : key ≠ e.1 := fun heq => String.lt_irrefl e.1 (heq ▸ hlt)
    rw [place, if_neg hne, if_neg (String.lt_asymm hlt),
      ih fun f hf => h f (List.mem_cons_of_mem _ hf), List.cons_append]

theorem toList_insertAll {t : Table β} {entries : List (String × β)}
    (h : Ascending (t.toList ++ entries)) : (t.insertAll entries).toList = t.toList ++ entries := by
  induction entries generalizing t with
  | nil => rw [List.append_nil]; rfl
  | cons e entries ih =>
    have hlast : ∀ f ∈ t.toList, f.1 < e.1 := fun f hf =>
      (List.pairwise_append.1 h).2.2 f hf e List.mem_cons_self
    have hinsert : (t.insert e.1 e.2).toList = t.toList ++ [e] := place_of_last e.2 hlast
    rw [insertAll_cons, ih (by rw [hinsert]; simpa using h), hinsert, List.append_assoc,
      List.singleton_append]

/-- `ofList` undoes `toList`. -/
theorem ofList_toList (t : Table β) : ofList t.toList = t :=
  ext (toList_insertAll t.ascending)

/-! ## All values of a table -/

/-- Whether all values of a table have a property. -/
def All (P : β → Prop) (t : Table β) : Prop :=
  ∀ e ∈ t.toList, P e.2

section All

variable {P : β → Prop}

theorem all_iff_get? (t : Table β) : t.All P ↔ ∀ k v, t.get? k = some v → P v :=
  ⟨fun h k v hget => h (k, v) ((get?_eq_some_iff t k v).1 hget),
    fun h e he => h e.1 e.2 ((get?_eq_some_iff t e.1 e.2).2 he)⟩

theorem All.insert {t : Table β} (h : t.All P) {key : String} {value : β} (hvalue : P value) :
    (t.insert key value).All P := fun _ he =>
  (mem_place he).elim (fun heq => heq ▸ hvalue) (h _)

theorem All.insertAll {t : Table β} (h : t.All P) {entries : List (String × β)}
    (hentries : ∀ e ∈ entries, P e.2) : (t.insertAll entries).All P := by
  induction entries generalizing t with
  | nil => exact h
  | cons e entries ih =>
    exact ih (h.insert (hentries e List.mem_cons_self)) fun f hf =>
      hentries f (List.mem_cons_of_mem _ hf)

theorem all_ofList {entries : List (String × β)} (h : ∀ e ∈ entries, P e.2) :
    (ofList entries).All P :=
  All.insertAll (fun _ he => absurd he List.not_mem_nil) h

theorem All.eraseAll {t : Table β} (h : t.All P) (keys : List String) : (t.eraseAll keys).All P := by
  rw [all_iff_get?] at h ⊢
  intro k v hget
  rw [get?_eraseAll] at hget
  split at hget
  · exact absurd hget (by simp)
  · exact h k v hget

end All

/-! ## Changing the values of a table -/

theorem ascending_map {γ : Type} (f : β → γ) {entries : List (String × β)} (h : Ascending entries) :
    Ascending (entries.map fun e => (e.1, f e.2)) :=
  List.pairwise_map.2 h

/-- The table with each value changed. -/
def map {γ : Type} (f : β → γ) (t : Table β) : Table γ :=
  ⟨t.toList.map fun e => (e.1, f e.2), ascending_map f t.ascending⟩

@[simp] theorem keys_map {γ : Type} (f : β → γ) (t : Table β) : (t.map f).keys = t.keys :=
  List.map_map

theorem lookup_map {γ : Type} (f : β → γ) (entries : List (String × β)) (k : String) :
    (entries.map fun e => (e.1, f e.2)).lookup k = (entries.lookup k).map f := by
  induction entries with
  | nil => rfl
  | cons e entries ih =>
    rw [List.map_cons, lookup_cons_eq, lookup_cons_eq, ih]
    split_ifs <;> rfl

theorem get?_map {γ : Type} (f : β → γ) (t : Table β) (k : String) :
    (t.map f).get? k = (t.get? k).map f :=
  lookup_map f t.toList k

end PageRisk.Table
