import PageRisk.Proofs.Except
import PageRisk.Proofs.Json.RoundTrip

set_option autoImplicit false

/-! # Values that can be stored

What is read from a text can be written again: its brackets are not too deep, and the members of its objects
are in order (`storable_of_parse`). Such a value is read anew, from its pretty text, as what its numbers are
read as, and that can be stored as well (`parse_prettyText_reread`). -/

namespace PageRisk.Json

/-- Whether a value can be read after it was written: the members of each object in it are in order, and its
    brackets are at most `depth` deep. -/
def Storable : (depth : Nat) → Json → Prop
  | 0, .array _ => False
  | 0, .object _ => False
  | depth + 1, .array items => ∀ v ∈ items, Storable depth v
  | depth + 1, .object ms => Ascending ms ∧ ∀ m ∈ ms, Storable depth m.2
  | _, _ => True

theorem Storable.fits {depth : Nat} {v : Json} (hv : Storable depth v) : Fits depth v := by
  induction depth generalizing v with
  | zero => cases v <;> trivial
  | succ depth ih =>
    cases v with
    | array items =>
      simp only [Storable, Fits] at hv ⊢
      exact fun v hmem => ih (hv v hmem)
    | object ms =>
      simp only [Storable, Fits] at hv ⊢
      exact fun m hmem => ih (hv.2 m hmem)
    | _ => trivial

theorem Exact.storable {depth : Nat} {v : Json} (hv : Exact depth v) : Storable depth v := by
  induction depth generalizing v with
  | zero => cases v <;> trivial
  | succ depth ih =>
    cases v with
    | array items =>
      simp only [Exact, Storable] at hv ⊢
      exact fun v hmem => ih (hv v hmem)
    | object ms =>
      simp only [Exact, Storable] at hv ⊢
      exact ⟨hv.1, fun m hmem => ih (hv.2 m hmem)⟩
    | _ => trivial

/-! ## Values in canonical form -/

theorem canonicalMembers_all {P : Json → Prop} {placed ms : List (String × Json)}
    (hplaced : ∀ m ∈ placed, P m.2) (hms : ∀ m ∈ ms, P (canonical m.2)) :
    ∀ m ∈ canonicalMembers placed ms, P m.2 := by
  induction ms generalizing placed with
  | nil => exact hplaced
  | cons m ms ih =>
    obtain ⟨name, v⟩ := m
    rw [canonicalMembers]
    refine ih (fun n hn => ?_) fun n hn => hms n (List.mem_cons_of_mem _ hn)
    rcases Table.mem_place hn with rfl | hn
    · exact hms _ List.mem_cons_self
    · exact hplaced n hn

theorem ascending_canonicalMembers {placed ms : List (String × Json)} (h : Ascending placed) :
    Ascending (canonicalMembers placed ms) := by
  induction ms generalizing placed with
  | nil => exact h
  | cons m ms ih => exact ih (Table.ascending_place _ _ h)

/-- The `canonical` form of a value that `Fits` is `Storable`. -/
theorem Fits.storable_canonical {depth : Nat} {v : Json} (hv : Fits depth v) :
    Storable depth v.canonical := by
  induction depth generalizing v with
  | zero => cases v <;> trivial
  | succ depth ih =>
    cases v with
    | array items =>
      simp only [Fits] at hv
      rw [canonical, canonicalItems_eq_map]
      simp only [Storable, List.mem_map]
      rintro _ ⟨v, hmem, rfl⟩
      exact ih (hv v hmem)
    | object ms =>
      simp only [Fits] at hv
      rw [canonical]
      refine ⟨ascending_canonicalMembers List.Pairwise.nil, ?_⟩
      exact canonicalMembers_all (by simp) fun m hmem => ih (hv m hmem)
    | _ => trivial

/-- A `Storable` value is its own `canonical` form. -/
theorem Storable.canonical_eq {depth : Nat} {v : Json} (hv : Storable depth v) : v.canonical = v := by
  induction depth generalizing v with
  | zero => cases v <;> first | rfl | exact absurd hv (by simp [Storable])
  | succ depth ih =>
    cases v with
    | array items =>
      simp only [Storable] at hv
      rw [canonical, canonicalItems_eq_map,
        List.map_congr_left fun v hmem => ih (hv v hmem), List.map_id']
    | object ms =>
      simp only [Storable] at hv
      have hms : canonicalMembers [] ms = [] ++ ms :=
        canonicalMembers_of_ascending hv.1 fun m hmem => ih (hv.2 m hmem)
      rw [canonical, hms, List.nil_append]
    | _ => rfl

/-! ## Values read anew -/

theorem rereadNumber_storable (depth : Nat) (n : Number) : Storable depth (rereadNumber n) := by
  have hcases : rereadNumber n = .null ∨ ∃ m, rereadNumber n = .number m := by
    unfold rereadNumber
    split
    · exact .inr ⟨_, rfl⟩
    · split
      · exact .inl rfl
      · split
        · exact .inr ⟨_, rfl⟩
        · exact .inl rfl
  rcases hcases with h | ⟨m, h⟩ <;> rw [h] <;> cases depth <;> trivial

theorem Storable.reread {depth : Nat} {v : Json} (hv : Storable depth v) : Storable depth v.reread := by
  induction depth generalizing v with
  | zero =>
    cases v with
    | array items => exact absurd hv (by simp [Storable])
    | object ms => exact absurd hv (by simp [Storable])
    | number n => exact rereadNumber_storable 0 n
    | _ => trivial
  | succ depth ih =>
    cases v with
    | array items =>
      simp only [Storable] at hv
      rw [Json.reread, rereadItems_eq_map]
      simp only [Storable, List.mem_map]
      rintro _ ⟨v, hmem, rfl⟩
      exact ih (hv v hmem)
    | object ms =>
      simp only [Storable] at hv
      rw [Json.reread, rereadMembers_eq_map]
      refine ⟨Table.ascending_map Json.reread hv.1, ?_⟩
      simp only [List.mem_map]
      rintro _ ⟨m, hmem, rfl⟩
      exact ih (hv.2 m hmem)
    | number n => exact rereadNumber_storable _ n
    | _ => trivial

/-- A `Storable` value is read from its `prettyText` as `reread` says. -/
theorem parse_prettyText_reread {v : Json} (hv : Storable depthLimit v) :
    parse v.prettyText = .ok v.reread := by
  have hdocument : readDocument v.prettyText = .ok v.reread := readDocument_text prettyAt_prints hv.fits 0
  rw [parse, hdocument]
  exact congrArg Except.ok hv.reread.canonical_eq

/-! ## What is read -/

theorem elementsFrom_all {α : Type} {P : α → Prop} {element : Reader α}
    (helement : ∀ cs a rest, element cs = .ok (a, rest) → P a) {fuel : Nat} {first : Bool}
    {read items : List α} {cs rest : List Char}
    (h : elementsFrom element fuel first read cs = .ok (items, rest)) (hread : ∀ a ∈ read, P a) :
    ∀ a ∈ items, P a := by
  induction fuel generalizing first read cs with
  | zero => exact absurd h (by simp [elementsFrom])
  | succ fuel ih =>
    rw [elementsFrom] at h
    split at h
    · exact absurd h (by simp)
    · next rest' _ =>
      cases hend : endList rest' with
      | error fault =>
        rw [hend] at h
        exact absurd h (by simp [Except.map])
      | ok found =>
        rw [hend] at h
        obtain ⟨rfl, -⟩ := Prod.mk.inj (Except.ok.inj h)
        exact fun a ha => hread a (List.mem_reverse.1 ha)
    · split at h
      · exact absurd h (by simp)
      · next hvalue =>
        exact ih h (List.forall_mem_cons.2 ⟨helement _ _ _ hvalue, hread⟩)

theorem membersFrom_keeps {σ : Type} {Q : σ → Prop} {member : σ → String → Reader σ}
    (hmember : ∀ s name cs s' rest, Q s → member s name cs = .ok (s', rest) → Q s') {fuel : Nat}
    {first : Bool} {s s' : σ} {cs rest : List Char}
    (h : membersFrom member fuel first s cs = .ok (s', rest)) (hs : Q s) : Q s' := by
  induction fuel generalizing first s cs with
  | zero => exact absurd h (by simp [membersFrom])
  | succ fuel ih =>
    rw [membersFrom] at h
    split at h
    · exact absurd h (by simp)
    · obtain ⟨rfl, -⟩ := Prod.mk.inj (Except.ok.inj h)
      exact hs
    · split at h
      · exact absurd h (by simp)
      · next hvalue => exact ih h (hmember _ _ _ _ _ hs hvalue)

/-- What `valueWith` reads is deeper by one at most than what is read inside its brackets. -/
theorem valueWith_fits {fuel depth : Nat} {inner : Option (Reader Json)}
    (hinner : ∀ read ∈ inner, ∃ less, depth = less + 1
      ∧ ∀ cs v rest, read cs = .ok (v, rest) → Fits less v)
    {cs rest : List Char} {v : Json} (h : valueWith fuel inner cs = .ok (v, rest)) : Fits depth v := by
  have hscalar : ∀ {α : Type} {result : Except Fault (α × List Char)} {f : α → Json},
      (result.map fun found => (f found.1, found.2)) = .ok (v, rest) →
      (∀ a, Fits depth (f a)) → Fits depth v := by
    intro α result f hmap hfits
    obtain ⟨found, -, heq⟩ := map_eq_ok_iff.1 hmap
    rw [← (Prod.mk.inj heq).1]
    exact hfits found.1
  unfold valueWith at h
  split at h
  · exact absurd h (by simp)
  · exact hscalar (f := fun _ : Unit => null) h fun _ => by cases depth <;> trivial
  · exact hscalar (f := fun _ : Unit => bool true) h fun _ => by cases depth <;> trivial
  · exact hscalar (f := fun _ : Unit => bool false) h fun _ => by cases depth <;> trivial
  · exact hscalar (f := string) h fun _ => by cases depth <;> trivial
  · split at h
    · exact absurd h (by simp)
    · next read =>
      obtain ⟨less, rfl, hread⟩ := hinner read rfl
      obtain ⟨found, helements, heq⟩ := map_eq_ok_iff.1 h
      rw [← (Prod.mk.inj heq).1]
      exact elementsFrom_all hread helements (by simp)
  · split at h
    · exact absurd h (by simp)
    · next read =>
      obtain ⟨less, rfl, hread⟩ := hinner read rfl
      obtain ⟨found, hmembers, heq⟩ := map_eq_ok_iff.1 h
      have hall : ∀ m ∈ found.1, Fits less m.2 := by
        refine membersFrom_keeps (Q := fun ms => ∀ m ∈ ms, Fits less m.2) ?_ hmembers (by simp)
        intro ms name cs ms' rest' hms hmember
        obtain ⟨_, -, hnext⟩ := bind_eq_ok_iff.1 hmember
        obtain ⟨value, hvalue, heq⟩ := map_eq_ok_iff.1 hnext
        rw [← (Prod.mk.inj heq).1]
        exact List.forall_mem_cons.2 ⟨hread _ _ _ hvalue, hms⟩
      rw [← (Prod.mk.inj heq).1]
      exact fun m hm => hall m (List.mem_reverse.1 hm)
  · split_ifs at h
    exact hscalar (f := number) h fun _ => by cases depth <;> trivial

theorem value_fits {fuel depth : Nat} {cs rest : List Char} {v : Json}
    (h : value fuel depth cs = .ok (v, rest)) : Fits depth v := by
  induction depth generalizing cs v rest with
  | zero => exact valueWith_fits (by simp) h
  | succ depth ih =>
    refine valueWith_fits (fun read hread => ⟨depth, rfl, ?_⟩) h
    obtain rfl := Option.some.inj hread
    exact fun cs v rest hvalue => ih hvalue

/-- What `parse` reads is `Storable`. -/
theorem storable_of_parse {text : String} {v : Json} (h : parse text = .ok v) :
    Storable depthLimit v := by
  unfold parse at h
  split at h
  · next w hdocument =>
    rw [← Except.ok.inj h]
    refine Fits.storable_canonical ?_
    unfold readDocument readAll at hdocument
    split at hdocument
    · exact absurd hdocument (by simp)
    · next hvalue =>
      split at hdocument
      · rw [← Except.ok.inj hdocument]
        exact value_fits hvalue
      · exact absurd hdocument (by simp)
  · exact absurd h (by simp)

end PageRisk.Json
