import Mathlib.Data.List.Induction
import Mathlib.Data.List.Sort
import Mathlib.Tactic.Ring
import PageRisk.Idna.Punycode
import PageRisk.Proofs.Unicode.Lowercase

set_option autoImplicit false

/-! # Punycode that is decoded and encoded again

A text in lower case that is the encoding of a label is the only one: encoding the label gives it back
(`encode_decode`). The decoder inserts the characters in the order in which the encoder meets them, so the
two are followed side by side: after every character that is inserted, what the encoder still has to write
is what the decoder still has to read. -/

namespace PageRisk.Idna.Punycode

/-- Whether a text is in ASCII without capitals. -/
def LowerAscii (cs : List Char) : Prop :=
  ∀ c ∈ cs, c.toNat < 128 ∧ c.isUpper = false

/-! ## Numbers -/

theorem digit_of_digitValue? {c : Char} {d : Nat} (hascii : c.toNat < 128) (hlower : c.isUpper = false)
    (h : digitValue? c = some d) : digit d = c ∧ d < 36 := by
  have hall := Unicode.forall_ascii
    (motive := fun c => c.isUpper = false → ∀ d ∈ digitValue? c, digit d = c ∧ d < 36)
    (by decide) hascii
  exact hall hlower d h

theorem limit_bounds (k bias : Nat) : 1 ≤ limit k bias ∧ limit k bias ≤ 26 := by
  unfold limit
  split_ifs <;> omega

/-- A digit that is not below its `limit` stands before the `numberDigits` of the digits behind it. -/
theorem numberDigits_cons {bias fuel k d n : Nat} (hlimit : limit k bias ≤ d) (hd : d < 36) :
    numberDigits bias (fuel + 1) k (d + n * (36 - limit k bias))
      = digit d :: numberDigits bias fuel (k + 36) n := by
  have hbounds := limit_bounds k bias
  have hpos : 0 < 36 - limit k bias := by omega
  have hsub : d + n * (36 - limit k bias) - limit k bias
      = d - limit k bias + n * (36 - limit k bias) := by omega
  have hmod : (d + n * (36 - limit k bias) - limit k bias) % (36 - limit k bias) = d - limit k bias := by
    rw [hsub, Nat.add_mul_mod_self_right, Nat.mod_eq_of_lt (by omega)]
  have hdiv : (d + n * (36 - limit k bias) - limit k bias) / (36 - limit k bias) = n := by
    rw [hsub, Nat.add_mul_div_right _ _ hpos, Nat.div_eq_of_lt (by omega), Nat.zero_add]
  rw [numberDigits, if_neg (by omega), hmod, hdiv, Nat.add_sub_cancel' hlimit]

/-- A number that `readNumber` reads has no other digits than `numberDigits`. -/
theorem readNumber_eq_some {bias k weight sum total : Nat} {cs rest : List Char}
    (hcs : LowerAscii cs)
    (h : readNumber bias k weight sum cs = some (total, rest)) :
    ∃ n, total = sum + n * weight ∧ total ≤ numberMax
      ∧ ∀ fuel, n < 10 ^ fuel → cs = numberDigits bias (fuel + 1) k n ++ rest := by
  induction cs generalizing k weight sum with
  | nil => exact absurd h nofun
  | cons c cs ih =>
    rw [readNumber] at h
    split at h
    · exact absurd h nofun
    · next d hvalue =>
      obtain ⟨hascii, hlower⟩ := hcs c List.mem_cons_self
      obtain ⟨hdigit, hd⟩ := digit_of_digitValue? hascii hlower hvalue
      have hlimit := limit_bounds k bias
      dsimp only at h
      split_ifs at h with hmax hlast hweight
      · -- This is the last digit.
        obtain ⟨rfl, rfl⟩ := Prod.mk.inj (Option.some.inj h)
        refine ⟨d, rfl, Nat.le_of_not_lt hmax, ?_⟩
        intro fuel _
        rw [numberDigits, if_pos hlast, hdigit]
        rfl
      · obtain ⟨n, htotal, hle, hdigits⟩ := ih (fun e he => hcs e (List.mem_cons_of_mem c he)) h
        refine ⟨d + n * (36 - limit k bias), ?_, hle, ?_⟩
        · rw [htotal]
          ring
        · intro fuel hfuel
          rw [numberDigits_cons (Nat.le_of_not_lt hlast) hd, hdigit, List.cons_append]
          -- The rest of the number is smaller by a power of ten, as ten is the least base of a digit.
          cases fuel with
          | zero => omega
          | succ fuel =>
            have hten : n * 10 ≤ n * (36 - limit k bias) := Nat.mul_le_mul_left n (by omega)
            rw [← hdigits fuel (by omega)]

/-! ## Code points -/

theorem mem_insertPoint {m n : Nat} {points : List Nat} :
    m ∈ insertPoint n points ↔ m = n ∨ m ∈ points := by
  induction points with
  | nil => simp [insertPoint]
  | cons p points ih =>
    rw [insertPoint]
    split_ifs with hlt heq
    · simp
    · obtain rfl := beq_iff_eq.1 heq
      simp
    · rw [List.mem_cons, ih, List.mem_cons, or_left_comm]

theorem insertPoint_pairwise {n : Nat} {points : List Nat} (h : points.Pairwise (· < ·)) :
    (insertPoint n points).Pairwise (· < ·) := by
  induction points with
  | nil => simp [insertPoint]
  | cons p points ih =>
    obtain ⟨hfirst, hrest⟩ := List.pairwise_cons.1 h
    rw [insertPoint]
    split_ifs with hlt heq
    · refine List.pairwise_cons.2 ⟨?_, h⟩
      intro m hm
      rcases List.mem_cons.1 hm with rfl | hm
      · exact hlt
      · exact hlt.trans (hfirst m hm)
    · exact h
    · refine List.pairwise_cons.2 ⟨?_, ih hrest⟩
      intro m hm
      rcases mem_insertPoint.1 hm with rfl | hm
      · rw [beq_iff_eq] at heq
        omega
      · exact hfirst m hm

/-- The code points of a label from `next` on, in ascending order. -/
def points (label : List Char) (next : Nat) : List Nat :=
  (label.filter (next ≤ ·.toNat)).foldl (fun ps c => insertPoint c.toNat ps) []

theorem mem_foldl_insertPoint {m : Nat} {cs : List Char} {ps : List Nat} :
    m ∈ cs.foldl (fun ps c => insertPoint c.toNat ps) ps ↔ m ∈ ps ∨ ∃ c ∈ cs, c.toNat = m := by
  induction cs generalizing ps with
  | nil => simp
  | cons c cs ih =>
    rw [List.foldl_cons, ih, mem_insertPoint]
    simp only [List.mem_cons, exists_eq_or_imp]
    rw [eq_comm (a := m), or_comm (a := c.toNat = m), or_assoc]

theorem mem_points {label : List Char} {next m : Nat} :
    m ∈ points label next ↔ next ≤ m ∧ ∃ c ∈ label, c.toNat = m := by
  rw [points, mem_foldl_insertPoint]
  simp only [List.not_mem_nil, false_or, List.mem_filter, decide_eq_true_eq]
  constructor
  · rintro ⟨c, ⟨hc, hle⟩, rfl⟩
    exact ⟨hle, c, hc, rfl⟩
  · rintro ⟨hle, c, hc, rfl⟩
    exact ⟨c, ⟨hc, hle⟩, rfl⟩

theorem points_pairwise (label : List Char) (next : Nat) : (points label next).Pairwise (· < ·) := by
  unfold points
  generalize label.filter (next ≤ ·.toNat) = cs
  induction cs using List.reverseRecOn with
  | nil => exact List.Pairwise.nil
  | append_singleton cs c ih =>
    rw [List.foldl_append]
    exact insertPoint_pairwise ih

theorem points_of_mem {label : List Char} {next : Nat} (h : ∃ c ∈ label, c.toNat = next) :
    points label next = next :: points label (next + 1) := by
  have hpairwise : (next :: points label (next + 1)).Pairwise (· < ·) := by
    refine List.pairwise_cons.2 ⟨?_, points_pairwise label (next + 1)⟩
    intro m hm
    exact (mem_points.1 hm).1
  refine (points_pairwise label next).eq_of_mem_iff hpairwise ?_
  intro m
  rw [List.mem_cons, mem_points, mem_points]
  constructor
  · rintro ⟨hle, hmem⟩
    rcases Nat.eq_or_lt_of_le hle with heq | hlt
    · exact Or.inl heq.symm
    · exact Or.inr ⟨hlt, hmem⟩
  · rintro (rfl | ⟨hlt, hmem⟩)
    · exact ⟨le_rfl, h⟩
    · exact ⟨Nat.le_of_succ_le hlt, hmem⟩

theorem points_of_not_mem {label : List Char} {next : Nat} (h : ∀ c ∈ label, c.toNat ≠ next) :
    points label next = points label (next + 1) := by
  unfold points
  congr 1
  apply List.filter_congr
  intro c hc
  have hne := h c hc
  rw [decide_eq_decide]
  omega

/-! ## What is left to encode -/

/-- The characters of a text below a code point. -/
def below (point : Nat) (cs : List Char) : List Char :=
  cs.filter (·.toNat < point)

theorem below_append (point : Nat) (cs ds : List Char) :
    below point (cs ++ ds) = below point cs ++ below point ds :=
  List.filter_append cs ds

theorem mem_below {point : Nat} {cs : List Char} {c : Char} :
    c ∈ below point cs ↔ c ∈ cs ∧ c.toNat < point := by
  simp [below]

theorem below_below {m n : Nat} (h : m ≤ n) (cs : List Char) : below m (below n cs) = below m cs := by
  rw [below, below, below, List.filter_filter]
  apply List.filter_congr
  intro c _
  rw [← Bool.decide_and, decide_eq_decide]
  omega

theorem below_eq_self {point : Nat} {cs : List Char} (h : ∀ c ∈ cs, c.toNat < point) :
    below point cs = cs := by
  rw [below, List.filter_eq_self]
  intro c hc
  exact decide_eq_true (h c hc)

/-- What is below one code point is below another if all of it is. -/
theorem below_of_below {m n : Nat} (hmn : m ≤ n) {cs part : List Char} (h : below n cs = part)
    (hpart : ∀ c ∈ part, c.toNat < m) : below m cs = part := by
  rw [← below_below hmn, h, below_eq_self hpart]

theorem ne_of_below {point : Nat} {cs part : List Char} (h : below (point + 1) cs = part)
    (hpart : ∀ c ∈ part, c.toNat < point) : ∀ c ∈ cs, c.toNat ≠ point := by
  intro c hc heq
  have hmem : c ∈ part := by
    rw [← h]
    exact mem_below.2 ⟨hc, by omega⟩
  have := hpart c hmem
  omega

variable {label : List Char} {basics point : Nat}

/-- The output, reversed, when the positions `rest` of the label are not passed yet in the round of
    `point`. -/
def finish (label : List Char) (basics point : Nat) (rest : List Char) (e : Encoding) : List Char :=
  let e := rest.foldl (Encoding.pass basics point) e
  (encodePoints label basics (point + 1) { e with delta := e.delta + 1 } (points label (point + 1))).output

/-- `Encoding.pass` takes one step for every character that is written, at positions without the code
    point. -/
theorem foldl_pass {cs : List Char} (h : ∀ c ∈ cs, c.toNat ≠ point) (e : Encoding) :
    cs.foldl (Encoding.pass basics point) e = { e with delta := e.delta + (below point cs).length } := by
  induction cs generalizing e with
  | nil => rfl
  | cons c cs ih =>
    have hne := h c List.mem_cons_self
    rw [List.foldl_cons, ih fun d hd => h d (List.mem_cons_of_mem c hd), Encoding.pass]
    split_ifs with hlt heq
    · simp [below, hlt, Nat.add_assoc, Nat.add_comm]
    · exact absurd (beq_iff_eq.1 heq) hne
    · simp [below, hlt]

theorem finish_append {cs : List Char} (h : ∀ c ∈ cs, c.toNat ≠ point) (rest : List Char) (e : Encoding) :
    finish label basics point (cs ++ rest) e
      = finish label basics point rest { e with delta := e.delta + (below point cs).length } := by
  rw [finish, finish, List.foldl_append, foldl_pass h]

/-- At a position with the code point the number of steps is written. -/
theorem finish_cons {c : Char} (h : c.toNat = point) (rest : List Char) (e : Encoding) :
    finish label basics point (c :: rest) e
      = finish label basics point rest
          { output := (numberDigits e.bias 64 36 e.delta).reverse ++ e.output
            delta := 0
            bias := adapt e.delta (e.handled + 1) (e.handled == basics)
            handled := e.handled + 1 } := by
  rw [finish, finish, List.foldl_cons, Encoding.pass, if_neg (by omega), if_pos (beq_iff_eq.2 h)]

/-- A round that `encodePoints` leaves out is as good as one without the code point. -/
theorem encodePoints_output {e : Encoding} (h : e.handled = (below point label).length) :
    (encodePoints label basics point e (points label point)).output
      = finish label basics point label e := by
  by_cases hmem : ∃ c ∈ label, c.toNat = point
  · rw [points_of_mem hmem, encodePoints, Nat.sub_self, Nat.zero_mul, Nat.add_zero]
    rfl
  · push Not at hmem
    rw [points_of_not_mem hmem, finish, foldl_pass hmem, ← h]
    dsimp only
    cases hpoints : points label (point + 1) with
    | nil => rfl
    | cons next rest =>
      have hnext : point + 1 ≤ next := by
        have hfirst : next ∈ points label (point + 1) := by
          rw [hpoints]
          exact List.mem_cons_self
        exact (mem_points.1 hfirst).1
      have hsteps : e.delta + (next - point) * (e.handled + 1)
          = e.delta + e.handled + 1 + (next - (point + 1)) * (e.handled + 1) := by
        obtain ⟨k, rfl⟩ := Nat.exists_eq_add_of_le hnext
        rw [show point + 1 + k - point = k + 1 by omega, Nat.add_sub_cancel_left]
        ring
      rw [encodePoints, encodePoints, hsteps]

/-- `finish` from the end of one round is `finish` from the start of the next. -/
theorem finish_next {rest : List Char} (hrest : ∀ c ∈ rest, c.toNat ≠ point) {e : Encoding}
    (h : e.handled = (below (point + 1) label).length) :
    finish label basics point rest e
      = finish label basics (point + 1) label { e with delta := e.delta + (below point rest).length + 1 } := by
  rw [finish, foldl_pass hrest]
  exact encodePoints_output h

/-- A round that writes nothing takes one step for each character that is written and one more. -/
theorem finish_rounds {k : Nat} {part : List Char}
    (hpart : ∀ m, point ≤ m → m ≤ point + k → below m label = part) {e : Encoding}
    (h : e.handled = part.length) :
    finish label basics point label e
      = finish label basics (point + k) label { e with delta := e.delta + k * (e.handled + 1) } := by
  induction k with
  | zero => simp
  | succ k ih =>
    have hnone : ∀ c ∈ label, c.toNat ≠ point + k := by
      apply ne_of_below (hpart (point + k + 1) (by omega) (by omega))
      intro c hc
      rw [← hpart (point + k) (by omega) (by omega)] at hc
      exact (mem_below.1 hc).2
    rw [ih fun m hle hle' => hpart m hle (by omega), finish_next hnone,
      hpart (point + k) (by omega) (by omega)]
    · dsimp only
      have hsum : e.delta + k * (e.handled + 1) + e.handled + 1 = e.delta + (k + 1) * (e.handled + 1) := by
        ring
      rw [← h, hsum]
      rfl
    · rw [hpart (point + k + 1) (by omega) (by omega)]
      exact h

/-- `finish` from the end of one round is `finish` from the start of a later one, with nothing written in
    between. -/
theorem finish_later {next : Nat} {rest part : List Char} (hlt : point < next)
    (hrest : ∀ c ∈ rest, c.toNat ≠ point) (hpart : below next label = part)
    (hle : ∀ c ∈ part, c.toNat ≤ point) {e : Encoding} (h : e.handled = part.length) :
    finish label basics point rest e
      = finish label basics next label
          { e with
            delta := e.delta + (below point rest).length + 1 + (next - point - 1) * (e.handled + 1) } := by
  have hsame : ∀ m, point + 1 ≤ m → m ≤ next → below m label = part := by
    intro m hm hm'
    apply below_of_below hm' hpart
    intro c hc
    exact (hle c hc).trans_lt hm
  obtain ⟨k, rfl⟩ := Nat.exists_eq_add_of_lt hlt
  have hnext : point + k + 1 = point + 1 + k := by omega
  have hrounds : point + k + 1 - point - 1 = k := by omega
  rw [hrounds, hnext, finish_next hrest (by rw [hsame (point + 1) (by omega) (by omega)]; exact h)]
  exact finish_rounds (fun m hm hm' => hsame m hm (by omega)) h

/-! ## Decoding and encoding side by side -/

/-- Where a decoding may stand: nothing before `counter` is above `point`, and everything behind it is
    below. The first character that is inserted is known by `counter` and by the length alike. -/
structure Standing (basics : Nat) (part : List Char) (counter point : Nat) : Prop where
  counter_le : counter ≤ part.length
  basics_le : basics ≤ part.length
  first_iff : counter = 0 ↔ part.length = basics
  before_le : ∀ c ∈ part.take counter, c.toNat ≤ point
  behind_lt : ∀ c ∈ part.drop counter, c.toNat < point

theorem Standing.le {part : List Char} {counter : Nat} (h : Standing basics part counter point) :
    ∀ c ∈ part, c.toNat ≤ point := by
  intro c hc
  rw [← List.take_append_drop counter part, List.mem_append] at hc
  exact hc.elim (h.before_le c) fun hc => (h.behind_lt c hc).le

theorem take_insert {part : List Char} {place : Nat} (h : place ≤ part.length) (c : Char) :
    (part.take place ++ c :: part.drop place).take (place + 1) = part.take place ++ [c] := by
  rw [List.append_cons]
  exact List.take_left' (by simp [h])

theorem drop_insert {part : List Char} {place : Nat} (h : place ≤ part.length) (c : Char) :
    (part.take place ++ c :: part.drop place).drop (place + 1) = part.drop place := by
  rw [List.append_cons]
  exact List.drop_left' (by simp [h])

theorem length_insert {part : List Char} {place : Nat} (h : place ≤ part.length) (c : Char) :
    (part.take place ++ c :: part.drop place).length = part.length + 1 := by
  simp
  omega

/-- A character that is inserted at the place that `steps` lead to keeps `Standing`. -/
theorem Standing.insert {part : List Char} {counter steps place : Nat} {c : Char}
    (h : Standing basics part counter point) (hplace : place ≤ part.length) (hpoint : point ≤ c.toNat)
    (hsteps : counter + steps = (c.toNat - point) * (part.length + 1) + place) :
    Standing basics (part.take place ++ c :: part.drop place) (place + 1) c.toNat where
  counter_le := by rw [length_insert hplace]; omega
  basics_le := by rw [length_insert hplace]; exact h.basics_le.trans (Nat.le_succ _)
  first_iff := by
    rw [length_insert hplace]
    have := h.basics_le
    omega
  before_le := by
    intro d hd
    rw [take_insert hplace, List.mem_append, List.mem_singleton] at hd
    rcases hd with hd | rfl
    · exact (h.le d (List.mem_of_mem_take hd)).trans hpoint
    · exact le_rfl
  behind_lt := by
    intro d hd
    rw [drop_insert hplace] at hd
    rcases Nat.eq_or_lt_of_le hpoint with heq | hlt
    · -- The code point is the same, so the place is not before the counter.
      have hcounter : counter ≤ place := by
        rw [heq, Nat.sub_self, Nat.zero_mul, Nat.zero_add] at hsteps
        omega
      rw [← heq]
      exact h.behind_lt d (List.drop_subset_drop_left part hcounter hd)
    · exact (h.le d (List.mem_of_mem_drop hd)).trans_lt hlt

/-- A label cut in two where the encoder stands when it has written what the decoder has read: `before` is
    passed, `rest` is not. -/
structure Cut (label part : List Char) (counter point : Nat) (before rest : List Char) : Prop where
  eq_append : label = before ++ rest
  below_before : below (point + 1) before = part.take counter
  below_rest : below point rest = part.drop counter

/-- A label around a character that is inserted. Nothing in `back` is written before the encoder has passed
    `rest`. -/
structure Around (label part : List Char) (place : Nat) (c : Char) (front back rest : List Char) :
    Prop where
  eq_append : label = front ++ c :: (back ++ rest)
  below_front : below (c.toNat + 1) front = part.take place
  below_back : below (c.toNat + 1) back = []
  below_rest : below c.toNat rest = part.drop place

theorem Cut.exists_around {part before rest : List Char} {place : Nat} {c : Char}
    (hplace : place ≤ part.length)
    (h : Cut label (part.take place ++ c :: part.drop place) (place + 1) c.toNat before rest) :
    ∃ front back, Around label part place c front back rest := by
  obtain ⟨heq, hbefore, hrest⟩ := h
  rw [take_insert hplace] at hbefore
  rw [drop_insert hplace] at hrest
  obtain ⟨front, tail, rfl, hfront, htail⟩ := List.filter_eq_append_iff.1 hbefore
  obtain ⟨middle, back, rfl, hmiddle, -, hback⟩ := List.filter_eq_cons_iff.1 htail
  refine ⟨front ++ middle, back, by simp [heq], ?_, hback, hrest⟩
  rw [below_append, below, hfront, below, List.filter_eq_nil_iff.2 hmiddle, List.append_nil]

/-- The encoder gets from one position to another and writes `steps` on the way, and no other number. -/
def Writes (label : List Char) (basics handled steps point : Nat) (rest : List Char) (next : Nat)
    (after : List Char) : Prop :=
  ∀ output bias, finish label basics point rest ⟨output, 0, bias, handled⟩
    = finish label basics next after
        ⟨(numberDigits bias 64 36 steps).reverse ++ output, 0,
          adapt steps (handled + 1) (handled == basics), handled + 1⟩

namespace Around

variable {part front back rest : List Char} {counter steps place : Nat} {c : Char}

theorem below_back_eq_nil (h : Around label part place c front back rest) : below c.toNat back = [] :=
  below_of_below (Nat.le_succ _) h.below_back (by simp)

/-- What is `below` the inserted character is what the decoder had. -/
theorem below_append_cons (h : Around label part place c front back rest) (passed : List Char) :
    below c.toNat (passed ++ c :: (back ++ rest)) = below c.toNat passed ++ part.drop place := by
  have hself : below c.toNat [c] = [] := by simp [below]
  rw [List.append_cons, below_append, below_append, below_append, hself, h.below_back_eq_nil, h.below_rest,
    List.append_nil, List.nil_append]

/-- The encoder writes the character when it comes to it in the round of its code point. -/
theorem finish_eq (h : Around label part place c front back rest) {passed : List Char}
    (hpassed : ∀ d ∈ passed, d.toNat ≠ c.toNat) {e : Encoding}
    (hsteps : e.delta + (below c.toNat passed).length = steps) :
    finish label basics c.toNat (passed ++ c :: (back ++ rest)) e
      = finish label basics c.toNat rest
          ⟨(numberDigits e.bias 64 36 steps).reverse ++ e.output, 0,
            adapt steps (e.handled + 1) (e.handled == basics), e.handled + 1⟩ := by
  have hback : ∀ d ∈ back, d.toNat ≠ c.toNat := ne_of_below h.below_back (by simp)
  rw [finish_append hpassed, hsteps, finish_cons rfl, finish_append hback, h.below_back_eq_nil]
  rfl

/-- A character with the code point of the last one: the encoder `Writes` the steps from `counter` on. -/
theorem step_same (h : Around label part place c front back rest) (hplace : place ≤ part.length)
    (hstanding : Standing basics part counter c.toNat) (hsteps : counter + steps = place) :
    ∃ before after, Cut label part counter c.toNat before after
      ∧ Writes label basics part.length steps c.toNat after c.toNat rest := by
  have htake : (part.take place).take counter = part.take counter := by
    rw [List.take_take, Nat.min_eq_left (by omega)]
  have hdrop : (part.take place).drop counter ++ part.drop place = part.drop counter := by
    rw [← List.drop_append_of_le_length (by simp; omega), List.take_append_drop]
  have hbehind : ∀ d ∈ (part.take place).drop counter, d.toNat < c.toNat := by
    intro d hd
    apply hstanding.behind_lt d
    rw [← hdrop]
    exact List.mem_append_left _ hd
  have hfront := h.below_front
  rw [← List.take_append_drop counter (part.take place), htake] at hfront
  obtain ⟨before, passed, happend, hbefore, hpassed⟩ := List.filter_eq_append_iff.1 hfront
  have hbelow : below c.toNat passed = (part.take place).drop counter :=
    below_of_below (Nat.le_succ _) hpassed hbehind
  refine ⟨before, passed ++ c :: (back ++ rest), ⟨?_, hbefore, ?_⟩, ?_⟩
  · rw [h.eq_append, happend, List.append_assoc]
  · rw [h.below_append_cons, hbelow, hdrop]
  · intro output bias
    apply h.finish_eq (ne_of_below hpassed hbehind)
    rw [hbelow, List.length_drop, List.length_take]
    dsimp only
    omega

/-- A character with a later code point: the encoder ends its round and `Writes` the steps when it comes to
    the character in a later one, with rounds in between in which it writes nothing. -/
theorem step_later (h : Around label part place c front back rest) (hplace : place ≤ part.length)
    (hstanding : Standing basics part counter point) (hlt : point < c.toNat)
    (hsteps : counter + steps = (c.toNat - point) * (part.length + 1) + place) :
    ∃ before after, Cut label part counter point before after
      ∧ Writes label basics part.length steps point after c.toNat rest := by
  have hlast : ∀ d ∈ part.take place, d.toNat < c.toNat := fun d hd =>
    (hstanding.le d (List.mem_of_mem_take hd)).trans_lt hlt
  have hfront : below c.toNat front = part.take place := below_of_below (Nat.le_succ _) h.below_front hlast
  have hlabel : below c.toNat label = part := by
    rw [h.eq_append, h.below_append_cons, hfront, List.take_append_drop]
  have hcut := hlabel
  rw [← List.take_append_drop counter part] at hcut
  obtain ⟨before, after, happend, hbefore, hafter⟩ := List.filter_eq_append_iff.1 hcut
  have hrest : below point after = part.drop counter := below_of_below hlt.le hafter hstanding.behind_lt
  refine ⟨before, after, ⟨happend, ?_, hrest⟩, ?_⟩
  · apply below_of_below hlt hbefore
    intro d hd
    exact Nat.lt_succ_of_le (hstanding.before_le d hd)
  · intro output bias
    have hnone : ∀ d ∈ after, d.toNat ≠ point := by
      apply ne_of_below (below_of_below hlt hafter _) hstanding.behind_lt
      intro d hd
      exact (hstanding.behind_lt d hd).trans (Nat.lt_succ_self point)
    have hcount : 0 + (part.drop counter).length + 1 + (c.toNat - point - 1) * (part.length + 1)
        + (below c.toNat front).length = steps := by
      have hsum : (c.toNat - point) * (part.length + 1)
          = part.length + 1 + (c.toNat - point - 1) * (part.length + 1) := by
        obtain ⟨k, hk⟩ := Nat.exists_eq_add_of_lt hlt
        rw [hk, show point + k + 1 - point = k + 1 by omega, Nat.add_sub_cancel]
        ring
      have := hstanding.counter_le
      rw [hfront, List.length_drop, List.length_take]
      omega
    rw [finish_later hlt hnone hlabel hstanding.le rfl, hrest]
    refine Eq.trans ?_ (h.finish_eq (ne_of_below h.below_front hlast)
      (e := ⟨output, 0 + (part.drop counter).length + 1 + (c.toNat - point - 1) * (part.length + 1), bias,
        part.length⟩) hcount)
    rw [← h.eq_append]

end Around

/-- The encoder `Writes` the steps that the decoder reads. -/
theorem Cut.step {part before' rest : List Char} {counter steps place : Nat} {c : Char}
    (h : Cut label (part.take place ++ c :: part.drop place) (place + 1) c.toNat before' rest)
    (hstanding : Standing basics part counter point) (hplace : place ≤ part.length)
    (hpoint : point ≤ c.toNat)
    (hsteps : counter + steps = (c.toNat - point) * (part.length + 1) + place) :
    ∃ before after, Cut label part counter point before after
      ∧ Writes label basics part.length steps point after c.toNat rest := by
  obtain ⟨front, back, haround⟩ := h.exists_around hplace
  rcases Nat.eq_or_lt_of_le hpoint with rfl | hlt
  · rw [Nat.sub_self, Nat.zero_mul, Nat.zero_add] at hsteps
    exact haround.step_same hplace hstanding hsteps
  · exact haround.step_later hplace hstanding hlt hsteps

/-- Where the decoder has nothing more to read, `finish` writes nothing more. -/
theorem finish_of_standing {counter : Nat} (h : Standing basics label counter point) (e : Encoding) :
    finish label basics point (label.drop counter) e = e.output := by
  have hnone : points label (point + 1) = [] := by
    rw [List.eq_nil_iff_forall_not_mem]
    intro m hm
    obtain ⟨hle, c, hc, rfl⟩ := mem_points.1 hm
    have := h.le c hc
    omega
  rw [finish, foldl_pass fun c hc => (h.behind_lt c hc).ne, hnone]
  rfl

theorem decodePoints_nil {fuel counter bias : Nat} {part : List Char}
    (hstanding : Standing basics part counter point)
    (h : decodePoints fuel part counter point bias [] = some label) :
    ∃ before rest, Cut label part counter point before rest
      ∧ ∀ output, finish label basics point rest ⟨output, 0, bias, part.length⟩ = output := by
  obtain rfl : part = label := by cases fuel <;> exact Option.some.inj h
  refine ⟨part.take counter, part.drop counter, ⟨?_, ?_, ?_⟩, ?_⟩
  · rw [List.take_append_drop]
  · apply below_eq_self
    intro d hd
    exact Nat.lt_succ_of_le (hstanding.before_le d hd)
  · exact below_eq_self hstanding.behind_lt
  · intro output
    exact finish_of_standing hstanding _

/-- `decodePoints` decodes one character: a number leads to its place. -/
theorem decodePoints_cons {fuel counter bias : Nat} {part cs : List Char}
    (hcs : LowerAscii cs) (hne : cs ≠ [])
    (h : decodePoints (fuel + 1) part counter point bias cs = some label) :
    ∃ c steps place rest, place ≤ part.length ∧ point ≤ c.toNat
      ∧ counter + steps = (c.toNat - point) * (part.length + 1) + place
      ∧ cs = numberDigits bias 64 36 steps ++ rest
      ∧ decodePoints fuel (part.take place ++ c :: part.drop place) (place + 1) c.toNat
          (adapt steps (part.length + 1) (counter == 0)) rest = some label := by
  obtain ⟨d, ds, rfl⟩ := List.exists_cons_of_ne_nil hne
  rw [decodePoints] at h
  split at h
  · exact absurd h nofun
  · next total rest hread =>
    obtain ⟨steps, htotal, hmax, hdigits⟩ := readNumber_eq_some hcs hread
    rw [Nat.mul_one] at htotal
    dsimp only at h
    split_ifs at h with hvalid
    have hpoint : (Char.ofNat (point + total / (part.length + 1))).toNat
        = point + total / (part.length + 1) := by
      have hchar : (point + total / (part.length + 1)).isValidChar := by
        rwa [Bool.not_eq_true, Bool.not_eq_false', decide_eq_true_eq] at hvalid
      rw [Char.ofNat, dif_pos hchar]
      rfl
    have hsteps : steps < 10 ^ 63 := by
      have hlt : numberMax < 10 ^ 63 := by decide
      omega
    refine ⟨Char.ofNat (point + total / (part.length + 1)), steps, total % (part.length + 1), rest,
      ?_, ?_, ?_, hdigits 63 hsteps, ?_⟩
    · exact Nat.le_of_lt_succ (Nat.mod_lt _ (Nat.succ_pos _))
    · rw [hpoint]
      exact Nat.le_add_right _ _
    · rw [hpoint, Nat.add_sub_cancel_left, ← htotal, Nat.mul_comm]
      exact (Nat.div_add_mod total (part.length + 1)).symm
    · rw [hpoint]
      rw [htotal, Nat.add_sub_cancel_left] at h
      rw [htotal]
      exact h

/-- What `decodePoints` reads to the end is what the encoder writes from there on. -/
theorem decodePoints_eq_some {fuel counter bias : Nat} {part cs : List Char}
    (hcs : LowerAscii cs) (hstanding : Standing basics part counter point)
    (h : decodePoints fuel part counter point bias cs = some label) :
    ∃ before rest, Cut label part counter point before rest
      ∧ ∀ output, finish label basics point rest ⟨output, 0, bias, part.length⟩ = cs.reverse ++ output := by
  induction fuel generalizing part counter point bias cs with
  | zero =>
    cases cs with
    | nil => exact decodePoints_nil hstanding h
    | cons d ds => exact absurd h nofun
  | succ fuel ih =>
    cases cs with
    | nil => exact decodePoints_nil hstanding h
    | cons d ds =>
      obtain ⟨c, steps, place, rest, hplace, hpoint, hsteps, hdigits, hrest⟩ :=
        decodePoints_cons hcs (List.cons_ne_nil d ds) h
      have hlower : LowerAscii rest := by
        intro e he
        apply hcs
        rw [hdigits]
        exact List.mem_append_right _ he
      obtain ⟨before', after', hcut, houtput⟩ := ih hlower (hstanding.insert hplace hpoint hsteps) hrest
      obtain ⟨before, after, hcut', hstep⟩ := hcut.step hstanding hplace hpoint hsteps
      refine ⟨before, after, hcut', ?_⟩
      intro output
      have hfirst : (counter == 0) = (part.length == basics) := by
        rw [Bool.eq_iff_iff, beq_iff_eq, beq_iff_eq]
        exact hstanding.first_iff
      rw [length_insert hplace, hfirst] at houtput
      rw [hstep, houtput, hdigits, List.reverse_append, List.append_assoc]

/-! ## Labels -/

/-- What a label is decoded from is its `encode`: its characters in ASCII, which stand in the text already,
    and the numbers of the others. -/
theorem encode_of_decodePoints {fuel : Nat} {basic digits : List Char} (hbasic : ∀ c ∈ basic, c.toNat < 128)
    (hdigits : LowerAscii digits)
    (h : decodePoints fuel basic 0 128 72 digits = some label) :
    encode label = (if basic.isEmpty then [] else basic ++ ['-']) ++ digits := by
  have hstanding : Standing basic.length basic 0 128 :=
    ⟨Nat.zero_le _, le_rfl, iff_of_true rfl rfl, by simp, by simpa using hbasic⟩
  obtain ⟨before, rest, ⟨happend, hbefore, hrest⟩, houtput⟩ := decodePoints_eq_some hdigits hstanding h
  have hbeforeBelow : below 128 before = [] := below_of_below (Nat.le_succ 128) hbefore (by simp)
  have hlabel : below 128 label = basic := by
    rw [happend, below_append, hbeforeBelow, hrest]
    rfl
  have hnone : ∀ c ∈ before, c.toNat ≠ 128 := ne_of_below hbefore (by simp)
  have hencode : encode label = (encodePoints label (below 128 label).length 128
      ⟨(if (below 128 label).isEmpty then [] else below 128 label ++ ['-']).reverse, 0, 72,
        (below 128 label).length⟩ (points label 128)).output.reverse := rfl
  rw [hencode, encodePoints_output rfl, hlabel]
  have hfinish := @finish_append label basic.length 128 before hnone rest
    ⟨(if basic.isEmpty then [] else basic ++ ['-']).reverse, 0, 72, basic.length⟩
  rw [← happend] at hfinish
  rw [hfinish, hbeforeBelow]
  show (finish label basic.length 128 rest
    ⟨(if basic.isEmpty then [] else basic ++ ['-']).reverse, 0, 72, basic.length⟩).reverse = _
  rw [houtput, List.reverse_append, List.reverse_reverse, List.reverse_reverse]

/-- A text is cut at its last hyphen, if it has one. -/
theorem eq_append_digits (cs : List Char) :
    (cs.reverse.dropWhile (· != '-')).reverse ++ (cs.reverse.takeWhile (· != '-')).reverse = cs := by
  rw [← List.reverse_append, List.takeWhile_append_dropWhile, List.reverse_reverse]

theorem dropLast_append_hyphen {cs : List Char}
    (h : (cs.reverse.dropWhile (· != '-')).reverse.dropLast ≠ []) :
    (cs.reverse.dropWhile (· != '-')).reverse.dropLast ++ ['-']
      = (cs.reverse.dropWhile (· != '-')).reverse := by
  cases hback : cs.reverse.dropWhile (· != '-') with
  | nil => exact absurd (by rw [hback]; rfl) h
  | cons c back =>
    have hc : c = '-' := by
      have hhead := List.head?_dropWhile_not (· != '-') cs.reverse
      rw [hback] at hhead
      simpa using hhead
    rw [hc, List.reverse_cons, List.dropLast_concat]

/-- `encode` of a label that is decoded is the text that it was decoded from. -/
theorem encode_decode {cs : List Char} (hcs : LowerAscii cs)
    (h : decode cs = some label) : encode label = cs := by
  have hcut := eq_append_digits cs
  have hfront : ∀ c ∈ (cs.reverse.dropWhile (· != '-')).reverse.dropLast, c.toNat < 128 := by
    intro c hc
    apply fun hmem => (hcs c hmem).1
    rw [← hcut]
    exact List.mem_append_left _ (List.dropLast_subset _ hc)
  have hdigits : LowerAscii (cs.reverse.takeWhile (· != '-')).reverse := by
    intro c hc
    apply hcs
    rw [← hcut]
    exact List.mem_append_right _ hc
  rw [decode] at h
  split_ifs at h with hempty hhyphen
  · rw [encode_of_decodePoints (by simp) hcs h]
    rfl
  · rw [encode_of_decodePoints hfront hdigits h, if_neg hempty, dropLast_append_hyphen, hcut]
    rwa [Ne, ← List.isEmpty_iff]

example : decode "bcher-kva".toList = some "bücher".toList := by decide

end PageRisk.Idna.Punycode
