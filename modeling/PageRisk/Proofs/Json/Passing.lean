import PageRisk.Json.Skip
import PageRisk.Proofs.Except
import PageRisk.Proofs.Json.Grammar

set_option autoImplicit false

/-! # What is passed over

Exactly the values of the grammar are passed over (`exists_derives_of_skipValue`,
`Derives.skipValue_eq`). The walk keeps the brackets that are open around its place; what they still ask
of the text is `Closes`. As the walk stops at one place only, a text tells where each value in it ends,
and with that holds one value at most (`Holds.unique`). -/

namespace PageRisk.Json

/-! ## Digits -/

/-- Digits that begin a text are `IsDigits`, up to the first character that is none. -/
theorem exists_isDigits_of_headD {cs : List Char} (h : (cs.headD ' ').isDigit = true) :
    ∃ ds, IsDigits ds ∧ cs = ds ++ cs.dropWhile Char.isDigit := by
  refine ⟨cs.takeWhile Char.isDigit, ⟨?_, fun c hc => List.mem_takeWhile_imp hc⟩,
    List.takeWhile_append_dropWhile.symm⟩
  cases cs with
  | nil => exact absurd h (by decide)
  | cons c cs => simp [show c.isDigit = true from h]

section Digits

variable {ds : List Char} (hds : IsDigits ds)

include hds in
theorem IsDigits.headD (rest : List Char) : ((ds ++ rest).headD ' ').isDigit = true := by
  obtain ⟨c, cs, rfl⟩ := List.exists_cons_of_ne_nil hds.1
  exact hds.2 c List.mem_cons_self

include hds in
theorem IsDigits.dropWhile {rest : List Char} (hrest : (rest.headD ' ').isDigit = false) :
    (ds ++ rest).dropWhile Char.isDigit = rest := by
  rw [List.dropWhile_append_of_pos hds.2]
  cases rest with
  | nil => rfl
  | cons c rest => exact List.dropWhile_cons_of_neg (by simpa using hrest)

end Digits

theorem NumberEnds.headD {rest : List Char} (h : NumberEnds rest) : (rest.headD ' ').isDigit = false := by
  cases rest with
  | nil => rfl
  | cons c rest => exact (h c rfl).1

/-! ## Numbers -/

theorem exists_of_skipExponent {cs rest : List Char} (h : skipExponent cs = .ok ((), rest)) :
    ∃ sign ds, cs = sign ++ (ds ++ rest) ∧ (sign = [] ∨ sign = ['+'] ∨ sign = ['-']) ∧ IsDigits ds := by
  have hdigits {t : List Char} {fault : Fault}
      (h : (if (t.headD ' ').isDigit then .ok ((), t.dropWhile Char.isDigit) else .error fault)
        = Except.ok ((), rest)) : ∃ ds, IsDigits ds ∧ t = ds ++ rest := by
    split at h
    · next hhead =>
      obtain ⟨ds, hds, htext⟩ := exists_isDigits_of_headD hhead
      obtain rfl : t.dropWhile Char.isDigit = rest := congrArg Prod.snd (Except.ok.inj h)
      exact ⟨ds, hds, htext⟩
    · exact absurd h (by simp)
  unfold skipExponent at h
  split at h
  · obtain ⟨ds, hds, rfl⟩ := hdigits h
    exact ⟨['+'], ds, rfl, .inr (.inl rfl), hds⟩
  · obtain ⟨ds, hds, rfl⟩ := hdigits h
    exact ⟨['-'], ds, rfl, .inr (.inr rfl), hds⟩
  · obtain ⟨ds, hds, htext⟩ := hdigits h
    exact ⟨[], ds, htext, .inl rfl, hds⟩

theorem exists_of_skipExponent? {cs rest : List Char} (h : skipExponent? cs = .ok ((), rest)) :
    ∃ exponent, IsExponent exponent ∧ cs = exponent ++ rest := by
  unfold skipExponent? at h
  split at h
  · obtain ⟨sign, ds, rfl, hsign, hds⟩ := exists_of_skipExponent h
    exact ⟨'e' :: (sign ++ ds), .inr ⟨_, _, _, rfl, .inl rfl, hsign, hds⟩, by simp⟩
  · obtain ⟨sign, ds, rfl, hsign, hds⟩ := exists_of_skipExponent h
    exact ⟨'E' :: (sign ++ ds), .inr ⟨_, _, _, rfl, .inr rfl, hsign, hds⟩, by simp⟩
  · obtain rfl := congrArg Prod.snd (Except.ok.inj h)
    exact ⟨[], .inl rfl, rfl⟩

/-- Digits are `IsIntegral` where a zero is the last of them. -/
theorem isIntegral_takeWhile {cs : List Char} (hdigit : (cs.headD ' ').isDigit = true)
    (hzero : (cs.headD ' ' == '0' && (cs.tail.headD ' ').isDigit) = false) :
    IsIntegral (cs.takeWhile Char.isDigit) := by
  cases cs with
  | nil => exact absurd hdigit (by decide)
  | cons c cs =>
    have hc : c.isDigit = true := hdigit
    refine ⟨⟨by simp [hc], fun d hd => List.mem_takeWhile_imp hd⟩, fun hhead => ?_⟩
    obtain rfl : c = '0' := by simpa [hc] using hhead
    cases cs with
    | nil => rfl
    | cons d cs => simpa using hzero

theorem exists_of_skipUnsigned {cs rest : List Char} (h : skipUnsigned cs = .ok ((), rest)) :
    ∃ digits, IsUnsigned digits ∧ cs = digits ++ rest := by
  simp only [skipUnsigned] at h
  split_ifs at h with hdigit hzero
  have hintegral : IsIntegral (cs.takeWhile Char.isDigit) :=
    isIntegral_takeWhile (by simpa using hdigit) (by simpa using hzero)
  have htext : cs = cs.takeWhile Char.isDigit ++ cs.dropWhile Char.isDigit :=
    List.takeWhile_append_dropWhile.symm
  split at h
  · next after hpoint =>
    split_ifs at h with hfraction
    obtain ⟨ds, hds, hafter⟩ := exists_isDigits_of_headD hfraction
    obtain ⟨exponent, hexponent, hrest⟩ := exists_of_skipExponent? h
    refine ⟨_, ⟨_, '.' :: ds, exponent, rfl, hintegral, .inr ⟨ds, rfl, hds⟩, hexponent⟩, ?_⟩
    rw [hpoint, hafter, hrest] at htext
    simpa using htext
  · obtain ⟨exponent, hexponent, hrest⟩ := exists_of_skipExponent? h
    refine ⟨_, ⟨_, [], exponent, rfl, hintegral, .inl rfl, hexponent⟩, ?_⟩
    rw [hrest] at htext
    simpa using htext

theorem IsDigits.skipExponent_eq {sign ds rest : List Char} (hds : IsDigits ds)
    (hsign : sign = [] ∨ sign = ['+'] ∨ sign = ['-']) (hrest : NumberEnds rest) :
    skipExponent (sign ++ (ds ++ rest)) = .ok ((), rest) := by
  have hhead := hds.headD rest
  have hdrop := hds.dropWhile hrest.headD
  unfold skipExponent
  obtain rfl | rfl | rfl := hsign
  · rw [List.nil_append]
    split
    · next heq =>
      rw [heq] at hhead
      exact absurd hhead (by simp)
    · next heq =>
      rw [heq] at hhead
      exact absurd hhead (by simp)
    · simp only [hhead, hdrop, if_true]
  · simp only [List.cons_append, List.nil_append, hhead, hdrop, if_true]
  · simp only [List.cons_append, List.nil_append, hhead, hdrop, if_true]

theorem IsExponent.skipExponent?_eq {exponent rest : List Char} (h : IsExponent exponent)
    (hrest : NumberEnds rest) : skipExponent? (exponent ++ rest) = .ok ((), rest) := by
  obtain rfl | ⟨e, sign, ds, rfl, rfl | rfl, hsign, hds⟩ := h
  · unfold skipExponent?
    split
    · next heq => exact absurd rfl (hrest 'e' (by rw [List.nil_append] at heq; simp [heq])).2.2.1
    · next heq => exact absurd rfl (hrest 'E' (by rw [List.nil_append] at heq; simp [heq])).2.2.2
    · rfl
  · simp only [skipExponent?, List.cons_append, List.append_assoc, hds.skipExponent_eq hsign hrest]
  · simp only [skipExponent?, List.cons_append, List.append_assoc, hds.skipExponent_eq hsign hrest]

/-- What follows an `IsExponent` or the lack of one is neither a digit nor a point. -/
theorem IsExponent.headD_append {exponent rest : List Char} (h : IsExponent exponent)
    (hrest : NumberEnds rest) :
    ((exponent ++ rest).headD ' ').isDigit = false ∧ ∀ t, exponent ++ rest ≠ '.' :: t := by
  obtain rfl | ⟨e, sign, ds, rfl, rfl | rfl, -, -⟩ := h
  · exact ⟨hrest.headD, fun t heq => (hrest '.' (by rw [List.nil_append] at heq; simp [heq])).2.1 rfl⟩
  · exact ⟨rfl, by simp⟩
  · exact ⟨rfl, by simp⟩

theorem IsUnsigned.skipUnsigned_eq {digits rest : List Char} (h : IsUnsigned digits)
    (hrest : NumberEnds rest) : skipUnsigned (digits ++ rest) = .ok ((), rest) := by
  obtain ⟨integral, fraction, exponent, rfl, ⟨hdigits, hzero⟩, hfraction, hexponent⟩ := h
  obtain ⟨hhead, hpoint⟩ := hexponent.headD_append hrest
  -- What follows the integral part is no digit.
  have hafter : ((fraction ++ (exponent ++ rest)).headD ' ').isDigit = false := by
    obtain rfl | ⟨ds, rfl, -⟩ := hfraction
    · exact hhead
    · rfl
  have hdrop := hdigits.dropWhile hafter
  have hfirst := hdigits.headD (fraction ++ (exponent ++ rest))
  have hsecond : ((integral ++ (fraction ++ (exponent ++ rest))).headD ' ' == '0'
      && ((integral ++ (fraction ++ (exponent ++ rest))).tail.headD ' ').isDigit) = false := by
    obtain ⟨c, ds, rfl⟩ := List.exists_cons_of_ne_nil hdigits.1
    by_cases hc : c = '0'
    · obtain rfl : ds = [] := by simpa [hc] using hzero
      simpa using fun _ => hafter
    · simp [hc]
  rw [List.append_assoc, List.append_assoc]
  unfold skipUnsigned
  simp only [hfirst, hsecond, hdrop, Bool.not_true, Bool.false_eq_true, if_false]
  obtain rfl | ⟨ds, rfl, hds⟩ := hfraction
  · split
    · next heq => exact absurd heq (hpoint _)
    · exact hexponent.skipExponent?_eq hrest
  · simp only [List.cons_append, hds.headD, if_true, hds.dropWhile hhead,
      hexponent.skipExponent?_eq hrest]

/-! ## Strings -/

theorem skipString_eq_ok_iff {cs rest : List Char} :
    skipString cs = .ok ((), rest) ↔ ∃ us, StringRest cs us rest := by
  constructor
  · intro h
    fun_induction skipString cs with
    | case2 rest' =>
      obtain rfl := congrArg Prod.snd (Except.ok.inj h)
      exact ⟨[], .close _⟩
    | case5 a b c d cs n hhex ih =>
      obtain ⟨us, hus⟩ := ih h
      exact ⟨n :: us, .unicode hhex hus⟩
    | case7 e cs _ _ c hescape ih =>
      obtain ⟨us, hus⟩ := ih h
      exact ⟨_, .simple hescape hus⟩
    | case10 c cs hquote hlast _ _ hslash hcontrol ih =>
      obtain ⟨us, hus⟩ := ih h
      refine ⟨_, .plain hquote (fun hc => ?_) hcontrol hus⟩
      cases cs with
      | nil => exact hlast hc rfl
      | cons e cs => exact hslash e cs hc rfl
    | _ => simp at h
  · rintro ⟨us, h⟩
    induction h with
    | close rest => rfl
    | plain hquote hslash hcontrol _ ih =>
      rw [skipString, if_neg hcontrol, ih]
      · exact hquote
      all_goals
        intros
        exact hslash (by assumption)
    | @simple e c cs rest us hescape _ ih =>
      have hne : e ≠ 'u' := by
        rintro rfl
        simp [simpleEscape?] at hescape
      rw [skipString]
      · simp only [hescape, ih]
      all_goals
        intros
        exact hne (by assumption)
    | unicode hhex _ ih =>
      rw [skipString, hhex]
      exact ih

/-! ## What is passed over is a value -/

/-- The parts between the brackets of this kind, up to and with the closing one, as the grammar derives
    them. -/
def Bracket.Parts (bracket : Bracket) (first : Bool) (cs rest : List Char) : Prop :=
  match bracket with
  | .list => ∃ vs, Derives (.items first vs) cs rest
  | .object => ∃ ms, Derives (.members first ms) cs rest

/-- What the open brackets, the innermost first, still ask of the text. -/
def Closes : List Bracket → List Char → List Char → Prop
  | [], cs, rest => rest = cs
  | bracket :: outer, cs, rest => ∃ t, bracket.Parts false cs t ∧ Closes outer t rest

/-- What a walk (`skipFrom`) at the stage still passes over. -/
def Passed : SkipStage → List Bracket → List Char → List Char → Prop
  | .value, brackets, cs, rest => ∃ v t, Derives (.value v) cs t ∧ Closes brackets t rest
  | .opened, bracket :: outer, cs, rest => ∃ t, bracket.Parts true cs t ∧ Closes outer t rest
  | .opened, [], cs, rest => rest = cs
  | .ended, brackets, cs, rest => Closes brackets cs rest

/-- A name and its colon, inside the brackets of an object; nothing inside those of a list. -/
def Bracket.Name (bracket : Bracket) (cs rest : List Char) : Prop :=
  match bracket with
  | .list => rest = cs
  | .object => ∃ t name u, skipSpace cs = '"' :: t ∧ StringRest t name u ∧ skipSpace u = ':' :: rest

theorem skipName_eq_ok_iff {bracket : Bracket} {cs rest : List Char} :
    skipName bracket cs = .ok ((), rest) ↔ bracket.Name cs rest := by
  cases bracket with
  | list => simp [skipName, Bracket.Name, eq_comm]
  | object =>
    constructor
    · intro h
      simp only [skipName] at h
      split at h
      · exact absurd h (by simp)
      · next t hopen =>
        obtain ⟨⟨⟨⟩, u⟩, hstring, hcolon⟩ := bind_eq_ok_iff.1 h
        obtain ⟨name, hname⟩ := skipString_eq_ok_iff.1 hstring
        split at hcolon
        · exact absurd hcolon (by simp)
        · next hmark =>
          obtain rfl := congrArg Prod.snd (Except.ok.inj hcolon)
          exact ⟨t, name, u, hopen, hname, hmark⟩
        · exact absurd hcolon (by simp)
      · exact absurd h (by simp)
    · rintro ⟨t, name, u, hopen, hname, hcolon⟩
      simp only [skipName, hopen, skipString_eq_ok_iff.2 ⟨name, hname⟩, Except.bind, hcolon]

theorem Bracket.Parts.end {bracket : Bracket} {first : Bool} {cs rest : List Char}
    (h : skipSpace cs = bracket.closing :: rest) : bracket.Parts first cs rest := by
  cases bracket with
  | list => exact ⟨[], .endItems h⟩
  | object => exact ⟨[], .endMembers h⟩

theorem Bracket.Parts.more {bracket : Bracket} {first : Bool} {cs t u w rest : List Char} {v : Tree}
    (hcomma : Separated first cs t) (hname : bracket.Name t u) (hvalue : Derives (.value v) u w)
    (hmore : bracket.Parts false w rest) : bracket.Parts first cs rest := by
  cases bracket with
  | list =>
    obtain rfl : u = t := hname
    obtain ⟨vs, hvs⟩ := hmore
    exact ⟨v :: vs, .item hcomma hvalue hvs⟩
  | object =>
    obtain ⟨a, name, b, hopen, hstring, hcolon⟩ := hname
    obtain ⟨ms, hms⟩ := hmore
    exact ⟨(name, v) :: ms, .member hcomma hopen hstring hcolon hvalue hms⟩

/-- The white space before the first of the `Parts` does not matter. -/
theorem Bracket.Parts.of_skipSpace {bracket : Bracket} {cs rest : List Char}
    (h : bracket.Parts true (skipSpace cs) rest) : bracket.Parts true cs rest := by
  cases bracket with
  | list =>
    obtain ⟨vs, h⟩ := h
    cases h with
    | endItems hclose => exact .end (by rwa [skipSpace_idem] at hclose)
    | item hcomma hvalue hmore =>
      obtain rfl := hcomma
      exact ⟨_, .item rfl (derives_skipSpace_iff.1 hvalue) hmore⟩
  | object =>
    obtain ⟨ms, h⟩ := h
    cases h with
    | endMembers hclose => exact .end (by rwa [skipSpace_idem] at hclose)
    | member hcomma hopen hname hcolon hvalue hmore =>
      obtain rfl := hcomma
      exact ⟨_, .member rfl (by rwa [skipSpace_idem] at hopen) hname hcolon hvalue hmore⟩

theorem passed_of_skipFrom {fuel : Nat} {stage : SkipStage} {brackets : List Bracket}
    {cs rest : List Char} (h : skipFrom fuel stage brackets cs = .ok ((), rest)) :
    Passed stage brackets cs rest := by
  induction fuel generalizing stage brackets cs with
  | zero => exact absurd h (by simp [skipFrom])
  | succ fuel ih =>
    cases stage with
    | value =>
      -- After a scalar the walk goes on from where a value has ended.
      have hended {r : Except Fault (Unit × List Char)}
          (h : (r.bind fun passed => skipFrom fuel .ended brackets passed.2) = .ok ((), rest)) :
          ∃ t, r = .ok ((), t) ∧ Closes brackets t rest := by
        obtain ⟨⟨⟨⟩, t⟩, hr, hrest⟩ := bind_eq_ok_iff.1 h
        exact ⟨t, hr, ih hrest⟩
      unfold skipFrom at h
      split at h
      · exact absurd h (by simp)
      · next hspace =>
        obtain ⟨t, hword, hcloses⟩ := hended h
        rw [word_eq_ok_iff.1 hword] at hspace
        exact ⟨.null, t, .nullWord (by simpa using hspace), hcloses⟩
      · next hspace =>
        obtain ⟨t, hword, hcloses⟩ := hended h
        rw [word_eq_ok_iff.1 hword] at hspace
        exact ⟨.bool true, t, .trueWord (by simpa using hspace), hcloses⟩
      · next hspace =>
        obtain ⟨t, hword, hcloses⟩ := hended h
        rw [word_eq_ok_iff.1 hword] at hspace
        exact ⟨.bool false, t, .falseWord (by simpa using hspace), hcloses⟩
      · next hspace =>
        obtain ⟨t, hstring, hcloses⟩ := hended h
        obtain ⟨us, hus⟩ := skipString_eq_ok_iff.1 hstring
        exact ⟨.string us, t, .string hspace hus, hcloses⟩
      · next hspace =>
        obtain ⟨t, hnumber, hcloses⟩ := hended h
        obtain ⟨digits, hdigits, htext⟩ := exists_of_skipUnsigned hnumber
        rw [htext] at hspace
        exact ⟨.number ('-' :: digits), t, .number (.inr ⟨digits, rfl, hdigits⟩) hspace, hcloses⟩
      · next hspace =>
        obtain ⟨t, ⟨vs, hvs⟩, hcloses⟩ := ih h
        exact ⟨.list vs, t, .list hspace hvs, hcloses⟩
      · next hspace =>
        obtain ⟨t, ⟨ms, hms⟩, hcloses⟩ := ih h
        exact ⟨.object ms, t, .object hspace hms, hcloses⟩
      · next hspace =>
        split_ifs at h
        obtain ⟨t, hnumber, hcloses⟩ := hended h
        obtain ⟨digits, hdigits, htext⟩ := exists_of_skipUnsigned hnumber
        rw [htext] at hspace
        exact ⟨.number digits, t, .number (.inl hdigits) hspace, hcloses⟩
    | opened =>
      cases brackets with
      | nil =>
        obtain rfl := congrArg Prod.snd (Except.ok.inj h)
        rfl
      | cons bracket outer =>
        rw [skipFrom] at h
        split at h
        · exact absurd h (by simp)
        · next c t hspace =>
          split_ifs at h with hclose
          · obtain rfl : c = bracket.closing := by simpa using hclose
            exact ⟨t, .end hspace, ih h⟩
          · obtain ⟨⟨⟨⟩, u⟩, hname, hrest⟩ := bind_eq_ok_iff.1 h
            obtain ⟨v, w, hvalue, x, hmore, hcloses⟩ := ih hrest
            refine ⟨x, .of_skipSpace ?_, hcloses⟩
            rw [hspace]
            exact .more rfl (skipName_eq_ok_iff.1 hname) hvalue hmore
    | ended =>
      cases brackets with
      | nil =>
        obtain rfl := congrArg Prod.snd (Except.ok.inj h)
        rfl
      | cons bracket outer =>
        rw [skipFrom] at h
        split at h
        · exact absurd h (by simp)
        · next c t hspace =>
          split_ifs at h with hcomma hclose
          · obtain rfl : c = ',' := by simpa using hcomma
            obtain ⟨⟨⟨⟩, u⟩, hname, hrest⟩ := bind_eq_ok_iff.1 h
            obtain ⟨v, w, hvalue, x, hmore, hcloses⟩ := ih hrest
            exact ⟨x, .more hspace (skipName_eq_ok_iff.1 hname) hvalue hmore, hcloses⟩
          · obtain rfl : c = bracket.closing := by simpa using hclose
            exact ⟨t, .end hspace, ih h⟩

theorem exists_derives_of_skipValue {cs rest : List Char} (h : skipValue cs = .ok ((), rest)) :
    ∃ v, Derives (.value v) cs rest := by
  obtain ⟨v, t, hvalue, rfl⟩ := passed_of_skipFrom h
  exact ⟨v, hvalue⟩

/-! ## Every value is passed over -/

theorem skipFrom_skipSpace (fuel : Nat) (brackets : List Bracket) (cs : List Char) :
    skipFrom (fuel + 1) .value brackets (skipSpace cs) = skipFrom (fuel + 1) .value brackets cs := by
  simp only [skipFrom, skipSpace_idem]

/-- `skipFrom` at a digit passes over a number. -/
theorem skipFrom_digit {c : Char} {cs t : List Char} (hspace : skipSpace cs = c :: t)
    (hdigit : c.isDigit = true) (fuel : Nat) (brackets : List Bracket) :
    skipFrom (fuel + 1) .value brackets cs
      = (skipUnsigned (c :: t)).bind fun (_, rest) => skipFrom fuel .ended brackets rest := by
  have hne {d : Char} (hd : d.isDigit = false) : c ≠ d := fun heq => by simp [heq, hd] at hdigit
  rw [skipFrom, hspace]
  split
  · next heq => exact absurd heq (by simp)
  case h_9 heq =>
    obtain ⟨rfl, rfl⟩ := List.cons.inj heq
    rw [if_pos hdigit]
  -- The other characters that begin a value are no digits.
  all_goals
    next heq => exact absurd (List.cons.inj heq).1 (hne (by decide))

/-- Whether `skipFrom` passes over a value, in fewer than two steps for each character. -/
def ValueWalked (cs rest : List Char) : Prop :=
  ∀ brackets, ∃ more, more + 2 + 2 * rest.length ≤ 2 * cs.length
    ∧ ∀ fuel, skipFrom (fuel + more + 1) .value brackets cs = skipFrom fuel .ended brackets rest

/-- Whether `skipFrom` inside the bracket passes over the parts and leaves it, in at most two steps for each
    character. -/
def Bracket.Walked (bracket : Bracket) (first : Bool) (cs rest : List Char) : Prop :=
  ∀ outer, ∃ more, more + 1 + 2 * rest.length ≤ 2 * cs.length
    ∧ ∀ fuel, skipFrom (fuel + more + 1) (if first then .opened else .ended) (bracket :: outer) cs
      = skipFrom fuel .ended outer rest

/-- A scalar takes one step of `skipFrom`. -/
theorem ValueWalked.scalar {cs rest : List Char} (hlength : rest.length < cs.length)
    (h : ∀ fuel brackets, skipFrom (fuel + 1) .value brackets cs = skipFrom fuel .ended brackets rest) :
    ValueWalked cs rest := fun brackets => ⟨0, by omega, fun fuel => h fuel brackets⟩

theorem ValueWalked.bracket {bracket : Bracket} {cs t rest : List Char}
    (hlength : t.length < cs.length)
    (hopen : ∀ fuel outer, skipFrom (fuel + 1) .value outer cs = skipFrom fuel .opened (bracket :: outer) t)
    (hparts : bracket.Walked true t rest) : ValueWalked cs rest := fun outer => by
  obtain ⟨more, hsteps, hwalk⟩ := hparts outer
  refine ⟨more + 1, by omega, fun fuel => ?_⟩
  rw [← Nat.add_assoc, hopen]
  exact hwalk fuel

theorem Bracket.Walked.end {bracket : Bracket} {first : Bool} {cs rest : List Char}
    (h : skipSpace cs = bracket.closing :: rest) : bracket.Walked first cs rest := fun outer => by
  refine ⟨0, by have := length_lt_of_skipSpace h; omega, fun fuel => ?_⟩
  cases first with
  | true => simp [skipFrom, h]
  | false =>
    have hcomma : bracket.closing ≠ ',' := by cases bracket <;> decide
    simp [skipFrom, h, hcomma]

theorem Bracket.Name.length_le {bracket : Bracket} {cs rest : List Char} (h : bracket.Name cs rest) :
    rest.length ≤ cs.length := by
  cases bracket with
  | list => exact Nat.le_of_eq (congrArg List.length h)
  | object =>
    obtain ⟨t, name, u, hopen, hname, hcolon⟩ := h
    have := length_lt_of_skipSpace hopen
    have := hname.length_lt
    have := length_lt_of_skipSpace hcolon
    omega

theorem Bracket.Walked.more {bracket : Bracket} {first : Bool} {cs t u w rest : List Char} {c : Char}
    {more : List Char} (hcomma : Separated first cs t) (hstart : skipSpace t = c :: more)
    (hne : c ≠ bracket.closing) (hname : bracket.Name t u) (hvalue : ValueWalked u w)
    (hmore : bracket.Walked false w rest) : bracket.Walked first cs rest := fun outer => by
  obtain ⟨inner, hinner, hvalueWalk⟩ := hvalue (bracket :: outer)
  obtain ⟨after, hafter, hmoreWalk⟩ := hmore outer
  have hlength := Nat.le_trans hname.length_le hcomma.length_le
  refine ⟨inner + after + 2, by omega, fun fuel => ?_⟩
  have hfuel : fuel + (inner + after + 2) = (fuel + after + 1) + inner + 1 := by omega
  have hwalk := (hvalueWalk (fuel + after + 1)).trans (hmoreWalk fuel)
  rw [hfuel]
  cases first with
  | true =>
    obtain rfl := hcomma
    simp only [if_true]
    rw [skipFrom, hstart]
    simp only [beq_iff_eq, hne, if_false]
    rw [← hstart]
    cases bracket with
    | list =>
      obtain rfl := hname
      simp only [skipName, Except.bind, skipFrom_skipSpace]
      exact hwalk
    | object =>
      obtain ⟨a, name, b, hopen, hstring, hcolon⟩ := hname
      have hskip : skipName .object (skipSpace t) = .ok ((), u) :=
        skipName_eq_ok_iff.2 ⟨a, name, b, by rwa [skipSpace_idem], hstring, hcolon⟩
      rw [hskip]
      exact hwalk
  | false =>
    simp only [Bool.false_eq_true, if_false]
    rw [skipFrom, show skipSpace cs = ',' :: t from hcomma]
    simp only [beq_self_eq_true, if_true, skipName_eq_ok_iff.2 hname]
    exact hwalk

/-- The phrases as `skipFrom` sees them. A value has to end where a number would. -/
def Phrase.Walked : Phrase → List Char → List Char → Prop
  | .value _, cs, rest => NumberEnds rest → ValueWalked cs rest
  | .items first _, cs, rest => Bracket.list.Walked first cs rest
  | .members first _, cs, rest => Bracket.object.Walked first cs rest

theorem Derives.walked {p : Phrase} {cs rest : List Char} (h : Derives p cs rest) :
    p.Walked cs rest := by
  induction h with
  | nullWord hword =>
    intro _
    refine .scalar (Derives.nullWord hword).length_lt fun fuel brackets => ?_
    rw [skipFrom, hword]
    rfl
  | trueWord hword =>
    intro _
    refine .scalar (Derives.trueWord hword).length_lt fun fuel brackets => ?_
    rw [skipFrom, hword]
    rfl
  | falseWord hword =>
    intro _
    refine .scalar (Derives.falseWord hword).length_lt fun fuel brackets => ?_
    rw [skipFrom, hword]
    rfl
  | number hnumber htext =>
    intro hends
    refine .scalar (Derives.number hnumber htext).length_lt fun fuel brackets => ?_
    obtain hdigits | ⟨ds, rfl, hdigits⟩ := hnumber
    · obtain ⟨c, ds, rfl, hdigit⟩ := hdigits.head
      have hskip := hdigits.skipUnsigned_eq hends
      rw [List.cons_append] at htext hskip
      rw [skipFrom_digit htext hdigit, hskip]
      rfl
    · rw [skipFrom, htext]
      simp only [List.cons_append, hdigits.skipUnsigned_eq hends]
      rfl
  | string hopen hstring =>
    intro _
    refine .scalar (Derives.string hopen hstring).length_lt fun fuel brackets => ?_
    rw [skipFrom, hopen]
    simp only [skipString_eq_ok_iff.2 ⟨_, hstring⟩]
    rfl
  | list hopen _ ih =>
    intro _
    refine .bracket (length_lt_of_skipSpace hopen) (fun fuel outer => ?_) ih
    simp only [skipFrom, hopen]
  | object hopen _ ih =>
    intro _
    refine .bracket (length_lt_of_skipSpace hopen) (fun fuel outer => ?_) ih
    simp only [skipFrom, hopen]
  | endItems hclose => exact .end hclose
  | item hcomma hvalue hmore ihvalue ihmore =>
    obtain ⟨c, t, hstart, hopens⟩ := hvalue.opens
    refine .more hcomma hstart ?_ rfl (ihvalue hmore.numberEnds_items) ihmore
    rintro rfl
    exact Tree.not_opens_closing _ hopens
  | endMembers hclose => exact .end hclose
  | member hcomma hopen hname hcolon hvalue hmore ihvalue ihmore =>
    exact .more hcomma hopen (by decide) ⟨_, _, _, hopen, hname, hcolon⟩
      (ihvalue hmore.numberEnds_members) ihmore

/-- `skipValue` passes over what `Derives` derives as a value, wherever a number would end. -/
theorem Derives.skipValue_eq {v : Tree} {cs rest : List Char} (h : Derives (.value v) cs rest)
    (hends : NumberEnds rest) : skipValue cs = .ok ((), rest) := by
  obtain ⟨more, hsteps, hwalk⟩ := h.walked hends []
  obtain ⟨spare, hspare⟩ : ∃ spare, 2 * cs.length + 2 = spare + 1 + more + 1 :=
    ⟨2 * cs.length - more, by omega⟩
  rw [skipValue, hspare, hwalk]
  rfl

/-! ## One value only -/

/-- What is left after a value, where a number would end, is told by the text: `skipValue` finds it. -/
theorem Derives.rest_unique {v w : Tree} {cs rest rest' : List Char}
    (h : Derives (.value v) cs rest) (hends : NumberEnds rest) (h' : Derives (.value w) cs rest')
    (hends' : NumberEnds rest') : rest' = rest :=
  congrArg Prod.snd (Except.ok.inj ((h'.skipValue_eq hends').symm.trans (h.skipValue_eq hends)))

/-- That a phrase, and what is left after it, are told by the text. A value has to end where a number
    would. -/
def Phrase.Unique : Phrase → List Char → List Char → Prop
  | .value v, cs, rest => NumberEnds rest → ∀ w rest', Derives (.value w) cs rest' → NumberEnds rest' →
      w = v
  | .items first vs, cs, rest => ∀ ws rest', Derives (.items first ws) cs rest' → ws = vs ∧ rest' = rest
  | .members first ms, cs, rest => ∀ ns rest', Derives (.members first ns) cs rest' →
      ns = ms ∧ rest' = rest

theorem Derives.sameKind {v w : Tree} {cs rest rest' : List Char} (h : Derives (.value v) cs rest)
    (h' : Derives (.value w) cs rest') : v.SameKind w := by
  obtain ⟨c, t, hspace, hopens⟩ := h.opens
  obtain ⟨c', t', hspace', hopens'⟩ := h'.opens
  obtain ⟨rfl, -⟩ := List.cons.inj (hspace.symm.trans hspace')
  exact hopens.sameKind hopens'

theorem Separated.unique {first : Bool} {cs t t' : List Char} (h : Separated first cs t)
    (h' : Separated first cs t') : t' = t := by
  cases first with
  | true => exact h'.trans h.symm
  | false => exact (List.cons.inj (h'.symm.trans h)).2

/-- Where a part may come (`Separated`), the closing bracket does not. -/
theorem Separated.not_closing {first : Bool} {cs t rest : List Char} {c : Char}
    (h : Separated first cs t) (hc : c ≠ ',') (hstart : skipSpace t ≠ c :: rest) :
    skipSpace cs ≠ c :: rest := by
  cases first with
  | true =>
    obtain rfl := h
    exact hstart
  | false => exact fun hclose => hc (List.cons.inj (hclose.symm.trans h)).1

theorem Derives.unique {p : Phrase} {cs rest : List Char} (h : Derives p cs rest) :
    p.Unique cs rest := by
  induction h with
  | nullWord hword => exact fun _ w rest' h' _ => (Derives.nullWord hword).sameKind h'
  | trueWord hword => exact fun _ w rest' h' _ => (Derives.trueWord hword).sameKind h'
  | falseWord hword => exact fun _ w rest' h' _ => (Derives.falseWord hword).sameKind h'
  | number hnumber htext =>
    intro hends w rest' h' hends'
    obtain rfl := (Derives.number hnumber htext).rest_unique hends h' hends'
    obtain ⟨digits, rfl⟩ := (Derives.number hnumber htext).sameKind h'
    cases h' with
    | number _ htext' => rw [List.append_cancel_right (htext'.symm.trans htext)]
  | string hopen hstring =>
    intro _ w rest' h' _
    obtain ⟨us, rfl⟩ := (Derives.string hopen hstring).sameKind h'
    cases h' with
    | string hopen' hstring' =>
      obtain ⟨-, rfl⟩ := List.cons.inj (hopen.symm.trans hopen')
      rw [(hstring.unique hstring').1]
  | list hopen hitems ih =>
    intro _ w rest' h' _
    obtain ⟨vs, rfl⟩ := (Derives.list hopen hitems).sameKind h'
    cases h' with
    | list hopen' hitems' =>
      obtain ⟨-, rfl⟩ := List.cons.inj (hopen.symm.trans hopen')
      rw [(ih _ _ hitems').1]
  | object hopen hmembers ih =>
    intro _ w rest' h' _
    obtain ⟨ms, rfl⟩ := (Derives.object hopen hmembers).sameKind h'
    cases h' with
    | object hopen' hmembers' =>
      obtain ⟨-, rfl⟩ := List.cons.inj (hopen.symm.trans hopen')
      rw [(ih _ _ hmembers').1]
  | endItems hclose =>
    intro ws rest' h'
    cases h' with
    | endItems hclose' => exact ⟨rfl, (List.cons.inj (hclose'.symm.trans hclose)).2⟩
    | item hcomma hvalue _ => exact absurd hclose (hcomma.not_closing (by decide) hvalue.not_closing)
  | item hcomma hvalue hmore ihvalue ihmore =>
    intro ws rest' h'
    cases h' with
    | endItems hclose => exact absurd hclose (hcomma.not_closing (by decide) hvalue.not_closing)
    | item hcomma' hvalue' hmore' =>
      obtain rfl := hcomma.unique hcomma'
      have hends := hmore.numberEnds_items
      have hends' := hmore'.numberEnds_items
      obtain rfl := ihvalue hends _ _ hvalue' hends'
      obtain rfl := hvalue.rest_unique hends hvalue' hends'
      obtain ⟨rfl, rfl⟩ := ihmore _ _ hmore'
      exact ⟨rfl, rfl⟩
  | endMembers hclose =>
    intro ns rest' h'
    cases h' with
    | endMembers hclose' => exact ⟨rfl, (List.cons.inj (hclose'.symm.trans hclose)).2⟩
    | member hcomma hopen =>
      exact absurd hclose (hcomma.not_closing (by decide) (by simp [hopen]))
  | member hcomma hopen hname hcolon hvalue hmore ihvalue ihmore =>
    intro ns rest' h'
    cases h' with
    | endMembers hclose => exact absurd hclose (hcomma.not_closing (by decide) (by simp [hopen]))
    | member hcomma' hopen' hname' hcolon' hvalue' hmore' =>
      obtain rfl := hcomma.unique hcomma'
      obtain ⟨-, rfl⟩ := List.cons.inj (hopen.symm.trans hopen')
      obtain ⟨rfl, rfl⟩ := hname.unique hname'
      obtain ⟨-, rfl⟩ := List.cons.inj (hcolon.symm.trans hcolon')
      have hends := hmore.numberEnds_members
      have hends' := hmore'.numberEnds_members
      obtain rfl := ihvalue hends _ _ hvalue' hends'
      obtain rfl := hvalue.rest_unique hends hvalue' hends'
      obtain ⟨rfl, rfl⟩ := ihmore _ _ hmore'
      exact ⟨rfl, rfl⟩

/-- A text `Holds` one value at most. -/
theorem Holds.unique {text : String} {v w : Tree} (h : Holds text v) (h' : Holds text w) : w = v := by
  obtain ⟨rest, hvalue, hend⟩ := h
  obtain ⟨rest', hvalue', hend'⟩ := h'
  exact hvalue.unique (numberEnds_of_end hend) w rest' hvalue' (numberEnds_of_end hend')

end PageRisk.Json
