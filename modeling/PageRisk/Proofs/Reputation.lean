import PageRisk.Proofs.Json.Recognition
import PageRisk.Reputation.Outcome

set_option autoImplicit false

/-! # What an answer of the reputation service comes to

An answer counts where its body holds a value of the right form, and for nothing else: a body that holds
no such value makes the service unavailable (`scoreBody_eq_assessed_iff`). The form that the service
promises is that of an object with matches that are objects (`InContract`). The form that counts is wider:
a list may stand for any of these objects (`ListsRecord`), and there is no other difference
(`inContract_iff_of_assessed`). -/

namespace PageRisk.Reputation

open Json

/-! ## Answers that count -/

/-- A match with the type of its threat: an object with `threatType` among its members, or a list of that
    type alone. -/
inductive IsMatch : Tree → String → Prop
  | object {ms : List (List Nat × Tree)} {units : List Nat} {threat : String}
      (hnames : ∀ m ∈ ms, (textOf? m.1).isSome)
      (hcolumn : Tree.column "threatType" ms = [.string units])
      (htext : textOf? units = some threat.toList) : IsMatch (.object ms) threat
  | list {units : List Nat} {threat : String} (htext : textOf? units = some threat.toList) :
      IsMatch (.list [.string units]) threat

/-- The column of the matches, with the types of their threats: left out, null or a list. -/
inductive AreMatches : List Tree → List String → Prop
  | absent : AreMatches [] []
  | null : AreMatches [.null] []
  | list {vs : List Tree} {threats : List String} (hmatches : List.Forall₂ IsMatch vs threats) :
      AreMatches [.list vs] threats

/-- An answer, with the types of the threats that it names: an object with `matches` among its members, or a
    list of the matches alone. -/
inductive IsAnswer : Tree → List String → Prop
  | object {ms : List (List Nat × Tree)} {threats : List String}
      (hnames : ∀ m ∈ ms, (textOf? m.1).isSome)
      (hmatches : AreMatches (Tree.column "matches" ms) threats) : IsAnswer (.object ms) threats
  | list {vs : List Tree} {threats : List String} (hmatches : AreMatches vs threats) :
      IsAnswer (.list vs) threats

theorem threatDecoder_reads : threatDecoder.Reads IsMatch := by
  refine (Decoder.string_reads.record rfl rfl rfl).of_iff fun v threat => ?_
  constructor
  · rintro ⟨_ | threat, hfinish, hmade⟩
    · exact absurd hfinish (by simp)
    · obtain rfl := Except.ok.inj hfinish
      cases v with
      | object ms =>
        obtain ⟨hnames, hcolumn⟩ := hmade
        obtain ⟨_, hcolumn, units, rfl, htext⟩ := columnRead_some_iff.1 hcolumn
        exact .object hnames hcolumn htext
      | list vs =>
        obtain ⟨-, hcolumn⟩ := hmade
        obtain ⟨_, rfl, units, rfl, htext⟩ := columnRead_some_iff.1 hcolumn
        exact .list htext
      | _ => exact hmade.elim
  · intro hmatch
    refine ⟨some threat, rfl, ?_⟩
    cases hmatch with
    | object hnames hcolumn htext =>
      exact ⟨hnames, columnRead_some_iff.2 ⟨_, hcolumn, _, rfl, htext⟩⟩
    | list htext => exact ⟨by simp, columnRead_some_iff.2 ⟨_, rfl, _, rfl, htext⟩⟩

/-- `AreMatches` is how the column of `matches` is read. -/
theorem exists_columnRead_iff {column : List Tree} {threats : List String} :
    (∃ s : Option (Option (List String)), (s.getD none).getD [] = threats
      ∧ ColumnRead (fun v o => v = .null ∧ o = none
        ∨ v ≠ .null ∧ ∃ as, (∃ vs, v = .list vs ∧ List.Forall₂ IsMatch vs as) ∧ o = some as) column none s)
      ↔ AreMatches column threats := by
  constructor
  · rintro ⟨_ | read, rfl, hcolumn⟩
    · rw [columnRead_none_iff.1 hcolumn]
      exact .absent
    · obtain ⟨_, rfl, ⟨rfl, rfl⟩ | ⟨-, threats, ⟨vs, rfl, hmatches⟩, rfl⟩⟩ :=
        columnRead_some_iff.1 hcolumn
      · exact .null
      · exact .list hmatches
  · intro hmatches
    cases hmatches with
    | absent => exact ⟨none, rfl, .skip none⟩
    | null => exact ⟨some none, rfl, .take (.inl ⟨rfl, rfl⟩)⟩
    | @list vs _ hmatches =>
      exact ⟨some (some threats), rfl, .take (.inr ⟨by simp, threats, ⟨vs, rfl, hmatches⟩, rfl⟩)⟩

theorem answerDecoder_reads : answerDecoder.Reads IsAnswer := by
  refine (threatDecoder_reads.list.optional.record rfl rfl rfl).of_iff fun v threats => ?_
  constructor
  · rintro ⟨s, hfinish, hmade⟩
    have hthreats := Except.ok.inj hfinish
    cases v with
    | object ms => exact .object hmade.1 (exists_columnRead_iff.1 ⟨s, hthreats, hmade.2⟩)
    | list vs => exact .list (exists_columnRead_iff.1 ⟨s, hthreats, hmade.2⟩)
    | _ => exact hmade.elim
  · intro hanswer
    cases hanswer with
    | object hnames hmatches =>
      obtain ⟨s, rfl, hcolumn⟩ := exists_columnRead_iff.2 hmatches
      exact ⟨s, rfl, hnames, hcolumn⟩
    | list hmatches =>
      obtain ⟨s, rfl, hcolumn⟩ := exists_columnRead_iff.2 hmatches
      exact ⟨s, rfl, fun _ => rfl, hcolumn⟩

/-- `scoreBody` assesses a body exactly where it `Holds` what `IsAnswer` admits. -/
theorem scoreBody_eq_assessed_iff (body : String) (score : Float) (threats : List String) :
    scoreBody body = .assessed score threats
      ↔ score = Float.ofNat (threatScore threats).toNat ∧ ∃ v, Holds body v ∧ IsAnswer v threats := by
  rw [← answerDecoder_reads.decode_eq_ok_iff, scoreBody]
  cases answerDecoder.decode body with
  | error message => simp
  | ok read =>
    simp only [Outcome.assessed.injEq, Except.ok.injEq]
    constructor
    · rintro ⟨rfl, rfl⟩
      exact ⟨rfl, rfl⟩
    · rintro ⟨rfl, rfl⟩
      exact ⟨rfl, rfl⟩

/-- `scoreBody` is `unavailable` for a body without an answer, be it no JSON at all or a value of another
    form. -/
theorem scoreBody_eq_unavailable_iff (body : String) :
    scoreBody body = .unavailable ↔ ∀ v, Holds body v → ∀ threats, ¬ IsAnswer v threats := by
  cases houtcome : scoreBody body with
  | unavailable =>
    refine iff_of_true rfl fun v hholds threats hanswer => ?_
    have hassessed := (scoreBody_eq_assessed_iff body _ threats).2 ⟨rfl, v, hholds, hanswer⟩
    exact absurd (houtcome.symm.trans hassessed) (by simp)
  | assessed score threats =>
    obtain ⟨-, v, hholds, hanswer⟩ := (scoreBody_eq_assessed_iff body score threats).1 houtcome
    exact iff_of_false (by simp) fun hnone => hnone v hholds threats hanswer

/-! ## Answers as they are promised -/

/-- Whether the value is an object with one text as its `threatType`. -/
def NamesThreat (v : Tree) : Prop :=
  ∃ ms units, v = .object ms ∧ Tree.column "threatType" ms = [.string units]

/-- Whether the value is an answer as the service promises it: an object whose `matches` are left out, null
    or a list of objects with `NamesThreat`. -/
def InContract (v : Tree) : Prop :=
  ∃ ms, v = .object ms ∧ (Tree.column "matches" ms = [] ∨ Tree.column "matches" ms = [.null]
    ∨ ∃ vs, Tree.column "matches" ms = [.list vs] ∧ ∀ w ∈ vs, NamesThreat w)

/-- Whether a list stands where `InContract` asks for an object: for the answer, or for one of its
    matches. -/
def ListsRecord (v : Tree) : Prop :=
  (∃ items, v = .list items)
    ∨ ∃ ms vs items, v = .object ms ∧ Tree.column "matches" ms = [.list vs] ∧ .list items ∈ vs

/-- `IsMatch` admits objects with `NamesThreat` and lists, and nothing else. -/
theorem IsMatch.namesThreat_iff {v : Tree} {threat : String} (h : IsMatch v threat) :
    NamesThreat v ↔ ∀ items, v ≠ .list items := by
  cases h with
  | object _ hcolumn _ => exact iff_of_true ⟨_, _, rfl, hcolumn⟩ (by simp)
  | list _ => exact iff_of_false (by simp [NamesThreat]) (by simp)

theorem forall_namesThreat_iff {vs : List Tree} {threats : List String}
    (h : List.Forall₂ IsMatch vs threats) :
    (∀ w ∈ vs, NamesThreat w) ↔ ∀ items, .list items ∉ vs := by
  induction h with
  | nil => simp
  | cons hmatch _ ih =>
    rw [List.forall_mem_cons, ih, hmatch.namesThreat_iff]
    simp only [List.mem_cons, not_or, forall_and, ne_eq, eq_comm]

theorem IsAnswer.inContract_iff {v : Tree} {threats : List String} (h : IsAnswer v threats) :
    InContract v ↔ ¬ ListsRecord v := by
  cases h with
  | list hmatches =>
    exact iff_of_false (by simp [InContract]) (by simp [ListsRecord])
  | @object ms _ hnames hmatches =>
    generalize hcolumn : Tree.column "matches" ms = column at hmatches
    cases hmatches with
    | absent => simp [InContract, ListsRecord, hcolumn]
    | null => simp [InContract, ListsRecord, hcolumn]
    | @list vs _ hmatches =>
      simp [InContract, ListsRecord, hcolumn, forall_namesThreat_iff hmatches]

/-- A body that `scoreBody` assesses `Holds` one value. `IsAnswer` admits it, and it is `InContract` unless
    a list stands for the answer or for one of its matches (`ListsRecord`). -/
theorem inContract_iff_of_assessed {body : String} {score : Float} {threats : List String}
    (h : scoreBody body = .assessed score threats) :
    ∃ v, Holds body v ∧ (∀ w, Holds body w → w = v) ∧ IsAnswer v threats
      ∧ (InContract v ↔ ¬ ListsRecord v) := by
  obtain ⟨-, v, hholds, hanswer⟩ := (scoreBody_eq_assessed_iff body score threats).1 h
  exact ⟨v, hholds, fun w hw => hholds.unique hw, hanswer, hanswer.inContract_iff⟩

/-- One match in an object. -/
theorem malwareAnswer_inContract_iff :
    scoreBody "\x7b\"matches\":[\x7b\"threatType\":\"MALWARE\"\x7d]\x7d"
        = .assessed (Float.ofNat 50) ["MALWARE"]
      ∧ ∃ v, Holds "\x7b\"matches\":[\x7b\"threatType\":\"MALWARE\"\x7d]\x7d" v
        ∧ (∀ w, Holds "\x7b\"matches\":[\x7b\"threatType\":\"MALWARE\"\x7d]\x7d" w → w = v)
        ∧ IsAnswer v ["MALWARE"] ∧ (InContract v ↔ ¬ ListsRecord v) :=
  have h : scoreBody "\x7b\"matches\":[\x7b\"threatType\":\"MALWARE\"\x7d]\x7d"
      = .assessed (Float.ofNat 50) ["MALWARE"] := by rfl
  ⟨h, inContract_iff_of_assessed h⟩

/-- An empty list is assessed, and is not `InContract`. -/
theorem emptyList_assessed :
    (∃ score threats, scoreBody "[]" = .assessed score threats)
      ∧ ¬ ∃ v, Holds "[]" v ∧ InContract v := by
  refine ⟨⟨Float.ofNat 0, [], by rfl⟩, ?_⟩
  rintro ⟨_, ⟨rest, hvalue, -⟩, ms, rfl, -⟩
  cases hvalue with
  | object hopen _ => exact absurd (List.cons.inj hopen).1 (by decide)

end PageRisk.Reputation
