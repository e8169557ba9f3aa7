import PageRisk.Proofs.Exact
import PageRisk.Proofs.Reputation

set_option autoImplicit false

/-! # The score of many threats

The weights of the threats in an answer are added up in 32 bits. The score is their sum as long as this fits
(`threatScore_toNat`), and what is left of it otherwise; every score of 32 bits is kept exactly as a
floating-point number. An answer that lists its matches as objects is assessed with all their threats in
order, if the names of all members are texts (`Lists.isAnswer_iff`), and with their sum just if that is below
`2 ^ 32` besides (`scores_weightSum_iff`). -/

namespace PageRisk.Reputation

open Json

/-! ## Sums of weights -/

/-- The weights of some threats together, in as many bits as that takes. -/
def weightSum (threats : List String) : Nat :=
  threats.foldr (fun threat sum => (threatWeight threat).toNat + sum) 0

theorem threatWeight_bounds (threat : String) :
    10 ≤ (threatWeight threat).toNat ∧ (threatWeight threat).toNat ≤ 50 := by
  unfold threatWeight
  split_ifs <;> decide

theorem weightSum_cons (threat : String) (threats : List String) :
    weightSum (threat :: threats) = (threatWeight threat).toNat + weightSum threats := rfl

theorem weightSum_concat (threats : List String) (threat : String) :
    weightSum (threats ++ [threat]) = weightSum threats + (threatWeight threat).toNat := by
  induction threats with
  | nil => simp [weightSum]
  | cons first rest ih => rw [List.cons_append, weightSum_cons, weightSum_cons, ih, Nat.add_assoc]

theorem weightSum_replicate (n : Nat) (threat : String) :
    weightSum (List.replicate n threat) = n * (threatWeight threat).toNat := by
  induction n with
  | zero => simp [weightSum]
  | succ n ih => rw [List.replicate_succ, weightSum_cons, ih, Nat.succ_mul, Nat.add_comm]

/-- No threat weighs less than ten. -/
theorem ten_mul_length_le (threats : List String) : 10 * threats.length ≤ weightSum threats := by
  induction threats with
  | nil => exact Nat.le_refl 0
  | cons threat rest ih =>
    have hweight := (threatWeight_bounds threat).1
    rw [weightSum_cons, List.length_cons]
    omega

/-- A `foldl` of weights in 32 bits comes to `weightSum` modulo `2 ^ 32`, wherever it started. -/
theorem foldl_threatWeight_toNat (threats : List String) (start : UInt32) :
    (threats.foldl (fun sum threat => sum + threatWeight threat) start).toNat
      = (start.toNat + weightSum threats) % 2 ^ 32 := by
  induction threats generalizing start with
  | nil =>
    show start.toNat = (start.toNat + 0) % 2 ^ 32
    rw [Nat.add_zero, Nat.mod_eq_of_lt start.toNat_lt]
  | cons threat rest ih =>
    rw [List.foldl_cons, ih, UInt32.toNat_add, Nat.mod_add_mod, weightSum_cons, Nat.add_assoc]

theorem threatScore_toNat (threats : List String) :
    (threatScore threats).toNat = weightSum threats % 2 ^ 32 := by
  rw [threatScore, foldl_threatWeight_toNat, UInt32.toNat_zero, Nat.zero_add]

theorem exactValue?_threatScore (threats : List String) :
    Rounding.exactValue? (Float.ofNat (threatScore threats).toNat)
      = some ((weightSum threats % 2 ^ 32 : Nat) : ℚ) := by
  have hbits : (threatScore threats).toNat < 2 ^ 32 := (threatScore threats).toNat_lt
  rw [Rounding.exactValue?_ofNat (Nat.lt_trans hbits (by decide)), threatScore_toNat]

/-! ## Answers that list their matches as objects -/

/-- Whether a value is an object with the type of that threat under `threatType`. -/
def Names (v : Tree) (threat : String) : Prop :=
  ∃ ms units, v = .object ms ∧ Tree.column "threatType" ms = [.string units]
    ∧ textOf? units = some threat.toList

/-- Whether a value is an object with a list of `matches` that are `Names` of those threats in that
    order. -/
def Lists (v : Tree) (threats : List String) : Prop :=
  ∃ ms vs, v = .object ms ∧ Tree.column "matches" ms = [.list vs] ∧ List.Forall₂ Names vs threats

/-- Whether the names of the members are texts where the value is an object: a surrogate that is no part of
    a pair makes no text. -/
def TextNamed (v : Tree) : Prop :=
  ∀ ms, v = .object ms → ∀ m ∈ ms, (textOf? m.1).isSome

/-- Whether the names of the members of an answer and of its matches are texts (`TextNamed`). -/
def AllTextNamed (v : Tree) : Prop :=
  TextNamed v ∧ ∀ ms vs, v = .object ms → Tree.column "matches" ms = [.list vs] → ∀ w ∈ vs, TextNamed w

theorem Names.isMatch_iff {v : Tree} {threat threat' : String} (h : Names v threat) :
    IsMatch v threat' ↔ TextNamed v ∧ threat' = threat := by
  obtain ⟨ms, units, rfl, hcolumn, htext⟩ := h
  constructor
  · intro hmatch
    cases hmatch with
    | object hnames hcolumn' htext' =>
      obtain rfl : _ = units := by simpa [hcolumn'] using hcolumn
      refine ⟨fun ns hns => (Tree.object.inj hns) ▸ hnames, ?_⟩
      exact String.toList_injective (Option.some.inj (htext'.symm.trans htext))
  · rintro ⟨hnames, rfl⟩
    exact .object (hnames ms rfl) hcolumn htext

theorem forall₂_isMatch_iff {vs : List Tree} {threats threats' : List String}
    (h : List.Forall₂ Names vs threats) :
    List.Forall₂ IsMatch vs threats' ↔ (∀ w ∈ vs, TextNamed w) ∧ threats' = threats := by
  induction h generalizing threats' with
  | nil => simp
  | @cons v threat vs threats hnames _ ih =>
    rw [List.forall_mem_cons]
    constructor
    · rintro (_ | ⟨hmatch, hrest⟩)
      obtain ⟨htext, rfl⟩ := hnames.isMatch_iff.1 hmatch
      obtain ⟨htexts, rfl⟩ := ih.1 hrest
      exact ⟨⟨htext, htexts⟩, rfl⟩
    · rintro ⟨⟨htext, htexts⟩, rfl⟩
      exact .cons (hnames.isMatch_iff.2 ⟨htext, rfl⟩) (ih.2 ⟨htexts, rfl⟩)

/-- Of the values that list threats, `IsAnswer` admits those with `AllTextNamed`, with these threats and no
    others. -/
theorem Lists.isAnswer_iff {v : Tree} {threats threats' : List String} (h : Lists v threats) :
    IsAnswer v threats' ↔ AllTextNamed v ∧ threats' = threats := by
  obtain ⟨ms, vs, rfl, hcolumn, hvs⟩ := h
  constructor
  · intro hanswer
    cases hanswer with
    | object hnames hmatches =>
      rw [hcolumn] at hmatches
      cases hmatches with
      | list hmatches =>
        obtain ⟨htexts, rfl⟩ := (forall₂_isMatch_iff hvs).1 hmatches
        refine ⟨⟨fun ns hns => (Tree.object.inj hns) ▸ hnames, fun ns ws hns hws => ?_⟩, rfl⟩
        obtain rfl := Tree.object.inj hns
        obtain rfl : vs = ws := by simpa [hcolumn] using hws
        exact htexts
  · rintro ⟨⟨hnames, hmatches⟩, rfl⟩
    refine .object (hnames ms rfl) ?_
    rw [hcolumn]
    exact .list ((forall₂_isMatch_iff hvs).2 ⟨hmatches ms vs rfl hcolumn, rfl⟩)

section Bodies

variable {body : String} {v : Tree} {threats : List String}

theorem Lists.scoreBody_of_allTextNamed (h : Lists v threats) (hholds : Holds body v)
    (hnames : AllTextNamed v) :
    scoreBody body = .assessed (Float.ofNat (threatScore threats).toNat) threats :=
  (scoreBody_eq_assessed_iff body _ threats).2 ⟨rfl, v, hholds, h.isAnswer_iff.2 ⟨hnames, rfl⟩⟩

theorem Lists.scoreBody_of_not_allTextNamed (h : Lists v threats) (hholds : Holds body v)
    (hnames : ¬ AllTextNamed v) : scoreBody body = .unavailable := by
  refine (scoreBody_eq_unavailable_iff body).2 fun w hw threats' hanswer => ?_
  obtain rfl := hholds.unique hw
  exact hnames (h.isAnswer_iff.1 hanswer).1

/-! ## Scores as numbers -/

/-- Whether an `Outcome` is an assessment with these threats and a score that stands for the number `q`. -/
def Outcome.Scores (outcome : Outcome) (q : ℚ) (threats : List String) : Prop :=
  ∃ score, outcome = .assessed score threats ∧ Rounding.exactValue? score = some q

theorem Outcome.Scores.unique {outcome : Outcome} {q r : ℚ} {threats : List String}
    (hq : outcome.Scores q threats) (hr : outcome.Scores r threats) : r = q := by
  obtain ⟨score, rfl, hexact⟩ := hq
  obtain ⟨_, heq, hexact'⟩ := hr
  obtain ⟨rfl, -⟩ := Outcome.assessed.inj heq
  exact Option.some.inj (hexact'.symm.trans hexact)

theorem Lists.scores (h : Lists v threats) (hholds : Holds body v) (hnames : AllTextNamed v) :
    (scoreBody body).Scores (weightSum threats % 2 ^ 32 : Nat) threats :=
  ⟨_, h.scoreBody_of_allTextNamed hholds hnames, exactValue?_threatScore threats⟩

theorem Lists.allTextNamed_of_scores (h : Lists v threats) (hholds : Holds body v) {q : ℚ}
    (hscores : (scoreBody body).Scores q threats) : AllTextNamed v := by
  by_contra hnames
  obtain ⟨score, hassessed, -⟩ := hscores
  rw [h.scoreBody_of_not_allTextNamed hholds hnames] at hassessed
  exact absurd hassessed (by simp)

/-- The score of a body that lists threats is what 32 bits leave of their `weightSum`, where it is
    assessed. -/
theorem Lists.eq_of_scores (h : Lists v threats) (hholds : Holds body v) {q : ℚ}
    (hscores : (scoreBody body).Scores q threats) : q = (weightSum threats % 2 ^ 32 : Nat) :=
  (h.scores hholds (h.allTextNamed_of_scores hholds hscores)).unique hscores

/-- One more weight lowers a sum in 32 bits just if it does not fit. -/
theorem mod_le_mod_add_iff {sum weight : Nat} (hpos : 0 < weight) (hlt : weight < 2 ^ 32) :
    sum % 2 ^ 32 ≤ (sum + weight) % 2 ^ 32 ↔ sum % 2 ^ 32 + weight < 2 ^ 32 := by
  omega

/-- A body that lists matches with some threats, with other members or not, is assessed with these threats
    and the sum of their weights exactly where all names are texts (`AllTextNamed`) and the sum fits into 32
    bits. Where a name is no text, `scoreBody` is `unavailable`; where the sum does not fit, what 32 bits
    leave of it is the score. The sum is ten for each match at least. One match more does not lower the
    score exactly where its weight still fits beside what 32 bits leave. -/
theorem scores_weightSum_iff (hholds : Holds body v) (hlists : Lists v threats) :
    ((scoreBody body).Scores (weightSum threats) threats
        ↔ AllTextNamed v ∧ weightSum threats < 2 ^ 32)
      ∧ (AllTextNamed v → (scoreBody body).Scores (weightSum threats % 2 ^ 32 : Nat) threats)
      ∧ (¬ AllTextNamed v → scoreBody body = .unavailable)
      ∧ 10 * threats.length ≤ weightSum threats
      ∧ ∀ more w threat q r, Holds more w → Lists w (threats ++ [threat]) →
          (scoreBody body).Scores q threats → (scoreBody more).Scores r (threats ++ [threat]) →
            (q ≤ r ↔ weightSum threats % 2 ^ 32 + (threatWeight threat).toNat < 2 ^ 32) := by
  refine ⟨⟨fun hscores => ⟨hlists.allTextNamed_of_scores hholds hscores, ?_⟩, ?_⟩,
    hlists.scores hholds, hlists.scoreBody_of_not_allTextNamed hholds, ten_mul_length_le threats, ?_⟩
  · have hsum : weightSum threats = weightSum threats % 2 ^ 32 := by
      exact_mod_cast hlists.eq_of_scores hholds hscores
    omega
  · rintro ⟨hnames, hfits⟩
    have hscores := hlists.scores hholds hnames
    rwa [Nat.mod_eq_of_lt hfits] at hscores
  · intro more w threat q r hmore hlists' hq hr
    obtain ⟨hlow, hhigh⟩ := threatWeight_bounds threat
    rw [hlists.eq_of_scores hholds hq, hlists'.eq_of_scores hmore hr, Nat.cast_le, weightSum_concat]
    exact mod_le_mod_add_iff (by omega) (by omega)

end Bodies

/-! ## Bodies with any matches -/

/-- A text in quotes with something after it. -/
def quoted (text : String) (rest : List Char) : List Char :=
  '"' :: (text.toList ++ '"' :: rest)

/-- The code units of a text that has none of the characters that are escaped or beyond 16 bits. -/
def units (text : String) : List Nat :=
  text.toList.map Char.toNat

/-- The text of an answer up to its matches. -/
def answerStart (rest : List Char) : List Char :=
  '\x7b' :: quoted "matches" (':' :: '[' :: rest)

/-- An answer with these matches and nothing else. -/
def answerTree (vs : List Tree) : Tree :=
  .object [(units "matches", .list vs)]

theorem column_matches (vs : List Tree) :
    Tree.column "matches" [(units "matches", .list vs)] = [.list vs] :=
  Tree.column_cons_self (by decide) _ []

theorem derives_answerTree {vs : List Tree} {cs rest : List Char}
    (h : Derives (.items true vs) cs ('\x7d' :: rest)) :
    Derives (.value (answerTree vs)) (answerStart cs) rest :=
  .object rfl (.member rfl rfl (.of_plain (by decide) _) rfl (.list rfl h) (.endMembers rfl))

theorem answerTree_lists {vs : List Tree} {threats : List String} (h : List.Forall₂ Names vs threats) :
    Lists (answerTree vs) threats :=
  ⟨_, vs, rfl, column_matches vs, h⟩

theorem answerTree_allTextNamed_iff (vs : List Tree) :
    AllTextNamed (answerTree vs) ↔ ∀ w ∈ vs, TextNamed w := by
  refine ⟨fun h => h.2 _ vs rfl (column_matches vs), fun h => ⟨fun ms hms m hmem => ?_, ?_⟩⟩
  · obtain rfl := Tree.object.inj hms
    obtain rfl := List.mem_singleton.1 hmem
    show (textOf? (units "matches")).isSome = true
    decide
  · intro ms ws hms hws
    obtain rfl := Tree.object.inj hms
    rw [column_matches] at hws
    obtain rfl := Tree.list.inj (List.cons.inj hws).1
    exact h

/-! ### Matches of the greatest weight -/

/-- A match of malware with something after it. -/
def malwareMatch (rest : List Char) : List Char :=
  '\x7b' :: quoted "threatType" (':' :: quoted "MALWARE" ('\x7d' :: rest))

/-- So many `malwareMatch`, with a comma before each. -/
def malwareMatches : Nat → List Char → List Char
  | 0, rest => rest
  | n + 1, rest => ',' :: malwareMatch (malwareMatches n rest)

/-- An answer with one `malwareMatch` and some more. -/
def malwareBody (more : Nat) : String :=
  String.ofList (answerStart (malwareMatch (malwareMatches more [']', '\x7d'])))

def malwareTree : Tree :=
  .object [(units "threatType", .string (units "MALWARE"))]

def malwareAnswer (more : Nat) : Tree :=
  answerTree (List.replicate (more + 1) malwareTree)

theorem derives_malware (rest : List Char) :
    Derives (.value (.string (units "MALWARE"))) (quoted "MALWARE" rest) rest :=
  .string rfl (.of_plain (by decide) _)

theorem derives_malwareTree (rest : List Char) :
    Derives (.value malwareTree) (malwareMatch rest) rest :=
  .object rfl (.member rfl rfl (.of_plain (by decide) _) rfl (derives_malware _) (.endMembers rfl))

theorem derives_malwareMatches (n : Nat) (rest : List Char) :
    Derives (.items false (List.replicate n malwareTree)) (malwareMatches n (']' :: rest)) rest := by
  induction n with
  | zero => exact .endItems rfl
  | succ n ih => exact .item rfl (derives_malwareTree _) ih

theorem malwareBody_holds (more : Nat) : Holds (malwareBody more) (malwareAnswer more) := by
  refine ⟨[], ?_, rfl⟩
  rw [malwareBody, String.toList_ofList]
  exact derives_answerTree (.item rfl (derives_malwareTree _) (derives_malwareMatches more _))

theorem malwareTree_names : Names malwareTree "MALWARE" :=
  ⟨_, units "MALWARE", rfl, Tree.column_cons_self (by decide) _ [], by decide⟩

theorem malwareAnswer_lists (more : Nat) :
    Lists (malwareAnswer more) (List.replicate (more + 1) "MALWARE") := by
  refine answerTree_lists ?_
  generalize more + 1 = count
  induction count with
  | zero => exact .nil
  | succ count ih => exact .cons malwareTree_names ih

theorem malwareAnswer_allTextNamed (more : Nat) : AllTextNamed (malwareAnswer more) := by
  refine (answerTree_allTextNamed_iff _).2 fun w hw ms hms m hmem => ?_
  obtain rfl := List.eq_of_mem_replicate hw
  obtain rfl := Tree.object.inj hms
  obtain rfl := List.mem_singleton.1 hmem
  show (textOf? (units "threatType")).isSome = true
  decide

theorem malwareBody_scores (more : Nat) :
    (scoreBody (malwareBody more)).Scores (weightSum (List.replicate (more + 1) "MALWARE") % 2 ^ 32 : Nat)
      (List.replicate (more + 1) "MALWARE") :=
  (malwareAnswer_lists more).scores (malwareBody_holds more) (malwareAnswer_allTextNamed more)

/-- The `weightSum` of 85,899,346 matches is beyond 32 bits, and 4 is left of it: less than with one match
    fewer. -/
theorem malwareBody_wraps :
    Holds (malwareBody 85899345) (malwareAnswer 85899345)
      ∧ Lists (malwareAnswer 85899345) (List.replicate 85899346 "MALWARE")
      ∧ weightSum (List.replicate 85899346 "MALWARE") = 4294967300
      ∧ (scoreBody (malwareBody 85899345)).Scores 4 (List.replicate 85899346 "MALWARE")
      ∧ (scoreBody (malwareBody 85899344)).Scores 4294967250 (List.replicate 85899345 "MALWARE") := by
  -- The number of matches is a variable in all that follows, so that none are counted out.
  obtain ⟨n, hn⟩ : ∃ n, n = 85899344 := ⟨_, rfl⟩
  have hnext : 85899345 = n + 1 := by omega
  have hlast : 85899346 = n + 1 + 1 := by omega
  have hweight : (threatWeight "MALWARE").toNat = 50 := by decide
  have hsum : weightSum (List.replicate (n + 1 + 1) "MALWARE") = 4294967300 := by
    rw [weightSum_replicate, hweight, hn]
  have hfewer : weightSum (List.replicate (n + 1) "MALWARE") = 4294967250 := by
    rw [weightSum_replicate, hweight, hn]
  have hscores := malwareBody_scores (n + 1)
  have hscores' := malwareBody_scores n
  rw [hsum] at hscores
  rw [hfewer] at hscores'
  norm_num at hscores hscores'
  rw [hlast, hnext, ← hn]
  exact ⟨malwareBody_holds _, malwareAnswer_lists _, hsum, hscores, hscores'⟩

/-! ### A name that is no text -/

/-- A `malwareMatch` with one more member, the name of which is a surrogate alone. -/
def oddNameMatch (rest : List Char) : List Char :=
  '\x7b' :: quoted "threatType" (':' :: quoted "MALWARE" (',' :: '"' :: '\\' :: 'u' :: 'd' :: '8' :: '0' :: '0'
    :: '"' :: ':' :: '0' :: '\x7d' :: rest))

def oddNameBody : String :=
  "\x7b\"matches\":[\x7b\"threatType\":\"MALWARE\",\"\\ud800\":0\x7d]\x7d"

def oddNameTree : Tree :=
  .object [(units "threatType", .string (units "MALWARE")), ([0xD800], .number ['0'])]

theorem derives_oddNameTree (rest : List Char) : Derives (.value oddNameTree) (oddNameMatch rest) rest := by
  have hzero : IsNumber ['0'] :=
    .inl ⟨['0'], [], [], rfl, ⟨⟨by simp, List.forall_mem_singleton.2 rfl⟩, fun _ => rfl⟩, .inl rfl, .inl rfl⟩
  have hname : StringRest ('\\' :: 'u' :: 'd' :: '8' :: '0' :: '0' :: '"' :: ':' :: '0' :: '\x7d' :: rest)
      [0xD800] (':' :: '0' :: '\x7d' :: rest) := .unicode (by decide) (.close _)
  exact .object rfl (.member rfl rfl (.of_plain (by decide) _) rfl (derives_malware _)
    (.member rfl rfl hname rfl (.number hzero rfl) (.endMembers rfl)))

theorem oddNameBody_holds : Holds oddNameBody (answerTree [oddNameTree]) := by
  have htext : oddNameBody.toList = answerStart (oddNameMatch [']', '\x7d']) := by decide
  refine ⟨[], ?_, rfl⟩
  rw [htext]
  exact derives_answerTree (.item rfl (derives_oddNameTree _) (.endItems rfl))

theorem oddNameTree_names : Names oddNameTree "MALWARE" := by
  have hodd : textOf? [0xD800] ≠ some "threatType".toList := by
    show none ≠ some _
    exact nofun
  have hcolumn : Tree.column "threatType" [(units "threatType", .string (units "MALWARE")),
      ([0xD800], .number ['0'])] = [.string (units "MALWARE")] := by
    rw [Tree.column_cons_self (by decide), Tree.column_cons_of_ne hodd]
    rfl
  exact ⟨_, units "MALWARE", rfl, hcolumn, by decide⟩

theorem oddNameTree_not_textNamed : ¬ TextNamed oddNameTree := by
  intro hnames
  have htext := hnames _ rfl ([0xD800], .number ['0']) (by simp)
  exact absurd htext (by decide)

/-- Two matches are added up; a match with an unknown member is not, where the name of that is no text. -/
theorem twoMalware_oddName :
    (Holds (malwareBody 1) (malwareAnswer 1) ∧ Lists (malwareAnswer 1) ["MALWARE", "MALWARE"]
        ∧ (scoreBody (malwareBody 1)).Scores 100 ["MALWARE", "MALWARE"])
      ∧ Holds oddNameBody (answerTree [oddNameTree]) ∧ Lists (answerTree [oddNameTree]) ["MALWARE"]
        ∧ scoreBody oddNameBody = .unavailable := by
  have hlists : Lists (answerTree [oddNameTree]) ["MALWARE"] :=
    answerTree_lists (.cons oddNameTree_names .nil)
  have htwo := scores_weightSum_iff (malwareBody_holds 1) (malwareAnswer_lists 1)
  have hodd := scores_weightSum_iff oddNameBody_holds hlists
  have hsum : weightSum (List.replicate (1 + 1) "MALWARE") = 100 := by decide
  refine ⟨⟨malwareBody_holds 1, malwareAnswer_lists 1, ?_⟩, oddNameBody_holds, hlists, ?_⟩
  · have hscores := htwo.2.1 (malwareAnswer_allTextNamed 1)
    rw [hsum] at hscores
    norm_num at hscores
    exact hscores
  · refine hodd.2.2.1 fun hnames => ?_
    exact oddNameTree_not_textNamed ((answerTree_allTextNamed_iff _).1 hnames _ List.mem_cons_self)

end PageRisk.Reputation
