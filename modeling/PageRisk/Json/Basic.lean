import PageRisk.Table

set_option autoImplicit false

/-! # JSON values

A number is an integer of at most 64 bits, signed or unsigned, or a floating-point number. An object
is the list of its members: as they are written, or, in a *canonical* value, by ascending name and
each name once. -/

namespace PageRisk

/-- An integer that fits into 64 bits, with or without a sign. -/
structure WireInt where
  value : Int
  lower : -9223372036854775808 ≤ value
  upper : value < 18446744073709551616
  deriving DecidableEq

/-- The `WireInt` of an integer, if it fits. -/
def WireInt.ofInt? (n : Int) : Option WireInt :=
  if h : -9223372036854775808 ≤ n ∧ n < 18446744073709551616 then some ⟨n, h.1, h.2⟩ else none

/-- A JSON number. -/
inductive Number where
  | integer (n : WireInt)
  | real (x : Float)
  deriving DecidableEq

/-- The number as a floating-point number. -/
def Number.toFloat : Number → Float
  | integer n => Float.ofInt n.value
  | real x => x

/-- A JSON value. -/
inductive Json where
  | null
  | bool (b : Bool)
  | number (n : Number)
  | string (s : String)
  | array (items : List Json)
  | object (members : List (String × Json))

namespace Json

/-! ## Making values -/

/-- A number of 32 bits. -/
def ofUInt32 (n : UInt32) : Json :=
  number (.integer ⟨(n.toNat : Int), by omega, by have := n.toNat_lt; omega⟩)

/-- A number of 64 bits with a sign. -/
def ofInt64 (n : Int64) : Json :=
  number (.integer ⟨n.toInt, by have := n.le_toInt; omega, by have := n.toInt_lt; omega⟩)

/-- A natural number below `2 ^ 32`; a greater one wraps around. -/
def ofNat32 (n : Nat) : Json :=
  ofUInt32 (UInt32.ofNat n)

/-- A floating-point number; JSON has none that is not finite, and null stands for those. -/
def ofFloat (x : Float) : Json :=
  if x.isFinite then number (.real x) else null

/-- A list of texts. -/
def ofStrings (texts : List String) : Json :=
  array (texts.map string)

/-- A text or null. -/
def ofString? : Option String → Json
  | none => null
  | some s => string s

/-! ## Looking into values -/

/-- What kind of value it is, as messages name it. -/
def kind : Json → String
  | null => "null"
  | bool _ => "bool"
  | number _ => "number"
  | string _ => "string"
  | array _ => "array"
  | object _ => "object"

/-- The text of a string. -/
def asString? : Json → Option String
  | string s => some s
  | _ => none

/-- The value of a non-negative integer. -/
def asNat? : Json → Option Nat
  | number (.integer n) => if 0 ≤ n.value then some n.value.toNat else none
  | _ => none

/-! ## Canonical values -/

mutual

/-- The value with the members of every object in it by ascending name; of two members with the same
    name the later one stays. -/
def canonical : Json → Json
  | array items => array (canonicalItems items)
  | object members => object (canonicalMembers [] members)
  | null => null
  | bool b => bool b
  | number n => number n
  | string s => string s

/-- The `canonical` forms of some values. -/
def canonicalItems : List Json → List Json
  | [] => []
  | item :: rest => canonical item :: canonicalItems rest

/-- The members `placed` so far together with the canonical forms of more. -/
def canonicalMembers (placed : List (String × Json)) : List (String × Json) → List (String × Json)
  | [] => placed
  | (name, value) :: rest => canonicalMembers (Table.place name (canonical value) placed) rest

end

/-! ## Equality -/

mutual

/-- Whether two values are equal, part by part; `DecidableEq` rests on it. -/
def same : Json → Json → Bool
  | null, null => true
  | bool a, bool b => a == b
  | number a, number b => a == b
  | string a, string b => a == b
  | array a, array b => sameItems a b
  | object a, object b => sameMembers a b
  | _, _ => false

/-- Whether two lists of values are the same. -/
def sameItems : List Json → List Json → Bool
  | [], [] => true
  | a :: as, b :: bs => same a b && sameItems as bs
  | _, _ => false

/-- Whether two lists of members are the same. -/
def sameMembers : List (String × Json) → List (String × Json) → Bool
  | [], [] => true
  | (k, a) :: as, (l, b) :: bs => k == l && same a b && sameMembers as bs
  | _, _ => false

end

mutual

theorem same_self : ∀ a : Json, same a a = true
  | null => rfl
  | bool b => by simp [same]
  | number n => by simp [same]
  | string s => by simp [same]
  | array items => by simp [same, sameItems_self items]
  | object members => by simp [same, sameMembers_self members]

theorem sameItems_self : ∀ as : List Json, sameItems as as = true
  | [] => rfl
  | a :: as => by simp [sameItems, same_self a, sameItems_self as]

theorem sameMembers_self : ∀ as : List (String × Json), sameMembers as as = true
  | [] => rfl
  | (k, a) :: as => by simp [sameMembers, same_self a, sameMembers_self as]

end

mutual

theorem eq_of_same : ∀ a b : Json, same a b = true → a = b
  | null, b, h => by cases b <;> simp_all [same]
  | bool x, b, h => by cases b <;> simp_all [same]
  | number x, b, h => by cases b <;> simp_all [same]
  | string x, b, h => by cases b <;> simp_all [same]
  | array as, b, h => by
    cases b with
    | array bs => rw [eq_of_sameItems as bs (by simpa [same] using h)]
    | _ => simp [same] at h
  | object as, b, h => by
    cases b with
    | object bs => rw [eq_of_sameMembers as bs (by simpa [same] using h)]
    | _ => simp [same] at h

theorem eq_of_sameItems : ∀ as bs : List Json, sameItems as bs = true → as = bs
  | [], [], _ => rfl
  | [], _ :: _, h => by simp [sameItems] at h
  | _ :: _, [], h => by simp [sameItems] at h
  | a :: as, b :: bs, h => by
    obtain ⟨ha, has⟩ := Bool.and_eq_true_iff.1 h
    rw [eq_of_same a b ha, eq_of_sameItems as bs has]

theorem eq_of_sameMembers : ∀ as bs : List (String × Json), sameMembers as bs = true → as = bs
  | [], [], _ => rfl
  | [], _ :: _, h => by simp [sameMembers] at h
  | _ :: _, [], h => by simp [sameMembers] at h
  | (k, a) :: as, (l, b) :: bs, h => by
    obtain ⟨hka, has⟩ := Bool.and_eq_true_iff.1 h
    obtain ⟨hk, ha⟩ := Bool.and_eq_true_iff.1 hka
    rw [eq_of_beq hk, eq_of_same a b ha, eq_of_sameMembers as bs has]

end

instance : DecidableEq Json := fun a b =>
  decidable_of_iff (same a b = true) ⟨eq_of_same a b, fun h => h ▸ same_self a⟩

end Json

end PageRisk
