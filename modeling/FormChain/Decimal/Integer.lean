/-!
# Integers in decimal

Reading of whole numbers written with ASCII digits, with or without a sign, and
within the bounds of a word. Writing is core's `toString`.

Main statements: the value of digits followed by one more digit (`value_snoc`), and
what reading accepts lies within its bounds (`signed?_bounds`).
-/

namespace FormChain.Decimal

/-- Whether a character is an ASCII digit. -/
def isDigit (c : Char) : Bool :=
  '0' ≤ c && c ≤ '9'

/-- The value of an ASCII digit. -/
def digitValue (c : Char) : Nat :=
  c.toNat - '0'.toNat

/-- The value of a row of digits read after the value `acc`. -/
def valueFrom (acc : Nat) (ds : List Char) : Nat :=
  ds.foldl (fun n c => n * 10 + digitValue c) acc

/-- **The value of a row of digits.** -/
def value (ds : List Char) : Nat :=
  valueFrom 0 ds

/-- One more digit multiplies the value by ten and adds the digit. -/
theorem value_snoc (ds : List Char) (c : Char) :
    value (ds ++ [c]) = value ds * 10 + digitValue c := by
  simp [value, valueFrom]

/-- The number that a row of digits stands for; a row needs at least one digit and
nothing but digits. -/
def natural? (ds : List Char) : Option Nat :=
  if !ds.isEmpty && ds.all isDigit then some (value ds) else none

/-- The least integer of a signed word of 64 bits. -/
def minInt64 : Int := -0x8000000000000000

/-- The greatest integer of a signed word of 64 bits. -/
def maxInt64 : Int := 0x7fffffffffffffff

/-- The greatest number of an unsigned word of 64 bits. -/
def maxNat64 : Nat := 0xffffffffffffffff

/-- The greatest number of an unsigned word of 32 bits. -/
def maxNat32 : Nat := 0xffffffff

/-- An integer with an optional sign. -/
def withSign? : List Char → Option Int
  | '-' :: ds => (natural? ds).map fun n => -(Int.ofNat n)
  | '+' :: ds => (natural? ds).map Int.ofNat
  | ds => (natural? ds).map Int.ofNat

/-- A number with an optional plus sign. -/
def withPlus? : List Char → Option Nat
  | '+' :: ds => natural? ds
  | ds => natural? ds

/-- **A signed integer between two bounds.** -/
def signed? (lo hi : Int) (cs : List Char) : Option Int :=
  (withSign? cs).filter fun n => lo ≤ n && n ≤ hi

/-- **An unsigned integer up to a bound.** -/
def unsigned? (hi : Nat) (cs : List Char) : Option Nat :=
  (withPlus? cs).filter fun n => n ≤ hi

/-- A signed integer of 64 bits. -/
def int64? (s : String) : Option Int :=
  signed? minInt64 maxInt64 s.toList

/-- An unsigned integer of 64 bits. -/
def nat64? (s : String) : Option Nat :=
  unsigned? maxNat64 s.toList

/-- An unsigned integer of 32 bits. -/
def nat32? (s : String) : Option Nat :=
  unsigned? maxNat32 s.toList

/-- What is read lies within the bounds. -/
theorem signed?_bounds {lo hi n : Int} {cs : List Char} (h : signed? lo hi cs = some n) :
    lo ≤ n ∧ n ≤ hi := by
  simp only [signed?, Option.filter_eq_some_iff, Bool.and_eq_true, decide_eq_true_eq] at h
  exact h.2

end FormChain.Decimal
