/-!
# Sets of characters as ranges of code points

The character properties of the Unicode standard are published as lists of code
point ranges. A `RangeTable` holds such a list in increasing order, is written in
the notation of the standard itself (`41-5A 61-7A B5`: ends in hexadecimal, both
included, spans parted by blanks), and answers membership by halving.
-/

namespace FormChain.Unicode

/-- One unbroken run of code points, both ends included. -/
structure Span where
  /-- The least code point of the run. -/
  first : Nat
  /-- The greatest code point of the run. -/
  last : Nat
  deriving DecidableEq, Repr, Inhabited

/-- A set of code points: its spans, in increasing order. -/
structure RangeTable where
  /-- The spans, disjoint and in increasing order. -/
  spans : Array Span

namespace RangeTable

/-! ### Reading the notation -/

/-- The value of a hexadecimal digit. -/
def hexDigit? (c : Char) : Option Nat :=
  if '0' ≤ c ∧ c ≤ '9' then some (c.toNat - '0'.toNat)
  else if 'A' ≤ c ∧ c ≤ 'F' then some (c.toNat - 'A'.toNat + 10)
  else if 'a' ≤ c ∧ c ≤ 'f' then some (c.toNat - 'a'.toNat + 10)
  else none

/-- The reading of a table in progress: the spans read so far, the lower end of
the span in hand (when its hyphen has been passed), and the number being read. -/
structure Draft where
  spans : Array Span := #[]
  lower : Option Nat := none
  number : Option Nat := none

/-- Put the span in hand, if any, behind the finished ones. -/
def Draft.close (d : Draft) : Draft :=
  match d.number with
  | none => d
  | some n => { spans := d.spans.push ⟨d.lower.getD n, n⟩ }

/-- Read one more character of the notation. -/
def Draft.step (d : Draft) (c : Char) : Draft :=
  match hexDigit? c with
  | some v => { d with number := some (d.number.getD 0 * 16 + v) }
  | none => if c = '-' then { d with lower := d.number, number := none } else d.close

/-- The table that a text in the standard's notation describes. -/
def ofNotation (s : String) : RangeTable :=
  ⟨(s.toList.foldl Draft.step {}).close.spans⟩

/-! ### Membership -/

/-- Whether `n` lies in a span whose index is at least `lo` and below `hi`. -/
def containsBetween (t : RangeTable) (n lo hi : Nat) : Bool :=
  if _h : lo < hi then
    let mid := (lo + hi) / 2
    match t.spans[mid]? with
    | none => false
    | some s =>
      if n < s.first then t.containsBetween n lo mid
      else if s.last < n then t.containsBetween n (mid + 1) hi
      else true
  else false
termination_by hi - lo

/-- Whether the code point `n` belongs to the table. -/
def containsCode (t : RangeTable) (n : Nat) : Bool :=
  t.containsBetween n 0 t.spans.size

/-- Whether the character `c` belongs to the table. -/
def contains (t : RangeTable) (c : Char) : Bool :=
  t.containsCode c.toNat

end RangeTable

end FormChain.Unicode
