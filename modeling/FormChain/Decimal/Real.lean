import FormChain.Decimal.Integer
import FormChain.Text.Pieces

/-!
# Reading floating point numbers

Two notations are read. Free-standing numbers in texts (`real?`) may lack digits on
one side of the point, may be written `inf`, `infinity` or `nan`, and are rounded
once, to the nearest number. Numbers inside JSON texts (`assemble?`) are assembled
from a word of leading digits and a power of ten, with one rounding for each of the
two and one for their product.
-/

namespace FormChain.Decimal

/-! ### Free-standing numbers -/

/-- Beyond this power of ten every number is infinite, and below its negative zero. -/
def powerBound : Int := 400

/-- The number `m * 10 ^ e`, rounded once. -/
def nearest (m : Nat) (e : Int) : Float :=
  let power := e + Int.ofNat (Nat.toDigits 10 m).length
  if m = 0 ∨ power < -powerBound then 0.0
  else if powerBound < power then 1.0 / 0.0
  else Float.ofScientific m (decide (e < 0)) e.natAbs

/-- The digits at the start of a text, and what follows them. -/
def leadingDigits (cs : List Char) : List Char × List Char :=
  (cs.takeWhile isDigit, cs.dropWhile isDigit)

/-- An exponent `e5`, `E-3`, …, filling the whole of a text; none when the text is
empty. -/
def exponentPart? : List Char → Option Int
  | [] => some 0
  | e :: rest =>
    if e = 'e' ∨ e = 'E' then
      match rest with
      | '-' :: ds => (natural? ds).map fun n => -(Int.ofNat n)
      | '+' :: ds => (natural? ds).map Int.ofNat
      | ds => (natural? ds).map Int.ofNat
    else none

/-- A number without a sign that is made of digits. -/
def digitsReal? (cs : List Char) : Option Float :=
  let (whole, rest) := leadingDigits cs
  let (fraction, rest) := match rest with
    | '.' :: more => leadingDigits more
    | _ => ([], rest)
  if whole.isEmpty && fraction.isEmpty then none
  else (exponentPart? rest).map fun e =>
    nearest (value (whole ++ fraction)) (e - Int.ofNat fraction.length)

/-- A number without a sign. -/
def unsignedReal? (cs : List Char) : Option Float :=
  let word := cs.map Char.toLower
  if word = ['i', 'n', 'f'] ∨ word = ['i', 'n', 'f', 'i', 'n', 'i', 't', 'y'] then
    some (1.0 / 0.0)
  else if word = ['n', 'a', 'n'] then some (0.0 / 0.0)
  else digitsReal? cs

/-- **A free-standing number**, when the whole text is one. -/
def real? (cs : List Char) : Option Float :=
  match cs with
  | '-' :: rest => (unsignedReal? rest).map Float.neg
  | '+' :: rest => unsignedReal? rest
  | rest => unsignedReal? rest

/-! ### Numbers assembled from a word and a power of ten -/

/-- A power of ten, rounded once. -/
def tenTo (n : Nat) : Float :=
  Float.ofScientific 1 false n

/-- The greatest power of ten that is a finite number. -/
def maxPower : Nat := 308

/-- Multiply by a negative power of ten, `10 ^ 308` at a time. -/
def divideByTens (f : Float) (n : Nat) : Float :=
  if _h : n ≤ maxPower then f / tenTo n
  else if f == 0.0 then f
  else divideByTens (f / tenTo maxPower) (n - maxPower)
termination_by n
decreasing_by simp [maxPower] at *; omega

/-- **The number `w * 10 ^ e` of a word `w`**, unless it is too large. -/
def assemble? (w : UInt64) (e : Int) : Option Float :=
  let f := w.toFloat
  if e < 0 then some (divideByTens f e.natAbs)
  else if e.toNat ≤ maxPower then
    let product := f * tenTo e.toNat
    if product.isInf then none else some product
  else if f == 0.0 then some f
  else none

/-- The digits of a number read into a word: the word, and how many digits found no
room any more. -/
def fillWord (w : Nat) : List Char → Nat × List Char
  | [] => (w, [])
  | c :: rest =>
    let next := w * 10 + digitValue c
    if next ≤ maxNat64 then fillWord next rest else (w, c :: rest)

/-- **The number with these digits before and behind the point and this exponent.**
The digits fill one word from the left; a digit before the point that finds no room
counts as a zero, one behind it is dropped. -/
def assembleDigits? (whole fraction : List Char) (e : Int) : Option Float :=
  let (w, unread) := fillWord 0 whole
  let (w, dropped) := fillWord w fraction
  let places := fraction.length - dropped.length
  assemble? (UInt64.ofNat w) (e + Int.ofNat unread.length - Int.ofNat places)

end FormChain.Decimal
