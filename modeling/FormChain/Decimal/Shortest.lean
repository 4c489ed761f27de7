/-!
# The shortest decimal of a floating point number

A finite number of 64 bits is a whole number times a power of two. Among the
decimals that read back as that number this module picks the one with the fewest
digits, and of those the nearest. On every decimal grid it is enough to try the two
grid points next to the number: if a point of the grid reads back, so does one of
those two.

All of it is exact arithmetic on natural numbers; the only step that looks at a
`Float` is the decoding of its bits.
-/

namespace FormChain.Decimal

/-- A positive decimal: `digits * 10 ^ exponent`. -/
structure Scaled where
  /-- The digits, as a whole number. -/
  digits : Nat
  /-- The power of ten of the last digit. -/
  exponent : Int
  deriving DecidableEq, Repr

/-- A positive number `mantissa * 2 ^ exponent` with the distance to its lower
neighbour: half as far as the upper one at the foot of a binade. -/
structure Binary where
  /-- The whole number. -/
  mantissa : Nat
  /-- The power of two. -/
  exponent : Int
  /-- Whether the number is the least of its binade. -/
  atFoot : Bool
  deriving DecidableEq, Repr

/-- The place value of the bit of the sign. -/
def signBit : Nat := 0x8000000000000000

/-- The place value of the bit above the fraction. -/
def hiddenBit : Nat := 0x10000000000000

/-- Decode the magnitude of a finite number. -/
def Binary.ofFloat (x : Float) : Binary :=
  let bits := x.toBits.toNat % signBit
  let field := bits / hiddenBit
  let fraction := bits % hiddenBit
  -- without a hidden bit, numbers lie as close as in the lowest binade
  if field = 0 then ⟨fraction, -1074, false⟩
  else ⟨fraction + hiddenBit, Int.ofNat field - 1075, fraction = 0 && 1 < field⟩

/-- The reals that read back as a number, as fractions over one denominator: the
number itself, and the two ends of its interval. -/
structure Interval where
  /-- The lower end, over `unit`. -/
  low : Nat
  /-- The number, over `unit`. -/
  centre : Nat
  /-- The upper end, over `unit`. -/
  high : Nat
  /-- The common denominator. -/
  unit : Nat
  /-- Whether the ends themselves read back. -/
  closed : Bool

/-- The reals that round to a number: up to half the distance to each neighbour, the
ends included when the mantissa is even. -/
def Binary.interval (b : Binary) : Interval :=
  let scale := if 0 ≤ b.exponent then Nat.pow 2 b.exponent.toNat else 1
  -- quarters of a step make half of the distance to either neighbour whole
  let unit := if 0 ≤ b.exponent then 4 else 4 * Nat.pow 2 (-b.exponent).toNat
  let below := if b.atFoot then 1 else 2
  { low := (4 * b.mantissa - below) * scale
    centre := 4 * b.mantissa * scale
    high := (4 * b.mantissa + 2) * scale
    unit := unit
    closed := b.mantissa % 2 = 0 }

/-- The fraction `n / d` measured in units of `10 ^ k`, as a fraction again. -/
def inUnitsOf (k : Int) (n d : Nat) : Nat × Nat :=
  if 0 ≤ k then (n, d * Nat.pow 10 k.toNat) else (n * Nat.pow 10 (-k).toNat, d)

/-- Whether the grid point `c * 10 ^ k` lies in the interval. -/
def Interval.holds (i : Interval) (c : Nat) (k : Int) : Bool :=
  let point := if 0 ≤ k then c * Nat.pow 10 k.toNat * i.unit else c * i.unit
  let stretch := if 0 ≤ k then 1 else Nat.pow 10 (-k).toNat
  if i.closed then i.low * stretch ≤ point && point ≤ i.high * stretch
  else i.low * stretch < point && point < i.high * stretch

/-- The best point of the grid of `10 ^ k` in the interval: of two neighbours the
nearer, of two equally near ones the even. -/
def Interval.gridPoint? (i : Interval) (k : Int) : Option Nat :=
  let (n, d) := inUnitsOf k i.centre i.unit
  let c := n / d
  let rest := n % d
  -- the number is `c + rest / d`, so its grid neighbours are `c` and `c + 1`
  let upperFirst := d < 2 * rest || (d = 2 * rest && c % 2 = 1)
  let order := if upperFirst then [c + 1, c] else [c, c + 1]
  order.find? fun p => p ≠ 0 && i.holds p k

/-- The power of ten of the first digit of `n / d`, found by counting down from
`high` at most `steps` times. -/
def leadingExponent (n d : Nat) : (steps : Nat) → (high : Int) → Int
  | 0, k => k
  | steps + 1, k =>
    let (a, b) := inUnitsOf k n d
    if b ≤ a then k else leadingExponent n d steps (k - 1)

/-- Try grids of one, two, … digits until a point reads back. -/
def Interval.search (i : Interval) (lead : Int) : (grids : Nat) → (width : Nat) → Scaled
  | 0, _ => ⟨0, 0⟩
  | grids + 1, width =>
    let k := lead - Int.ofNat width
    match i.gridPoint? k with
    | some c => ⟨c, k⟩
    | none => i.search lead grids (width + 1)

/-- A decimal without zeros at the end of its digits. -/
def Scaled.stripZeros (s : Scaled) : (steps : Nat) → Scaled
  | 0 => s
  | steps + 1 =>
    if s.digits ≠ 0 ∧ s.digits % 10 = 0 then
      Scaled.stripZeros ⟨s.digits / 10, s.exponent + 1⟩ steps
    else s

/-- **The shortest decimal that reads back as a positive finite number.** Seventeen
digits always suffice, and no finite number reaches `10 ^ 309`. -/
def shortest (x : Float) : Scaled :=
  let i := (Binary.ofFloat x).interval
  let lead := leadingExponent i.centre i.unit 640 309
  (i.search lead 18 0).stripZeros 20

/-! ### The text of a number -/

/-- How a number is written: positionally from the power of ten `least` up to but
without `most`, else with an exponent. -/
structure Layout where
  /-- The least power of ten of the first digit that is written positionally. -/
  least : Int
  /-- The least power of ten of the first digit that is no longer. -/
  most : Int

/-- Numbers in values: positional from a hundred-thousandth up to ten to the
sixteenth. -/
def valueLayout : Layout := ⟨-5, 16⟩

/-- The digits of a whole number. -/
def digitText (n : Nat) : List Char :=
  Nat.toDigits 10 n

/-- Positional notation, with at least one digit on either side of the point. -/
def Scaled.positional (s : Scaled) : List Char :=
  let ds := digitText s.digits
  if 0 ≤ s.exponent then ds ++ List.replicate s.exponent.toNat '0' ++ ['.', '0']
  else
    let places := (-s.exponent).toNat
    if places < ds.length then
      ds.take (ds.length - places) ++ '.' :: ds.drop (ds.length - places)
    else '0' :: '.' :: List.replicate (places - ds.length) '0' ++ ds

/-- One digit before the point, the others behind it, and the power of ten with its
sign. -/
def Scaled.scientific (s : Scaled) : List Char :=
  let ds := digitText s.digits
  let power := s.exponent + Int.ofNat ds.length - 1
  let mantissa := match ds with
    | [] => []
    | [d] => [d]
    | d :: more => d :: '.' :: more
  let sign := if power < 0 then '-' else '+'
  mantissa ++ 'e' :: sign :: digitText power.natAbs

/-- A decimal written in a layout. -/
def Scaled.text (layout : Layout) (s : Scaled) : List Char :=
  let power := s.exponent + Int.ofNat (digitText s.digits).length - 1
  if layout.least ≤ power ∧ power < layout.most then s.positional else s.scientific

/-- **The text of a finite floating point number.** -/
def floatText (x : Float) : String :=
  let bits := x.toBits.toNat
  let sign := if signBit ≤ bits then ['-'] else []
  let body := if bits % signBit = 0 then ['0', '.', '0'] else (shortest x).text valueLayout
  String.ofList (sign ++ body)

end FormChain.Decimal
