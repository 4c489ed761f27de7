import FormChain.Pattern.CharSet

/-!
# Patterns and their matches

A pattern is found in a text when some part of the text matches it. Besides the
characters before and behind a place a match may depend on nothing outside of the part,
so a pattern is matched by *derivatives*: what is left of a pattern once it has taken a
character (`Pattern.derive`), and whether nothing more needs to be left
(`Pattern.isEmptyAt`). A set of such remainders walks through the text; equal ones are
kept once, which bounds their number by the size of the pattern.
-/

namespace FormChain

namespace Pattern

/-! ### Places -/

/-- A place in a text: the characters before and behind it. -/
structure Place where
  /-- The character before it. -/
  before : Option Char
  /-- The character behind it. -/
  behind : Option Char
  deriving DecidableEq, Repr

/-- What a pattern may ask of a place. -/
inductive Look where
  /-- The start of the text. -/
  | start
  /-- The end of the text. -/
  | stop
  /-- The start of a line. -/
  | lineStart
  /-- The end of a line. -/
  | lineStop
  /-- The start of a line that may end in a carriage return and a line feed. -/
  | lineStartAny
  /-- The end of such a line. -/
  | lineStopAny
  /-- A word starts or ends. -/
  | wordEdge (word : CharSet)
  /-- No word starts or ends. -/
  | noWordEdge (word : CharSet)
  /-- A word starts. -/
  | wordStart (word : CharSet)
  /-- A word ends. -/
  | wordStop (word : CharSet)
  /-- No word goes on from before. -/
  | noWordBefore (word : CharSet)
  /-- No word goes on behind. -/
  | noWordBehind (word : CharSet)
  deriving DecidableEq, Repr

/-- Whether a character, where there is one, belongs to a set. -/
def isIn (s : CharSet) (c : Option Char) : Bool :=
  match c with
  | some c => s.contains c
  | none => false

/-- Whether a place is as asked. -/
def Look.holds (p : Place) : Look → Bool
  | start => p.before.isNone
  | stop => p.behind.isNone
  | lineStart => p.before.isNone || p.before = some '\n'
  | lineStop => p.behind.isNone || p.behind = some '\n'
  | lineStartAny =>
    p.before.isNone || p.before = some '\n' ||
      (p.before = some '\r' && p.behind ≠ some '\n')
  | lineStopAny =>
    p.behind.isNone || p.behind = some '\r' ||
      (p.behind = some '\n' && p.before ≠ some '\r')
  | wordEdge w => isIn w p.before != isIn w p.behind
  | noWordEdge w => isIn w p.before == isIn w p.behind
  | wordStart w => !isIn w p.before && isIn w p.behind
  | wordStop w => isIn w p.before && !isIn w p.behind
  | noWordBefore w => !isIn w p.before
  | noWordBehind w => !isIn w p.behind

end Pattern

/-! ### Patterns -/

/-- **A pattern.** -/
inductive Pattern where
  /-- Matches nothing but the empty text. -/
  | empty
  /-- Matches one character of a set. -/
  | one (s : Pattern.CharSet)
  /-- Matches the empty text at places of a kind. -/
  | look (l : Pattern.Look)
  /-- Matches one text and then another. -/
  | seq (p q : Pattern)
  /-- Matches what either matches. -/
  | alt (p q : Pattern)
  /-- Matches as many texts in a row as two bounds allow. -/
  | repeated (p : Pattern) (least : Nat) (most : Option Nat)
  deriving DecidableEq, Repr

namespace Pattern

/-- Patterns in a row. -/
def seqAll : List Pattern → Pattern
  | [] => empty
  | [p] => p
  | p :: rest => seq p (seqAll rest)

/-- One of some patterns. -/
def altAll : List Pattern → Pattern
  | [] => empty
  | [p] => p
  | p :: rest => alt p (altAll rest)

/-- Two patterns in a row, an empty first one left out. -/
def behind (p q : Pattern) : Pattern :=
  match p with
  | empty => q
  | p => seq p q

/-! ### Derivatives -/

/-- **Whether a pattern matches the empty text at a place.** -/
def isEmptyAt (at_ : Place) : Pattern → Bool
  | empty => true
  | one _ => false
  | look l => l.holds at_
  | seq p q => p.isEmptyAt at_ && q.isEmptyAt at_
  | alt p q => p.isEmptyAt at_ || q.isEmptyAt at_
  | repeated p least _ => least = 0 || p.isEmptyAt at_

/-- **What may be left of a pattern** that takes the character `c` at a place. Of a row
the first member may be passed over where it matches the empty text; so may required
repetitions. -/
def derive (at_ : Place) (c : Char) : Pattern → List Pattern
  | empty => []
  | one s => if s.contains c then [empty] else []
  | look _ => []
  | seq p q =>
    (p.derive at_ c).map (behind · q) ++ if p.isEmptyAt at_ then q.derive at_ c else []
  | alt p q => p.derive at_ c ++ q.derive at_ c
  | repeated p least most =>
    if most = some 0 then []
    else
      let most := most.map (· - 1)
      let heads := p.derive at_ c
      heads.map (behind · (repeated p (least - 1) most)) ++
        if 1 < least && p.isEmptyAt at_ then heads.map (behind · (repeated p 0 most)) else []

/-! ### Search -/

/-- Walk through a text with the remainders so far; the pattern itself may start at
every place. -/
def foundFrom (p : Pattern) (before : Option Char) (rests : List Pattern) :
    List Char → Bool
  | [] =>
    let at_ : Place := ⟨before, none⟩
    (p :: rests).any (·.isEmptyAt at_)
  | c :: cs =>
    let at_ : Place := ⟨before, some c⟩
    let rests := (p :: rests).eraseDups
    rests.any (·.isEmptyAt at_) ||
      foundFrom p (some c) (rests.flatMap (·.derive at_ c)).eraseDups cs

/-- **Whether a pattern is found in a text.** -/
def isFoundIn (p : Pattern) (s : String) : Bool :=
  p.foundFrom none [] s.toList

/-- How large a pattern is once its repetitions are written out. -/
def weight : Pattern → Nat
  | empty => 1
  | one _ => 1
  | look _ => 1
  | seq p q => p.weight + q.weight
  | alt p q => p.weight + q.weight + 1
  | repeated p least most => p.weight * (max 1 (max least (most.getD 1))) + 1

end Pattern

end FormChain
