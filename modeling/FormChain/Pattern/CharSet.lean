import FormChain.Unicode.Property
import FormChain.Unicode.Script
import FormChain.Unicode.CaseOrbit

/-!
# Sets of characters in patterns

What may stand for one character of a pattern. Sets are kept as they are written and
asked one character at a time, so combining them costs nothing and two sets are the same
when they were written the same way.
-/

namespace FormChain.Pattern

open Unicode (Category Property)

/-- **A set of characters.** -/
inductive CharSet where
  /-- No character. -/
  | none
  /-- The characters from one to another, both included. -/
  | range (first last : Char)
  /-- The members of a general category. -/
  | category (k : Category)
  /-- The characters that have a meaning. -/
  | assigned
  /-- The characters written in the script of a name. -/
  | script (name : String)
  /-- The characters with a property. -/
  | property (p : Property)
  /-- The members of either. -/
  | union (s t : CharSet)
  /-- The members of both. -/
  | inter (s t : CharSet)
  /-- The members of the first that are none of the second. -/
  | diff (s t : CharSet)
  /-- All characters that are no members. -/
  | compl (s : CharSet)
  /-- The characters that equal a member up to case. -/
  | folded (s : CharSet)
  deriving DecidableEq, Repr

namespace CharSet

/-- **Whether a character is a member.** -/
def contains (c : Char) : CharSet → Bool
  | none => false
  | range a b => a ≤ c && c ≤ b
  | category k => k.contains c
  | assigned => Unicode.isAssigned c
  | script name => Unicode.isOfScript name c
  | property p => p.holds c
  | union s t => s.contains c || t.contains c
  | inter s t => s.contains c && t.contains c
  | diff s t => s.contains c && !t.contains c
  | compl s => !s.contains c
  | folded s =>
    let orbit := Unicode.caseOrbit c
    orbit.any fun d => s.contains d

/-- The set of one character. -/
def single (c : Char) : CharSet := range c c

/-- The members of any of some sets. -/
def unionAll (ss : List CharSet) : CharSet :=
  ss.foldl union none

/-- The members of exactly one of two sets. -/
def symmDiff (s t : CharSet) : CharSet :=
  (s.diff t).union (t.diff s)

/-- Every character. -/
def any : CharSet := compl none

/-- The complement, when asked for. -/
def complIf (negated : Bool) (s : CharSet) : CharSet :=
  if negated then compl s else s

/-- The members of some categories. -/
def categories (ks : List Category) : CharSet :=
  unionAll (ks.map category)

/-- Decimal digits. -/
def digit : CharSet := category .numberDecimal

/-- White space. -/
def space : CharSet := property .whiteSpace

/-- The characters of words. -/
def word : CharSet :=
  unionAll [property .alphabetic, categories Unicode.marks, category .numberDecimal,
    category .punctuationConnector, property .joinControl]

/-- Digits of ASCII. -/
def asciiDigit : CharSet := range '0' '9'

/-- White space of ASCII. -/
def asciiSpace : CharSet := unionAll [range '\t' '\r', single ' ']

/-- The characters of words in ASCII. -/
def asciiWord : CharSet :=
  unionAll [range 'a' 'z', range 'A' 'Z', range '0' '9', single '_']

/-- All of ASCII. -/
def ascii : CharSet := range (Char.ofNat 0) (Char.ofNat 0x7F)

/-- The classes of ASCII that brackets know by name. -/
def namedAscii : List (String × CharSet) :=
  [("alnum", unionAll [range '0' '9', range 'A' 'Z', range 'a' 'z']),
   ("alpha", unionAll [range 'A' 'Z', range 'a' 'z']),
   ("ascii", ascii),
   ("blank", unionAll [single '\t', single ' ']),
   ("cntrl", unionAll [range (Char.ofNat 0) (Char.ofNat 0x1F), single (Char.ofNat 0x7F)]),
   ("digit", range '0' '9'),
   ("graph", range '!' '~'),
   ("lower", range 'a' 'z'),
   ("print", range ' ' '~'),
   ("punct", unionAll [range '!' '/', range ':' '@', range '[' (Char.ofNat 0x60),
      range (Char.ofNat 0x7B) '~']),
   ("space", asciiSpace),
   ("upper", range 'A' 'Z'),
   ("word", asciiWord),
   ("xdigit", unionAll [range '0' '9', range 'A' 'F', range 'a' 'f'])]

/-! ### Sets by the name of a property -/

/-- Names of unions of categories, and short names beside the usual ones. -/
def categoryGroups : List (String × List Category) :=
  let all (initial : String) : List Category :=
    Category.all.filter fun k => k.shortName.toList.take 1 = initial.toList
  [("l", all "L"), ("letter", all "L"),
   ("lc", [.letterUppercase, .letterLowercase, .letterTitlecase]),
   ("casedletter", [.letterUppercase, .letterLowercase, .letterTitlecase]),
   ("m", all "M"), ("mark", all "M"), ("combiningmark", all "M"),
   ("n", all "N"), ("number", all "N"), ("p", all "P"), ("punctuation", all "P"),
   ("punct", all "P"), ("s", all "S"), ("symbol", all "S"), ("z", all "Z"),
   ("separator", all "Z"), ("digit", [.numberDecimal]), ("cntrl", [.otherControl])]

/-- The set of a general category or a union of such. -/
def ofCategoryName? (name : String) : Option CharSet :=
  if name = "any" then some any
  else if name = "assigned" then some assigned
  else if name = "ascii" then some ascii
  else if name = "cn" ∨ name = "unassigned" then some (compl assigned)
  else if name = "c" ∨ name = "other" then
    some ((categories [.otherControl, .otherFormat, .otherPrivate]).union (compl assigned))
  else match Category.all.find? fun k =>
      String.ofList (k.shortName.toList.map Char.toLower) = name || k.longName = name with
    | some k => some (category k)
    | Option.none => (categoryGroups.lookup name).map categories

/-- The set of a script. -/
def ofScriptName? (name : String) : Option CharSet :=
  (Unicode.script? name).map fun s => script s.name

/-- A loosely written name: lower case, no blanks, hyphens or underscores, no `is` in
front. -/
def looseName (name : List Char) : String :=
  let cs := (name.filter fun c =>
    c.toNat < 0x80 && c ≠ ' ' && c ≠ '-' && c ≠ '_').map Char.toLower
  match cs with
  | ['i', 's', 'c'] => "isc"
  | 'i' :: 's' :: rest => String.ofList rest
  | _ => String.ofList cs

/-- Names that are both those of properties and those of categories, and count as the
latter. -/
def categoryFirst : List String := ["cf", "sc", "lc"]

/-- **The set that a bare name stands for.** -/
def ofName? (name : List Char) : Option CharSet :=
  let n := looseName name
  let prop := if categoryFirst.contains n then Option.none else Unicode.propertyNames.lookup n
  match prop with
  | some p => some (property p)
  | Option.none => (ofCategoryName? n).orElse fun _ => ofScriptName? n

/-- **The set that a property and its value stand for.** -/
def ofNameAndValue? (name value : List Char) : Option CharSet :=
  let n := looseName name
  let v := looseName value
  if n = "gc" ∨ n = "generalcategory" ∨ n = "category" then ofCategoryName? v
  else if n = "sc" ∨ n = "script" ∨ n = "scx" ∨ n = "scriptextensions" then ofScriptName? v
  else Option.none

end CharSet

end FormChain.Pattern
