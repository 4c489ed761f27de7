/-!
# Blanks and trimming

The characters with the property *White_Space*, and the removal of such characters
from the ends of a text. Trimming works on lists of characters; `trimmed` and its
one-sided companions are the same on strings.

Main statements: a text trimmed at its start begins with no blank
(`isBlank_head_trimStart`) and one trimmed at its end ends with none
(`isBlank_getLast_trimEnd`).
-/

namespace FormChain

/-- Whether a character is white space. -/
def isBlank (c : Char) : Bool :=
  let n := c.toNat
  (9 ≤ n && n ≤ 13) || n == 0x20 || n == 0x85 || n == 0xA0 || n == 0x1680 ||
    (0x2000 ≤ n && n ≤ 0x200A) || n == 0x2028 || n == 0x2029 || n == 0x202F ||
    n == 0x205F || n == 0x3000

namespace Text

/-! ### Trimming lists of characters -/

/-- A text without its leading blanks. -/
def trimStart (cs : List Char) : List Char :=
  cs.dropWhile isBlank

/-- A text without its trailing blanks. -/
def trimEnd (cs : List Char) : List Char :=
  (cs.reverse.dropWhile isBlank).reverse

/-- **A text without the blanks at its two ends.** -/
def trim (cs : List Char) : List Char :=
  trimEnd (trimStart cs)

/-- A text without the character `x` at its start, however often it stands there. -/
def stripStart (x : Char) (cs : List Char) : List Char :=
  cs.dropWhile (· == x)

/-- A text without the character `x` at its end, however often it stands there. -/
def stripEnd (x : Char) (cs : List Char) : List Char :=
  (cs.reverse.dropWhile (· == x)).reverse

/-- A text without the character `x` at its two ends. -/
def strip (x : Char) (cs : List Char) : List Char :=
  stripEnd x (stripStart x cs)

/-! ### What trimming leaves -/

/-- A text trimmed at its start begins with no blank. -/
theorem isBlank_head_trimStart (cs : List Char) (c : Char)
    (h : (trimStart cs).head? = some c) : isBlank c = false := by
  have hhead := List.head?_dropWhile_not isBlank cs
  rwa [← trimStart, h] at hhead

/-- A text trimmed at its end ends with no blank. -/
theorem isBlank_getLast_trimEnd (cs : List Char) (c : Char)
    (h : (trimEnd cs).getLast? = some c) : isBlank c = false := by
  have hhead := List.head?_dropWhile_not isBlank cs.reverse
  rw [trimEnd, List.getLast?_reverse] at h
  rwa [h] at hhead

end Text

/-! ### Trimming strings -/

/-- A string without its leading blanks. -/
def trimmedStart (s : String) : String :=
  String.ofList (Text.trimStart s.toList)

/-- A string without its trailing blanks. -/
def trimmedEnd (s : String) : String :=
  String.ofList (Text.trimEnd s.toList)

/-- A string without the blanks at its two ends. -/
def trimmed (s : String) : String :=
  String.ofList (Text.trim s.toList)

/-- Whether a string has no character but blanks. -/
def isBlankText (s : String) : Bool :=
  s.toList.all isBlank

end FormChain
