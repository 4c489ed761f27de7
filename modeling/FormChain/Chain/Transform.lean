import FormChain.Form.Words
import FormChain.Text.Blank
import FormChain.Unicode.Alphabetic
import FormChain.Unicode.LetterCase

/-!
# Changing texts

The changes that an action can make to a text. A slug is made of the letters and digits
of a text in lower case; whatever stands between two of them becomes a single hyphen.
-/

namespace FormChain

namespace Slug

/-- Letters and digits, with hyphens for whatever stands between them. The flag tells
whether a hyphen was put last. -/
def hyphenated (behindHyphen : Bool) : List Char → List Char
  | [] => []
  | c :: rest =>
    if Unicode.isAlphanumeric c then c :: hyphenated false rest
    else if behindHyphen then hyphenated true rest
    else '-' :: hyphenated true rest

/-- A text in lower case, character by character. -/
def lowered (cs : List Char) : List Char :=
  cs.flatMap Unicode.lowerChar

/-- **The slug of a text.** -/
def ofText (s : String) : String :=
  String.ofList (Text.strip '-' (hyphenated false (lowered s.toList)))

end Slug

/-- **The changed text.** -/
def Transform.apply (t : Transform) (s : String) : String :=
  match t with
  | upper => Unicode.upperText s
  | lower => Unicode.lowerText s
  | trim => trimmed s
  | capitalize => Unicode.capitalize s
  | slug => Slug.ofText s

end FormChain
