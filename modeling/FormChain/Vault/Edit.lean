import FormChain.Text.Blank
import FormChain.Text.Pieces
import FormChain.Text.Utf8

/-!
# Edits of a note

How the text of a file is changed in one step. An insertion stands on lines of its
own: a line feed goes in front of it where the text before does not end in one, and
behind it where more text follows and it does not end in one itself.

An insertion at a place told in bytes needs that place to lie between two characters. Where
it lies inside one, the edit *breaks off*: whoever is at it comes to no end, and no text comes
of it.
-/

namespace FormChain

/-- **An edit of a text.** -/
inductive Edit where
  /-- Replace the text. -/
  | replace (text : String)
  /-- Put a text right behind it. -/
  | append (text : String)
  /-- Insert at a place told in bytes, or at the end if the text is shorter. -/
  | insertAt (offset : Nat) (text : String)
  /-- Insert at the end. -/
  | insertAtEnd (text : String)
  /-- Insert behind the line of a heading, or at the end if there is none. -/
  | insertAfterHeading (heading text : String)
  deriving DecidableEq, Repr

namespace Edit

/-- A line feed where a text needs one to be ended. -/
def lineFeedBehind (text : List Char) : List Char :=
  if text.getLast? = some '\n' then [] else ['\n']

/-- **A text between two others, on lines of its own.** -/
def onOwnLines (before text behind : List Char) : List Char :=
  before ++ (if before.isEmpty then [] else lineFeedBehind before) ++ text ++
    (if behind.isEmpty then [] else lineFeedBehind text) ++ behind

/-- Cut a text behind a number of bytes, when these are whole characters. -/
def cutBytes? : (bytes : Nat) → List Char → Option (List Char × List Char)
  | 0, cs => some ([], cs)
  | _ + 1, [] => none
  | n + 1, c :: cs =>
    if Utf8.size [c] ≤ n + 1 then
      (cutBytes? (n + 1 - Utf8.size [c]) cs).map fun (a, b) => (c :: a, b)
    else none

/-- What a heading says: its text without number signs in front and blanks around. -/
def headingText (cs : List Char) : List Char :=
  Text.trim (Text.stripStart '#' cs)

/-- Whether a line is the heading that says `wanted`. -/
def isHeading (wanted line : List Char) : Bool :=
  let shown := Text.trimEnd line
  shown.head? = some '#' && headingText shown = wanted

/-- Cut lines behind the heading that says `wanted`. -/
def cutAfter? (wanted : List Char) :
    List (List Char) → Option (List (List Char) × List (List Char))
  | [] => none
  | line :: rest =>
    if isHeading wanted line then some ([line], rest)
    else (cutAfter? wanted rest).map fun (a, b) => (line :: a, b)

/-- **Cut a text behind the line of a heading.** -/
def cutAfterHeading? (heading : String) (cs : List Char) : Option (List Char × List Char) :=
  (cutAfter? (headingText (Text.trim heading.toList)) (Text.linesWithEnds cs)).map
    fun (a, b) => (a.flatten, b.flatten)

/-- **The edited text**, unless the edit breaks off. -/
def applied? (e : Edit) (old : String) : Option String :=
  match e with
  | replace text => some text
  | append text => some (old ++ text)
  | insertAt offset text =>
    (cutBytes? (min offset (Utf8.size old.toList)) old.toList).map fun (a, b) =>
      String.ofList (onOwnLines a text.toList b)
  | insertAtEnd text => some (String.ofList (onOwnLines old.toList text.toList []))
  | insertAfterHeading heading text =>
    let (a, b) := (cutAfterHeading? heading old.toList).getD (old.toList, [])
    some (String.ofList (onOwnLines a text.toList b))

end Edit

end FormChain
