import FormChain.Text.Blank
import FormChain.Text.Pieces

/-!
# Names for notes

How the path of a note is put together from what an author wrote: a folder and a name,
the usual extension where there is none, and a number where the name is taken.
-/

namespace FormChain.NotePath

/-- A path behind its last slash. -/
def lastName (path : List Char) : List Char :=
  match Text.cutLast? '/' path with
  | some (_, name) => name
  | none => path

/-- The extension of notes. -/
def noteExtension : List Char := ['.', 'm', 'd']

/-- **A path whose name has an extension**: the usual one where there was none. -/
def withExtension (path : String) : String :=
  if (lastName path.toList).contains '.' then path
  else String.ofList (path.toList ++ noteExtension)

/-- **The path of a name in a folder.** Slashes at the ends of the folder and in front of
the name do not count. -/
def inFolder (folder name : String) : String :=
  let folder := Text.strip '/' (Text.trim folder.toList)
  let name := Text.stripStart '/' (Text.trim name.toList)
  String.ofList (if folder.isEmpty then name else folder ++ '/' :: name)

/-- A name with a number before its last point, or at its end. -/
def numberedName (n : Nat) (name : List Char) : List Char :=
  let number := ' ' :: (toString n).toList
  match Text.cutLast? '.' name with
  | some (stem, extension) => stem ++ number ++ '.' :: extension
  | none => name ++ number

/-- **A path whose name has a number.** -/
def numbered (path : String) (n : Nat) : String :=
  String.ofList <| match Text.cutLast? '/' path.toList with
    | some (folder, name) => folder ++ '/' :: numberedName n name
    | none => numberedName n path.toList

end FormChain.NotePath
