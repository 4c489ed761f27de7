import FormChain.Value.Basic
import FormChain.Text.Base64
import FormChain.Text.Blank
import FormChain.Text.Pieces
import FormChain.Text.Utf8

/-!
# The text of a file kept in a field

A file field holds an object whose `content` is the Base64 text of the file's bytes,
alone or behind the head of a data address, `data:text/plain;base64,` for instance. A
plain text is the text of a file that was read before.

Bytes that are no UTF-8 are read as replacement characters; a content that is no Base64
has no text.
-/

namespace FormChain.Value

/-- What ends the head of a data address. -/
def dataMark : List Char := ";base64,".toList

/-- A content without the head of a data address and without blanks at its ends. -/
def payload (content : String) : List Char :=
  Text.trim ((Text.afterFirst? dataMark content.toList).getD content.toList)

/-- The text whose Base64 text is a payload. -/
def decodedText? (content : String) : Option String :=
  (Base64.decode? (payload content)).map fun bytes => String.ofList (Utf8.decodeLossy bytes)

/-- **The text of the file that a value holds.** -/
def fileText? (v : Value) : Option String :=
  match v with
  | .text s => some s
  | .object _ => ((v.field? "content").bind text?).bind decodedText?
  | _ => none

end FormChain.Value
