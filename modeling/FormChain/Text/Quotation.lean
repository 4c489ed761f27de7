import FormChain.Unicode.Printable

/-!
# Quoting a text for a reader

A complaint shows a text in double quotes with everything invisible spelt out, so that
a blank cannot be taken for another and a stray mark cannot cling to the quote.
-/

namespace FormChain.Text

/-- A number in lower-case hexadecimal. -/
def hexText (n : Nat) : List Char :=
  Nat.toDigits 16 n

/-- How a character is shown inside quotes. -/
def shown (c : Char) : List Char :=
  if c.toNat = 0 then ['\\', '0']
  else if c = '\t' then ['\\', 't']
  else if c = '\r' then ['\\', 'r']
  else if c = '\n' then ['\\', 'n']
  else if c = '"' then ['\\', '"']
  else if c = '\\' then ['\\', '\\']
  else if Unicode.extendsGrapheme c || !Unicode.isPrintable c then
    '\\' :: 'u' :: '{' :: hexText c.toNat ++ ['}']
  else [c]

/-- **A text in quotes, with everything invisible spelt out.** -/
def shownQuoted (s : String) : String :=
  String.ofList ('"' :: s.toList.flatMap shown ++ ['"'])

end FormChain.Text
