import FormChain.Unicode.Alphabetic
import FormChain.Unicode.Category
import FormChain.Unicode.LetterCase
import FormChain.Unicode.Printable
import FormChain.Text.Blank

/-!
# Yes-or-no properties

Properties that a character has or lacks. Most are one or two general categories and a
few characters more; the others have a table.
-/

namespace FormChain.Unicode

/-! ### Tables -/

/-- Lower-case characters that are no lower-case letters. -/
def otherLowercaseTable : RangeTable := .ofNotation
  "AA BA 2B0-2B8 2C0-2C1 2E0-2E4 345 37A 10FC 1D2C-1D6A 1D78 1D9B-1DBF 2071 207F 2090-209C
    2170-217F 24D0-24E9 2C7C-2C7D A69C-A69D A770 A7F1-A7F4 A7F8-A7F9 AB5C-AB5F AB69 10780
    10783-10785 10787-107B0 107B2-107BA 1E030-1E06D"

/-- Upper-case characters that are no upper-case letters. -/
def otherUppercaseTable : RangeTable := .ofNotation
  "2160-216F 24B6-24CF 1F130-1F149 1F150-1F169 1F170-1F189"

/-- The characters with the property *Emoji*. -/
def emojiTable : RangeTable := .ofNotation
  "23 2A 30-39 A9 AE 203C 2049 2122 2139 2194-2199 21A9-21AA 231A-231B 2328 23CF 23E9-23F3
    23F8-23FA 24C2 25AA-25AB 25B6 25C0 25FB-25FE 2600-2604 260E 2611 2614-2615 2618 261D
    2620 2622-2623 2626 262A 262E-262F 2638-263A 2640 2642 2648-2653 265F-2660 2663
    2665-2666 2668 267B 267E-267F 2692-2697 2699 269B-269C 26A0-26A1 26A7 26AA-26AB
    26B0-26B1 26BD-26BE 26C4-26C5 26C8 26CE-26CF 26D1 26D3-26D4 26E9-26EA 26F0-26F5
    26F7-26FA 26FD 2702 2705 2708-270D 270F 2712 2714 2716 271D 2721 2728 2733-2734 2744
    2747 274C 274E 2753-2755 2757 2763-2764 2795-2797 27A1 27B0 27BF 2934-2935 2B05-2B07
    2B1B-2B1C 2B50 2B55 3030 303D 3297 3299 1F004 1F0CF 1F170-1F171 1F17E-1F17F 1F18E
    1F191-1F19A 1F1E6-1F1FF 1F201-1F202 1F21A 1F22F 1F232-1F23A 1F250-1F251 1F300-1F321
    1F324-1F393 1F396-1F397 1F399-1F39B 1F39E-1F3F0 1F3F3-1F3F5 1F3F7-1F4FD 1F4FF-1F53D
    1F549-1F54E 1F550-1F567 1F56F-1F570 1F573-1F57A 1F587 1F58A-1F58D 1F590 1F595-1F596
    1F5A4-1F5A5 1F5A8 1F5B1-1F5B2 1F5BC 1F5C2-1F5C4 1F5D1-1F5D3 1F5DC-1F5DE 1F5E1 1F5E3
    1F5E8 1F5EF 1F5F3 1F5FA-1F64F 1F680-1F6C5 1F6CB-1F6D2 1F6D5-1F6D8 1F6DC-1F6E5 1F6E9
    1F6EB-1F6EC 1F6F0 1F6F3-1F6FC 1F7E0-1F7EB 1F7F0 1F90C-1F93A 1F93C-1F945 1F947-1F9FF
    1FA70-1FA7C 1FA80-1FA8A 1FA8E-1FAC6 1FAC8 1FACD-1FADC 1FADF-1FAEA 1FAEF-1FAF8"

/-- The characters with the property *Ideographic*. -/
def ideographicTable : RangeTable := .ofNotation
  "3006-3007 3021-3029 3038-303A 3400-4DBF 4E00-9FFF F900-FA6D FA70-FAD9 16FE4 16FF2-16FF6
    17000-18CD5 18CFF-18D1E 18D80-18DF2 1B170-1B2FB 20000-2A6DF 2A700-2B81D 2B820-2CEAD
    2CEB0-2EBE0 2EBF0-2EE5D 2F800-2FA1D 30000-3134A 31350-33479"

/-- The characters with the property *Dash*. -/
def dashTable : RangeTable := .ofNotation
  "2D 58A 5BE 1400 1806 2010-2015 2053 207B 208B 2212 2E17 2E1A 2E3A-2E3B 2E40 2E5D 301C
    3030 30A0 FE31-FE32 FE58 FE63 FF0D 10D6E 10EAD"

/-- The characters with the property *Math*. -/
def mathTable : RangeTable := .ofNotation
  "2B 3C-3E 5E 7C 7E AC B1 D7 F7 3D0-3D2 3D5 3F0-3F1 3F4-3F6 606-608 2016 2032-2034 2040
    2044 2052 2061-2064 207A-207E 208A-208E 20D0-20DC 20E1 20E5-20E6 20EB-20EF 2102 2107
    210A-2113 2115 2118-211D 2124 2128-2129 212C-212D 212F-2131 2133-2138 213C-2149 214B
    2190-21A7 21A9-21AE 21B0-21B1 21B6-21B7 21BC-21DB 21DD 21E4-21E5 21F4-22FF 2308-230B
    2320-2321 237C 239B-23B5 23B7 23D0 23DC-23E2 25A0-25A1 25AE-25B7 25BC-25C1 25C6-25C7
    25CA-25CB 25CF-25D3 25E2 25E4 25E7-25EC 25F8-25FF 2605-2606 2640 2642 2660-2663
    266D-266F 27C0-27FF 2900-2AFF 2B30-2B44 2B47-2B4C FB29 FE61-FE66 FE68 FF0B FF1C-FF1E
    FF3C FF3E FF5C FF5E FFE2 FFE9-FFEC 10D8E-10D8F 1CEF0 1D400-1D454 1D456-1D49C 1D49E-1D49F
    1D4A2 1D4A5-1D4A6 1D4A9-1D4AC 1D4AE-1D4B9 1D4BB 1D4BD-1D4C3 1D4C5-1D505 1D507-1D50A
    1D50D-1D514 1D516-1D51C 1D51E-1D539 1D53B-1D53E 1D540-1D544 1D546 1D54A-1D550
    1D552-1D6A5 1D6A8-1D7CB 1D7CE-1D7FF 1EE00-1EE03 1EE05-1EE1F 1EE21-1EE22 1EE24 1EE27
    1EE29-1EE32 1EE34-1EE37 1EE39 1EE3B 1EE42 1EE47 1EE49 1EE4B 1EE4D-1EE4F 1EE51-1EE52
    1EE54 1EE57 1EE59 1EE5B 1EE5D 1EE5F 1EE61-1EE62 1EE64 1EE67-1EE6A 1EE6C-1EE72
    1EE74-1EE77 1EE79-1EE7C 1EE7E 1EE80-1EE89 1EE8B-1EE9B 1EEA1-1EEA3 1EEA5-1EEA9
    1EEAB-1EEBB 1EEF0-1EEF1 1F8D0-1F8D8"

/-- Characters that may start a name and are neither letters nor letter numbers. -/
def otherStartTable : RangeTable := .ofNotation
  "1885-1886 2118 212E 309B-309C"

/-- Letters that may start no name. -/
def notStartTable : RangeTable := .ofNotation
  "2E2F"

/-- Characters that may stand in a name for no general reason. -/
def otherContinueTable : RangeTable := .ofNotation
  "B7 387 1369-1371 19DA 200C-200D 30FB FF65"

/-- The characters with the property *Hex_Digit*. -/
def hexDigitTable : RangeTable := .ofNotation
  "30-39 41-46 61-66 FF10-FF19 FF21-FF26 FF41-FF46"

/-! ### Properties -/

/-- A yes-or-no property. -/
inductive Property where
  /-- Letters and what reads as letters. -/
  | alphabetic
  /-- Lower case. -/
  | lowercase
  /-- Upper case. -/
  | uppercase
  /-- White space. -/
  | whiteSpace
  /-- Characters with a case. -/
  | cased
  /-- Characters that words may contain without ending. -/
  | caseIgnorable
  /-- Marks that join the character before them. -/
  | graphemeExtend
  /-- The two characters that join and part letters. -/
  | joinControl
  /-- Hexadecimal digits of ASCII. -/
  | asciiHexDigit
  /-- Hexadecimal digits. -/
  | hexDigit
  /-- Emoji. -/
  | emoji
  /-- Ideographs. -/
  | ideographic
  /-- Dashes. -/
  | dash
  /-- Mathematical signs. -/
  | math
  /-- Characters that may start a name. -/
  | nameStart
  /-- Characters that may stand in a name. -/
  | nameContinue
  deriving DecidableEq, Repr

/-- Whether a character belongs to one of some categories. -/
def isOneOf (ks : List Category) (c : Char) : Bool :=
  ks.any (·.contains c)

/-- The categories of letters. -/
def letters : List Category :=
  [.letterUppercase, .letterLowercase, .letterTitlecase, .letterModifier, .letterOther]

/-- The categories of marks. -/
def marks : List Category :=
  [.markNonspacing, .markSpacing, .markEnclosing]

/-- Whether a character may start a name. -/
def mayStartName (c : Char) : Bool :=
  (isOneOf letters c || Category.numberLetter.contains c || otherStartTable.contains c) &&
    !notStartTable.contains c

/-- Whether a character joins or parts letters without being seen. -/
def isJoinControl (c : Char) : Bool :=
  c.toNat = 0x200C || c.toNat = 0x200D

/-- **Whether a character has a property.** -/
def Property.holds (c : Char) : Property → Bool
  | alphabetic => isAlphabetic c
  | lowercase => Category.letterLowercase.contains c || otherLowercaseTable.contains c
  | uppercase => Category.letterUppercase.contains c || otherUppercaseTable.contains c
  | whiteSpace => isBlank c
  | cased => casedTable.contains c
  | caseIgnorable => caseIgnorableTable.contains c
  | graphemeExtend => graphemeExtendTable.contains c
  | joinControl => isJoinControl c
  | asciiHexDigit => c.isDigit || ('a' ≤ c && c ≤ 'f') || ('A' ≤ c && c ≤ 'F')
  | hexDigit => hexDigitTable.contains c
  | emoji => emojiTable.contains c
  | ideographic => ideographicTable.contains c
  | dash => dashTable.contains c
  | math => mathTable.contains c
  | nameStart => mayStartName c
  | nameContinue =>
    mayStartName c || isOneOf [.markNonspacing, .markSpacing, .numberDecimal,
      .punctuationConnector] c || otherContinueTable.contains c

/-- The names of the properties, words run together, and their short names. -/
def propertyNames : List (String × Property) :=
  [("alphabetic", .alphabetic), ("alpha", .alphabetic), ("lowercase", .lowercase),
   ("lower", .lowercase), ("uppercase", .uppercase), ("upper", .uppercase),
   ("whitespace", .whiteSpace), ("wspace", .whiteSpace), ("space", .whiteSpace),
   ("cased", .cased), ("caseignorable", .caseIgnorable), ("ci", .caseIgnorable),
   ("graphemeextend", .graphemeExtend), ("grext", .graphemeExtend),
   ("joincontrol", .joinControl), ("joinc", .joinControl),
   ("asciihexdigit", .asciiHexDigit), ("ahex", .asciiHexDigit), ("hexdigit", .hexDigit),
   ("hex", .hexDigit), ("emoji", .emoji), ("ideographic", .ideographic),
   ("ideo", .ideographic), ("dash", .dash), ("math", .math), ("idstart", .nameStart),
   ("ids", .nameStart), ("idcontinue", .nameContinue), ("idc", .nameContinue)]

end FormChain.Unicode
