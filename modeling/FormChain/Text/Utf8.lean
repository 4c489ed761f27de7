/-!
# UTF-8

The bytes of a text, and the text that bytes stand for. Reading never fails: where
the bytes are not well formed, the longest start of a character that is there is
replaced by U+FFFD.

Main statement: every step of reading takes at least one byte
(`length_decodeStep_le`), so reading ends.
-/

namespace FormChain.Utf8

/-! ### Writing -/

/-- The bytes of one character. -/
def encodeChar (c : Char) : List UInt8 :=
  String.utf8EncodeChar c

/-- The bytes of a text. -/
def encode (cs : List Char) : List UInt8 :=
  cs.flatMap encodeChar

/-- How many bytes a text takes. -/
def size : List Char → Nat
  | [] => 0
  | c :: rest => c.utf8Size + size rest

/-! ### Reading -/

/-- The character that stands for bytes that are not well formed. -/
def replacement : Char := Char.ofNat 0xFFFD

/-- Whether a byte continues a character. -/
def isContinuation (b : UInt8) : Bool :=
  0x80 ≤ b && b ≤ 0xBF

/-- The six bits that a continuing byte carries. -/
def continuationBits (b : UInt8) : Nat :=
  b.toNat % 0x40

/-- Whether `b` may follow the first byte `a` of a character of three bytes:
overlong forms and surrogates are kept out here. -/
def followsOfThree (a b : UInt8) : Bool :=
  (a == 0xE0 && 0xA0 ≤ b && b ≤ 0xBF) || (0xE1 ≤ a && a ≤ 0xEC && isContinuation b) ||
    (a == 0xED && 0x80 ≤ b && b ≤ 0x9F) || (0xEE ≤ a && a ≤ 0xEF && isContinuation b)

/-- Whether `b` may follow the first byte `a` of a character of four bytes:
overlong forms and code points beyond the last are kept out here. -/
def followsOfFour (a b : UInt8) : Bool :=
  (a == 0xF0 && 0x90 ≤ b && b ≤ 0xBF) || (0xF1 ≤ a && a ≤ 0xF3 && isContinuation b) ||
    (a == 0xF4 && 0x80 ≤ b && b ≤ 0x8F)

/-- Read what starts with the byte `a`: one character and the bytes behind it. -/
def decodeStep (a : UInt8) (rest : List UInt8) : Char × List UInt8 :=
  if a < 0x80 then (Char.ofNat a.toNat, rest)
  else if 0xC2 ≤ a && a ≤ 0xDF then
    match rest with
    | b :: rest' =>
      if isContinuation b then
        (Char.ofNat ((a.toNat - 0xC0) * 0x40 + continuationBits b), rest')
      else (replacement, rest)
    | [] => (replacement, rest)
  else if 0xE0 ≤ a && a ≤ 0xEF then
    match rest with
    | b :: rest' =>
      if followsOfThree a b then
        match rest' with
        | c :: rest'' =>
          if isContinuation c then
            (Char.ofNat ((a.toNat - 0xE0) * 0x1000 + continuationBits b * 0x40 +
              continuationBits c), rest'')
          else (replacement, rest')
        | [] => (replacement, rest')
      else (replacement, rest)
    | [] => (replacement, rest)
  else if 0xF0 ≤ a && a ≤ 0xF4 then
    match rest with
    | b :: rest' =>
      if followsOfFour a b then
        match rest' with
        | c :: rest'' =>
          if isContinuation c then
            match rest'' with
            | d :: rest''' =>
              if isContinuation d then
                (Char.ofNat ((a.toNat - 0xF0) * 0x40000 + continuationBits b * 0x1000 +
                  continuationBits c * 0x40 + continuationBits d), rest''')
              else (replacement, rest'')
            | [] => (replacement, rest'')
          else (replacement, rest')
        | [] => (replacement, rest')
      else (replacement, rest)
    | [] => (replacement, rest)
  else (replacement, rest)

/-- Reading one character never hands back more bytes than were there. -/
theorem length_decodeStep_le (a : UInt8) (rest : List UInt8) :
    (decodeStep a rest).2.length ≤ rest.length := by
  unfold decodeStep
  repeat' split
  all_goals simp +arith

/-- **The text that bytes stand for.** -/
def decodeLossy : List UInt8 → List Char
  | [] => []
  | a :: rest =>
    (decodeStep a rest).1 :: decodeLossy (decodeStep a rest).2
termination_by bytes => bytes.length
decreasing_by exact Nat.lt_succ_of_le (length_decodeStep_le a rest)

end FormChain.Utf8
