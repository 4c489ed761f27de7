import FormChain.Condition.Comparison
import FormChain.Proofs.Text.Bytes
import FormChain.Proofs.Text.Cutting

/-!
# Texts of files

A file is kept in a field as an object. Its content is written in the digits of
`FormChain.Base64.encode`, alone or behind the head of a data address, and with blanks around it
(`FormChain.Value.Carries`). No digit is a blank or a semicolon, so nothing of what is written is
trimmed or taken for a head, and a head ends at its first mark if what it tells of the file has none
(`FormChain.Value.payload_of_carries`). What is left is read as it was written.

Main statement: the text of the file is the one that was written, whatever else the object has, and
a file contains just the parts of it (`FormChain.Value.file_carries_text`).
-/

namespace FormChain

namespace Value

/-- The digits of a text: those of the bytes that it takes. -/
def digitsOf (s : String) : List Char :=
  Base64.encode (Utf8.encode s.toList)

/-- **A content that carries a text**: the digits of the text with blanks around them, alone or
behind the head of a data address. -/
inductive Carries (s : String) : List Char → Prop where
  /-- The digits alone. -/
  | alone {front behind : List Char} (hfront : ∀ c ∈ front, isBlank c = true)
      (hbehind : ∀ c ∈ behind, isBlank c = true) : Carries s (front ++ digitsOf s ++ behind)
  /-- The digits behind a head, which tells something of the file. -/
  | addressed {told front behind : List Char} (htold : ¬ dataMark <:+: told)
      (hfront : ∀ c ∈ front, isBlank c = true) (hbehind : ∀ c ∈ behind, isBlank c = true) :
    Carries s ("data:".toList ++ told ++ dataMark ++ (front ++ digitsOf s ++ behind))

section Contents

variable {s : String} {c : Char} {content front behind : List Char}

/-- No digit is a blank, and none starts the mark at the end of a head. -/
theorem plain_of_mem_digitsOf (h : c ∈ digitsOf s) : isBlank c = false ∧ c ≠ ';' := by
  have hall : ('=' :: Base64.alphabet).all (fun c => !isBlank c && c != ';') = true := by
    decide +kernel
  simpa using List.all_eq_true.mp hall c (Base64.encode_subset _ h)

theorem trim_digitsOf (hfront : ∀ c ∈ front, isBlank c = true)
    (hbehind : ∀ c ∈ behind, isBlank c = true) :
    Text.trim (front ++ digitsOf s ++ behind) = digitsOf s :=
  Text.trim_between (fun _ h => (plain_of_mem_digitsOf (List.mem_of_mem_head? h)).1)
    (fun _ h => (plain_of_mem_digitsOf (List.mem_of_mem_getLast? h)).1) hfront hbehind

/-- There is no mark among digits and blanks. -/
theorem not_infix_digitsOf (hfront : ∀ c ∈ front, isBlank c = true)
    (hbehind : ∀ c ∈ behind, isBlank c = true) :
    ¬ dataMark <:+: front ++ digitsOf s ++ behind := by
  intro hpart
  have hmem : ';' ∈ front ++ digitsOf s ++ behind := hpart.mem (by decide)
  rcases List.mem_append.mp hmem with hmem | hmem
  · rcases List.mem_append.mp hmem with hmem | hmem
    · exact Text.not_mem_of_blank hfront (by decide) hmem
    · exact (plain_of_mem_digitsOf hmem).2 rfl
  · exact Text.not_mem_of_blank hbehind (by decide) hmem

theorem dataMark_eq : dataMark = ';' :: ['b', 'a', 's', 'e', '6', '4', ','] := by
  decide

/-- The start of a head has no part in a mark. -/
theorem not_infix_head {told : List Char} (h : ¬ dataMark <:+: told) :
    ¬ dataMark <:+: "data:".toList ++ told := by
  have hskip {c : Char} {cs : List Char} (hc : c ≠ ';') (h : ¬ dataMark <:+: cs) :
      ¬ dataMark <:+: c :: cs := by
    rw [dataMark_eq] at h ⊢
    rw [List.infix_cons_iff]
    rintro (hstart | hpart)
    · exact hc (List.cons_prefix_cons.mp hstart).1.symm
    · exact h hpart
  exact hskip (by decide) (hskip (by decide) (hskip (by decide) (hskip (by decide)
    (hskip (by decide) h))))

/-- **What is left of a content** is the digits of the text that it carries. -/
theorem payload_of_carries (h : Carries s content) :
    payload (String.ofList content) = digitsOf s := by
  rw [payload, String.toList_ofList]
  cases h with
  | alone hfront hbehind =>
    rw [Text.afterFirst?_eq_none (not_infix_digitsOf hfront hbehind), Option.getD_none]
    exact trim_digitsOf hfront hbehind
  | addressed htold hfront hbehind =>
    have hnot := not_infix_head htold
    rw [dataMark_eq] at hnot ⊢
    rw [Text.afterFirst?_append (by decide) hnot, Option.getD_some]
    exact trim_digitsOf hfront hbehind

/-- **The text that is carried is read.** -/
theorem decodedText?_of_carries (h : Carries s content) :
    decodedText? (String.ofList content) = some s := by
  rw [decodedText?, payload_of_carries h, digitsOf, Base64.decode?_encode, Option.map_some,
    Utf8.decodeLossy_encode, String.ofList_toList]

/-- **A file contains a text** if its own text does. -/
theorem holds_fileContains_iff {file : Value} (now : Moment) (expected : Value)
    (hfile : file.toList = [file]) (h : file.fileText? = some s) :
    Operator.holds now file expected .fileContains = true ↔
      expected.toText.toList <:+: s.toList := by
  rw [Operator.holds_fileContains, hfile, List.any_cons, List.any_nil, Bool.or_false, h]
  exact Text.occursIn_iff

end Contents

/-- **The text of a file is the one that its content carries**, whatever else is told of the file.
So a file contains a text exactly if that is a part of what its content carries. -/
theorem file_carries_text {fields : Keyed Value} {content s : String}
    (hcontent : fields.get? "content" = some (.text content)) (h : Carries s content.toList) :
    (Value.object fields).fileText? = some s ∧
    ∀ now expected, Operator.holds now (.object fields) expected .fileContains = true ↔
      expected.toText.toList <:+: s.toList := by
  have hdecoded := decodedText?_of_carries h
  rw [String.ofList_toList] at hdecoded
  have htext : (Value.object fields).fileText? = some s := by
    rw [fileText?, field?, hcontent]
    exact hdecoded
  exact ⟨htext, fun now expected => holds_fileContains_iff now expected rfl htext⟩

/-- A file with a content among blanks behind a head. -/
def report : Keyed Value :=
  [("content", .text "data:text/plain;base64, w6nigqw=\n"), ("filename", .text "report.txt")]

/-- Letters of two and of three bytes, one byte short of a group. -/
theorem report_carries_text : (Value.object report).fileText? = some "é€" ∧
    Operator.holds ⟨0⟩ (.object report) (.text "€") .fileContains = true := by
  have hcontent : "data:text/plain;base64, w6nigqw=\n".toList =
      "data:".toList ++ "text/plain".toList ++ dataMark ++ ([' '] ++ digitsOf "é€" ++ ['\n']) := by
    decide +kernel
  have hcarries : Carries "é€" "data:text/plain;base64, w6nigqw=\n".toList := by
    rw [hcontent]
    exact .addressed (by decide +kernel) (List.all_eq_true.mp rfl) (List.all_eq_true.mp rfl)
  obtain ⟨htext, hcontains⟩ := @file_carries_text report _ _ rfl hcarries
  exact ⟨htext, (hcontains ⟨0⟩ (.text "€")).mpr (by decide +kernel)⟩

end Value

end FormChain
