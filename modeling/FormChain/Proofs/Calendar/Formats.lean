import FormChain.Calendar.Directive
import FormChain.Proofs.Text.Cutting

/-!
# What a format writes

How a format is read is said by `FormChain.Calendar.Spells`: what stands in brackets stands for
itself, where a token starts it is the longest one that counts, and every other character stands
for itself, a percent sign as well as a bracket that is never closed. This leaves no choice
(`FormChain.Calendar.spells_iff`).

A format is not written as it is read, but by way of a second language in which the percent sign
has a meaning of its own. Nothing that stands for itself can be taken for a directive there, nor
can it go on with one: its percent signs are doubled, and a directive ends where it ends, whatever
stands behind it (`FormChain.Calendar.directivesAfter?_piece`). So the second language always has
something to read, and what it writes are the pieces of the format, one after another
(`FormChain.LocalMoment.format?_spelled`).
-/

namespace FormChain

namespace Calendar

/-! ### How a format is read -/

/-- **The longest token** at the start of a text is spelled so. -/
def IsLongest (s cs : List Char) : Prop :=
  s <+: cs ∧ ∀ e ∈ tokenSpellings, e.1 <+: cs → e.1.length ≤ s.length

/-- **A format is read in pieces**, from left to right. -/
inductive Spells : List Char → List FormatPiece → Prop where
  /-- Nothing is left. -/
  | ended : Spells [] []
  /-- What stands between a bracket and the first one that closes stands for itself. -/
  | quoted {inside rest : List Char} {ps : List FormatPiece} :
    ']' ∉ inside → Spells rest ps →
    Spells ('[' :: inside ++ ']' :: rest) (.plain inside :: ps)
  /-- A token starts here. -/
  | token {s rest : List Char} {k : Token} {ps : List FormatPiece} :
    (s, k) ∈ tokenSpellings → IsLongest s (s ++ rest) → Spells rest ps →
    Spells (s ++ rest) (.token k :: ps)
  /-- No token starts here, and no bracket that is closed later. -/
  | other {c : Char} {rest : List Char} {ps : List FormatPiece} :
    (c = '[' → ']' ∉ rest) → (∀ e ∈ tokenSpellings, ¬e.1 <+: c :: rest) → Spells rest ps →
    Spells (c :: rest) (.plain [c] :: ps)

/-! ### The table of tokens -/

section Tokens

variable {cs s : List Char} {k : Token} {n : Nat}

/-- Longer tokens stand before shorter ones. -/
theorem tokenSpellings_by_length :
    tokenSpellings.Pairwise fun e e' => e'.1.length ≤ e.1.length := by
  decide

/-- No two tokens are spelled alike. -/
theorem eq_of_spelling : ∀ e ∈ tokenSpellings, ∀ e' ∈ tokenSpellings, e.1 = e'.1 → e = e' := by
  decide

/-- No token is empty, and none starts with a bracket. -/
theorem exists_spelling_cons (h : (s, k) ∈ tokenSpellings) :
    ∃ c more, s = c :: more ∧ c ≠ '[' := by
  have htable : ∀ e ∈ tokenSpellings, e.1.head?.any (· ≠ '[') = true := by decide
  obtain ⟨c, hc, hopen⟩ := Option.any_eq_true .. |>.mp (htable _ h)
  obtain ⟨more, hmore⟩ := List.head?_eq_some_iff.mp hc
  exact ⟨c, more, hmore, of_decide_eq_true hopen⟩

theorem tokenAt?_eq_none_iff : tokenAt? cs = none ↔ ∀ e ∈ tokenSpellings, ¬e.1 <+: cs := by
  simp [tokenAt?]

/-- What is found in the table is the longest token: those before it do not fit, and those behind
it are no longer. -/
theorem exists_of_tokenAt? (h : tokenAt? cs = some (n, k)) :
    ∃ s, (s, k) ∈ tokenSpellings ∧ s.length = n ∧ IsLongest s cs := by
  obtain ⟨⟨s, k'⟩, hfind, hpair⟩ := Option.map_eq_some_iff.mp h
  obtain ⟨rfl, rfl⟩ := Prod.mk.inj hpair
  obtain ⟨hfits, before, behind, htable, hbefore⟩ := List.find?_eq_some_iff_append.mp hfind
  have hsorted := tokenSpellings_by_length
  rw [htable, List.pairwise_append, List.pairwise_cons] at hsorted
  refine ⟨s, List.mem_of_find?_eq_some hfind, rfl, List.isPrefixOf_iff_prefix.mp hfits,
    fun e he hprefix => ?_⟩
  rw [htable, List.mem_append, List.mem_cons] at he
  rcases he with he | rfl | he
  · have hnot : (!e.1.isPrefixOf cs) = true := hbefore e he
    rw [List.isPrefixOf_iff_prefix.mpr hprefix] at hnot
    cases hnot
  · exact Nat.le_refl _
  · exact hsorted.2.1.1 e he

/-- **The token at the start of a text** is the longest one. -/
theorem tokenAt?_eq_some_iff : tokenAt? cs = some (n, k) ↔
    ∃ s, (s, k) ∈ tokenSpellings ∧ s.length = n ∧ IsLongest s cs := by
  refine ⟨exists_of_tokenAt?, ?_⟩
  rintro ⟨s, hs, rfl, hprefix, hlongest⟩
  cases h : tokenAt? cs with
  | none => exact absurd hprefix (tokenAt?_eq_none_iff.mp h _ hs)
  | some found =>
    obtain ⟨s', hs', hlength, hprefix', hlongest'⟩ := exists_of_tokenAt? h
    have hsame : s'.length = s.length :=
      Nat.le_antisymm (hlongest _ hs' hprefix') (hlongest' _ hs hprefix)
    obtain rfl : s' = s :=
      (List.prefix_of_prefix_length_le hprefix' hprefix (Nat.le_of_eq hsame)).eq_of_length hsame
    rw [(Prod.mk.inj (eq_of_spelling _ hs' _ hs rfl)).2.symm, hlength]

end Tokens

/-! ### Cutting from left to right -/

section Cutting

variable {cs inside rest : List Char} {ps : List FormatPiece} {c : Char}

/-- What is passed over does not matter. -/
theorem piecesAfter_drop (skip : Nat) (cs : List Char) :
    piecesAfter skip cs = piecesAfter 0 (cs.drop skip) := by
  induction skip generalizing cs with
  | zero => rfl
  | succ skip ih =>
    cases cs with
    | nil => rfl
    | cons c rest => exact ih rest

theorem not_mem_of_uncut (h : (if c = '[' then Text.cutFirst? ']' rest else none) = none) :
    c = '[' → ']' ∉ rest := by
  rintro rfl hmem
  obtain ⟨inside, behind, hrest, hinside⟩ := List.eq_append_cons_of_mem hmem
  rw [if_pos rfl, Text.cutFirst?_eq_some_iff.mpr ⟨hrest, hinside⟩] at h
  cases h

/-- What stands in brackets is one piece. -/
theorem piecesAfter_quoted (h : ']' ∉ inside) : piecesAfter 0 ('[' :: inside ++ ']' :: rest) =
    .plain inside :: piecesAfter 0 rest := by
  have hcut : Text.cutFirst? ']' (inside ++ ']' :: rest) = some (inside, rest) :=
    Text.cutFirst?_eq_some_iff.mpr ⟨rfl, h⟩
  have hdrop : (inside ++ ']' :: rest).drop (inside.length + 1) = rest := by simp
  rw [List.cons_append, piecesAfter, if_pos rfl, hcut]
  change FormatPiece.plain inside :: piecesAfter (inside.length + 1) _ = _
  rw [piecesAfter_drop, hdrop]

/-- Where no bracket is closed, the first piece is a token or a character. -/
theorem piecesAfter_unquoted (h : c = '[' → ']' ∉ rest) : piecesAfter 0 (c :: rest) =
    match tokenAt? (c :: rest) with
    | some (n, k) => .token k :: piecesAfter (n - 1) rest
    | none => .plain [c] :: piecesAfter 0 rest := by
  have hcut : (if c = '[' then Text.cutFirst? ']' rest else none) = none := by
    split
    case isTrue hc => exact Text.cutFirst?_of_not_mem (h hc)
    case isFalse => rfl
  cases htoken : tokenAt? (c :: rest) <;> simp only [piecesAfter, hcut, htoken]

/-- **What a format is cut into** is how it is read. -/
theorem spells_piecesAfter (skip : Nat) (cs : List Char) :
    Spells (cs.drop skip) (piecesAfter skip cs) := by
  induction skip, cs using piecesAfter.induct with
  | case1 skip =>
    rw [List.drop_nil, piecesAfter]
    exact .ended
  | case2 skip c rest ih => exact ih
  | case3 c rest inside behind hcut ih =>
    obtain ⟨rfl, hcut⟩ : c = '[' ∧ Text.cutFirst? ']' rest = some (inside, behind) := by
      split at hcut
      case isTrue hc => exact ⟨hc, hcut⟩
      case isFalse => cases hcut
    obtain ⟨rfl, hinside⟩ := Text.cutFirst?_eq_some_iff.mp hcut
    have hdrop : (inside ++ ']' :: behind).drop (inside.length + 1) = behind := by simp
    rw [hdrop, piecesAfter_drop, hdrop] at ih
    rw [List.drop_zero, ← List.cons_append, piecesAfter_quoted hinside]
    exact .quoted hinside ih
  | case4 c rest hcut n k htoken ih =>
    rw [List.drop_zero, piecesAfter_unquoted (not_mem_of_uncut hcut), htoken]
    -- the token begins with the first character, and cutting goes on behind it
    obtain ⟨s, hs, rfl, hlongest⟩ := exists_of_tokenAt? htoken
    obtain ⟨d, more, rfl, -⟩ := exists_spelling_cons hs
    obtain ⟨behind, hbehind⟩ := hlongest.1
    rw [List.cons_append] at hbehind
    obtain ⟨rfl, rfl⟩ := List.cons.inj hbehind
    have hdrop : (more ++ behind).drop ((d :: more).length - 1) = behind := by simp
    change Spells _ (.token k :: piecesAfter ((d :: more).length - 1) (more ++ behind))
    rw [piecesAfter_drop, hdrop] at ih ⊢
    exact .token hs hlongest ih
  | case5 c rest hcut htoken ih =>
    rw [List.drop_zero, piecesAfter_unquoted (not_mem_of_uncut hcut), htoken]
    exact .other (not_mem_of_uncut hcut) (tokenAt?_eq_none_iff.mp htoken) ih

/-- A format is read in no other way. -/
theorem Spells.piecesAfter_eq (h : Spells cs ps) : piecesAfter 0 cs = ps := by
  induction h with
  | ended => rfl
  | quoted hinside _ ih => rw [piecesAfter_quoted hinside, ih]
  | @token s rest k ps hs hlongest _ ih =>
    obtain ⟨c, more, rfl, hopen⟩ := exists_spelling_cons hs
    have htoken := tokenAt?_eq_some_iff.mpr ⟨_, hs, rfl, hlongest⟩
    have hdrop : (more ++ rest).drop more.length = rest := by simp
    rw [List.cons_append] at htoken ⊢
    rw [piecesAfter_unquoted fun h => absurd h hopen, htoken]
    change FormatPiece.token k :: piecesAfter more.length _ = _
    rw [piecesAfter_drop, hdrop, ih]
  | other hopen hnone _ ih =>
    rw [piecesAfter_unquoted hopen, tokenAt?_eq_none_iff.mpr hnone]
    exact congrArg _ ih

/-- **There is one way to read a format.** -/
theorem spells_iff {format : String} : Spells format.toList ps ↔ ps = formatPieces format :=
  ⟨fun h => h.piecesAfter_eq.symm, fun h => h ▸ spells_piecesAfter 0 format.toList⟩

end Cutting

/-! ### Directives -/

section Directives

variable {cs rest : List Char}

theorem directivesAfter?_drop (skip : Nat) (cs : List Char) :
    directivesAfter? skip cs = directivesAfter? 0 (cs.drop skip) := by
  induction skip generalizing cs with
  | zero => rfl
  | succ skip ih =>
    cases cs with
    | nil => rfl
    | cons c rest => exact ih rest

/-- The pieces that are read of what a piece is put as: of a text every character alone. -/
def FormatPiece.split : FormatPiece → List FormatPiece
  | .plain cs => cs.map fun c => .plain [c]
  | .token t => [.token t]

/-- **A directive is read back** as what it was put for, whatever stands behind it. -/
theorem directiveAt?_directive (k : Token) (rest : List Char) :
    directiveAt? (k.directive.toList ++ rest) = some (k.directive.toList.length, .token k) := by
  cases k <;> rfl

/-- A character that stands for itself is read back, whatever stands behind it. -/
theorem directivesAfter?_escaped (cs rest : List Char) : directivesAfter? 0 (escaped cs ++ rest) =
    (directivesAfter? 0 rest).map ((FormatPiece.plain cs).split ++ ·) := by
  induction cs with
  | nil => exact (Option.map_id' (x := directivesAfter? 0 rest)).symm
  | cons c cs ih =>
    have hcons : escaped (c :: cs) ++ rest =
        (if c = '%' then ['%', '%'] else [c]) ++ (escaped cs ++ rest) := by
      rw [escaped, List.flatMap_cons, List.append_assoc, escaped]
    rw [hcons]
    split
    case isTrue hc =>
      subst hc
      change (directivesAfter? 0 (escaped cs ++ rest)).map (FormatPiece.plain ['%'] :: ·) = _
      rw [ih, Option.map_map]
      rfl
    case isFalse hc =>
      rw [List.singleton_append, directivesAfter?, if_neg hc, ih, Option.map_map]
      rfl

/-- **A piece is read back**, and what stands behind it is not touched. -/
theorem directivesAfter?_piece (p : FormatPiece) (rest : List Char) :
    directivesAfter? 0 (p.asDirectives ++ rest) = (directivesAfter? 0 rest).map (p.split ++ ·) := by
  cases p with
  | plain cs => exact directivesAfter?_escaped cs rest
  | token k =>
    have hdrop : (k.directive.toList ++ rest).drop k.directive.toList.length = rest := by simp
    rw [FormatPiece.asDirectives, List.cons_append, directivesAfter?, if_pos rfl,
      directiveAt?_directive, Option.bind_some]
    change (directivesAfter? k.directive.toList.length _).map (FormatPiece.token k :: ·) = _
    rw [directivesAfter?_drop, hdrop]
    rfl

/-- **All pieces are read back.** -/
theorem directivesAfter?_pieces (ps : List FormatPiece) :
    directivesAfter? 0 (ps.flatMap (·.asDirectives)) = some (ps.flatMap (·.split)) := by
  induction ps with
  | nil => rfl
  | cons p rest ih =>
    rw [List.flatMap_cons, directivesAfter?_piece, ih, List.flatMap_cons]
    rfl

/-- A text is written as its characters are, one after another. -/
theorem join_split (t : LocalMoment) (ps : List FormatPiece) :
    String.join ((ps.flatMap (·.split)).map (·.text t)) = String.join (ps.map (·.text t)) := by
  induction ps with
  | nil => rfl
  | cons p rest ih =>
    rw [List.flatMap_cons, List.map_append, String.join_append, ih, List.map_cons, String.join_cons]
    congr 1
    cases p with
    | token k => exact String.join_cons.trans String.append_empty
    | plain cs =>
      refine String.ext ?_
      rw [String.toList_join, FormatPiece.split, FormatPiece.text, String.toList_ofList,
        List.map_map, List.flatMap_map]
      simp [FormatPiece.text]

end Directives

end Calendar

open Calendar

/-- What is written by way of directives are the pieces of a format. -/
theorem LocalMoment.format?_eq (t : LocalMoment) (format : String) :
    t.format? format = some (t.format format) := by
  rw [LocalMoment.format?, writeDirectives?, asDirectives, directivesAfter?_pieces, Option.map_some,
    join_split]
  rfl

/-- **Every format is written**, and what is written are its pieces in their order: what stands in
brackets, of each longest token what it stands for in the moment, and every other character. A
format is read in one way only. -/
theorem LocalMoment.format?_spelled (t : LocalMoment) (format : String) :
    ∃ pieces, (∀ ps, Spells format.toList ps ↔ ps = pieces) ∧
      t.format? format = some (String.join (pieces.map fun
        | .plain text => String.ofList text
        | .token k => k.text t)) :=
  ⟨formatPieces format, fun _ => spells_iff, t.format?_eq format⟩

-- where clocks are nine hours and a half ahead, the last second before 1970 lies in its first day
example : LocalMoment.format? { moment := ⟨-1000⟩, offset := 34200 } "[d] D, HH:mm:ss ZZ Z X%" =
    some "d 1, 09:29:59 +0930 +09:30 -1%" := by
  decide +kernel

end FormChain
