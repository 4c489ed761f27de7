import FormChain.Proofs.Template.Plain

/-!
# How a template is cut

What counts as a reference is said by a pattern, `\{\{\s*([^{}]+?)\s*\}\}`: two braces, as many
blanks as possible, as few characters as possible that are no braces but at least one, as many
blanks as possible, two braces. The characters in the middle are the body. Where the pattern fits
a text in several ways, an earlier part has its wish before a later one
(`FormChain.Template.Match.Precedes`), and what counts is the way that precedes all others
(`FormChain.Template.Match.IsFirst`).

The ways differ in how they part what stands between the braces, and in nothing else. So it is
enough to look for the braces and to trim: that finds the first way wherever there is one
(`FormChain.Template.exists_isFirst`), also where there are only blanks between the braces, the
last of which is the body.

A template is cut from left to right, a character that no reference starts with being a piece of
its own (`FormChain.Template.Cuts`). This leaves no choice, and is how `FormChain.Template.pieces`
cuts (`FormChain.Template.cuts_iff`).
-/

namespace FormChain

namespace Template

/-! ### Ways to fit the pattern -/

/-- **A way to fit the pattern** to the start of a text, by what its parts are fitted to. -/
structure Match where
  /-- The blanks behind the opening braces. -/
  opening : List Char
  /-- The body. -/
  body : List Char
  /-- The blanks before the closing braces. -/
  closing : List Char
  /-- What the text goes on with behind these. -/
  rest : List Char

namespace Match

/-- What stands between the braces. -/
def inside (m : Match) : List Char := m.opening ++ m.body ++ m.closing

/-- All that the pattern is fitted to. -/
def source (m : Match) : List Char := '{' :: '{' :: m.inside ++ ['}', '}']

/-- **The pattern is fitted** to the start of a text in this way. -/
structure Fits (m : Match) (cs : List Char) : Prop where
  /-- The text starts so. -/
  text : cs = m.source ++ m.rest
  /-- There are blanks in front. -/
  opening : ∀ c ∈ m.opening, isBlank c = true
  /-- There is a body. -/
  body_ne : m.body ≠ []
  /-- No brace is in it. -/
  body : ∀ c ∈ m.body, isBrace c = false
  /-- There are blanks behind it. -/
  closing : ∀ c ∈ m.closing, isBlank c = true

instance (m : Match) (cs : List Char) : Decidable (m.Fits cs) :=
  decidable_of_iff (cs = m.source ++ m.rest ∧ m.opening.all isBlank = true ∧ m.body ≠ [] ∧
      m.body.all (!isBrace ·) = true ∧ m.closing.all isBlank = true) <| by
    simp only [List.all_eq_true, Bool.not_eq_true']
    exact ⟨fun ⟨ht, ho, hne, hb, hc⟩ => ⟨ht, ho, hne, hb, hc⟩,
      fun h => ⟨h.text, h.opening, h.body_ne, h.body, h.closing⟩⟩

/-- **One way precedes another** if the first part that they differ in is longer in it, in the
case of blanks, or shorter, in the case of the body. -/
structure Precedes (m m' : Match) : Prop where
  /-- As many blanks as possible. -/
  opening : m'.opening.length ≤ m.opening.length
  /-- Then as few characters as possible. -/
  body : m'.opening.length = m.opening.length → m.body.length ≤ m'.body.length
  /-- Then as many blanks as possible. -/
  closing : m'.opening.length = m.opening.length → m.body.length = m'.body.length →
    m'.closing.length ≤ m.closing.length

/-- **The way that counts**: it precedes all others. -/
structure IsFirst (m : Match) (cs : List Char) : Prop where
  /-- It is one. -/
  fits : m.Fits cs
  /-- It precedes the others. -/
  precedes : ∀ m' : Match, m'.Fits cs → m.Precedes m'

end Match

section Matches

variable {cs inside : List Char} {m m' : Match}

theorem isBrace_of_isBlank {c : Char} (h : isBlank c = true) : isBrace c = false := by
  rw [isBrace, Bool.or_eq_false_iff, decide_eq_false_iff_not, decide_eq_false_iff_not]
  constructor <;> rintro rfl <;> revert h <;> decide

/-- No brace is inside. -/
theorem Match.Fits.isBrace_inside (h : m.Fits cs) : ∀ c ∈ m.inside, isBrace c = false := by
  simp only [Match.inside, List.forall_mem_append]
  exact ⟨⟨fun c hc => isBrace_of_isBlank (h.opening c hc), h.body⟩,
    fun c hc => isBrace_of_isBlank (h.closing c hc)⟩

/-- **Where the pattern can be fitted, there is something that looks like a reference.** -/
theorem Match.Fits.referenceAt? (h : m.Fits cs) : referenceAt? cs = some m.inside := by
  refine referenceAt?_eq_some_iff.mpr ⟨?_, h.isBrace_inside, m.rest, ?_⟩
  · simp [Match.inside, h.body_ne]
  · simp [h.text, Match.source]

/-- All ways are inside the same braces. -/
theorem Match.Fits.inside_eq (h : m.Fits cs) (h' : m'.Fits cs) : m.inside = m'.inside :=
  Option.some.inj (h.referenceAt?.symm.trans h'.referenceAt?)

/-- Behind all ways stands the same. -/
theorem Match.Fits.rest_eq (h : m.Fits cs) (h' : m'.Fits cs) : m.rest = m'.rest := by
  have htext : m.source ++ m.rest = m'.source ++ m'.rest := h.text.symm.trans h'.text
  rw [Match.source, Match.source, h.inside_eq h'] at htext
  exact List.append_cancel_left htext

/-- **There is only one first way.** -/
theorem Match.IsFirst.unique (h : m.IsFirst cs) (h' : m'.IsFirst cs) : m = m' := by
  have hopening : m'.opening.length = m.opening.length :=
    Nat.le_antisymm (h.precedes m' h'.fits).opening (h'.precedes m h.fits).opening
  have hbody : m.body.length = m'.body.length :=
    Nat.le_antisymm ((h.precedes m' h'.fits).body hopening)
      ((h'.precedes m h.fits).body hopening.symm)
  have hinside := h.fits.inside_eq h'.fits
  rw [Match.inside, Match.inside, List.append_assoc, List.append_assoc] at hinside
  obtain ⟨hfirst, htail⟩ := List.append_inj hinside hopening.symm
  obtain ⟨hsecond, hthird⟩ := List.append_inj htail hbody
  have hrest := h.fits.rest_eq h'.fits
  cases m
  cases m'
  simp_all

/-! ### The way that counts -/

/-- A way with one character as its body and none behind it is the first: in no other way are
there more blanks in front. -/
theorem Match.Fits.isFirst_of_single (h : m.Fits cs) (hbody : m.body.length = 1)
    (hclosing : m.closing = []) : m.IsFirst cs := by
  refine ⟨h, fun m' h' => ?_⟩
  have hlength := congrArg List.length (h.inside_eq h')
  simp only [Match.inside, List.length_append] at hlength
  have hbody' := List.length_pos_iff.mpr h'.body_ne
  have hclosing' : m.closing.length = 0 := List.length_eq_zero_iff.mpr hclosing
  constructor <;> omega

/-- A way whose body neither starts nor ends with a blank is the first. -/
theorem Match.Fits.isFirst_of_trimmed (h : m.Fits cs) (htrim : Text.trim m.body = m.body) :
    m.IsFirst cs := by
  have hhead (c : Char) (hc : m.body.head? = some c) : isBlank c = false :=
    Text.isBlank_head_trim (htrim ▸ hc)
  have hlast (c : Char) (hc : m.body.getLast? = some c) : isBlank c = false :=
    Text.isBlank_getLast_trimEnd _ c (htrim ▸ hc)
  refine ⟨h, fun m' h' => ?_⟩
  have hinside := h'.inside_eq h
  have hlength := congrArg List.length hinside
  simp only [Match.inside, List.length_append] at hlength
  have hopening : m'.opening.length ≤ m.opening.length := by
    obtain ⟨c, more, hc⟩ := List.exists_cons_of_ne_nil h.body_ne
    refine @Text.length_le_of_blank_start m.opening m'.opening (more ++ m.closing)
      (m'.body ++ m'.closing) c ?_ h'.opening (hhead c (by simp [hc]))
    simpa [Match.inside, hc] using hinside
  have hclosing : m'.closing.length ≤ m.closing.length := by
    obtain ⟨more, c, hc⟩ := List.eq_nil_or_concat m.body |>.resolve_left h.body_ne
    refine @Text.length_le_of_blank_end (m.opening ++ more) (m'.opening ++ m'.body) m.closing
      m'.closing c ?_ h'.closing (hlast c (by simp [hc]))
    simpa [Match.inside, hc] using hinside
  constructor <;> omega

/-- **What looks like a reference is one**: the pattern can be fitted, and the body in the first
way is what stands between the braces without the blanks around it. -/
theorem exists_isFirst (h : referenceAt? cs = some inside) :
    ∃ m : Match, m.IsFirst cs ∧ m.inside = inside ∧ m.body = bodyOf inside := by
  obtain ⟨hne, hbrace, rest, rfl⟩ := referenceAt?_eq_some_iff.mp h
  obtain ⟨front, behind, hinside, hfront, hbehind⟩ := Text.exists_append_trim inside
  cases htrim : Text.trim inside with
  | nil =>
    -- all is blank, and the last blank is left for the body
    obtain ⟨init, last, hinit⟩ := List.eq_nil_or_concat inside |>.resolve_left hne
    rw [List.concat_eq_append] at hinit
    subst hinit
    rw [htrim, List.append_nil] at hinside
    have hblank : ∀ c ∈ init ++ [last], isBlank c = true := by
      rw [hinside]
      exact List.forall_mem_append.mpr ⟨hfront, hbehind⟩
    have hfits : (⟨init, [last], [], rest⟩ : Match).Fits
        ('{' :: '{' :: (init ++ [last] ++ '}' :: '}' :: rest)) :=
      { text := by simp [Match.source, Match.inside]
        opening := fun c hc => hblank c (List.mem_append_left _ hc)
        body_ne := List.cons_ne_nil _ _
        body := fun c hc => hbrace c (List.mem_append_right _ hc)
        closing := nofun }
    exact ⟨_, hfits.isFirst_of_single rfl rfl, List.append_nil _, by simp [bodyOf, htrim]⟩
  | cons c more =>
    have hbody : bodyOf inside = Text.trim inside := by rw [bodyOf, htrim]
    have hfits : (⟨front, Text.trim inside, behind, rest⟩ : Match).Fits
        ('{' :: '{' :: (inside ++ '}' :: '}' :: rest)) :=
      { text := by simp [Match.source, Match.inside, ← hinside]
        opening := hfront
        body_ne := by simp [htrim]
        body := fun c hc => hbrace c (Text.mem_of_mem_trim hc)
        closing := hbehind }
    exact ⟨_, hfits.isFirst_of_trimmed Text.trim_trim, hinside.symm, hbody.symm⟩

end Matches

/-! ### Cutting from left to right -/

/-- **A text is cut into pieces** from left to right: wherever the pattern can be fitted there is
a reference, and its body is that of the first way; any other character stands for itself. -/
inductive Cuts : List Char → List Piece → Prop where
  /-- Nothing is left. -/
  | ended : Cuts [] []
  /-- No reference starts here. -/
  | plain {c : Char} {cs : List Char} {ps : List Piece} :
    (∀ m : Match, ¬m.Fits (c :: cs)) → Cuts cs ps → Cuts (c :: cs) (.plain c :: ps)
  /-- A reference starts here, and cutting goes on behind it. -/
  | reference {cs : List Char} {ps : List Piece} {m : Match} :
    m.IsFirst cs → Cuts m.rest ps → Cuts cs (.reference m.source m.body :: ps)

section Cutting

variable {cs : List Char} {ps qs : List Piece}

/-- **There is only one way to cut a text.** -/
theorem Cuts.unique (h : Cuts cs ps) (h' : Cuts cs qs) : ps = qs := by
  induction h generalizing qs with
  | ended =>
    cases h' with
    | ended => rfl
    | reference hfirst _ => exact absurd hfirst.fits.text nofun
  | plain hnone _ ih =>
    cases h' with
    | plain _ hrest => rw [ih hrest]
    | reference hfirst _ => exact absurd hfirst.fits (hnone _)
  | reference hfirst _ ih =>
    cases h' with
    | ended => exact absurd hfirst.fits.text nofun
    | plain hnone _ => exact absurd hfirst.fits (hnone _)
    | reference hfirst' hrest =>
      obtain rfl := hfirst.unique hfirst'
      rw [ih hrest]

/-- Nothing is lost by cutting. -/
theorem Cuts.sources (h : Cuts cs ps) : ps.flatMap Piece.source = cs := by
  induction h with
  | ended => rfl
  | plain _ _ ih => rw [List.flatMap_cons, ih]; rfl
  | reference hfirst _ ih => rw [List.flatMap_cons, ih]; exact hfirst.fits.text.symm

/-- What is left behind some characters is cut as the definition says. -/
theorem cuts_piecesAfter (skip : Nat) (cs : List Char) :
    Cuts (cs.drop skip) (piecesAfter skip cs) := by
  induction skip, cs using piecesAfter.induct with
  | case1 skip =>
    rw [List.drop_nil, piecesAfter]
    exact .ended
  | case2 skip c rest ih =>
    rw [List.drop_succ_cons, piecesAfter]
    exact ih
  | case3 c rest inside hlike ih =>
    obtain ⟨m, hfirst, hinside, hbody⟩ := exists_isFirst hlike
    have hrest : rest.drop (inside.length + 3) = m.rest := by
      have htext := congrArg (List.drop (inside.length + 4)) hfirst.fits.text
      rw [List.drop_succ_cons, List.drop_left' (by simp [Match.source, hinside])] at htext
      exact htext
    rw [List.drop_zero, piecesAfter, hlike]
    rw [hrest] at ih
    have hcuts := Cuts.reference hfirst ih
    rwa [hbody, Match.source, hinside] at hcuts
  | case4 c rest hlike ih =>
    rw [List.drop_zero, piecesAfter, hlike]
    refine .plain (fun m hfits => ?_) ih
    rw [hfits.referenceAt?] at hlike
    cases hlike

/-- **How a template is cut.** -/
theorem cuts_iff {template : String} : Cuts template.toList ps ↔ ps = pieces template := by
  have hpieces : Cuts template.toList (pieces template) := cuts_piecesAfter 0 template.toList
  exact ⟨fun h => h.unique hpieces, fun h => h ▸ hpieces⟩

/-- **A text is one single reference** just if the pattern can be fitted to all of it. -/
theorem cuts_single_iff {body : List Char} : Cuts cs [.reference cs body] ↔
    ∃ m : Match, m.IsFirst cs ∧ m.rest = [] ∧ m.body = body := by
  constructor
  · intro h
    generalize hps : [Piece.reference cs body] = ps at h
    cases h with
    | ended => cases hps
    | plain => cases hps
    | @reference _ ps m hfirst hrest =>
      obtain ⟨hpiece, rfl⟩ := List.cons.inj hps
      exact ⟨m, hfirst, hrest.sources.symm, (Piece.reference.inj hpiece).2.symm⟩
  · rintro ⟨m, hfirst, hrest, rfl⟩
    have htext : cs = m.source := by rw [hfirst.fits.text, hrest, List.append_nil]
    have hcuts := Cuts.reference hfirst (hrest ▸ Cuts.ended)
    rwa [← htext] at hcuts

/-- The body of a template that is one single reference, blanks around it aside. -/
theorem soleReference?_eq_some_iff {template : String} {body : List Char} :
    soleReference? template = some body ↔
      Cuts (Text.trim template.toList) [.reference (Text.trim template.toList) body] := by
  have hcuts : Cuts (Text.trim template.toList) (piecesAfter 0 (Text.trim template.toList)) :=
    cuts_piecesAfter 0 _
  rw [soleReference?]
  constructor
  · intro h
    split at h
    case h_1 source body' hsole =>
      obtain rfl := Option.some.inj h
      rw [hsole] at hcuts
      have hsource : source ++ [] = Text.trim template.toList := hcuts.sources
      rw [List.append_nil] at hsource
      rwa [hsource] at hcuts
    case h_2 => cases h
  · intro h
    rw [hcuts.unique h]

end Cutting

end Template

end FormChain
