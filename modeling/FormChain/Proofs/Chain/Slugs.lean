import FormChain.Chain.Transform
import FormChain.Proofs.Text.Cutting
import FormChain.Proofs.Unicode.Lowering

/-!
# Slugs

A slug is made in one pass over a text in lower case, which looks back at whether it has put a
hyphen last. What it puts behind a letter or digit does not depend on anything before
(`FormChain.Slug.hyphenated_append_cons`), so for two that follow each other only what stood between
them counts (`FormChain.Slug.hyphenated_gap`). Two hyphens never come together, as none is put
behind one (`FormChain.Slug.hyphenated_apart`), and those at the two ends are taken away in the end.

What a slug is can be told without the pass (`FormChain.Slug.IsSlugOf`), and it is then a slug of
itself: there is nothing in it that the pass would change (`FormChain.Slug.hyphenated_eq_self`), and
a letter in lower case stays as it is.

Main statement: what is made of a text is a slug of the text in lower case, and nothing more is made
of it (`FormChain.Slug.apply_slug`).
-/

namespace FormChain

namespace Slug

open Unicode (isAlphanumeric lowerChar lowerChar_of_mem_lowerChar)

/-- **What a slug of a text is.** -/
structure IsSlugOf (cs slug : List Char) : Prop where
  /-- It has letters, digits and hyphens only. -/
  plain : ∀ c ∈ slug, isAlphanumeric c = true ∨ c = '-'
  /-- It does not begin with a hyphen. -/
  head : slug.head? ≠ some '-'
  /-- It does not end with a hyphen. -/
  last : slug.getLast? ≠ some '-'
  /-- No two hyphens stand side by side. -/
  apart : ¬ ['-', '-'] <:+: slug
  /-- The letters and digits of the text are all there, in the same order. -/
  kept : slug.filter isAlphanumeric = cs.filter isAlphanumeric
  /-- Between a letter or digit and the next one there is a hyphen, if they were not side by side,
  and nothing else. -/
  parted : ∀ {front gap behind : List Char} {a b : Char}, cs = front ++ a :: (gap ++ b :: behind) →
    isAlphanumeric a = true → isAlphanumeric b = true → (∀ c ∈ gap, isAlphanumeric c = false) →
    ∃ front' behind', slug = front' ++ a :: ((if gap = [] then [] else ['-']) ++ b :: behind') ∧
      front'.filter isAlphanumeric = front.filter isAlphanumeric ∧
      behind'.filter isAlphanumeric = behind.filter isAlphanumeric

section Hyphens

variable {a b c : Char} {cs front gap behind slug : List Char} {behindHyphen : Bool}

theorem not_isAlphanumeric_hyphen : isAlphanumeric '-' = false := by
  decide

theorem ne_hyphen (h : isAlphanumeric c = true) : c ≠ '-' := by
  rintro rfl
  exact absurd h (by rw [not_isAlphanumeric_hyphen]; decide)

/-! ### What the pass puts -/

theorem mem_of_mem_hyphenated (h : c ∈ hyphenated behindHyphen cs) :
    isAlphanumeric c = true ∨ c = '-' := by
  induction cs generalizing behindHyphen with
  | nil => cases h
  | cons d rest ih =>
    rw [hyphenated] at h
    split at h
    case isTrue hd =>
      rcases List.mem_cons.mp h with rfl | h
      · exact Or.inl hd
      · exact ih h
    case isFalse =>
      split at h
      · exact ih h
      · exact (List.mem_cons.mp h).elim Or.inr ih

theorem filter_hyphenated :
    (hyphenated behindHyphen cs).filter isAlphanumeric = cs.filter isAlphanumeric := by
  induction cs generalizing behindHyphen with
  | nil => rfl
  | cons d rest ih =>
    rw [hyphenated]
    split
    case isTrue hd => rw [List.filter_cons_of_pos hd, List.filter_cons_of_pos hd, ih]
    case isFalse hd =>
      rw [List.filter_cons_of_neg hd]
      split
      · exact ih
      · rw [List.filter_cons_of_neg (by simp [not_isAlphanumeric_hyphen]), ih]

/-- **Behind a letter or digit** nothing counts of what was before. -/
theorem hyphenated_append_cons (ha : isAlphanumeric a = true) :
    hyphenated behindHyphen (front ++ a :: behind) =
      hyphenated behindHyphen front ++ a :: hyphenated false behind := by
  induction front generalizing behindHyphen with
  | nil => exact if_pos ha
  | cons d rest ih =>
    rw [List.cons_append, hyphenated, hyphenated]
    split
    · rw [ih]; rfl
    · split
      · exact ih
      · rw [ih]; rfl

/-- Behind a hyphen there is nothing of a gap. -/
theorem hyphenated_behind_hyphen (hgap : ∀ c ∈ gap, isAlphanumeric c = false) :
    hyphenated true gap = [] := by
  induction gap with
  | nil => rfl
  | cons d rest ih =>
    obtain ⟨hd, hrest⟩ := List.forall_mem_cons.mp hgap
    rw [hyphenated, if_neg (by simp [hd]), if_pos rfl, ih hrest]

/-- **A gap becomes a hyphen.** -/
theorem hyphenated_gap (hgap : ∀ c ∈ gap, isAlphanumeric c = false) :
    hyphenated false gap = if gap = [] then [] else ['-'] := by
  cases gap with
  | nil => rfl
  | cons d rest =>
    obtain ⟨hd, hrest⟩ := List.forall_mem_cons.mp hgap
    rw [hyphenated, if_neg (by simp [hd]), if_neg Bool.false_ne_true,
      hyphenated_behind_hyphen hrest, if_neg (List.cons_ne_nil _ _)]

/-! ### Hyphens side by side -/

theorem apart_cons_iff : ¬ ['-', '-'] <:+: c :: cs ↔
    (c = '-' → cs.head? ≠ some '-') ∧ ¬ ['-', '-'] <:+: cs := by
  have hstart : ['-', '-'] <+: c :: cs ↔ c = '-' ∧ cs.head? = some '-' := by
    rw [List.cons_prefix_cons, eq_comm]
    cases cs with
    | nil => simp
    | cons d rest => simp [eq_comm]
  rw [List.infix_cons_iff, hstart, not_or, not_and]

/-- **No two hyphens are put side by side**, and none behind one that was put last. -/
theorem hyphenated_apart : ¬ ['-', '-'] <:+: hyphenated behindHyphen cs ∧
    (behindHyphen = true → (hyphenated behindHyphen cs).head? ≠ some '-') := by
  induction cs generalizing behindHyphen with
  | nil => simp [hyphenated]
  | cons d rest ih =>
    rw [hyphenated]
    split
    case isTrue hd =>
      refine ⟨apart_cons_iff.mpr ⟨fun heq => absurd heq (ne_hyphen hd), ih.1⟩, fun _ h => ?_⟩
      exact ne_hyphen hd (Option.some.inj h)
    case isFalse =>
      split
      case isTrue => exact ⟨ih.1, fun _ => ih.2 rfl⟩
      case isFalse hnone =>
        exact ⟨apart_cons_iff.mpr ⟨fun _ => ih.2 rfl, ih.1⟩, fun h => absurd h hnone⟩

/-- **The pass leaves a text as it is** that has hyphens only where it would put them. -/
theorem hyphenated_eq_self (hplain : ∀ c ∈ cs, isAlphanumeric c = true ∨ c = '-')
    (hapart : ¬ ['-', '-'] <:+: cs) (hhead : behindHyphen = true → cs.head? ≠ some '-') :
    hyphenated behindHyphen cs = cs := by
  induction cs generalizing behindHyphen with
  | nil => rfl
  | cons d rest ih =>
    obtain ⟨hd, hrest⟩ := List.forall_mem_cons.mp hplain
    obtain ⟨hnext, hbehind⟩ := apart_cons_iff.mp hapart
    rw [hyphenated]
    rcases hd with hd | rfl
    · rw [if_pos hd, ih hrest hbehind fun h => absurd h Bool.false_ne_true]
    · have hnone : ¬ behindHyphen = true := fun h => hhead h rfl
      rw [if_neg (by simp [not_isAlphanumeric_hyphen]), if_neg hnone,
        ih hrest hbehind fun _ => hnext rfl]

end Hyphens

/-! ### Slugs -/

/-- Hyphens are no letters or digits, so taking them away takes none of those. -/
theorem not_isAlphanumeric_of_hyphen (c : Char) (h : (c == '-') = true) :
    isAlphanumeric c = false := by
  rw [beq_iff_eq.mp h, not_isAlphanumeric_hyphen]

section Shape

variable {a : Char} {cs front behind slug : List Char}

/-- No hyphen is taken away from between letters and digits. -/
theorem strip_append_cons (ha : isAlphanumeric a = true) : Text.strip '-' (front ++ a :: behind) =
    Text.stripStart '-' front ++ a :: Text.stripEnd '-' behind :=
  Text.peeled_append_cons (beq_eq_false_iff_ne.mpr (ne_hyphen ha))

theorem stripEnd_append_cons (ha : isAlphanumeric a = true) :
    Text.stripEnd '-' (front ++ a :: behind) = front ++ a :: Text.stripEnd '-' behind :=
  Text.reverse_dropWhile_append_cons (beq_eq_false_iff_ne.mpr (ne_hyphen ha))

/-- **What is made of a text is a slug of it.** -/
theorem isSlugOf_strip : IsSlugOf cs (Text.strip '-' (hyphenated false cs)) where
  plain c hc := mem_of_mem_hyphenated (Text.peeled_isInfix.mem hc)
  head h := absurd (Text.head_peeled h) (by decide)
  last h := absurd (Text.last_peeled h) (by decide)
  apart h := hyphenated_apart.1 (h.trans Text.peeled_isInfix)
  kept := (Text.filter_peeled not_isAlphanumeric_of_hyphen).trans filter_hyphenated
  parted := by
    intro front gap behind a b hcs ha hb hgap
    refine ⟨Text.stripStart '-' (hyphenated false front),
      Text.stripEnd '-' (hyphenated false behind), ?_, ?_, ?_⟩
    · rw [hcs, hyphenated_append_cons ha, hyphenated_append_cons hb, hyphenated_gap hgap,
        strip_append_cons ha, stripEnd_append_cons hb]
    · exact (Text.filter_dropWhile not_isAlphanumeric_of_hyphen).trans filter_hyphenated
    · exact (Text.filter_reverse_dropWhile not_isAlphanumeric_of_hyphen).trans filter_hyphenated

/-- **There is nothing to change in a slug.** -/
theorem strip_of_isSlugOf (h : IsSlugOf cs slug) :
    Text.strip '-' (hyphenated false slug) = slug := by
  rw [hyphenated_eq_self h.plain h.apart fun h => absurd h Bool.false_ne_true]
  refine Text.peeled_eq_self (fun c hc => ?_) fun c hc => ?_
  · exact beq_eq_false_iff_ne.mpr fun heq => h.head (heq ▸ hc)
  · exact beq_eq_false_iff_ne.mpr fun heq => h.last (heq ▸ hc)

theorem lowered_eq_self (h : ∀ c ∈ cs, lowerChar c = [c]) : lowered cs = cs := by
  induction cs with
  | nil => rfl
  | cons c rest ih =>
    obtain ⟨hc, hrest⟩ := List.forall_mem_cons.mp h
    rw [lowered, List.flatMap_cons, hc, ← lowered, ih hrest]
    rfl

/-- The letters of a slug of a text in lower case stay as they are. -/
theorem lowered_of_isSlugOf (h : IsSlugOf (lowered cs) slug) : lowered slug = slug := by
  have hself : ∀ c ∈ slug, lowerChar c = [c] := by
    intro c hc
    rcases h.plain c hc with halpha | rfl
    · have hmem : c ∈ (lowered cs).filter isAlphanumeric :=
        h.kept ▸ List.mem_filter.mpr ⟨hc, halpha⟩
      obtain ⟨d, -, hd⟩ := List.mem_flatMap.mp (List.mem_filter.mp hmem).1
      exact lowerChar_of_mem_lowerChar hd
    · decide
  exact lowered_eq_self hself

end Shape

/-- **The slug of a text** is one of the text in lower case, and its own slug. -/
theorem apply_slug (s : String) :
    IsSlugOf (lowered s.toList) (Transform.slug.apply s).toList ∧
    Transform.slug.apply (Transform.slug.apply s) = Transform.slug.apply s := by
  have hslug : IsSlugOf (lowered s.toList) (ofText s).toList := by
    rw [ofText, String.toList_ofList]
    exact isSlugOf_strip
  refine ⟨hslug, ?_⟩
  calc ofText (ofText s)
      = String.ofList (Text.strip '-' (hyphenated false (ofText s).toList)) := by
        rw [ofText, lowered_of_isSlugOf hslug]
    _ = ofText s := by rw [strip_of_isSlugOf hslug, String.ofList_toList]

/-- What stands between two words becomes a single hyphen. -/
example : Transform.slug.apply " Notes -- of May!" = "notes-of-may" := by
  decide +kernel

end Slug

end FormChain
