import Mathlib.Data.List.TakeWhile
import FormChain.Text.Blank
import FormChain.Text.Pieces

/-!
# Cutting and trimming

Cutting a text at separators and joining the pieces are inverse to each other: the pieces of a text
join back to it (`FormChain.Text.joinPieces_pieces`), and pieces without separators are found again
(`FormChain.Text.pieces_joinPieces`). A search through a list that stops at the first element of
some kind has found it behind others that are not (`FormChain.Text.search_eq_some_iff`); so are
texts cut at their first and last separators. A text is found in another exactly if it is a part of
it (`FormChain.Text.occursIn_iff`). What holds of a line without a line feed, and of a line with one
in front of a text of which it holds, holds of all texts (`FormChain.Text.lines_induction`).

Blanks, or hyphens, are taken away at both ends of a text (`FormChain.Text.peeled`). What is left is
a part of it that has nothing more to take away, and there is nothing else around it
(`FormChain.Text.exists_append_peeled`). So a trimmed text has nothing more to trim
(`FormChain.Text.trim_trim`), is a part of the text (`FormChain.Text.trim_isInfix`), and has nothing
but blanks around it (`FormChain.Text.exists_append_trim`).
-/

namespace FormChain

namespace Text

/-! ### Cutting at separators -/

section Pieces

variable {sep c : Char} {p cs : List Char} {ps : List (List Char)}

/-- There is a first piece, and one character more in front goes to it or ends it. -/
theorem exists_pieces_cons (sep c : Char) (cs : List Char) :
    ∃ p ps, pieces sep cs = p :: ps ∧
      pieces sep (c :: cs) = if c = sep then [] :: p :: ps else (c :: p) :: ps := by
  have hne : pieces sep cs ≠ [] := by
    cases cs with
    | nil => simp [pieces]
    | cons d rest =>
      rw [pieces]
      split
      · simp
      · split <;> simp
  obtain ⟨p, ps, hps⟩ := List.exists_cons_of_ne_nil hne
  exact ⟨p, ps, hps, by rw [pieces, hps]⟩

theorem pieces_of_not_mem (h : sep ∉ p) : pieces sep p = [p] := by
  induction p with
  | nil => rfl
  | cons c rest ih =>
    have hc : c ≠ sep := fun heq => h (heq ▸ List.mem_cons_self)
    rw [pieces, if_neg hc, ih fun hmem => h (List.mem_cons_of_mem _ hmem)]

theorem pieces_append (h : sep ∉ p) : pieces sep (p ++ sep :: cs) = p :: pieces sep cs := by
  induction p with
  | nil => rw [List.nil_append, pieces, if_pos rfl]
  | cons c rest ih =>
    have hc : c ≠ sep := fun heq => h (heq ▸ List.mem_cons_self)
    rw [List.cons_append, pieces, if_neg hc, ih fun hmem => h (List.mem_cons_of_mem _ hmem)]

/-- **Where two texts meet**, the last piece of the one goes on with the first of the other. -/
theorem pieces_append_append {cs' : List Char} {init rest : List (List Char)} {u v : List Char}
    (h : pieces sep cs = init ++ [u]) (h' : pieces sep cs' = v :: rest) :
    pieces sep (cs ++ cs') = init ++ (u ++ v) :: rest := by
  induction cs generalizing init u with
  | nil =>
    obtain ⟨rfl, rfl⟩ : init = [] ∧ u = [] := by
      simpa [pieces, List.singleton_eq_append_iff] using h
    exact h'
  | cons c cs ih =>
    obtain ⟨p, ps, hcs, hall⟩ := exists_pieces_cons sep c cs
    obtain ⟨q, qs, happend, hgoal⟩ := exists_pieces_cons sep c (cs ++ cs')
    rw [List.cons_append, hgoal]
    rw [hall] at h
    split at h
    case isTrue heq =>
      cases init with
      | nil => cases h
      | cons i init =>
        obtain ⟨rfl, hrest⟩ := List.cons.inj h
        rw [if_pos heq, ← happend, ih (hcs.trans hrest)]
        rfl
    case isFalse hne =>
      rw [if_neg hne]
      cases init with
      | nil =>
        obtain ⟨rfl, rfl⟩ := List.cons.inj h
        obtain ⟨rfl, rfl⟩ := List.cons.inj (happend.symm.trans (@ih [] _ hcs))
        rfl
      | cons i init =>
        obtain ⟨rfl, rfl⟩ := List.cons.inj h
        obtain ⟨rfl, rfl⟩ := List.cons.inj (happend.symm.trans (@ih (p :: init) _ hcs))
        rfl

/-- A separator parts a text. -/
theorem pieces_separator {cs' : List Char} :
    pieces sep (cs ++ sep :: cs') = pieces sep cs ++ pieces sep cs' := by
  induction cs with
  | nil => exact if_pos rfl
  | cons c cs ih =>
    obtain ⟨p, ps, hcs, hall⟩ := exists_pieces_cons sep c cs
    obtain ⟨q, qs, happend, hgoal⟩ := exists_pieces_cons sep c (cs ++ sep :: cs')
    rw [happend, hcs] at ih
    obtain ⟨rfl, rfl⟩ := List.cons.inj ih
    rw [List.cons_append, hgoal, hall]
    split <;> rfl

/-- **Pieces without separators are found again.** -/
theorem pieces_joinPieces (hne : ps ≠ []) (h : ∀ p ∈ ps, sep ∉ p) :
    pieces sep (joinPieces sep ps) = ps := by
  induction ps with
  | nil => exact absurd rfl hne
  | cons p rest ih =>
    obtain ⟨hp, hrest⟩ := List.forall_mem_cons.mp h
    cases rest with
    | nil => exact pieces_of_not_mem hp
    | cons q qs => exact (pieces_append hp).trans (congrArg (p :: ·) (ih (by simp) hrest))

/-- **The pieces of a text join back to it.** -/
theorem joinPieces_pieces : joinPieces sep (pieces sep cs) = cs := by
  induction cs with
  | nil => rfl
  | cons c rest ih =>
    obtain ⟨p, ps, hrest, hall⟩ := exists_pieces_cons sep c rest
    rw [hrest] at ih
    rw [hall]
    split
    case isTrue heq => rw [heq, ← ih]; rfl
    case isFalse =>
      cases ps with
      | nil => exact congrArg (c :: ·) ih
      | cons q qs => exact congrArg (c :: ·) ih

/-- Joining pieces brings in no character but the separator. -/
theorem not_mem_joinPieces (hc : c ≠ sep) (h : ∀ p ∈ ps, c ∉ p) : c ∉ joinPieces sep ps := by
  induction ps with
  | nil => exact List.not_mem_nil
  | cons p rest ih =>
    obtain ⟨hp, hrest⟩ := List.forall_mem_cons.mp h
    cases rest with
    | nil => exact hp
    | cons q qs =>
      intro hmem
      rcases List.mem_append.mp hmem with hmem | hmem
      · exact hp hmem
      · rcases List.mem_cons.mp hmem with heq | hmem
        · exact hc heq
        · exact ih hrest hmem

/-- The characters of a piece are those of the text, without separators. -/
theorem mem_of_mem_pieces (hp : p ∈ pieces sep cs) (hc : c ∈ p) : c ∈ cs ∧ c ≠ sep := by
  induction cs generalizing p with
  | nil =>
    obtain rfl := List.mem_singleton.mp hp
    cases hc
  | cons d rest ih =>
    obtain ⟨q, qs, hrest, hall⟩ := exists_pieces_cons sep d rest
    rw [hrest] at ih
    rw [hall] at hp
    have hlater {p' : List Char} (hp' : p' ∈ q :: qs) (hc' : c ∈ p') : c ∈ d :: rest ∧ c ≠ sep :=
      (ih hp' hc').imp_left (List.mem_cons_of_mem _)
    split at hp
    case isTrue =>
      rcases List.mem_cons.mp hp with rfl | hp
      · cases hc
      · exact hlater hp hc
    case isFalse hd =>
      rcases List.mem_cons.mp hp with rfl | hp
      · rcases List.mem_cons.mp hc with rfl | hc
        · exact ⟨List.mem_cons_self, hd⟩
        · exact hlater List.mem_cons_self hc
      · exact hlater (List.mem_cons_of_mem _ hp) hc

end Pieces

/-! ### Searching lists -/

section Searching

variable {α β γ : Type} {p : α → Prop} [DecidablePred p]

/-- **A search for the first element of some kind**, which makes something of that one and what is
behind it, and then of the elements that it has passed. -/
theorem search_eq_some_iff {f : List α → Option β} {found : α → List α → β} {pass : α → β → β}
    (hnil : f [] = none)
    (hcons : ∀ x xs, f (x :: xs) = if p x then some (found x xs) else (f xs).map (pass x))
    {xs : List α} {b : β} :
    f xs = some b ↔ ∃ before x after, xs = before ++ x :: after ∧ (∀ y ∈ before, ¬ p y) ∧ p x ∧
      before.foldr pass (found x after) = b := by
  induction xs generalizing b with
  | nil => simp [hnil]
  | cons y ys ih =>
    rw [hcons]
    split
    case isTrue hy =>
      constructor
      · intro h
        exact ⟨[], y, ys, rfl, nofun, hy, Option.some.inj h⟩
      · rintro ⟨_ | ⟨z, before⟩, x, after, heq, hbefore, -, rfl⟩
        · obtain ⟨rfl, rfl⟩ := List.cons.inj heq
          rfl
        · obtain ⟨rfl, -⟩ := List.cons.inj heq
          exact absurd hy (hbefore y (.head _))
    case isFalse hy =>
      rw [Option.map_eq_some_iff]
      constructor
      · rintro ⟨b, h, rfl⟩
        obtain ⟨before, x, after, rfl, hbefore, hx, rfl⟩ := ih.mp h
        exact ⟨y :: before, x, after, rfl, List.forall_mem_cons.mpr ⟨hy, hbefore⟩, hx, rfl⟩
      · rintro ⟨_ | ⟨z, before⟩, x, after, heq, hbefore, hx, rfl⟩
        · obtain ⟨rfl, -⟩ := List.cons.inj heq
          exact absurd hx hy
        · obtain ⟨rfl, rfl⟩ := List.cons.inj heq
          have hbefore : ∀ w ∈ before, ¬ p w := fun w hw => hbefore w (.tail _ hw)
          exact ⟨_, ih.mpr ⟨before, x, after, rfl, hbefore, hx, rfl⟩, rfl⟩

/-- What was passed comes in front, if that is what is made of it. -/
theorem foldr_pass (before : List α) (b : List α × γ) :
    before.foldr (fun x b => (x :: b.1, b.2)) b = (before ++ b.1, b.2) := by
  induction before with
  | nil => rfl
  | cons x before ih => rw [List.foldr_cons, ih]; rfl

end Searching

/-! ### Looking for texts -/

section Looking

variable {sep : Char} {needle cs rest : List Char}

theorem after?_eq_some_iff : after? needle cs = some rest ↔ cs = needle ++ rest := by
  induction needle generalizing cs with
  | nil => simp [after?]
  | cons n ns ih =>
    cases cs with
    | nil => simp [after?]
    | cons c cs =>
      rw [after?, List.cons_append, List.cons.injEq, ← ih]
      split
      case isTrue heq => simp [heq]
      case isFalse hne => simp [Ne.symm hne]

/-- A text with a character starts with no text without it. -/
theorem after?_of_not_mem (hneedle : sep ∈ needle) (hcs : sep ∉ cs) : after? needle cs = none := by
  cases h : after? needle cs with
  | none => rfl
  | some rest =>
    rw [after?_eq_some_iff.mp h] at hcs
    exact absurd (List.mem_append_left rest hneedle) hcs

theorem isSome_after?_iff : (after? needle cs).isSome = true ↔ needle <+: cs := by
  simp only [Option.isSome_iff_exists, after?_eq_some_iff]
  exact ⟨fun ⟨rest, h⟩ => ⟨rest, h.symm⟩, fun ⟨rest, h⟩ => ⟨rest, h.symm⟩⟩

/-- **A text occurs in another** if it is a part of it. -/
theorem occursIn_iff : occursIn needle cs = true ↔ needle <:+: cs := by
  rw [occursIn]
  induction cs with
  | nil => rw [afterFirst?, isSome_after?_iff, List.prefix_nil, List.infix_nil]
  | cons c cs ih =>
    rw [List.infix_cons_iff, ← ih, ← isSome_after?_iff, afterFirst?]
    cases after? needle (c :: cs) <;> simp

theorem afterFirst?_eq_none (h : ¬ needle <:+: cs) : afterFirst? needle cs = none := by
  rw [← occursIn_iff, occursIn] at h
  simpa using h

/-- **The first occurrence** of a text is behind one in which it does not occur, if its first
character is not repeated in it, so that it does not overlap with itself. -/
theorem afterFirst?_append {c : Char} {front : List Char} (hc : c ∉ needle)
    (h : ¬ c :: needle <:+: front) :
    afterFirst? (c :: needle) (front ++ c :: needle ++ rest) = some rest := by
  induction front with
  | nil =>
    have hafter : after? (c :: needle) (c :: (needle ++ rest)) = some rest :=
      after?_eq_some_iff.mpr rfl
    change afterFirst? (c :: needle) (c :: (needle ++ rest)) = _
    rw [afterFirst?, hafter]
    rfl
  | cons d front ih =>
    have hnone : after? (c :: needle) (d :: (front ++ c :: needle ++ rest)) = none := by
      rw [Option.eq_none_iff_forall_ne_some]
      intro behind hsome
      have heq : (d :: front) ++ (c :: needle ++ rest) = (c :: needle) ++ behind := by
        simpa using after?_eq_some_iff.mp hsome
      rcases List.append_eq_append_iff.mp heq with ⟨more, hmore, hrest⟩ | ⟨more, hmore, -⟩
      · cases more with
        | nil => exact h ⟨[], [], by simpa using hmore⟩
        | cons e more =>
          -- it would reach into the occurrence behind and have the first character of that
          obtain ⟨rfl, -⟩ := List.cons.inj hrest
          obtain ⟨-, hneedle⟩ := List.cons.inj hmore
          exact hc (hneedle ▸ by simp)
      · exact h ⟨[], more, by simpa using hmore.symm⟩
    change afterFirst? (c :: needle) (d :: (front ++ c :: needle ++ rest)) = _
    rw [afterFirst?, hnone]
    exact ih fun hpart => h (List.infix_cons hpart)

theorem cutFirst?_of_not_mem (h : sep ∉ cs) : cutFirst? sep cs = none := by
  induction cs with
  | nil => rfl
  | cons c rest ih =>
    have hc : c ≠ sep := fun heq => h (heq ▸ List.mem_cons_self)
    rw [cutFirst?, if_neg hc, ih fun hmem => h (List.mem_cons_of_mem _ hmem)]
    rfl

/-- **The first separator** has none in front of it. -/
theorem cutFirst?_eq_some_iff {front : List Char} :
    cutFirst? sep cs = some (front, rest) ↔ cs = front ++ sep :: rest ∧ sep ∉ front := by
  rw [@search_eq_some_iff _ _ (· = sep) _ (cutFirst? sep) (fun _ rest => ([], rest))
    (fun c b => (c :: b.1, b.2)) rfl fun _ _ => rfl]
  simp only [foldr_pass, List.append_nil, Prod.mk.injEq]
  constructor
  · rintro ⟨before, _, after, rfl, hbefore, rfl, rfl, rfl⟩
    exact ⟨rfl, fun hmem => hbefore _ hmem rfl⟩
  · rintro ⟨rfl, hnot⟩
    exact ⟨front, sep, rest, rfl, fun c hc heq => hnot (heq ▸ hc), rfl, rfl, rfl⟩

/-- **The last separator** has none behind it. -/
theorem cutLast?_eq_some_iff {front : List Char} :
    cutLast? sep cs = some (front, rest) ↔ cs = front ++ sep :: rest ∧ sep ∉ rest := by
  simp only [cutLast?, Option.map_eq_some_iff, Prod.exists, Prod.mk.injEq]
  constructor
  · rintro ⟨tail, head, hcut, rfl, rfl⟩
    obtain ⟨hreverse, hnot⟩ := cutFirst?_eq_some_iff.mp hcut
    refine ⟨?_, by simpa using hnot⟩
    rw [← List.reverse_reverse cs, hreverse]
    simp
  · rintro ⟨rfl, hnot⟩
    have hcut : cutFirst? sep (front ++ sep :: rest).reverse = some (rest.reverse, front.reverse) :=
      cutFirst?_eq_some_iff.mpr ⟨by simp, by simpa using hnot⟩
    exact ⟨rest.reverse, front.reverse, hcut, List.reverse_reverse _, List.reverse_reverse _⟩

/-- A text that is not cut has no separator. -/
theorem cutFirst?_eq_none_iff : cutFirst? sep cs = none ↔ sep ∉ cs := by
  refine ⟨fun h hmem => ?_, cutFirst?_of_not_mem⟩
  obtain ⟨front, behind, rfl, hnot⟩ := List.eq_append_cons_of_mem hmem
  rw [cutFirst?_eq_some_iff.mpr ⟨rfl, hnot⟩] at h
  cases h

theorem cutLast?_eq_none_iff : cutLast? sep cs = none ↔ sep ∉ cs := by
  rw [cutLast?, Option.map_eq_none_iff, cutFirst?_eq_none_iff, List.mem_reverse]

end Looking

/-! ### Lines -/

section Lines

variable {c : Char} {line rest : List Char}

/-- A line feed ends the first line, and any other character in front goes to it. -/
theorem linesWithEnds_cons (c : Char) (rest : List Char) :
    linesWithEnds (c :: rest) =
      if c = '\n' then ['\n'] :: linesWithEnds rest
      else (c :: (linesWithEnds rest).headD []) :: (linesWithEnds rest).tail := by
  rw [linesWithEnds.eq_def]
  refine ite_congr rfl (fun _ => rfl) fun _ => ?_
  cases rest with
  | nil => rfl
  | cons d rest => cases linesWithEnds (d :: rest) <;> rfl

theorem linesWithEnds_of_not_mem (h : '\n' ∉ line) :
    linesWithEnds line = if line = [] then [] else [line] := by
  induction line with
  | nil => rfl
  | cons c line ih =>
    have hc : c ≠ '\n' := fun heq => h (heq ▸ List.mem_cons_self)
    rw [linesWithEnds_cons, if_neg hc, ih fun hmem => h (List.mem_cons_of_mem _ hmem)]
    cases line with
    | nil => rfl
    | cons => rfl

theorem linesWithEnds_append (h : '\n' ∉ line) :
    linesWithEnds (line ++ '\n' :: rest) = (line ++ ['\n']) :: linesWithEnds rest := by
  induction line with
  | nil => rw [List.nil_append, linesWithEnds_cons, if_pos rfl, List.nil_append]
  | cons c line ih =>
    have hc : c ≠ '\n' := fun heq => h (heq ▸ List.mem_cons_self)
    rw [List.cons_append, linesWithEnds_cons, if_neg hc,
      ih fun hmem => h (List.mem_cons_of_mem _ hmem)]
    rfl

/-- **Induction on the lines of a text**, up to the last one, which has no line feed. -/
theorem lines_induction {motive : List Char → Prop} (last : ∀ line, '\n' ∉ line → motive line)
    (more : ∀ line rest, '\n' ∉ line → motive rest → motive (line ++ '\n' :: rest))
    (cs : List Char) : motive cs := by
  by_cases h : '\n' ∈ cs
  · obtain ⟨line, rest, rfl, hline⟩ := List.eq_append_cons_of_mem h
    exact more line rest hline (lines_induction last more rest)
  · exact last cs h
termination_by cs.length

end Lines

/-! ### Taking away at both ends -/

section Peeling

variable {α : Type} {p : α → Bool} {xs front behind : List α} {x : α}

/-- A scan stops behind the elements of a kind. -/
theorem takeWhile_append (hxs : ∀ x ∈ xs, p x = true) (h : ∀ x ∈ behind.head?, p x = false) :
    (xs ++ behind).takeWhile p = xs := by
  have hnone : behind.takeWhile p = [] := by
    cases behind with
    | nil => rfl
    | cons y rest => exact List.takeWhile_cons_of_neg (by simp [h y rfl])
  rw [List.takeWhile_append_of_pos hxs, hnone, List.append_nil]

theorem dropWhile_eq_self (h : ∀ x, xs.head? = some x → p x = false) : xs.dropWhile p = xs := by
  cases xs with
  | nil => rfl
  | cons x rest => exact List.dropWhile_cons_of_neg (by simp [h x rfl])

theorem reverse_dropWhile_eq_self (h : ∀ x, xs.getLast? = some x → p x = false) :
    (xs.reverse.dropWhile p).reverse = xs := by
  rw [dropWhile_eq_self fun x hx => h x (by rwa [← List.head?_reverse]), List.reverse_reverse]

/-- A list without the elements of a kind at its two ends. -/
def peeled (p : α → Bool) (xs : List α) : List α :=
  ((xs.dropWhile p).reverse.dropWhile p).reverse

theorem reverse_dropWhile_isPrefix : (xs.reverse.dropWhile p).reverse <+: xs := by
  rw [← List.reverse_suffix, List.reverse_reverse]
  exact List.dropWhile_suffix _

/-- What is left of a list stands in it as it is. -/
theorem peeled_isInfix : peeled p xs <:+: xs :=
  reverse_dropWhile_isPrefix.isInfix.trans (List.dropWhile_suffix _).isInfix

theorem head_peeled (h : (peeled p xs).head? = some x) : p x = false := by
  have hhead := List.head?_dropWhile_not p xs
  obtain ⟨rest, hrest⟩ := @reverse_dropWhile_isPrefix _ p (xs.dropWhile p)
  rw [peeled] at h
  rwa [← hrest, List.head?_append, h, Option.some_or] at hhead

theorem last_peeled (h : (peeled p xs).getLast? = some x) : p x = false := by
  have hhead := List.head?_dropWhile_not p (xs.dropWhile p).reverse
  rw [peeled, List.getLast?_reverse] at h
  rwa [h] at hhead

/-- Nothing is taken away from a list that neither begins nor ends with an element of the kind. -/
theorem peeled_eq_self (hhead : ∀ x, xs.head? = some x → p x = false)
    (hlast : ∀ x, xs.getLast? = some x → p x = false) : peeled p xs = xs := by
  rw [peeled, dropWhile_eq_self hhead, reverse_dropWhile_eq_self hlast]

/-- At the start, nothing is taken away behind another element. -/
theorem dropWhile_append_cons (hx : p x = false) :
    (front ++ x :: behind).dropWhile p = front.dropWhile p ++ x :: behind := by
  rw [List.dropWhile_append]
  split
  · next hempty => rw [List.isEmpty_iff.mp hempty, List.dropWhile_cons_of_neg (by simp [hx])]; rfl
  · rfl

/-- At the end, nothing is taken away in front of another element. -/
theorem reverse_dropWhile_append_cons (hx : p x = false) :
    ((front ++ x :: behind).reverse.dropWhile p).reverse =
      front ++ x :: (behind.reverse.dropWhile p).reverse := by
  rw [List.reverse_append, List.reverse_cons, List.append_assoc, List.singleton_append,
    dropWhile_append_cons hx]
  simp

/-- **Both sides of another element** lose what is at the end of the list. -/
theorem peeled_append_cons (hx : p x = false) : peeled p (front ++ x :: behind) =
    front.dropWhile p ++ x :: (behind.reverse.dropWhile p).reverse := by
  rw [peeled, dropWhile_append_cons hx, reverse_dropWhile_append_cons hx]

/-- **What is taken away** is of the kind. -/
theorem exists_append_peeled (p : α → Bool) (xs : List α) :
    ∃ front behind, xs = front ++ peeled p xs ++ behind ∧ (∀ x ∈ front, p x = true) ∧
      ∀ x ∈ behind, p x = true := by
  have hstart : xs.takeWhile p ++ xs.dropWhile p = xs := List.takeWhile_append_dropWhile
  have hend : peeled p xs ++ ((xs.dropWhile p).reverse.takeWhile p).reverse = xs.dropWhile p := by
    rw [peeled, ← List.reverse_append, List.takeWhile_append_dropWhile, List.reverse_reverse]
  refine ⟨xs.takeWhile p, ((xs.dropWhile p).reverse.takeWhile p).reverse, ?_, ?_, ?_⟩
  · rw [List.append_assoc, hend, hstart]
  · exact List.all_eq_true.mp List.all_takeWhile
  · simp only [List.mem_reverse]
    exact List.all_eq_true.mp List.all_takeWhile

theorem filter_dropWhile {q : α → Bool} (h : ∀ x, p x = true → q x = false) :
    (xs.dropWhile p).filter q = xs.filter q := by
  have hnone : (xs.takeWhile p).filter q = [] :=
    List.filter_eq_nil_iff.mpr fun x hx => by simp [h x (List.mem_takeWhile_imp hx)]
  calc (xs.dropWhile p).filter q
      = (xs.takeWhile p).filter q ++ (xs.dropWhile p).filter q := by rw [hnone, List.nil_append]
    _ = xs.filter q := by rw [← List.filter_append, List.takeWhile_append_dropWhile]

theorem filter_reverse_dropWhile {q : α → Bool} (h : ∀ x, p x = true → q x = false) :
    (xs.reverse.dropWhile p).reverse.filter q = xs.filter q := by
  rw [List.filter_reverse, filter_dropWhile h, List.filter_reverse, List.reverse_reverse]

/-- All elements of another kind are still there. -/
theorem filter_peeled {q : α → Bool} (h : ∀ x, p x = true → q x = false) :
    (peeled p xs).filter q = xs.filter q :=
  (filter_reverse_dropWhile h).trans (filter_dropWhile h)

end Peeling

/-! ### Trimming -/

section Trimming

variable {cs behind : List Char} {c : Char}

theorem trimStart_eq_self (h : ∀ c, cs.head? = some c → isBlank c = false) :
    trimStart cs = cs :=
  dropWhile_eq_self h

theorem trimEnd_eq_self (h : ∀ c, cs.getLast? = some c → isBlank c = false) :
    trimEnd cs = cs :=
  reverse_dropWhile_eq_self h

/-- A text without blanks has nothing to trim. -/
theorem trim_of_not_blank (h : ∀ c ∈ cs, isBlank c = false) : trim cs = cs := by
  rw [trim, trimStart_eq_self fun c hc => h c (List.mem_of_mem_head? hc)]
  exact trimEnd_eq_self fun c hc => h c (List.mem_of_mem_getLast? hc)

theorem trimEnd_isPrefix : trimEnd cs <+: cs :=
  reverse_dropWhile_isPrefix

/-- A trimmed text begins with no blank. -/
theorem isBlank_head_trim {c : Char} (h : (trim cs).head? = some c) : isBlank c = false :=
  head_peeled h

/-- **A trimmed text has nothing more to trim.** -/
theorem trim_trim : trim (trim cs) = trim cs :=
  peeled_eq_self (fun _ => head_peeled) fun _ => last_peeled

/-- What is left of a trimmed text stands in it as it is. -/
theorem trim_isInfix : trim cs <:+: cs :=
  peeled_isInfix

/-- A text is trimmed on both sides of a character that is no blank. -/
theorem trim_append_cons {front behind : List Char} {c : Char} (hc : isBlank c = false) :
    trim (front ++ c :: behind) = trimStart front ++ c :: trimEnd behind :=
  peeled_append_cons hc

theorem mem_of_mem_trim {c : Char} (h : c ∈ trim cs) : c ∈ cs :=
  trim_isInfix.mem h

/-- **There are only blanks around a trimmed text.** -/
theorem exists_append_trim (cs : List Char) :
    ∃ front behind, cs = front ++ trim cs ++ behind ∧ (∀ c ∈ front, isBlank c = true) ∧
      ∀ c ∈ behind, isBlank c = true :=
  exists_append_peeled isBlank cs

/-- A character that is no blank is still there in the trimmed text. -/
theorem mem_trim_of_not_blank {c : Char} (hmem : c ∈ cs) (hc : isBlank c = false) :
    c ∈ trim cs := by
  obtain ⟨front, behind, rfl⟩ := List.append_of_mem hmem
  rw [trim_append_cons hc]
  exact List.mem_append_right _ List.mem_cons_self

/-- **Nothing is left** of a text exactly if it is blank. -/
theorem trim_eq_nil_iff : trim cs = [] ↔ ∀ c ∈ cs, isBlank c = true := by
  refine ⟨fun h c hc => ?_, fun h => ?_⟩
  · refine Bool.of_not_eq_false fun hblank => ?_
    have hmem := mem_trim_of_not_blank hc hblank
    rw [h] at hmem
    cases hmem
  · refine List.eq_nil_iff_forall_not_mem.mpr fun c hc => ?_
    -- a trimmed text begins with no blank, so there is no first character
    cases htrim : trim cs with
    | nil => rw [htrim] at hc; cases hc
    | cons d rest =>
      have hd : isBlank d = false := isBlank_head_trim (by rw [htrim]; rfl)
      rw [h d (mem_of_mem_trim (htrim ▸ List.mem_cons_self))] at hd
      cases hd

/-- Nothing is left at the start of a text exactly if it is blank. -/
theorem trimStart_eq_nil_iff : trimStart cs = [] ↔ cs.all isBlank = true :=
  List.dropWhile_eq_nil_iff.trans List.all_eq_true.symm

theorem not_mem_of_blank (h : ∀ c ∈ behind, isBlank c = true) (hc : isBlank c = false) :
    c ∉ behind :=
  fun hmem => absurd (h c hmem) (by rw [hc]; decide)

/-- A blank in front does not count. -/
theorem trim_cons_of_blank (h : isBlank c = true) : trim (c :: cs) = trim cs := by
  rw [trim, trimStart, List.dropWhile_cons_of_pos h, ← trimStart, ← trim]

/-- What stands at the start of a text without a blank is still there. -/
theorem trimStart_append (h : ∀ c ∈ behind, isBlank c = true) :
    trimStart (cs ++ behind) = if trimStart cs = [] then [] else trimStart cs ++ behind := by
  rw [trimStart, List.dropWhile_append, ← trimStart]
  simp only [List.isEmpty_iff]
  exact ite_congr rfl (fun _ => List.dropWhile_eq_nil_iff.mpr h) fun _ => rfl

/-- Blanks behind a text do not count. -/
theorem trimEnd_append (h : ∀ c ∈ behind, isBlank c = true) :
    trimEnd (cs ++ behind) = trimEnd cs := by
  have hbehind : behind.reverse.dropWhile isBlank = [] :=
    List.dropWhile_eq_nil_iff.mpr fun c hc => h c (List.mem_reverse.mp hc)
  rw [trimEnd, List.reverse_append, List.dropWhile_append, hbehind]
  rfl

theorem trim_append (h : ∀ c ∈ behind, isBlank c = true) : trim (cs ++ behind) = trim cs := by
  rw [trim, trimStart_append h, trim]
  split
  · next hempty => rw [hempty]
  · exact trimEnd_append h

/-- **Blanks around a text do not count**, and there are no others to trim if it neither begins nor
ends with one. -/
theorem trim_between {front : List Char} (hhead : ∀ c, cs.head? = some c → isBlank c = false)
    (hlast : ∀ c, cs.getLast? = some c → isBlank c = false)
    (hfront : ∀ c ∈ front, isBlank c = true) (hbehind : ∀ c ∈ behind, isBlank c = true) :
    trim (front ++ cs ++ behind) = cs := by
  rw [trim_append hbehind]
  induction front with
  | nil =>
    rw [List.nil_append, trim, trimStart_eq_self hhead]
    exact trimEnd_eq_self hlast
  | cons b front ih =>
    obtain ⟨hb, hfront⟩ := List.forall_mem_cons.mp hfront
    rw [List.cons_append, trim_cons_of_blank hb, ih hfront]

/-- Blanks at the start of a text do not reach beyond a character that is none. -/
theorem length_le_of_blank_start {front front' behind behind' : List Char} {c : Char}
    (h : front' ++ behind' = front ++ c :: behind) (hblank : ∀ d ∈ front', isBlank d = true)
    (hc : isBlank c = false) : front'.length ≤ front.length := by
  rcases List.append_eq_append_iff.mp h with ⟨more, rfl, -⟩ | ⟨more, rfl, hmore⟩
  · simp
  · cases more with
    | nil => simp
    | cons d more =>
      obtain ⟨rfl, -⟩ := List.cons.inj hmore
      have hblank := hblank c (by simp)
      rw [hc] at hblank
      cases hblank

/-- Blanks at the end of a text do not reach beyond a character that is none. -/
theorem length_le_of_blank_end {front front' behind behind' : List Char} {c : Char}
    (h : front' ++ behind' = front ++ c :: behind) (hblank : ∀ d ∈ behind', isBlank d = true)
    (hc : isBlank c = false) : behind'.length ≤ behind.length := by
  have hreverse : behind'.reverse ++ front'.reverse = behind.reverse ++ c :: front.reverse := by
    simpa using congrArg List.reverse h
  simpa using length_le_of_blank_start hreverse (by simpa using hblank) hc

end Trimming

end Text

end FormChain
