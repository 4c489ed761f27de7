import FormChain.Template.Basic
import FormChain.Proofs.Text.Cutting

/-!
# Texts without references

A text is *plain* (`FormChain.Template.Plain`) if there are no references in it, so that every
character stands for itself. It is enough that nothing looks like a reference anywhere in it
(`FormChain.Template.piecesAfter_eq_map_plain_iff`): the first thing that does is always found.
Every part of a plain text is therefore plain, above all what trimming leaves of it.

Expanding leaves plain texts alone, and with them every value whose texts are plain
(`FormChain.Template.expandAll_of_plain`), wherever references would be looked up.
-/

namespace FormChain

namespace Template

/-! ### What looks like a reference -/

section Pieces

variable {cs ds inside rest : List Char} {s : String}

/-- **What looks like a reference**: two braces, at least one character that is none, two
braces. -/
theorem referenceAt?_eq_some_iff : referenceAt? cs = some inside ↔
    inside ≠ [] ∧ (∀ c ∈ inside, isBrace c = false) ∧
      ∃ rest, cs = '{' :: '{' :: (inside ++ '}' :: '}' :: rest) := by
  constructor
  · intro h
    unfold referenceAt? at h
    split at h
    case h_1 rest =>
      simp only at h
      split at h
      case h_1 c more tail hinside htail =>
        obtain rfl := Option.some.inj h
        refine ⟨hinside ▸ List.cons_ne_nil _ _, fun d hd => ?_, tail, ?_⟩
        · simpa using List.all_eq_true.mp List.all_takeWhile d hd
        · rw [← htail]
          exact congrArg ('{' :: '{' :: ·)
            (List.prefix_iff_eq_append.mp (List.takeWhile_prefix _)).symm
      case h_2 => cases h
    case h_2 => cases h
  · rintro ⟨hne, hinside, rest, rfl⟩
    have htake : (inside ++ '}' :: '}' :: rest).takeWhile (fun c => !isBrace c) = inside := by
      rw [List.takeWhile_append_of_pos fun c hc => by simp [hinside c hc]]
      exact List.append_nil inside
    obtain ⟨c, more, rfl⟩ := List.exists_cons_of_ne_nil hne
    simp only [referenceAt?, htake, List.drop_left]

/-- What looks like a reference goes on doing so whatever stands behind it. -/
theorem referenceAt?_append (h : referenceAt? cs = some inside) :
    referenceAt? (cs ++ ds) = some inside := by
  obtain ⟨hne, hinside, rest, rfl⟩ := referenceAt?_eq_some_iff.mp h
  refine referenceAt?_eq_some_iff.mpr ⟨hne, hinside, rest ++ ds, ?_⟩
  simp

/-- **A text is cut into its characters just if nothing in it looks like a reference.** -/
theorem piecesAfter_eq_map_plain_iff :
    piecesAfter 0 cs = cs.map .plain ↔ ∀ t, t <:+ cs → referenceAt? t = none := by
  induction cs with
  | nil =>
    refine iff_of_true rfl fun t ht => ?_
    rw [List.suffix_nil.mp ht]
    rfl
  | cons c rest ih =>
    rw [piecesAfter]
    constructor
    · intro h t ht
      split at h
      case h_1 => cases h
      case h_2 hnone =>
        rcases List.suffix_cons_iff.mp ht with rfl | ht
        · exact hnone
        · exact ih.mp (List.cons.inj h).2 t ht
    · intro h
      rw [h _ List.suffix_rfl]
      exact congrArg (Piece.plain c :: ·)
        (ih.mpr fun t ht => h t (ht.trans (List.suffix_cons c rest)))

/-- **A part of a text without references has none.** -/
theorem piecesAfter_of_isInfix (hcs : piecesAfter 0 cs = cs.map .plain) (h : ds <:+: cs) :
    piecesAfter 0 ds = ds.map .plain := by
  obtain ⟨before, behind, rfl⟩ := h
  refine piecesAfter_eq_map_plain_iff.mpr fun t ht => ?_
  obtain ⟨skipped, rfl⟩ := ht
  cases hlike : referenceAt? t with
  | none => rfl
  | some inside =>
    have hsuffix : t ++ behind <:+ before ++ (skipped ++ t) ++ behind :=
      ⟨before ++ skipped, by simp⟩
    have hnone := piecesAfter_eq_map_plain_iff.mp hcs _ hsuffix
    rw [referenceAt?_append hlike] at hnone
    cases hnone

/-- **A plain text**: all its characters stand for themselves. -/
def Plain (s : String) : Prop := pieces s = s.toList.map .plain

instance (s : String) : Decidable (Plain s) := inferInstanceAs (Decidable (_ = _))

/-- A plain text is no single reference, whatever blanks there are around it. -/
theorem soleReference?_of_plain (h : Plain s) : soleReference? s = none := by
  rw [soleReference?, piecesAfter_of_isInfix h Text.trim_isInfix]
  split
  case h_1 body hsole =>
    obtain ⟨c, cs, -, hc, -⟩ := List.map_eq_cons_iff.mp hsole
    cases hc
  case h_2 => rfl

end Pieces

/-! ### What expanding leaves alone -/

section Expansion

variable {e : Environment} {s : String}

theorem expandPieces_map_plain (cs : List Char) : expandPieces e (cs.map .plain) = pure cs := by
  induction cs with
  | nil => rfl
  | cons c rest ih =>
    rw [List.map_cons, expandPieces, ih]
    rfl

/-- **A plain text stands for itself.** -/
theorem expandValue_of_plain (h : Plain s) : expandValue e s = pure (.text s) := by
  have hpieces : pieces s = s.toList.map .plain := h
  rw [expandValue, soleReference?_of_plain h]
  simp only [expand, hpieces, expandPieces_map_plain, pure_bind, String.ofList_toList]

end Expansion

end Template

/-! ### Plain values -/

namespace Value

mutual

/-- **A plain value**: all texts in it are plain. -/
def Plain : Value → Prop
  | .text s => Template.Plain s
  | .list items => ItemsPlain items
  | .object fields => FieldsPlain fields
  | .null | .bool _ | .number _ => True

/-- Every item is plain. -/
def ItemsPlain : List Value → Prop
  | [] => True
  | v :: rest => v.Plain ∧ ItemsPlain rest

/-- Every field is plain. -/
def FieldsPlain : List (String × Value) → Prop
  | [] => True
  | (_, v) :: rest => v.Plain ∧ FieldsPlain rest

end

end Value

namespace Template

variable {e : Environment}

mutual

/-- **Expanding leaves plain values alone.** -/
theorem expandAll_of_plain : (v : Value) → v.Plain → expandAll e v = pure v
  | .text _, h => expandValue_of_plain h
  | .list items, h => by
    rw [expandAll, expandItems_of_plain items h]
    rfl
  | .object fields, h => by
    rw [expandAll, expandFields_of_plain fields h]
    rfl
  | .null, _ | .bool _, _ | .number _, _ => rfl

theorem expandItems_of_plain :
    (items : List Value) → Value.ItemsPlain items → expandItems e items = pure items
  | [], _ => rfl
  | v :: rest, h => by
    rw [expandItems, expandAll_of_plain v h.1, expandItems_of_plain rest h.2]
    rfl

theorem expandFields_of_plain : (fields : List (String × Value)) → Value.FieldsPlain fields →
    expandFields e fields = pure fields
  | [], _ => rfl
  | (_, v) :: rest, h => by
    rw [expandFields, expandAll_of_plain v h.1, expandFields_of_plain rest h.2]
    rfl

end

end Template

end FormChain
