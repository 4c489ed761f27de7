import FormChain.Proofs.Template.Pieces
import Mathlib.Data.List.Basic

/-!
# What expanding fills in

Expanding fills in what references mean and leaves all other characters of a template as they are.
Which parts of it are references is a matter of the template alone, cut before anything is filled
in (`FormChain.Template.pieces`), so what is filled in is never looked through for references
again: the text of a template depends on what its own references mean and on nothing else. All
this holds where no reference asks for a random text (`FormChain.Template.IsSteady`); then the seed
is left alone, too.

Main statements: `FormChain.Template.expand_fills_in`, and that the value of a template has the
text of the template (`FormChain.Template.render_expandValue`). The latter takes the same seed for
both, and then need not leave random texts out.
-/

namespace FormChain

namespace Template

/-! ### What references mean -/

/-- Whether a reference asks for a random text. -/
def Reference.isRandom : Reference → Bool
  | random _ => true
  | _ => false

/-- What a reference means, in case the seed does not matter. -/
def Reference.meaning? (e : Environment) (r : Reference) : Option Value :=
  ((r.resolve? e).run 0).1

/-- The reference that a piece is. -/
def Piece.reference? : Piece → Option Reference
  | plain _ => none
  | reference _ body => some (.ofBody body)

/-- What a piece means, if it is a reference. -/
def Piece.meaning? (e : Environment) (p : Piece) : Option Value :=
  p.reference?.bind (·.meaning? e)

/-- **What is filled in for a piece**: the text of what it means, else the piece itself. -/
def Piece.filled (e : Environment) (p : Piece) : List Char :=
  match p.meaning? e with
  | some v => v.render.toList
  | none => p.source

/-- **A template without random references.** -/
def IsSteady (template : String) : Prop :=
  ∀ p ∈ pieces template, ∀ r, p.reference? = some r → r.isRandom = false

section Meaning

variable {e : Environment} {r : Reference} {p : Piece} {seed seed' : Nat}

/-- Only random references draw from the seed. -/
theorem resolve?_of_not_random (h : r.isRandom = false) :
    r.resolve? e = pure (r.meaning? e) := by
  cases r with
  | random => cases h
  | _ => rfl

/-- A reference that means nothing leaves the seed alone. -/
theorem seed_of_resolve?_none (h : (r.resolve? e).run seed = (none, seed')) : seed' = seed := by
  cases r with
  | random length => cases (Prod.mk.inj h).1
  | _ => exact (Prod.mk.inj h).2.symm

/-- What is filled in for a piece is what it expands to. -/
theorem expand_piece (h : ∀ r, p.reference? = some r → r.isRandom = false) :
    p.expand e = pure (p.filled e) := by
  cases p with
  | plain c => rfl
  | reference source body =>
    rw [Piece.expand, resolve?_of_not_random (h _ rfl), pure_bind, Piece.filled, Piece.meaning?,
      Piece.reference?, Option.bind_some]
    cases (Reference.ofBody body).meaning? e <;> rfl

/-- **Pieces are filled in one by one.** -/
theorem expandPieces_eq {ps : List Piece}
    (h : ∀ p ∈ ps, ∀ r, p.reference? = some r → r.isRandom = false) :
    expandPieces e ps = pure (ps.flatMap (·.filled e)) := by
  induction ps with
  | nil => rfl
  | cons p rest ih =>
    obtain ⟨hp, hrest⟩ := List.forall_mem_cons.mp h
    rw [expandPieces, expand_piece hp, ih hrest]
    rfl

/-- **The text of a template without random references.** -/
theorem expand_of_isSteady {template : String} (h : IsSteady template) :
    expand e template = pure (String.ofList ((pieces template).flatMap (·.filled e))) := by
  rw [expand, expandPieces_eq h]
  rfl

theorem filled_of_meaning?_none (h : p.meaning? e = none) : p.filled e = p.source := by
  rw [Piece.filled, h]

theorem filled_congr {e' : Environment} (h : p.meaning? e = p.meaning? e') :
    p.filled e = p.filled e' := by
  rw [Piece.filled, Piece.filled, h]

end Meaning

/-! ### The text of a template -/

/-- **Expanding fills in references and nothing else.** There is one way to cut a template, and it
loses nothing. Without random references, expanding puts the pieces one behind another, with what
each reference means filled in. So surroundings in which the references of the template mean the
same give the same text, whatever else may differ in them that the values filled in could refer
to; and where no reference means anything, the template stays what it is. -/
theorem expand_fills_in (template : String) :
    (∀ ps, Cuts template.toList ps ↔ ps = pieces template) ∧
    (pieces template).flatMap Piece.source = template.toList ∧
    (IsSteady template →
      (∀ e, expand e template =
        pure (String.ofList ((pieces template).flatMap (·.filled e)))) ∧
      (∀ e e', (∀ p ∈ pieces template, p.meaning? e = p.meaning? e') →
        expand e template = expand e' template) ∧
      ∀ e, (∀ p ∈ pieces template, p.meaning? e = none) → expand e template = pure template) := by
  have hsources : (pieces template).flatMap Piece.source = template.toList :=
    (cuts_iff.mpr rfl).sources
  refine ⟨fun ps => cuts_iff, hsources, fun hsteady => ?_⟩
  have hfill (e : Environment) : expand e template =
      pure (String.ofList ((pieces template).flatMap (·.filled e))) := expand_of_isSteady hsteady
  refine ⟨hfill, fun e e' h => ?_, fun e h => ?_⟩
  · have hsame : (pieces template).flatMap (·.filled e) =
        (pieces template).flatMap (·.filled e') :=
      List.flatMap_congr fun p hp => filled_congr (h p hp)
    rw [hfill, hfill, hsame]
  · have hsame : (pieces template).flatMap (·.filled e) =
        (pieces template).flatMap Piece.source :=
      List.flatMap_congr fun p hp => filled_of_meaning?_none (h p hp)
    rw [hfill, hsame, hsources, String.ofList_toList]

/-- Surroundings in which the title of a form refers to something that is kept for itself. -/
def titled (secret : String) : Environment where
  values := [("secret", .text secret), ("title", .text "\x7b\x7b@secret\x7d\x7d")]

/-- **A value does not bring in references**: the title is filled in with its braces, and what it
refers to does not come out, even where there are braces around it. Where there is no title, the
template stays. -/
theorem title_brings_no_reference :
    let template := "\x7b\x7b\x7b@title\x7d\x7d\x7d"
    IsSteady template ∧
      (∀ p ∈ pieces template, p.meaning? (titled "a") = p.meaning? (titled "b")) ∧
      expand (titled "a") template = pure "\x7b\x7b\x7b@secret\x7d\x7d\x7d" ∧
      expand (titled "a") template = expand (titled "b") template ∧
      (∀ p ∈ pieces template, p.meaning? {} = none) ∧ expand {} template = pure template := by
  intro template
  have hpieces : pieces template = [.plain '\x7b',
      .reference "\x7b\x7b@title\x7d\x7d".toList "@title".toList, .plain '\x7d'] := by decide
  have hsteady : IsSteady template := by
    rw [IsSteady, hpieces]
    simp only [List.forall_mem_cons]
    exact ⟨nofun, fun r hr => by cases hr; rfl, nofun, nofun⟩
  have hagree : ∀ p ∈ pieces template, p.meaning? (titled "a") = p.meaning? (titled "b") := by
    rw [hpieces]
    simp only [List.forall_mem_cons]
    exact ⟨rfl, rfl, rfl, nofun⟩
  have hnone : ∀ p ∈ pieces template, p.meaning? {} = none := by
    rw [hpieces]
    simp only [List.forall_mem_cons]
    exact ⟨rfl, rfl, rfl, nofun⟩
  obtain ⟨-, -, hfills⟩ := expand_fills_in template
  obtain ⟨hfill, hcongr, hkeep⟩ := hfills hsteady
  refine ⟨hsteady, hagree, ?_, hcongr _ _ hagree, hnone, hkeep _ hnone⟩
  rw [hfill, hpieces]
  rfl

/-! ### The value of a template -/

section Values

variable {e : Environment} {template : String} {body : List Char} {seed seed' : Nat}
  {v : Value}

/-- A template that is one single reference expands to the text of what this means. -/
theorem expand_of_single (hcuts : Cuts template.toList [.reference template.toList body])
    (hmeans : ((Reference.ofBody body).resolve? e).run seed = (some v, seed')) :
    (expand e template).run seed = (v.render, seed') := by
  have hpiece : (Piece.expand e (.reference template.toList body)).run seed =
      (v.render.toList, seed') := by
    rw [Piece.expand, StateT.run_bind, hmeans]
    rfl
  have hpieces : (expandPieces e (pieces template)).run seed = (v.render.toList, seed') := by
    rw [← cuts_iff.mp hcuts, expandPieces, StateT.run_bind, hpiece]
    exact congrArg (·, seed') (List.append_nil v.render.toList)
  rw [expand, StateT.run_bind, hpieces]
  exact congrArg (·, seed') String.ofList_toList

/-- A template that is no single reference, or one that means nothing, has its text as its value. -/
theorem expandValue_eq_text (h : ∀ body, soleReference? template = some body →
    (((Reference.ofBody body).resolve? e).run seed).1 = none) :
    (expandValue e template).run seed =
      (.text ((expand e template).run seed).1, ((expand e template).run seed).2) := by
  rw [expandValue]
  cases hsole : soleReference? template with
  | none => rfl
  | some body =>
    have hnone : ((Reference.ofBody body).resolve? e).run seed = (none, seed) := by
      have hseed := @seed_of_resolve?_none e (.ofBody body) seed _ (Prod.ext (h body hsole) rfl)
      exact Prod.ext (h body hsole) hseed
    simp only [StateT.run_bind, hnone]
    rfl

/-- A template that is one single reference has what this means as its value. -/
theorem expandValue_of_single (hsole : soleReference? template = some body)
    (hmeans : ((Reference.ofBody body).resolve? e).run seed = (some v, seed')) :
    (expandValue e template).run seed = (v, seed') := by
  rw [expandValue, hsole]
  simp only [StateT.run_bind, hmeans]
  rfl

end Values

/-- **The value of a template has the text of the template**, if there are no blanks around it and
both are drawn from the same seed. It is the text itself but for one case: the template is one
single reference, the pattern being fitted to all of it, and this means something. Then it is what
the reference means. -/
theorem render_expandValue (e : Environment) (template : String) (seed : Nat)
    (htrimmed : trimmed template = template) :
    let value := (expandValue e template).run seed
    (expand e template).run seed = (value.1.render, value.2) ∧
    (value.1 ≠ .text value.1.render → ∃ m : Match, m.IsFirst template.toList ∧ m.rest = [] ∧
      ((Reference.ofBody m.body).resolve? e).run seed = (some value.1, value.2)) ∧
    ∀ (m : Match) (v : Value), m.IsFirst template.toList → m.rest = [] →
      (((Reference.ofBody m.body).resolve? e).run seed).1 = some v → value.1 = v := by
  have htrim : Text.trim template.toList = template.toList := by
    have htoList := congrArg String.toList htrimmed
    rwa [trimmed, String.toList_ofList] at htoList
  have hsole_iff (body : List Char) : soleReference? template = some body ↔
      Cuts template.toList [.reference template.toList body] := by
    rw [soleReference?_eq_some_iff, htrim]
  have hsole_of (m : Match) (hfirst : m.IsFirst template.toList) (hrest : m.rest = []) :
      soleReference? template = some m.body :=
    (hsole_iff m.body).mpr (cuts_single_iff.mpr ⟨m, hfirst, hrest, rfl⟩)
  by_cases hmeans : ∃ body v seed', soleReference? template = some body ∧
      ((Reference.ofBody body).resolve? e).run seed = (some v, seed')
  · obtain ⟨body, v, seed', hsole, hmeans⟩ := hmeans
    have hcuts := (hsole_iff body).mp hsole
    rw [expandValue_of_single hsole hmeans]
    refine ⟨expand_of_single hcuts hmeans, fun _ => ?_, fun m w hfirst hrest hw => ?_⟩
    · obtain ⟨m, hfirst, hrest, rfl⟩ := cuts_single_iff.mp hcuts
      exact ⟨m, hfirst, hrest, hmeans⟩
    · obtain rfl := Option.some.inj (hsole.symm.trans (hsole_of m hfirst hrest))
      rw [hmeans] at hw
      exact Option.some.inj hw
  · have hnone (body : List Char) (hsole : soleReference? template = some body) :
        (((Reference.ofBody body).resolve? e).run seed).1 = none := by
      cases hr : (((Reference.ofBody body).resolve? e).run seed).1 with
      | none => rfl
      | some v => exact absurd ⟨body, v, _, hsole, Prod.ext hr rfl⟩ hmeans
    rw [expandValue_eq_text hnone]
    refine ⟨rfl, fun hne => absurd rfl hne, fun m w hfirst hrest hw => ?_⟩
    rw [hnone m.body (hsole_of m hfirst hrest)] at hw
    cases hw

/-- A form with tags. -/
def tagged : Environment where
  values := [("tags", .list [.text "a", .text "b"])]

/-- Of a reference to the tags, blanks in it aside, the value is the list of them, and the text is
that of the list. -/
theorem tags_are_listed :
    let template := "\x7b\x7b @tags \x7d\x7d"
    let m : Match := ⟨[' '], "@tags".toList, [' '], []⟩
    let tags : Value := .list [.text "a", .text "b"]
    trimmed template = template ∧ m.IsFirst template.toList ∧ m.rest = [] ∧
      (((Reference.ofBody m.body).resolve? tagged).run 0).1 = some tags ∧
      ((expandValue tagged template).run 0).1 = tags ∧
      ((expand tagged template).run 0).1 = "a, b" := by
  intro template m tags
  have htrimmed : trimmed template = template := by decide
  have hfits : m.Fits template.toList := by decide
  have hfirst : m.IsFirst template.toList := hfits.isFirst_of_trimmed (by decide)
  obtain ⟨htext, -, hvalue⟩ := render_expandValue tagged template 0 htrimmed
  have htags := hvalue m tags hfirst rfl rfl
  refine ⟨htrimmed, hfirst, rfl, rfl, htags, ?_⟩
  rw [htext, htags]
  rfl

end Template

end FormChain
