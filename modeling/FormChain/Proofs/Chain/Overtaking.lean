import FormChain.Proofs.Chain.Inserting

/-!
# Insertions that are overtaken

An insertion at the top asks where the frontmatter ends, and asks for its edit afterwards, at the
place it was told. In between somebody else may have written to the file. The place is then one in
the new text, as many bytes from its start as the frontmatter of the old text has, or its end if
it is shorter. Nothing else of the old text matters (`FormChain.insertText_overtaken`): the
insertion goes behind the frontmatter of the new text just if this happens to have as many bytes.
If the place lies inside a character of the new text, the edit breaks off: no vault answers, the
insertion comes to no end, neither with success nor with a failure that the chain could see to, and
in memory the text of the file is lost. An insertion behind a heading does not depend on a place in
this way, since its edit looks for the heading itself
(`FormChain.Edit.applied?_insertAfterHeading`).
-/

namespace FormChain

section Overtaking

variable {s : ChainSetting} {a : InsertText} {path file content told met : String}
  {st : ChainState} {es : List Event}

/-- **The place that an insertion at the top is told**: where the frontmatter ends, else the
start. -/
def topPlace (known : Option Metadata) : Nat :=
  ((known.bind (·.frontmatter)).map (·.stop)).getD 0

/-- The place is behind the frontmatter of the text that a vault has. -/
theorem topPlace_of_has {v : Vault} (h : v.Has path file told) {known : Option Metadata}
    (hknown : v.ask (.metadata path) = some (.ok known)) :
    topPlace known = Utf8.size (Frontmatter.front told.toList) := by
  rw [h.metadata] at hknown
  obtain rfl := Except.ok.inj (Option.some.inj hknown)
  exact Frontmatter.stop_range? told

/-- Behind a request that is granted, a step gets as far as what it makes of the answer. -/
theorem reaches_askVault_bind (st : ChainState) {α : Type} {r : VaultRequest}
    {k : r.Answer → Effect α} {reply : Reply (.vault r)} {answer : r.Answer}
    (hanswer : reply.answer = .ok answer) {rest : Script (Except ActionError α × ChainState)}
    (h : (k answer (st.afterReply reply)).Reaches es rest) :
    ((Effect.askVault s r >>= k) st).Reaches (.exchange s.token (.vault r) reply :: es) rest := by
  refine .ask reply ?_
  change Script.Reaches (((Step.ofExcept (Except.mapError ActionError.vault reply.answer) :
    Effect r.Answer) >>= k) (st.afterReply reply)) es rest
  rw [hanswer]
  exact h

/-- **An insertion at the top of a file that is found asks for its edit** at the place that it is
told, and for nothing more. -/
theorem reaches_write (hposition : a.position = .top)
    {found : Reply (.vault (.find (a.pathIn st)))} (hfound : found.answer = .ok (some file))
    {told : Reply (.vault (.metadata (a.pathIn st)))} {known : Option Metadata}
    (hknown : told.answer = .ok known) :
    ∃ st₁, (Effect.insertText s a st).Reaches
      [.exchange s.token (.vault (.find (a.pathIn st))) found,
        .exchange s.token (.vault (.metadata (a.pathIn st))) told]
      (Effect.askVault s (.write file (.insertAt (topPlace known) (a.textIn st))) st₁) := by
  have hinto : insertInto s a (a.pathIn st) (a.textIn st) (some file) =
      Effect.askVault s (.metadata (a.pathIn st)) >>= fun known =>
        Effect.askVault s (.write file (.insertAt (topPlace known) (a.textIn st))) := by
    simp only [insertInto, insertionOf, hposition, Effect.topEdit, bind_assoc, pure_bind]
    rfl
  refine ⟨(a.searching st found).afterReply told, ?_⟩
  rw [insertText_eq]
  refine reaches_askVault_bind ((st.draw a.filePath).2.draw a.content).2 hfound ?_
  change Script.Reaches (insertInto s a (a.pathIn st) (a.textIn st) (some file) _) _ _
  rw [hinto]
  exact reaches_askVault_bind _ hknown (.here _)

/-- **What an insertion at the top does when it is overtaken**: its place is told for one text, and
its edit meets another one. It asks for an edit at one place, which is as many bytes from the start
of the text it meets as the frontmatter of the text it was told of has, or the end of a shorter
text, and it ends with the answer to that. If the text it meets can be cut there, every vault grants
the edit, and the new text stands between the parts on lines of its own. The part before is the
frontmatter of the text it meets just if this has as many bytes as there are up to the place. If
the place lies inside a character, no vault answers, and one in memory has lost the text. -/
theorem insertText_overtaken (hposition : a.position = .top)
    {found : Reply (.vault (.find (a.pathIn st)))}
    {known : Reply (.vault (.metadata (a.pathIn st)))} (hfound : found.answer = .ok (some file))
    (htold : ∃ v : Vault, v.Has (a.pathIn st) file told ∧
      v.ask (.metadata (a.pathIn st)) = some known.answer) :
    let edit := Edit.insertAt (Utf8.size (Frontmatter.front told.toList)) (a.textIn st)
    let place := min (Utf8.size (Frontmatter.front told.toList)) (Utf8.size met.toList)
    (∃ st₁, (Effect.insertText s a st).Reaches
      [.exchange s.token (.vault (.find (a.pathIn st))) found,
        .exchange s.token (.vault (.metadata (a.pathIn st))) known]
      (Effect.askVault s (.write file edit) st₁)) ∧
    ∀ v : Vault, v.Has (a.pathIn st) file met →
      (∀ upto behind, upto ++ behind = met.toList → Utf8.size upto = place →
        v.ask (.write file edit) = some (.ok ()) ∧
        (v.answer (.write file edit)).2.ask (.read file) =
          some (.ok (String.ofList (Edit.onOwnLines upto (a.textIn st).toList behind))) ∧
        (Frontmatter.IsFront met.toList upto ↔
          Utf8.size (Frontmatter.front met.toList) = place)) ∧
      ((∀ upto behind, upto ++ behind = met.toList → Utf8.size upto ≠ place) →
        v.ask (.write file edit) = none ∧
        (v.answer (.write file edit)).2.ask (.read file) = some (.ok (v.leftOf met))) := by
  intro edit place
  obtain ⟨teller, hteller, hanswer⟩ := htold
  have hknown : known.answer = .ok (some ⟨Frontmatter.range? told⟩) :=
    Option.some.inj (hanswer.symm.trans hteller.metadata)
  refine ⟨?_, fun v hv => ⟨fun upto behind htext hsize => ?_, fun hno => ?_⟩⟩
  · -- the edit is the one at the place that was told
    have hreaches := reaches_write (s := s) hposition hfound hknown
    rwa [topPlace_of_has hteller hteller.metadata] at hreaches
  · have happlied : edit.applied? met =
        some (String.ofList (Edit.onOwnLines upto (a.textIn st).toList behind)) := by
      rw [Edit.applied?, Edit.cutBytes?_eq_some_iff.mpr ⟨htext, hsize⟩]
      rfl
    obtain ⟨hgranted, hread⟩ := hv.write happlied
    refine ⟨hgranted, hread, ?_⟩
    obtain ⟨rest, hrest⟩ := @Frontmatter.front_isPrefix met.toList
    rw [Frontmatter.isFront_iff, ← hsize]
    refine ⟨fun h => by rw [h], fun h => Utf8.eq_of_size_eq (htext.trans hrest.symm) h.symm⟩
  · refine hv.brokenOff ?_
    rw [Edit.applied?, Option.map_eq_none_iff, Option.eq_none_iff_forall_ne_some]
    rintro ⟨upto, behind⟩ hcut
    obtain ⟨htext, hsize⟩ := Edit.cutBytes?_eq_some_iff.mp hcut
    exact hno upto behind htext hsize

end Overtaking

/-! ### A note whose frontmatter grows meanwhile -/

/-- An insertion at the top of a note. -/
def headNote : InsertText where
  filePath := "note.md"
  content := "new"
  position := .top

/-- A vault with nothing but a note. -/
def withNote (text : String) : Vault := .memory { files := [("note.md", text)] }

theorem has_withNote (text : String) : (withNote text).Has (headNote.pathIn {}) "note.md" text :=
  ⟨rfl, rfl⟩

/-- The reply by which the note is found. -/
def noteFound : Reply (.vault (.find (headNote.pathIn {}))) :=
  ⟨.ok (some "note.md"), false, default⟩

/-- The reply by which a place in the note is told. -/
def placeTold (text : String) : Reply (.vault (.metadata (headNote.pathIn {}))) :=
  ⟨.ok (some ⟨Frontmatter.range? text⟩), false, default⟩

/-- **An insertion that a line in the frontmatter has overtaken** succeeds, and goes in front of
the fence: there are as many bytes up to there as the frontmatter had before. -/
theorem overtaken_by_line :
    let told := "---\n# a\n---\nold"
    let met := withNote "---\n# a\nabc\n---\nold"
    let edit := Edit.insertAt 12 "new"
    (∃ written st', met.ask (.write "note.md" edit) = some written.answer ∧
      (Effect.insertText { form := {} } headNote).Run {}
        [.exchange 0 (.vault (.find (headNote.pathIn {}))) noteFound,
          .exchange 0 (.vault (.metadata (headNote.pathIn {}))) (placeTold told),
          .exchange 0 (.vault (.write "note.md" edit)) written] (.ok ()) st') ∧
    (met.answer (.write "note.md" edit)).2.ask (.read "note.md") =
      some (.ok "---\n# a\nabc\nnew\n---\nold") ∧
    ¬ Frontmatter.IsFront "---\n# a\nabc\n---\nold".toList "---\n# a\nabc\n".toList := by
  intro told met edit
  obtain ⟨⟨st₁, hreaches⟩, hmet⟩ :=
    @insertText_overtaken { form := {} } headNote "note.md" told "---\n# a\nabc\n---\nold" {} rfl
      noteFound (placeTold told) rfl ⟨withNote told, has_withNote told, rfl⟩
  have hedit : Edit.insertAt (Utf8.size (Frontmatter.front told.toList)) (headNote.textIn {}) =
      edit := by decide
  rw [hedit] at hmet hreaches
  obtain ⟨hgranted, hread, hfront⟩ := (hmet met (has_withNote _)).1 "---\n# a\nabc\n".toList
    "---\nold".toList (by decide) (by decide)
  let written : Reply (.vault (.write "note.md" edit)) := ⟨.ok (), false, default⟩
  refine ⟨⟨written, st₁.afterReply written, hgranted, ?_⟩, hread.trans ?_, fun h => ?_⟩
  · exact hreaches.run (run_askVault.mpr ⟨written, rfl, rfl, rfl⟩)
  · decide
  · exact absurd (hfront.mp h) (by decide)

/-- **A place inside a character**: the insertion that was told of a frontmatter meets a text of
other characters. It asks for its edit and gets no answer, and what was in the note is lost; on a
disk it would still be there. Behind a heading the insertion would have gone to its place. -/
theorem overtaken_inside_character :
    let told := "---\n# a\n---\nold"
    let met := "# aéééééé"
    let edit := Edit.insertAt 12 "new"
    let onDisk : Vault := .disk { disk := { entries := [("note.md", .file met)] } }
    (∃ st₁, (Effect.insertText { form := {} } headNote {}).Reaches
      [.exchange 0 (.vault (.find (headNote.pathIn {}))) noteFound,
        .exchange 0 (.vault (.metadata (headNote.pathIn {}))) (placeTold told)]
      (Effect.askVault { form := {} } (.write "note.md" edit) st₁)) ∧
    (withNote met).ask (.write "note.md" edit) = none ∧
    ((withNote met).answer (.write "note.md" edit)).2.ask (.read "note.md") = some (.ok "") ∧
    onDisk.ask (.write "note.md" edit) = none ∧
    (onDisk.answer (.write "note.md" edit)).2.ask (.read "note.md") = some (.ok met) ∧
    Edit.applied? (.insertAfterHeading "aéééééé" "new") met = some "# aéééééé\nnew" := by
  intro told met edit onDisk
  refine ⟨?_, ?_, ?_, ?_, ?_, ?_⟩
  · have hreaches := @reaches_write { form := {} } headNote "note.md" {} rfl noteFound rfl
      (placeTold told) _ rfl
    have hedit : Edit.insertAt (topPlace (some ⟨Frontmatter.range? told⟩)) (headNote.textIn {}) =
        edit := by decide
    rwa [hedit] at hreaches
  all_goals decide +kernel

end FormChain
