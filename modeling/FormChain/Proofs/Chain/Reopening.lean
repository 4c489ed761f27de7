import FormChain.Proofs.Chain.Renaming
import FormChain.Proofs.Form.Fields

/-!
# Created files that are found again

Both the action that creates a file and the one that inserts a text put the usual extension behind
a path whose name has no point. They do so with the path as it is written, and only the vault
brings it to its plain form. The plain form is what the first action leaves in its variable, so it
is a path with an extension that the second one reads, unless a backslash or a point alone was
taken for the name (`FormChain.CreatedAs.point_mem_lastName`).

An insertion works on a file (`FormChain.WorksOn`) if its path leads there and no further
(`FormChain.worksOn_iff`). So what becomes of the two actions, one after the other, is a matter of
paths: the stored path leads to the file exactly if there is a point in its name, and the name of
the file, which only the first action trims, exactly if no blanks get in front of the extension
(`FormChain.createFile_reopened`). Neither is always so (`FormChain.created_file_missed`).
-/

namespace FormChain

/-! ### What an insertion works on -/

/-- **An insertion works on a file** of a vault that answers it. -/
structure WorksOn (m : MemoryVault) (file : String) (es : List Event)
    (result : Except ActionError Unit) : Prop where
  /-- It looks for a file first, and finds this one. -/
  found : ∃ token path reply es', es = .exchange token (.vault (.find path)) reply :: es' ∧
    reply.answer = .ok (some file)
  /-- It does not fail for want of a file. -/
  not_missing : ∀ path, result ≠ .error (.vault (.notFound path))
  /-- The file is still there. -/
  stays : ((m.behind es).files.get? file).isSome = true
  /-- Other files are not created, and not changed. -/
  others : ∀ other, other ≠ file → (m.behind es).files.get? other = m.files.get? other

section Working

variable {s : ChainSetting} {m : MemoryVault} {a : InsertText} {path file text : String}
  {st st' : ChainState} {es : List Event}

/-- **What only reads meets the file**, where the vault answers, and leaves the vault alone. -/
theorem meetsFile_of_answers (hv : (Vault.memory m).Has path file text) (hanswers : m.Answers es)
    (hreading : ∀ token r reply, .exchange token (.vault r) reply ∈ es → r.isReading = true) :
    MeetsFile path file text es ∧ m.behind es = m := by
  induction es with
  | nil => exact ⟨nofun, rfl⟩
  | cons e es ih =>
    have hrest := fun token r reply hmem => hreading token r reply (.tail _ hmem)
    have hsame : m.after e = m := by
      cases e with
      | remark => rfl
      | exchange token c reply =>
        cases c with
        | vault r => exact MemoryVault.after_of_isReading (hreading token r reply (.head _)) reply
        | _ => rfl
    obtain ⟨hanswer, hanswers⟩ := MemoryVault.answers_append.mp
      (show m.Answers ([e] ++ es) from hanswers)
    rw [MemoryVault.behind_cons, hsame] at hanswers
    obtain ⟨hmeets, hbehind⟩ := ih hanswers hrest
    refine ⟨fun token r reply hmem => ?_, by rw [MemoryVault.behind_cons, hsame, hbehind]⟩
    rcases List.mem_cons.mp hmem with rfl | hmem
    · exact ⟨.memory m, hv, hanswer.1⟩
    · exact hmeets token r reply hmem

/-- What is found first is the file that the path leads to. -/
theorem normalize?_of_found {token : Token} {found : Reply (.vault (.find path))}
    (hanswer : found.answer = m.find path)
    (h : ∃ token' path' reply es', .exchange token (.vault (.find path)) found :: es =
      .exchange token' (.vault (.find path')) reply :: es' ∧ reply.answer = .ok (some file)) :
    VaultPath.normalize? path = .ok file := by
  obtain ⟨_, _, _, _, heq, hsome⟩ := h
  cases heq
  exact MemoryVault.find_eq_some (hanswer.symm.trans hsome)

/-- **An insertion works on the file that is found**, where that is there. -/
theorem worksOn_of_found {found : Reply (.vault (.find path))} {content : String}
    {result : Except ActionError Unit} (hv : (Vault.memory m).Has path file text)
    (hrun : (insertInto s a path content (some file)).Run st es result st')
    (hanswers : m.Answers (.exchange s.token (.vault (.find path)) found :: es)) :
    WorksOn m file (.exchange s.token (.vault (.find path)) found :: es) result := by
  have hfound := (MemoryVault.found_of_answers hanswers).trans (Option.some.inj hv.found)
  have hanswers := hanswers.2
  rw [MemoryVault.after_of_isReading rfl] at hanswers
  have hbehind : m.behind (.exchange s.token (.vault (.find path)) found :: es) = m.behind es := by
    rw [MemoryVault.behind_cons, MemoryVault.after_of_isReading rfl]
  have htext := MemoryVault.read_eq_ok_iff.mp (Option.some.inj hv.read)
  have hreads := (makesInsertion_insertionOf s a path file content st
    (P := fun r => r.isReading = true) fun _ hr => hr).asksOnly
  rcases Step.run_bind.mp hrun with ⟨e, hedit, rfl⟩ | ⟨es₁, edit, st₁, es₂, rfl, hedit, hwrite⟩
  · -- the text has no place in the file, and nothing is changed
    obtain ⟨hmeets, hsame⟩ := meetsFile_of_answers hv hanswers (hreads _ _ _ hedit)
    rw [hsame] at hbehind
    obtain ⟨-, ⟨_, _, _, he, -⟩ | ⟨-, he, -⟩⟩ := run_insertionOf hedit hmeets
    · cases he
    · obtain rfl := Except.error.inj he
      refine ⟨⟨_, _, _, _, rfl, hfound⟩, nofun, ?_, fun other _ => by rw [hbehind]⟩
      rw [hbehind, htext]
      rfl
  · obtain ⟨hanswers₁, hanswers₂⟩ := MemoryVault.answers_append.mp hanswers
    obtain ⟨hmeets, hsame⟩ := meetsFile_of_answers hv hanswers₁ (hreads _ _ _ hedit)
    obtain ⟨-, ⟨_, _, _, hok, hputs, -⟩ | ⟨-, hno, -⟩⟩ := run_insertionOf hedit hmeets
    · obtain rfl := Except.ok.inj hok
      obtain ⟨reply, rfl, rfl, -⟩ := run_askVault.mp hwrite
      rw [hsame] at hanswers₂
      have hgranted : (m.answer (.write file edit)).1 = some (.ok ()) := (hputs.granted hv).1
      have hreply : reply.answer = .ok () := Option.some.inj (hanswers₂.1.symm.trans hgranted)
      obtain ⟨old, new, -, -, hput⟩ := MemoryVault.answer_write_ok hgranted
      have hwritten : m.behind [.exchange s.token (.vault (.write file edit)) reply] =
          { m with files := m.files.insert file new } := by
        rw [MemoryVault.behind_cons, MemoryVault.after_answered hanswers₂.1, hput]
        rfl
      rw [MemoryVault.behind_append, hsame, hwritten] at hbehind
      refine ⟨⟨_, _, _, _, rfl, hfound⟩, fun _ => ?_, ?_, fun other hother => ?_⟩
      · rw [hreply]
        nofun
      · rw [hbehind]
        exact Option.isSome_iff_exists.mpr ⟨new, Keyed.get?_insert_self ..⟩
      · rw [hbehind]
        exact Keyed.get?_insert_of_ne _ _ hother
    · cases hno

/-- **An insertion works on a file exactly if its path leads there.** -/
theorem worksOn_iff {result : Except ActionError Unit}
    (hrun : (Effect.insertText s a).Run st es result st') (hanswers : m.Answers es)
    (hfile : (m.files.get? file).isSome = true) :
    WorksOn m file es result ↔ VaultPath.normalize? (a.pathIn st) = .ok file := by
  obtain ⟨found, es', rfl, hfound⟩ := run_insertText.mp hrun
  have hanswer := MemoryVault.found_of_answers hanswers
  refine ⟨fun h => normalize?_of_found hanswer h.found, fun hplain => ?_⟩
  obtain ⟨text, htext⟩ := Option.isSome_iff_exists.mp hfile
  have hfind : m.find (a.pathIn st) = .ok (some file) := by
    rw [MemoryVault.find_of_normalize? hplain, Keyed.has, hfile, if_pos rfl]
  rw [hanswer.trans hfind] at hfound
  rcases hfound with ⟨e, he, -⟩ | ⟨_, hfile', hinsert⟩
  · cases he
  · obtain rfl := Except.ok.inj hfile'
    have hread : m.read file = .ok text := MemoryVault.read_eq_ok_iff.mpr htext
    exact worksOn_of_found ⟨congrArg some hfind, congrArg some hread⟩ hinsert hanswers

/-- Where its path leads to no file, an insertion that may not create one fails. -/
theorem missing_of_find {result : Except ActionError Unit}
    (hrun : (Effect.insertText s a).Run st es result st') (hanswers : m.Answers es)
    (hfind : m.find (a.pathIn st) = .ok none) (hcreate : a.createIfMissing = false) :
    result = .error (.vault (.notFound (a.pathIn st))) := by
  obtain ⟨found, es', rfl, hfound⟩ := run_insertText.mp hrun
  rw [(MemoryVault.found_of_answers hanswers).trans hfind] at hfound
  rcases hfound with ⟨e, he, -⟩ | ⟨_, hnone, hinsert⟩
  · cases he
  · obtain rfl := Except.ok.inj hnone
    rw [insertInto, hcreate] at hinsert
    exact (Step.run_throw.mp hinsert).2.1

end Working

/-! ### What a file is created as -/

/-- The folder of a file to be created, in a state. -/
def CreateFile.folderIn (a : CreateFile) (st : ChainState) : String :=
  ((st.draw a.fileName).2.draw a.folder).1

section Creating

variable {s : ChainSetting} {m : MemoryVault} {a : CreateFile} {file : String}
  {st st' : ChainState} {es : List Event}

/-- A variable that is written has what was written. -/
theorem get?_of_run_writeOption {name : Option String} {v : Value}
    {result : Except ActionError Unit} (h : (Step.writeOption name v).Run st es result st') :
    ∀ n, name = some n → st'.outputs.get? n = some v := by
  rintro n rfl
  obtain ⟨-, -, rfl⟩ := Step.run_change.mp h
  exact Keyed.get?_insert_self ..

/-- A file that is found is there. -/
theorem isSome_of_find {path : String} (h : m.find path = .ok (some file)) :
    (m.files.get? file).isSome = true := by
  have hplain : VaultPath.normalize? path = .ok file := MemoryVault.find_eq_some h
  rw [MemoryVault.find_of_normalize? hplain] at h
  by_contra hnone
  rw [Keyed.has, if_neg hnone] at h
  cases h

/-- **How the file of an action came by its path**: it is that of the action, or, if there was such
a file and the conflict has it so, one with a number. -/
inductive CreatedAs (m : MemoryVault) (a : CreateFile) (st : ChainState) (file : String) : Prop
  /-- It has the path of the action. -/
  | plainly (h : VaultPath.normalize? (a.pathIn st) = .ok file)
  /-- It has the path with a number. -/
  | renamed (n : Nat) (taken : String) (hconflict : a.conflict = .rename)
    (htaken : m.find (a.pathIn st) = .ok (some taken))
    (h : VaultPath.normalize? (NotePath.numbered (a.pathIn st) n) = .ok file)

/-- Where a file of the path is there, the conflict says which file is meant. -/
theorem createdAs_of_settleConflict {content taken : String} {st₀ st₁ : ChainState}
    (hrun : (Effect.settleConflict s a.conflict (a.pathIn st) taken content).Run st₀ es
      (.ok file) st₁) (hanswers : m.Answers es)
    (htaken : m.find (a.pathIn st) = .ok (some taken)) :
    CreatedAs m a st file ∧ ((m.behind es).files.get? file).isSome = true := by
  have hplain : VaultPath.normalize? (a.pathIn st) = .ok taken :=
    MemoryVault.find_eq_some htaken
  cases hconflict : a.conflict with
  | skip =>
    rw [hconflict] at hrun
    obtain ⟨rfl, hfile, -⟩ := Step.run_pure.mp hrun
    obtain rfl := Except.ok.inj hfile
    exact ⟨.plainly hplain, isSome_of_find htaken⟩
  | overwrite =>
    rw [hconflict] at hrun
    obtain ⟨reply, _, es', rfl, hreply, hpure⟩ := run_askVault_ok hrun
    obtain ⟨rfl, hfile, -⟩ := Step.run_pure.mp hpure
    obtain rfl := Except.ok.inj hfile
    obtain ⟨old, new, -, -, hput⟩ := MemoryVault.answer_write_ok
      (hanswers.1.trans (congrArg some hreply))
    refine ⟨.plainly hplain, ?_⟩
    rw [MemoryVault.behind_cons, MemoryVault.after_answered hanswers.1, hput,
      MemoryVault.behind_nil]
    exact Option.isSome_iff_exists.mpr ⟨new, Keyed.get?_insert_self ..⟩
  | rename =>
    rw [hconflict] at hrun
    have hnumbered (n : Nat) := (NotePath.exists_numbered hplain n).imp fun _ => And.left
    rcases run_createNumbered hnumbered hrun hanswers with
      ⟨n, new, hfree, -, hnew, hbehind⟩ | ⟨-, he, -⟩
    · obtain rfl := Except.ok.inj hnew
      refine ⟨.renamed n taken hconflict htaken hfree.plain, ?_⟩
      rw [hbehind]
      exact Option.isSome_iff_exists.mpr ⟨content, Keyed.get?_insert_self ..⟩
    · cases he

/-- **An action that creates a file** and succeeds: the file is there, under a path of the action,
and its path is in the output. -/
theorem exists_created (hrun : (Effect.createFile s a).Run st es (.ok ()) st')
    (hanswers : m.Answers es) :
    isBlankText (a.nameIn st) = false ∧ ∃ file, CreatedAs m a st file ∧
      ((m.behind es).files.get? file).isSome = true ∧
      ∀ name, a.output = some name → st'.outputs.get? name = some (.text file) := by
  have hrun := Step.run_expand_bind.mp hrun
  split at hrun
  · obtain ⟨-, he, -⟩ := Step.run_throw_bind.mp hrun
    cases he
  · next hname =>
    refine ⟨Bool.eq_false_iff.mpr hname, ?_⟩
    have hrun := Step.run_expand_bind.mp (Step.run_expand_bind.mp hrun)
    obtain ⟨found, es', rfl, hfound⟩ := run_askVault_bind.mp hrun
    have hfind := MemoryVault.found_of_answers hanswers
    have hanswers := hanswers.2
    rw [MemoryVault.after_of_isReading rfl] at hanswers
    rw [MemoryVault.behind_cons, MemoryVault.after_of_isReading rfl]
    rcases hfound with ⟨e, -, -, he, -⟩ | ⟨answer, hanswer, hcreate⟩
    · cases he
    · rw [hfind] at hanswer
      cases answer with
      | none =>
        obtain ⟨reply, file, es₁, rfl, hreply, hwrite⟩ := run_askVault_ok hcreate
        obtain ⟨rfl, -⟩ := run_writeOption hwrite
        obtain ⟨hplain, -, hput⟩ := MemoryVault.answer_create_ok
          (hanswers.1.trans (congrArg some hreply))
        refine ⟨file, .plainly hplain, ?_, get?_of_run_writeOption hwrite⟩
        rw [MemoryVault.behind_cons, MemoryVault.after_answered hanswers.1, hput,
          MemoryVault.behind_nil]
        exact Option.isSome_iff_exists.mpr ⟨_, Keyed.get?_insert_self ..⟩
      | some taken =>
        rcases Step.run_bind.mp hcreate with ⟨e, -, he⟩ |
          ⟨es₁, file, st₁, es₂, rfl, hsettle, hwrite⟩
        · cases he
        · obtain ⟨rfl, -⟩ := run_writeOption hwrite
          rw [List.append_nil] at hanswers ⊢
          obtain ⟨hcreated, hthere⟩ := createdAs_of_settleConflict hsettle hanswers hanswer
          exact ⟨file, hcreated, hthere, get?_of_run_writeOption hwrite⟩

/-- There is a point in the name of a file that is created, unless a backslash parts the name of its
path, or a point is all of it. -/
theorem CreatedAs.point_mem_lastName (h : CreatedAs m a st file)
    (hbackslash : '\\' ∉ NotePath.lastName (a.pathIn st).toList)
    (halone : Text.trim (NotePath.lastName (a.pathIn st).toList) ≠ ['.']) :
    '.' ∈ NotePath.lastName file.toList := by
  have hpoint : '.' ∈ NotePath.lastName (a.pathIn st).toList :=
    NotePath.point_mem_lastName_withExtension _
  cases h with
  | plainly h => exact NotePath.point_mem_lastName_of_normalize? h hpoint hbackslash halone
  | renamed n taken _ _ h => exact NotePath.point_mem_lastName_of_numbered h hpoint hbackslash

/-- The path of a file is a plain one. -/
theorem CreatedAs.exists_path (h : CreatedAs m a st file) :
    ∃ path, VaultPath.normalize? path = .ok file := by
  cases h with
  | plainly h => exact ⟨_, h⟩
  | renamed n taken _ _ h => exact ⟨_, h⟩

/-- **Which insertions work on a file that was created.** Behind an action that creates a file and
succeeds, the file is there, and its path is in the variable of the action. There is a point in the
name of the file, unless a backslash parts the name that was written, or a point is all of it. An
insertion whose path comes to that of the file works on it exactly if there is a point in its name.
One whose path comes to the name that the file was created by, in no folder and without a number,
works on it exactly if this name has a point, or no blanks at its end, or nothing but blanks behind
its last slash or backslash. -/
theorem createFile_reopened {b : InsertText} {st₁ st₁' : ChainState} {es₁ : List Event}
    {result : Except ActionError Unit} (hcreate : (Effect.createFile s a).Run st es (.ok ()) st')
    (hanswers : m.Answers es) (hinsert : (Effect.insertText s b).Run st₁ es₁ result st₁')
    (hanswers₁ : (m.behind es).Answers es₁) :
    ∃ file, ((m.behind es).files.get? file).isSome = true ∧
      (∀ name, a.output = some name → st'.outputs.get? name = some (.text file)) ∧
      ('\\' ∉ NotePath.lastName (a.pathIn st).toList →
        Text.trim (NotePath.lastName (a.pathIn st).toList) ≠ ['.'] →
        '.' ∈ NotePath.lastName file.toList) ∧
      ((st₁.draw b.filePath).1 = file →
        (WorksOn (m.behind es) file es₁ result ↔ '.' ∈ NotePath.lastName file.toList)) ∧
      (Text.strip '/' (Text.trim (a.folderIn st).toList) = [] →
        (a.conflict = .rename → m.find (a.pathIn st) = .ok none) →
        (st₁.draw b.filePath).1 = a.nameIn st →
        (WorksOn (m.behind es) file es₁ result ↔
          '.' ∈ NotePath.lastName (a.nameIn st).toList ∨
            Text.trimEnd (a.nameIn st).toList = (a.nameIn st).toList ∨
            ((VaultPath.parts (a.nameIn st).toList).getLastD []).all isBlank = true)) := by
  obtain ⟨hname, file, hcreated, hthere, houtput⟩ := exists_created hcreate hanswers
  refine ⟨file, hthere, houtput, hcreated.point_mem_lastName, fun hpath => ?_,
    fun hfolder hrename hpath => ?_⟩
  · obtain ⟨path, hplain⟩ := hcreated.exists_path
    rw [worksOn_iff hinsert hanswers₁ hthere, InsertText.pathIn, hpath]
    exact NotePath.normalize?_withExtension_plain hplain
  · rw [worksOn_iff hinsert hanswers₁ hthere, InsertText.pathIn, hpath]
    cases hcreated with
    | plainly h => exact NotePath.normalize?_withExtension_name hname hfolder h
    | renamed n taken hconflict htaken h => cases (hrename hconflict).symm.trans htaken

end Creating

/-! ### Three notes -/

/-- What happens as a file is created in an empty vault. -/
noncomputable def creating (a : CreateFile) : List Event × Except ActionError Unit × ChainState :=
  (Effect.createFile { form := {} } a {}).under MemoryVault.empty.behaviour []

/-- What happens as a file is created is a run that the vault answers. -/
theorem exists_creating {a : CreateFile} (h : (creating a).2.1 = .ok ()) :
    ∃ es st', creating a = (es, .ok (), st') ∧
      (Effect.createFile { form := {} } a).Run {} es (.ok ()) st' ∧
      MemoryVault.empty.Answers es := by
  have hrun := MemoryVault.empty.run_under_behaviour
    (asksOnly_createFile_unplaced { form := {} } a {})
  rw [← creating] at hrun
  generalize creating a = seen at h hrun ⊢
  obtain ⟨es, result, st'⟩ := seen
  obtain rfl : result = .ok () := h
  exact ⟨es, st', rfl, hrun⟩

/-- Every vault answers an insertion at the end of a file or behind a heading. -/
theorem exists_inserting (m : MemoryVault) (b : InsertText) (st : ChainState)
    (hposition : b.position ≠ .top) :
    ∃ es result st', (Effect.insertText { form := {} } b).Run st es result st' ∧ m.Answers es := by
  have hasks : AsksOnly (·.isPlaced = false) (Effect.insertText { form := {} } b) st := by
    refine (@asksOnly_insertText { form := {} } { id := "" } st b).mono fun r h => ?_
    rw [← Bool.not_eq_true]
    intro hr
    obtain ⟨_, _, he, htop⟩ := h.of_isPlaced hr
    cases he
    exact hposition htop
  exact ⟨_, _, _, m.run_under_behaviour hasks⟩

/-- A note in a folder, with its path in a variable. -/
def keptNote : CreateFile where
  folder := "docs"
  fileName := "note"
  content := "x"
  output := some "path"

/-- An insertion into the file of the variable. -/
def intoKept : InsertText where
  filePath := "\x7b\x7boutput:path\x7d\x7d"
  content := "y"

/-- **The note is found again** by its path. -/
theorem keptNote_reopened :
    ∃ es st' es₁ result st₁', (Effect.createFile { form := {} } keptNote).Run {} es (.ok ()) st' ∧
      MemoryVault.empty.Answers es ∧
      (Effect.insertText { form := {} } intoKept).Run st' es₁ result st₁' ∧
      (MemoryVault.empty.behind es).Answers es₁ ∧
      st'.outputs.get? "path" = some (.text "docs/note.md") ∧
      WorksOn (MemoryVault.empty.behind es) "docs/note.md" es₁ result := by
  have hresult : (creating keptNote).2.1 = .ok () := by
    simp only [creating, Effect.createFile, Step.expand]
    rfl
  have hpath : ((creating keptNote).2.2.draw intoKept.filePath).1 = "docs/note.md" := by
    decide +kernel
  have hfiles : (MemoryVault.empty.behind (creating keptNote).1).files = [("docs/note.md", "x")] := by
    decide +kernel
  obtain ⟨es, st', hseen, hcreate, hanswers⟩ := exists_creating hresult
  rw [hseen] at hpath hfiles
  obtain ⟨es₁, result, st₁', hinsert, hanswers₁⟩ :=
    exists_inserting (MemoryVault.empty.behind es) intoKept st' (by decide)
  obtain ⟨file, hthere, houtput, -, hread, -⟩ :=
    createFile_reopened hcreate hanswers hinsert hanswers₁
  have hfile : file = "docs/note.md" := by
    rw [hfiles] at hthere
    exact List.mem_singleton.mp (Keyed.mem_names_iff.mpr hthere)
  subst hfile
  exact ⟨_, _, es₁, result, st₁', hcreate, hanswers, hinsert, hanswers₁, houtput "path" rfl,
    (hread hpath).mpr (by decide)⟩

/-- A note with a blank at the end of its name. -/
def spacedNote : CreateFile where
  fileName := "note "
  content := "x"

/-- **A created file is missed** by an insertion into a path. -/
def Misses (a : CreateFile) (path file missing : String) : Prop :=
  ∃ es st' es₁ st₁', (Effect.createFile { form := {} } a).Run {} es (.ok ()) st' ∧
    MemoryVault.empty.Answers es ∧ (MemoryVault.empty.behind es).files = [(file, "x")] ∧
    (Effect.insertText { form := {} } { filePath := path, content := "y" }).Run st' es₁
      (.error (.vault (.notFound missing))) st₁' ∧
    (MemoryVault.empty.behind es).Answers es₁

/-- A file is missed if the path with its extension is plain and that of no file. -/
theorem misses_of_has {a : CreateFile} {path file missing : String}
    (hresult : (creating a).2.1 = .ok ())
    (hfiles : (MemoryVault.empty.behind (creating a).1).files = [(file, "x")])
    (hpath : NotePath.withExtension ((creating a).2.2.draw path).1 = missing)
    (hplain : VaultPath.normalize? missing = .ok missing)
    (hother : Keyed.has [(file, "x")] missing = false) : Misses a path file missing := by
  obtain ⟨es, st', hseen, hcreate, hanswers⟩ := exists_creating hresult
  rw [hseen] at hpath hfiles
  obtain ⟨es₁, result, st₁', hinsert, hanswers₁⟩ :=
    exists_inserting (MemoryVault.empty.behind es) { filePath := path, content := "y" } st'
      (by simp)
  have hmissing := missing_of_find hinsert hanswers₁ (by
    rw [InsertText.pathIn, hpath, MemoryVault.find_of_normalize? hplain, hfiles, hother]
    rfl) rfl
  rw [InsertText.pathIn, hpath] at hmissing
  subst hmissing
  exact ⟨_, _, es₁, st₁', hcreate, hanswers, hfiles, hinsert, hanswers₁⟩

/-- **The path of a file may lead elsewhere**, where its name has no point, and so may the name that
it was created by. -/
theorem created_file_missed :
    Misses backslashNote "a.b/c" "a.b/c" "a.b/c.md" ∧
      Misses spacedNote "note " "note.md" "note .md" := by
  constructor
  · refine misses_of_has ?_ (by decide +kernel) (by decide +kernel) (by decide +kernel) (by decide)
    simp only [creating, Effect.createFile, Step.expand]
    rfl
  · refine misses_of_has ?_ (by decide +kernel) (by decide +kernel) (by decide +kernel) (by decide)
    simp only [creating, Effect.createFile, Step.expand]
    rfl

end FormChain
