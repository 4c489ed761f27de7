import FormChain.Proofs.Chain.Inserting
import FormChain.Proofs.Vault.Numbering

/-!
# Files beside files

An action that creates a file, and finds one of its path, may be told to put a number into the
name. It asks for one number after another and takes the first that is free. Where a vault in
memory answers, and no one else is at it, all of the numbers make paths, so the search ends with
the least number of a free path, or with none (`FormChain.run_createNumbered`).

Main statement: one new file is there behind an action that succeeds, and all others are what they
were; behind one that fails nothing has changed, and it fails exactly if its name is blank or all
numbers are taken (`FormChain.createFile_beside`). Whether the number is in the name of the file is
up to how the path is written (`FormChain.NotePath.pointInName`): with a backslash behind the last
point, it is a folder that gets the number (`FormChain.folder_gets_number`).
-/

namespace FormChain

/-! ### Files that are found and created -/

namespace MemoryVault

variable {m : MemoryVault} {path file text : String}

/-- A file is found if it is there under the plain form of the path. -/
theorem find_of_normalize? (h : VaultPath.normalize? path = .ok file) :
    m.find path = .ok (if m.files.has file then some file else none) := by
  rw [find, h]
  rfl

/-- **Where there is no file, one is created.** -/
theorem answer_create_of_free (h : VaultPath.normalize? path = .ok file)
    (hfree : m.files.get? file = none) :
    m.answer (.create path text) = (some (.ok file), m.put file text) := by
  have hcreate : m.create path text = .ok (file, m.put file text) := by
    simp only [create, h, Keyed.has, hfree, bind, Except.bind, pure, Except.pure]
    rfl
  rw [answer, hcreate]

/-- **A number is taken** if there is a file under the path with it. -/
def IsTaken (m : MemoryVault) (path : String) (n : Nat) : Prop :=
  ∃ file, m.find (NotePath.numbered path n) = .ok (some file)

/-- **The first free number from a start on**, and the file that it is for. -/
structure FirstFree (m : MemoryVault) (path : String) (start n : Nat) (file : String) : Prop where
  /-- It comes behind the start. -/
  start_le : start ≤ n
  /-- The file has the path with the number. -/
  plain : VaultPath.normalize? (NotePath.numbered path n) = .ok file
  /-- There is none yet. -/
  free : m.files.get? file = none
  /-- The numbers before are taken. -/
  least : ∀ k, start ≤ k → k < n → m.IsTaken path k

/-- A free number is not taken. -/
theorem FirstFree.not_isTaken {start n : Nat} (h : m.FirstFree path start n file) :
    ¬ m.IsTaken path n := by
  rintro ⟨file', hfile'⟩
  rw [find_of_normalize? h.plain, Keyed.has, h.free] at hfile'
  cases hfile'

end MemoryVault

/-! ### Looking for a number -/

section Searching

variable {s : ChainSetting} {m : MemoryVault} {path content : String} {st st' : ChainState}
  {es : List Event}

/-- **The search for a number** that a vault answers: it creates the file of the first free number,
or there is none among those that are tried, and it fails. -/
theorem run_createNumbered (hplain : ∀ n, ∃ file,
      VaultPath.normalize? (NotePath.numbered path n) = .ok file)
    {left n : Nat} {result : Except ActionError String}
    (hrun : (Effect.createNumbered s path content left n).Run st es result st')
    (hanswers : m.Answers es) :
    (∃ k file, m.FirstFree path n k file ∧ k < n + left ∧ result = .ok file ∧
        m.behind es = m.put file content) ∨
      (∀ k, n ≤ k → k < n + left → m.IsTaken path k) ∧
        result = .error (.misuse (.noFreeName path)) ∧ m.behind es = m := by
  induction left generalizing n st es with
  | zero =>
    obtain ⟨rfl, rfl, -⟩ := Step.run_throw.mp hrun
    exact Or.inr ⟨fun k hk hk' => absurd hk (by omega), rfl, rfl⟩
  | succ left ih =>
    obtain ⟨found, es', rfl, hfound⟩ := run_askVault_bind.mp hrun
    have hfound' := MemoryVault.found_of_answers hanswers
    have hanswers := hanswers.2
    rw [MemoryVault.after_of_isReading rfl] at hanswers
    rw [MemoryVault.behind_cons, MemoryVault.after_of_isReading rfl]
    obtain ⟨file, hfile⟩ := hplain n
    have hfind : found.answer = .ok (if m.files.has file then some file else none) :=
      hfound'.trans (MemoryVault.find_of_normalize? hfile)
    rw [hfind] at hfound
    rcases hfound with ⟨e, he, -⟩ | ⟨answer, hanswer', hnext⟩
    · cases he
    obtain rfl := Except.ok.inj hanswer'
    by_cases hhas : m.files.has file = true
    · -- taken: the search goes on behind this number
      have htaken : m.IsTaken path n :=
        ⟨file, by rw [MemoryVault.find_of_normalize? hfile, if_pos hhas]⟩
      rw [if_pos hhas] at hnext
      have hall {k : Nat} (hk : n ≤ k) (hrest : n + 1 ≤ k → m.IsTaken path k) :
          m.IsTaken path k := by
        rcases Nat.eq_or_lt_of_le hk with rfl | hlt
        · exact htaken
        · exact hrest hlt
      rcases ih hnext hanswers with ⟨k, new, hfree, hk, hend⟩ | ⟨hnone, hend⟩
      · have hstart := hfree.start_le
        refine Or.inl ⟨k, new, ⟨by omega, hfree.plain, hfree.free, fun j hj hj' => ?_⟩,
          by omega, hend⟩
        exact hall hj fun hj => hfree.least j hj hj'
      · exact Or.inr ⟨fun k hk hk' => hall hk fun hk => hnone k hk (by omega), hend⟩
    · rw [if_neg hhas] at hnext
      have hfree : m.files.get? file = none := by simpa [Keyed.has] using hhas
      obtain ⟨created, rfl, rfl, -⟩ := run_askVault.mp hnext
      obtain ⟨hcreated, -⟩ := hanswers
      have hcreate := @MemoryVault.answer_create_of_free m _ _ content hfile hfree
      refine Or.inl ⟨n, file, ⟨le_refl n, hfile, hfree, fun k hk hk' => absurd hk (by omega)⟩,
        by omega, ?_, ?_⟩
      · rw [hcreate] at hcreated
        rw [← Option.some.inj hcreated]
        rfl
      · rw [MemoryVault.behind_cons, MemoryVault.after_answered hcreated, hcreate]
        rfl

end Searching

/-! ### Creating a file beside another -/

section Creating

variable {s : ChainSetting} {a : CreateFile} {m : MemoryVault} {st st' : ChainState}
  {es : List Event}

/-- The name of a file to be created, in a state. -/
def CreateFile.nameIn (a : CreateFile) (st : ChainState) : String :=
  (st.draw a.fileName).1

/-- The path of a file to be created, in a state. -/
def CreateFile.pathIn (a : CreateFile) (st : ChainState) : String :=
  NotePath.withExtension
    (NotePath.inFolder ((st.draw a.fileName).2.draw a.folder).1 (a.nameIn st))

/-- Writing into a variable that may be missing asks for nothing, and succeeds. -/
theorem run_writeOption {name : Option String} {v : Value} {result : Except ActionError Unit}
    (h : (Step.writeOption name v).Run st es result st') : es = [] ∧ result = .ok () := by
  cases name with
  | none =>
    obtain ⟨hes, hresult, -⟩ := Step.run_done.mp h
    exact ⟨hes, hresult⟩
  | some name =>
    obtain ⟨hes, hresult, -⟩ := Step.run_change.mp h
    exact ⟨hes, hresult⟩

/-- **Creating a file where one is found** comes to a search for a number, if the conflict has it
so and the name is not blank. -/
theorem run_createFile_rename {file : String} {result : Except ActionError Unit}
    (hrename : a.conflict = .rename)
    (hrun : (Effect.createFile s a).Run st es result st') (hanswers : m.Answers es)
    (hfind : m.find (a.pathIn st) = .ok (some file)) :
    (isBlankText (a.nameIn st) = true ∧ result = .error (.misuse .emptyFileName) ∧ es = []) ∨
      isBlankText (a.nameIn st) = false ∧
        ∃ (found : Reply (.vault (.find (a.pathIn st)))) (es' : List Event)
          (created : Except ActionError String) (st₁ st₂ : ChainState),
          es = .exchange s.token (.vault (.find (a.pathIn st))) found :: es' ∧
            (Effect.createNumbered s (a.pathIn st) (a.textIn st) Effect.maxNumber 1).Run st₁ es'
              created st₂ ∧ result = created.map fun _ => () := by
  have hrun := Step.run_expand_bind.mp hrun
  split at hrun
  · next hblank =>
    obtain ⟨rfl, rfl, -⟩ := Step.run_throw_bind.mp hrun
    exact Or.inl ⟨hblank, rfl, rfl⟩
  · next hname =>
    refine Or.inr ⟨Bool.eq_false_iff.mpr hname, ?_⟩
    have hrun := Step.run_expand_bind.mp (Step.run_expand_bind.mp hrun)
    obtain ⟨found, es', rfl, hfound⟩ := run_askVault_bind.mp hrun
    rw [(MemoryVault.found_of_answers hanswers).trans hfind] at hfound
    rcases hfound with ⟨e, he, -⟩ | ⟨answer, hanswer, hsettle⟩
    · cases he
    obtain rfl := Except.ok.inj hanswer
    simp only [Effect.settleConflict, hrename] at hsettle
    rcases Step.run_bind.mp hsettle with
      ⟨e, hsearch, rfl⟩ | ⟨es₁, created, st₁, es₂, rfl, hsearch, hwrite⟩
    · exact ⟨found, es', .error e, _, _, rfl, hsearch, rfl⟩
    · obtain ⟨rfl, rfl⟩ := run_writeOption hwrite
      rw [List.append_nil]
      exact ⟨found, es₁, .ok created, _, _, rfl, hsearch, rfl⟩

/-- **What creating a file leaves beside one that is there**, in a vault that answers all requests.
If it succeeds, one file is new: it has the path of the one that is there with the first free number
from 1 on, at most 999, and the text of the action. All other files are as they were. It is in the
same folder, and under the same name with the number, exactly if the last point of the path is in
the name. If it fails, nothing has changed: the name is blank, or all numbers are taken. -/
theorem createFile_beside {target : String} {result : Except ActionError Unit}
    (hrename : a.conflict = .rename)
    (hrun : (Effect.createFile s a).Run st es result st') (hanswers : m.Answers es)
    (htarget : m.find (a.pathIn st) = .ok (some target)) :
    (result = .ok () → ∃ n new, m.FirstFree (a.pathIn st) 1 n new ∧ n ≤ 999 ∧
      (∀ file, (m.behind es).files.get? file =
        if file = new then some (a.textIn st) else m.files.get? file) ∧
      (NotePath.IsNumbered target new n ↔ NotePath.pointInName (a.pathIn st) = true)) ∧
    (result ≠ .ok () → m.behind es = m) ∧
    (isBlankText (a.nameIn st) = true → result = .error (.misuse .emptyFileName)) ∧
    (isBlankText (a.nameIn st) = false →
      (result = .ok () ↔ ∃ n, 1 ≤ n ∧ n ≤ 999 ∧ ¬ m.IsTaken (a.pathIn st) n) ∧
      ((∀ n, 1 ≤ n → n ≤ 999 → m.IsTaken (a.pathIn st) n) →
        result = .error (.misuse (.noFreeName (a.pathIn st))))) := by
  have hplain : VaultPath.normalize? (a.pathIn st) = .ok target :=
    MemoryVault.find_eq_some htarget
  have hmax : Effect.maxNumber = 999 := rfl
  rcases run_createFile_rename hrename hrun hanswers htarget with
    ⟨hblank, rfl, rfl⟩ | ⟨hname, found, es', created, st₁, st₂, rfl, hsearch, rfl⟩
  · exact ⟨nofun, fun _ => rfl, fun _ => rfl, fun hname => absurd (hblank.symm.trans hname) nofun⟩
  · have hanswers' := hanswers.2
    rw [MemoryVault.after_of_isReading rfl] at hanswers'
    rw [MemoryVault.behind_cons, MemoryVault.after_of_isReading rfl]
    have hnumbered (n : Nat) := NotePath.exists_numbered hplain n
    rcases run_createNumbered (fun n => (hnumbered n).imp fun _ => And.left) hsearch hanswers' with
      ⟨n, new, hfree, hn, rfl, hbehind⟩ | ⟨hnone, rfl, hbehind⟩
    · refine ⟨fun _ => ⟨n, new, hfree, by omega, fun file => ?_, ?_⟩, fun hno => absurd rfl hno,
        fun hblank => absurd (hblank.symm.trans hname) nofun, fun _ => ⟨⟨fun _ => ?_, fun _ => rfl⟩,
        fun hall => ?_⟩⟩
      · rw [hbehind]
        split
        · next heq => rw [heq]; exact Keyed.get?_insert_self ..
        · next hne => exact Keyed.get?_insert_of_ne _ _ hne
      · obtain ⟨new', hnew', hiff⟩ := hnumbered n
        obtain rfl := Except.ok.inj (hfree.plain.symm.trans hnew')
        exact hiff
      · exact ⟨n, hfree.start_le, by omega, hfree.not_isTaken⟩
      · exact absurd (hall n hfree.start_le (by omega)) hfree.not_isTaken
    · refine ⟨nofun, fun _ => hbehind, fun hblank => absurd (hblank.symm.trans hname) nofun,
        fun _ => ⟨⟨nofun, ?_⟩, fun _ => rfl⟩⟩
      rintro ⟨n, hn, hn', hfree⟩
      exact absurd (hnone n hn (by omega)) hfree

end Creating

/-! ### A vault that answers all requests -/

/-- **How a vault in memory behaves** when no one else is at it. -/
noncomputable def MemoryVault.behaviour (m : MemoryVault) : Behaviour :=
  Script.withVault fun before r => ((m.behind before).answer r).1

/-- **It answers all requests** of a script that asks for no edit at a place told in bytes. -/
theorem MemoryVault.answers_under {α : Type} (m : MemoryVault) (x : Script α)
    (before : List Event)
    (hplaced : ∀ token r reply,
      .exchange token (.vault r) reply ∈ (x.under m.behaviour before).1 → r.isPlaced = false) :
    (m.behind before).Answers (x.under m.behaviour before).1 := by
  induction x generalizing before with
  | done a => trivial
  | remark r next ih =>
    have h := ih (before ++ [.remark r]) fun token r reply hmem =>
      hplaced token r reply (.tail _ hmem)
    rwa [behind_append] at h
  | ask token call next ih =>
    have h := ih (m.behaviour before token call)
      (before ++ [.exchange token call (m.behaviour before token call)])
      fun token r reply hmem => hplaced token r reply (.tail _ hmem)
    rw [behind_append, behind_cons, behind_nil] at h
    cases call with
    | vault r =>
      obtain ⟨a, ha⟩ := (m.behind before).exists_answer (hplaced token r _ (.head _))
      have hreply : (m.behaviour before token (.vault r)).answer = a := Script.answer_withVault ha
      exact ⟨ha.trans (congrArg some hreply.symm), h⟩
    | _ => exact h

/-- What happens under it is a run of an effect that the vault answers. -/
theorem MemoryVault.run_under_behaviour {α : Type} (m : MemoryVault) {x : Effect α}
    {st : ChainState} (h : AsksOnly (·.isPlaced = false) x st) :
    x.Run st ((x st).under m.behaviour []).1 ((x st).under m.behaviour []).2.1
        ((x st).under m.behaviour []).2.2 ∧
      m.Answers ((x st).under m.behaviour []).1 :=
  have hrun := Script.run_under m.behaviour (x st) []
  ⟨hrun, m.answers_under (x st) [] (h _ _ _ hrun)⟩

/-- Creating a file asks for no such edit. -/
theorem asksOnly_createFile_unplaced (s : ChainSetting) (a : CreateFile) (st : ChainState) :
    AsksOnly (·.isPlaced = false) (Effect.createFile s a) st := by
  refine (@asksOnly_createFile s { id := "" } st a).mono fun r h => ?_
  rw [← Bool.not_eq_true]
  intro hr
  obtain ⟨_, _, he, -⟩ := h.of_isPlaced hr
  cases he

/-! ### Two notes -/

/-- A note with a folder. -/
def spareNote : CreateFile where
  folder := "docs"
  fileName := "note"
  content := "new"

/-- A vault in which the name of the note is taken, and the first number too. -/
def withSpares : MemoryVault where
  files := [("docs/note 1.md", "second"), ("docs/note.md", "first")]
  folders := [("docs", ())]

/-- **The note gets the second number**, and is in its folder. -/
theorem spareNote_gets_second :
    ∃ es st' new, (Effect.createFile { form := {} } spareNote).Run {} es (.ok ()) st' ∧
      withSpares.Answers es ∧ withSpares.FirstFree "docs/note.md" 1 2 new ∧
      (withSpares.behind es).files.get? new = some "new" ∧
      NotePath.IsNumbered "docs/note.md" new 2 := by
  have h := withSpares.run_under_behaviour
    (asksOnly_createFile_unplaced { form := {} } spareNote {})
  generalize (Effect.createFile { form := {} } spareNote {}).under withSpares.behaviour [] = seen
    at h
  obtain ⟨es, result, st'⟩ := seen
  obtain ⟨hrun, hanswers⟩ := h
  have hpath : spareNote.pathIn {} = "docs/note.md" := rfl
  have htarget : withSpares.find (spareNote.pathIn {}) = .ok (some "docs/note.md") := rfl
  obtain ⟨hdone, -, -, hnamed⟩ := createFile_beside rfl hrun hanswers htarget
  rw [hpath] at hdone hnamed
  have htaken : withSpares.IsTaken "docs/note.md" 1 := ⟨"docs/note 1.md", by decide⟩
  have hfree : ¬ withSpares.IsTaken "docs/note.md" 2 := by
    rintro ⟨file, hfile⟩
    cases hfile.symm.trans (show _ = Except.ok none by decide)
  obtain rfl : result = .ok () := (hnamed (by decide)).1.mpr ⟨2, by decide, by decide, hfree⟩
  obtain ⟨n, new, hfirst, -, hfiles, hin⟩ := hdone rfl
  obtain rfl : n = 2 := by
    rcases Nat.lt_trichotomy n 2 with hlt | heq | hgt
    · obtain rfl : n = 1 := by have := hfirst.start_le; omega
      exact absurd htaken hfirst.not_isTaken
    · exact heq
    · exact absurd (hfirst.least 2 (by decide) hgt) hfree
  exact ⟨es, st', new, hrun, hanswers, hfirst, (hfiles new).trans (if_pos rfl), hin.mpr (by decide)⟩

/-- A note in a folder with a point, by a backslash. -/
def backslashNote : CreateFile where
  fileName := "a.b\\c"
  content := "x"

/-- **A folder gets the number**, if the last point is in its name and only a backslash comes
behind: the new file is in another folder, under the same name. -/
theorem folder_gets_number :
    let m : MemoryVault := { files := [("a.b/c", "old")], folders := [("a.b", ())] }
    m.find (backslashNote.pathIn {}) = .ok (some "a.b/c") ∧
      ∃ es st', (Effect.createFile { form := {} } backslashNote).Run {} es (.ok ()) st' ∧
        m.Answers es ∧ (m.behind es).files = [("a 1.b/c", "x"), ("a.b/c", "old")] ∧
        ∀ n, ¬ NotePath.IsNumbered "a.b/c" "a 1.b/c" n := by
  intro m
  refine ⟨by decide +kernel, ?_⟩
  obtain ⟨hrun, hanswers⟩ :=
    m.run_under_behaviour (asksOnly_createFile_unplaced { form := {} } backslashNote {})
  have hresult : ((Effect.createFile { form := {} } backslashNote {}).under
      m.behaviour []).2.1 = .ok () := by
    simp only [Effect.createFile, Step.expand]
    rfl
  have hfiles : (m.behind ((Effect.createFile { form := {} } backslashNote {}).under
      m.behaviour []).1).files = [("a 1.b/c", "x"), ("a.b/c", "old")] := by
    decide +kernel
  generalize (Effect.createFile { form := {} } backslashNote {}).under m.behaviour [] = seen
    at hrun hanswers hresult hfiles
  obtain ⟨es, result, st'⟩ := seen
  obtain rfl : result = .ok () := hresult
  refine ⟨es, st', hrun, hanswers, hfiles, ?_⟩
  rintro n ⟨folder, name, name', htarget, hnew, -⟩
  -- the folders differ
  obtain ⟨rfl, -⟩ := List.append_singleton_inj.mp
    (htarget.symm.trans (show _ = ["a.b"] ++ ["c"] by decide))
  obtain ⟨hfolder, -⟩ := List.append_singleton_inj.mp
    (hnew.symm.trans (show _ = ["a 1.b"] ++ ["c"] by decide))
  exact absurd hfolder (by decide)

end FormChain
