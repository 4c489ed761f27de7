import FormChain.Proofs.Vault.Growth
import FormChain.Proofs.Vault.Mirror

/-!
# What a vault in memory keeps in step

A vault in memory keeps files and folders beside one another. Files are created under paths, which
are brought to plain form, and written through the names that the vault gave for them, which are
taken as they are. All the same, whatever files it starts with and whatever is done with it, the
two stay in step: it has files under plain paths only, and just the folders that they lie in
(`FormChain.MemoryVault.IsTidy`).

A path lies in a folder if the folder and a slash stand in front of it
(`FormChain.VaultPath.LiesIn`). The folders that a vault makes for a file are just those
(`FormChain.VaultPath.mem_parentFolders_iff`), so a new file brings its own
(`FormChain.MemoryVault.IsTidy.put`), and a text in place of another brings none.
-/

namespace FormChain

namespace VaultPath

variable {path folder : String}

/-- **A path lies in a folder**: the folder stands in front of it, and a slash. -/
def LiesIn (folder path : String) : Prop :=
  ∃ rest, path = folder ++ "/" ++ rest

/-- **The folders that a vault makes for a file** are those that it lies in. -/
theorem mem_parentFolders_iff : folder ∈ parentFolders path ↔ LiesIn folder path := by
  rw [parentFolders, mem_foldersBelow]
  constructor
  · rintro ⟨p, q, hp, hq, hsegs, rfl⟩
    refine ⟨ofSegments q, ?_⟩
    rw [← @ofSegments_segmentsOf path, hsegs, List.nil_append]
    exact String.intercalate_append_of_ne_nil hp hq
  · rintro ⟨rest, rfl⟩
    exact ⟨segmentsOf folder, segmentsOf rest, segmentsOf_ne_nil, segmentsOf_ne_nil,
      segmentsOf_slash, ofSegments_segmentsOf.symm⟩

end VaultPath

open VaultPath

/-! ### What is done with a vault -/

/-- **What changes a vault.** -/
inductive VaultChange where
  /-- A file is created. -/
  | create (path text : String)
  /-- A file is written: its text is changed, whichever it is. -/
  | write (file : String) (change : String → String)

namespace MemoryVault

variable {m m₀ : MemoryVault} {path file text : String}

/-- The request for a change. A text that is written takes the place of the one that it was made
of. -/
def asked (m : MemoryVault) : VaultChange → VaultRequest
  | .create path text => .create path text
  | .write file change => .write file (.replace (change ((m.files.get? file).getD "")))

/-- The vault behind a change. -/
def changed (m : MemoryVault) (c : VaultChange) : MemoryVault :=
  (m.answer (m.asked c)).2

/-- The vault behind changes, one after another. -/
def changedBy (m : MemoryVault) (cs : List VaultChange) : MemoryVault :=
  cs.foldl changed m

/-! ### What stays in step -/

/-- **A vault in memory that is tidy.** -/
structure IsTidy (m : MemoryVault) : Prop where
  /-- The files stand in order. -/
  files : m.files.Sorted
  /-- The folders stand in order. -/
  folders : m.folders.Sorted
  /-- The files have plain paths. -/
  plain : ∀ file ∈ m.files.names, normalize? file = .ok file
  /-- The folders are those that the files lie in. -/
  folder : ∀ path, path ∈ m.folders.names ↔ ∃ file ∈ m.files.names, LiesIn path file

/-- A vault without files is tidy. -/
theorem isTidy_empty : empty.IsTidy where
  files := Keyed.sorted_nil
  folders := Keyed.sorted_nil
  plain _ hfile := absurd hfile List.not_mem_nil
  folder _ := iff_of_false List.not_mem_nil fun ⟨_, hfile, _⟩ => absurd hfile List.not_mem_nil

/-- **A file of a plain path** is put with the folders that it lies in. -/
theorem IsTidy.put (h : m.IsTidy) (hfile : normalize? file = .ok file) :
    (m.put file text).IsTidy where
  files := Keyed.sorted_insert h.files _ _
  folders := Keyed.sorted_insertAll h.folders
  plain other hother := by
    rcases Keyed.mem_names_insert_iff.mp hother with rfl | hother
    · exact hfile
    · exact h.plain other hother
  folder path := by
    rw [Keyed.mem_names_iff, has_put_folders, Bool.or_eq_true, List.contains_iff_mem,
      mem_parentFolders_iff, ← Keyed.mem_names_iff, h.folder]
    simp only [MemoryVault.put, Keyed.mem_names_insert_iff, or_and_right, exists_or, exists_eq_left]

/-- **A vault that starts with files** is tidy. -/
theorem isTidy_ofFiles? {start : List (String × String)} (h : ofFiles? start = .ok m) :
    m.IsTidy := by
  suffices hput : ∀ m₀ : MemoryVault, m₀.IsTidy →
      start.foldlM (fun m f => do return m.put (← normalize? f.1) f.2) m₀ = .ok m → m.IsTidy from
    hput empty isTidy_empty h
  clear h
  induction start with
  | nil =>
    rintro m₀ hm₀ h
    obtain rfl := Except.ok.inj h
    exact hm₀
  | cons f rest ih =>
    intro m₀ hm₀ h
    rw [List.foldlM_cons] at h
    obtain ⟨m₁, hm₁, h⟩ := exists_of_bind_eq_ok h
    obtain ⟨file, hfile, hput⟩ := exists_of_bind_eq_ok hm₁
    obtain rfl := Except.ok.inj hput
    exact ih _ (hm₀.put (normalize?_of_normalize? hfile)) h

/-- A vault may start without files. -/
example : ofFiles? [] = .ok empty := rfl

/-! ### Creating and writing -/

/-- **A file cannot be created** under a path without a plain form. -/
theorem answer_create_of_not_plain (h : ∀ file, normalize? path ≠ .ok file) :
    m.answer (.create path text) = (some (.error (.invalidPath path)), m) := by
  cases hplain : normalize? path with
  | error e =>
    obtain rfl := normalize?_eq_error hplain
    rw [answer, create, hplain]
    rfl
  | ok file => exact absurd hplain (h file)

/-- **A file that is not there** cannot be written. -/
theorem answer_write_of_missing {edit : Edit} (h : m.files.get? file = none) :
    m.answer (.write file edit) = (some (.error (.notFound file)), m) := by
  rw [answer, write, h]

/-- **A file that is there** has its text replaced. -/
theorem answer_write_replace {old : String} (h : m.files.get? file = some old) :
    m.answer (.write file (.replace text)) =
      (some (.ok ()), { m with files := m.files.insert file text }) := by
  rw [answer, write, h]
  rfl

/-- **A refused change** leaves a vault as it is. -/
theorem changed_of_error {c : VaultChange} {e : VaultError}
    (h : (m.answer (m.asked c)).1 = some (.error e)) : m.changed c = m :=
  answer_of_refused h

/-- Every change gets an answer. -/
theorem exists_answer_asked (m : MemoryVault) (c : VaultChange) :
    ∃ a, (m.answer (m.asked c)).1 = some a :=
  m.exists_answer (by cases c <;> rfl)

/-- A text in place of another leaves the names of files as they are. -/
theorem mem_names_replace {old other : String} (hold : m.files.get? file = some old) :
    other ∈ (m.files.insert file text).names ↔ other ∈ m.files.names := by
  have hmem : file ∈ m.files.names := Keyed.mem_names_iff.mpr (by rw [Keyed.has, hold]; rfl)
  exact Keyed.mem_names_insert_iff.trans (or_iff_right_of_imp fun heq => heq ▸ hmem)

/-- **Every change keeps a vault tidy**, and takes no file away. -/
theorem IsTidy.changed (h : m.IsTidy) (c : VaultChange) :
    (m.changed c).IsTidy ∧ ∀ file ∈ m.files.names, file ∈ (m.changed c).files.names := by
  obtain ⟨a, hanswer⟩ := m.exists_answer_asked c
  cases a with
  | error e =>
    rw [changed_of_error hanswer]
    exact ⟨h, fun _ hfile => hfile⟩
  | ok a =>
    cases c with
    | create path text =>
      obtain ⟨hplain, -, hput⟩ := answer_create_ok hanswer
      have hchanged : m.changed (.create path text) = m.put a text := hput
      rw [hchanged]
      exact ⟨h.put (normalize?_of_normalize? hplain),
        fun _ hfile => Keyed.mem_names_insert_iff.mpr (.inr hfile)⟩
    | write file change =>
      obtain ⟨old, new, hold, -, hput⟩ := answer_write_ok hanswer
      have hchanged : m.changed (.write file change) =
          { m with files := m.files.insert file new } := hput
      rw [hchanged]
      refine ⟨⟨Keyed.sorted_insert h.files _ _, h.folders, fun other hother => ?_, fun path => ?_⟩,
        fun _ hfile => (mem_names_replace hold).mpr hfile⟩
      · exact h.plain other ((mem_names_replace hold).mp hother)
      · simp only [h.folder, mem_names_replace hold]

/-- **Any changes keep a vault tidy**, and take no file away. -/
theorem IsTidy.changedBy (h : m.IsTidy) (cs : List VaultChange) :
    (m.changedBy cs).IsTidy ∧ ∀ file ∈ m.files.names, file ∈ (m.changedBy cs).files.names := by
  induction cs generalizing m with
  | nil => exact ⟨h, fun _ hfile => hfile⟩
  | cons c rest ih =>
    obtain ⟨hnext, hkeep⟩ := h.changed c
    obtain ⟨hlast, hkeep'⟩ := ih hnext
    exact ⟨hlast, fun file hfile => hkeep' file (hkeep file hfile)⟩

/-- **What becomes of a request to create a file**: it is refused for the path if that has no plain
form, and for the file if that is there; otherwise the file is there behind it, and all others are
as they were. -/
theorem answer_create_cases (m : MemoryVault) (path text : String) :
    ((m.answer (.create path text)).1 = some (.error (.invalidPath path)) ↔
        ∀ file, normalize? path ≠ .ok file) ∧
      (∀ file, (m.answer (.create path text)).1 = some (.error (.alreadyExists file)) ↔
        normalize? path = .ok file ∧ file ∈ m.files.names) ∧
      (∀ file, (m.answer (.create path text)).1 = some (.ok file) ↔
        normalize? path = .ok file ∧ file ∉ m.files.names) ∧
      ∀ file, (m.answer (.create path text)).1 = some (.ok file) → ∀ other,
        (m.answer (.create path text)).2.files.get? other =
          if other = file then some text else m.files.get? other := by
  by_cases hplain : ∃ file, normalize? path = .ok file
  · obtain ⟨file, hplain⟩ := hplain
    rw [answer_create_of_plain hplain, hplain]
    simp only [Except.ok.injEq, Keyed.mem_names_iff]
    by_cases hhas : m.files.has file = true
    · rw [if_pos hhas]
      refine ⟨by simp, fun other => ?_, fun other => ?_, nofun⟩
      · rw [Option.some.injEq, Except.error.injEq, VaultError.alreadyExists.injEq]
        exact ⟨fun heq => ⟨heq, heq ▸ hhas⟩, And.left⟩
      · refine iff_of_false nofun ?_
        rintro ⟨rfl, hfree⟩
        exact hfree hhas
    · rw [if_neg hhas]
      refine ⟨by simp, fun other => ?_, fun other => ?_, fun other hfile name => ?_⟩
      · refine iff_of_false nofun ?_
        rintro ⟨rfl, hmem⟩
        exact hhas hmem
      · rw [Option.some.injEq, Except.ok.injEq]
        exact ⟨fun heq => ⟨heq, heq ▸ hhas⟩, And.left⟩
      · obtain rfl := Except.ok.inj (Option.some.inj hfile)
        exact Keyed.get?_insert
  · rw [not_exists] at hplain
    rw [answer_create_of_not_plain hplain]
    refine ⟨iff_of_true rfl hplain, fun file => iff_of_false (by simp) fun h => hplain file h.1,
      fun file => iff_of_false nofun fun h => hplain file h.1, nofun⟩

/-- **What becomes of a request to write a file**: it is refused if the file is not there; otherwise
the file has the changed text behind it, and all others are as they were. -/
theorem answer_write_cases (m : MemoryVault) (file : String) (change : String → String) :
    (file ∉ m.files.names →
        m.answer (m.asked (.write file change)) = (some (.error (.notFound file)), m)) ∧
      ∀ old, m.files.get? file = some old →
        (m.answer (m.asked (.write file change))).1 = some (.ok ()) ∧
        (m.changed (.write file change)).folders = m.folders ∧
        ∀ other, (m.changed (.write file change)).files.get? other =
          if other = file then some (change old) else m.files.get? other := by
  constructor
  · intro hmem
    rw [Keyed.mem_names_iff, Keyed.has, Option.isSome_iff_ne_none, not_not] at hmem
    exact answer_write_of_missing hmem
  · intro old hold
    have hanswer : m.answer (.write file (.replace (change ((m.files.get? file).getD "")))) =
        (some (.ok ()), { m with files := m.files.insert file (change old) }) := by
      rw [hold]
      exact answer_write_replace hold
    have hchanged : m.changed (.write file change) =
        { m with files := m.files.insert file (change old) } := congrArg Prod.snd hanswer
    rw [hchanged]
    exact ⟨congrArg Prod.fst hanswer, rfl, fun other => Keyed.get?_insert⟩

/-- **A vault in memory stays in step with itself**, whatever files it starts with, none or more,
and whatever changes are made. Its files have plain paths, its folders are those that they lie in,
and no file goes away. A file is created where its path has a plain form under which there is none,
and is then the only new thing; nothing but the text of one file is changed by writing; and where a
change is refused, nothing is. -/
theorem stays_in_step {start : List (String × String)} {m₀ : MemoryVault}
    (hstart : ofFiles? start = .ok m₀) (done : List VaultChange) :
    let m := m₀.changedBy done
    m.files.names.Nodup ∧ m.folders.names.Nodup ∧
    (∀ file ∈ m.files.names, normalize? file = .ok file) ∧
    (∀ folder, folder ∈ m.folders.names ↔ ∃ file ∈ m.files.names, LiesIn folder file) ∧
    (∀ more, ∀ file ∈ m.files.names, file ∈ (m₀.changedBy (done ++ more)).files.names) ∧
    (∀ path text,
      ((m.answer (.create path text)).1 = some (.error (.invalidPath path)) ↔
        ∀ file, normalize? path ≠ .ok file) ∧
      (∀ file, (m.answer (.create path text)).1 = some (.error (.alreadyExists file)) ↔
        normalize? path = .ok file ∧ file ∈ m.files.names) ∧
      (∀ file, (m.answer (.create path text)).1 = some (.ok file) ↔
        normalize? path = .ok file ∧ file ∉ m.files.names) ∧
      ∀ file, (m.answer (.create path text)).1 = some (.ok file) → ∀ other,
        (m.answer (.create path text)).2.files.get? other =
          if other = file then some text else m.files.get? other) ∧
    (∀ file change,
      (file ∉ m.files.names →
        m.answer (m.asked (.write file change)) = (some (.error (.notFound file)), m)) ∧
      ∀ old, m.files.get? file = some old →
        (m.answer (m.asked (.write file change))).1 = some (.ok ()) ∧
        (m.changed (.write file change)).folders = m.folders ∧
        ∀ other, (m.changed (.write file change)).files.get? other =
          if other = file then some (change old) else m.files.get? other) ∧
    ∀ c e, (m.answer (m.asked c)).1 = some (.error e) → m.changed c = m := by
  intro m
  have htidy : m.IsTidy := ((isTidy_ofFiles? hstart).changedBy done).1
  refine ⟨Keyed.names_nodup htidy.files, Keyed.names_nodup htidy.folders, htidy.plain, htidy.folder,
    fun more => ?_, m.answer_create_cases, m.answer_write_cases, fun c e => changed_of_error⟩
  rw [changedBy, List.foldl_append]
  exact (htidy.changedBy more).2

/-- A file that was there from the start is found under other spellings of its path, however often
it was written. -/
theorem refused_in_step :
    ∃ m₀, ofFiles? [("Notes\\ a.md", "x")] = .ok m₀ ∧
      ((m₀.changedBy [.write "Notes/a.md" (· ++ "y"), .write "./Notes/a.md" (· ++ "z")]).answer
        (.create "./Notes//a.md" "")).1 = some (.error (.alreadyExists "Notes/a.md")) := by
  refine ⟨_, rfl, ?_⟩
  obtain ⟨-, -, -, -, -, hcreate, -⟩ := @stays_in_step [("Notes\\ a.md", "x")] _ rfl
    [.write "Notes/a.md" (· ++ "y"), .write "./Notes/a.md" (· ++ "z")]
  exact ((hcreate "./Notes//a.md" "").2.1 "Notes/a.md").mpr ⟨by rfl, by decide⟩

end MemoryVault

end FormChain
