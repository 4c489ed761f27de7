import FormChain.Proofs.Vault.Queries
import FormChain.Proofs.Vault.Tree

/-!
# A vault in memory beside one on a disk

A vault in memory keeps files under whole paths and the folders that these lie in, one beside
another; a vault on a disk keeps a tree. The disk mirrors what the vault in memory keeps if it
has the same entries below the folder of the vault (`FormChain.Mirrors`).

Then a path leads through a file on the disk where it does so in memory
(`FormChain.Mirrors.liesInFile_iff`). Where it does not, a look at the path finds what is kept
(`FormChain.Mirrors.look_of_clear`), so both vaults find, read and write the same; and a file
that is created in both keeps the disk a mirror (`FormChain.Mirrors.create_new`).
-/

namespace FormChain

open VaultPath

/-- **The segments of a path that vaults are compared by**: names that a disk takes and
lists. -/
structure IsPlace (d : Disk) (segs : List String) : Prop where
  /-- There is one at least. -/
  ne_nil : segs ≠ []
  /-- They are names. -/
  name : ∀ s ∈ segs, IsName s
  /-- The disk takes them. -/
  takes : ∀ s ∈ segs, d.Takes s
  /-- The disk lists them. -/
  shown : ∀ s ∈ segs, s.toList.head? ≠ some '.'

/-- What a vault in memory keeps under a path. -/
def MemoryVault.kept? (m : MemoryVault) (path : String) : Option DiskEntry :=
  match m.files.get? path with
  | some text => some (.file text)
  | none => if m.folders.has path then some .folder else none

/-- **A disk mirrors what a vault in memory keeps**: below the folder of the vault, it has the
same entries. -/
structure Mirrors (m : MemoryVault) (v : DiskVault) : Prop where
  /-- The disk is a tree. -/
  tree : v.disk.IsTree
  /-- The disk takes the names on the way to the vault. -/
  root : ∀ s ∈ v.root, v.disk.Takes s
  /-- The vault has a folder, or none yet and nothing in it. -/
  rooted : v.disk.look v.root = .ok .folder ∨
    v.disk.look v.root = .error .missing ∧ m.files = [] ∧ m.folders = []
  /-- The entries are the same. -/
  entry : ∀ {segs : List String}, segs ≠ [] → (∀ s ∈ segs, '/' ∉ s.toList) →
    v.disk.entryAt (v.root ++ segs) = m.kept? (ofSegments segs)
  /-- They have places that vaults can be compared by. -/
  place : ∀ {path : String}, m.kept? path ≠ none →
    ∃ segs, IsPlace v.disk segs ∧ path = ofSegments segs
  /-- No file has the path of a folder. -/
  disjoint : ∀ {path : String}, m.files.has path = true → m.folders.has path = false
  /-- The files in memory are in order. -/
  files : m.files.Sorted
  /-- The folders in memory are in order. -/
  folders : m.folders.Sorted

namespace MemoryVault

variable {m : MemoryVault} {file path text : String}

theorem has_files_iff : m.files.has path = true ↔ ∃ text, m.kept? path = some (.file text) := by
  rw [kept?, Keyed.has]
  cases m.files.get? path with
  | some text => simp
  | none =>
    simp only [Option.isSome_none, Bool.false_eq_true, false_iff]
    rintro ⟨text, htext⟩
    split at htext <;> cases htext

theorem has_files_eq_false (h : ∀ text, m.kept? path ≠ some (.file text)) :
    m.files.has path = false := by
  rw [Bool.eq_false_iff, ne_eq, has_files_iff]
  exact fun ⟨text, htext⟩ => h text htext

/-- Where no file has the path of a folder, folders are kept as such. -/
theorem has_folders_iff (hdisjoint : m.files.has path = true → m.folders.has path = false) :
    m.folders.has path = true ↔ m.kept? path = some .folder := by
  rw [kept?]
  cases hfile : m.files.get? path with
  | some text => simp [hdisjoint (by simp [Keyed.has, hfile])]
  | none => simp

theorem kept?_write : kept? { m with files := m.files.insert file text } path =
    if path = file then some (.file text) else m.kept? path := by
  rw [kept?, kept?, Keyed.get?_insert]
  by_cases heq : path = file
  · rw [if_pos heq, if_pos heq]
  · rw [if_neg heq, if_neg heq]

theorem has_put_folders : (m.put file text).folders.has path =
    ((parentFolders file).contains path || m.folders.has path) := by
  have hparents (ps : List String) :
      (Keyed.ofList (ps.map (·, ()))).get? path = if path ∈ ps then some () else none := by
    induction ps with
    | nil => rfl
    | cons p rest ih =>
      rw [List.map_cons, Keyed.get?_ofList_cons, ih]
      by_cases hrest : path ∈ rest <;> by_cases hp : path = p <;> simp [hrest, hp]
  rw [put, Keyed.has, Keyed.get?_insertAll, hparents, Keyed.has]
  by_cases hmem : path ∈ parentFolders file <;> simp [hmem]

/-- **What a vault keeps behind a new file**, whose path leads through no other one. -/
theorem kept?_put (hclear : m.liesInFile file = false) : (m.put file text).kept? path =
    if path = file then some (.file text)
    else if path ∈ parentFolders file then some .folder
    else m.kept? path := by
  rw [kept?, has_put_folders, kept?]
  simp only [put, Keyed.get?_insert]
  by_cases heq : path = file
  · rw [if_pos heq, if_pos heq]
  · rw [if_neg heq, if_neg heq]
    by_cases hmem : path ∈ parentFolders file
    · have hnone : m.files.get? path = none := by
        rw [liesInFile, List.any_eq_false] at hclear
        simpa [Keyed.has] using hclear path hmem
      simp [hnone, hmem]
    · simp [hmem]

end MemoryVault

section Places

variable {d : Disk} {path : String} {segs : List String}

theorem isPlace_of_fitsPath (h : VaultQuery.fitsPath d.maxNameSize path = true)
    (hsegs : segments? path = .ok segs) : IsPlace d segs := by
  obtain ⟨hne, hname⟩ := isName_of_segments? hsegs
  have hfits : ∀ s ∈ segs, VaultQuery.fitsName d.maxNameSize s = true := by
    simpa [VaultQuery.fitsPath, hsegs] using h
  simp only [VaultQuery.fitsName, Bool.and_eq_true, decide_eq_true_eq, Bool.not_eq_true',
    List.contains_eq_mem, decide_eq_false_iff_not] at hfits
  exact ⟨hne, hname, fun s hs => ⟨(hname s hs).slash, (hfits s hs).1.2, (hfits s hs).1.1⟩,
    fun s hs => (hfits s hs).2⟩

/-- What is asked of a path in plain form is asked of a place. -/
theorem exists_isPlace (h : VaultQuery.fitsPath d.maxNameSize path = true) {p : String → Bool}
    (hp : (match normalize? path with
      | .ok path => p path
      | .error _ => false) = true) :
    ∃ segs, segments? path = .ok segs ∧ IsPlace d segs ∧ p (ofSegments segs) = true := by
  unfold normalize? at hp
  cases hsegs : segments? path with
  | error e =>
    rw [hsegs] at hp
    cases hp
  | ok segs =>
    rw [hsegs] at hp
    exact ⟨segs, rfl, isPlace_of_fitsPath h hsegs, hp⟩

theorem IsPlace.slash (h : IsPlace d segs) : ∀ s ∈ segs, '/' ∉ s.toList :=
  fun s hs => (h.name s hs).slash

/-- A beginning of a place is a place. -/
theorem IsPlace.of_prefix (h : IsPlace d segs) {p : List String} (hp : p <+: segs)
    (hne : p ≠ []) : IsPlace d p where
  ne_nil := hne
  name s hs := h.name s (hp.mem hs)
  takes s hs := h.takes s (hp.mem hs)
  shown s hs := h.shown s (hp.mem hs)

theorem IsPlace.of_limit (h : IsPlace d segs) {d' : Disk}
    (hlimit : d'.maxNameSize = d.maxNameSize) : IsPlace d' segs where
  ne_nil := h.ne_nil
  name := h.name
  takes s hs := (Disk.takes_of_limit hlimit).mpr (h.takes s hs)
  shown := h.shown

theorem IsPlace.append_ne_nil (h : IsPlace d segs) {root : List String} : root ++ segs ≠ [] :=
  List.append_ne_nil_of_right_ne_nil _ h.ne_nil

theorem IsPlace.segments? (h : IsPlace d segs) : segments? (ofSegments segs) = .ok segs :=
  segments?_ofSegments h.ne_nil h.name

/-- The folders that a path lies in are those of the beginnings of its segments. -/
theorem mem_parentFolders (hne : segs ≠ []) (hslash : ∀ s ∈ segs, '/' ∉ s.toList) :
    path ∈ parentFolders (ofSegments segs) ↔
      ∃ p, p <+: segs ∧ p ≠ segs ∧ p ≠ [] ∧ path = ofSegments p := by
  rw [parentFolders, segmentsOf_ofSegments hne hslash, mem_foldersBelow]
  constructor
  · rintro ⟨p, q, hp, hq, rfl, rfl⟩
    exact ⟨p, List.prefix_append _ _, by simpa using hq, hp, rfl⟩
  · rintro ⟨p, ⟨q, rfl⟩, hproper, hp, rfl⟩
    exact ⟨p, q, hp, by simpa using hproper, rfl, rfl⟩

section Below

variable (h : IsPlace d segs) {root p : List String} (hne : p ≠ [])
  (hslash : ∀ s ∈ p, '/' ∉ s.toList)

include h hne hslash

/-- Below a folder, the paths of different places differ. -/
theorem IsPlace.append_eq_iff : root ++ p = root ++ segs ↔ ofSegments p = ofSegments segs := by
  rw [List.append_cancel_left_eq]
  exact ⟨congrArg ofSegments, ofSegments_inj hne h.ne_nil hslash h.slash⟩

/-- Below a folder, a place has the same folders on its way. -/
theorem IsPlace.append_prefix_iff : root ++ p <+: (root ++ segs).dropLast ↔
    ofSegments p ∈ parentFolders (ofSegments segs) := by
  rw [prefix_dropLast_iff h.append_ne_nil, mem_parentFolders h.ne_nil h.slash,
    List.prefix_append_right_inj]
  constructor
  · rintro ⟨hp, hproper⟩
    exact ⟨p, hp, fun heq => hproper (by rw [heq]), hne, rfl⟩
  · rintro ⟨q, hq, hproper, hqne, heq⟩
    obtain rfl := ofSegments_inj hne hqne hslash (fun s hs => h.slash s (hq.mem hs)) heq
    exact ⟨hq, by simpa using hproper⟩

end Below

/-- No path leads through itself. -/
theorem IsPlace.not_mem_parentFolders (h : IsPlace d segs) :
    ofSegments segs ∉ parentFolders (ofSegments segs) := by
  intro hmem
  obtain ⟨p, hp, hproper, hne, heq⟩ := (mem_parentFolders h.ne_nil h.slash).mp hmem
  exact hproper (ofSegments_inj hne h.ne_nil (fun s hs => h.slash s (hp.mem hs)) h.slash heq.symm)

end Places

namespace Mirrors

variable {m : MemoryVault} {v : DiskVault} {path : String} {segs : List String}

section Finding

variable (h : Mirrors m v)

include h

theorem takes_of_isPlace (hplace : IsPlace v.disk segs) :
    ∀ s ∈ v.root ++ segs, v.disk.Takes s :=
  List.forall_mem_append.mpr ⟨h.root, hplace.takes⟩

/-- Names without slashes make a path on the disk, below the folder of the vault. -/
theorem slash_below {p : List String} (hslash : ∀ s ∈ p, '/' ∉ s.toList) :
    ∀ s ∈ v.root ++ p, '/' ∉ s.toList :=
  List.forall_mem_append.mpr ⟨Disk.Takes.slash_of_forall h.root, hslash⟩

/-- No file stands on the way to the vault. -/
theorem root_clear {q : List String} (hq : q <+: v.root) (hne : q ≠ []) {text : String} :
    v.disk.entryAt q ≠ some (.file text) := by
  intro hfile
  have hlook : v.disk.look v.root = .ok (.file text) ∨
      v.disk.look v.root = .error .notAFolder := by
    by_cases heq : q = v.root
    · exact .inl ((Disk.look_eq_ok_iff h.tree h.root (heq ▸ hne)).mpr (heq ▸ hfile))
    · exact .inr ((Disk.look_eq_notAFolder_iff h.tree h.root).mpr ⟨q, text, hq, heq, hne, hfile⟩)
  rcases hlook with hlook | hlook <;> rcases h.rooted with hroot | ⟨hroot, -⟩ <;>
    · rw [hlook] at hroot
      cases hroot

theorem entry_eq (hplace : IsPlace v.disk segs) :
    v.disk.entryAt (v.root ++ segs) = m.kept? (ofSegments segs) :=
  h.entry hplace.ne_nil hplace.slash

theorem file_iff {p : List String} (hne : p ≠ []) (hslash : ∀ s ∈ p, '/' ∉ s.toList) :
    m.files.has (ofSegments p) = true ↔
      ∃ text, v.disk.entryAt (v.root ++ p) = some (.file text) := by
  rw [h.entry hne hslash, MemoryVault.has_files_iff]

/-- **A path leads through a file** on the disk where it does so in memory. -/
theorem liesInFile_iff (hplace : IsPlace v.disk segs) :
    m.liesInFile (ofSegments segs) = true ↔ ∃ q text, q <+: v.root ++ segs ∧
      q ≠ v.root ++ segs ∧ q ≠ [] ∧ v.disk.entryAt q = some (.file text) := by
  rw [MemoryVault.liesInFile, List.any_eq_true]
  constructor
  · rintro ⟨path, hpath, hfile⟩
    obtain ⟨p, hp, hproper, hne, rfl⟩ := (mem_parentFolders hplace.ne_nil hplace.slash).mp hpath
    obtain ⟨text, htext⟩ := (h.file_iff hne fun s hs => hplace.slash s (hp.mem hs)).mp hfile
    exact ⟨v.root ++ p, text, (List.prefix_append_right_inj _).mpr hp, by simpa using hproper,
      by simp [hne], htext⟩
  · rintro ⟨q, text, hq, hproper, hne, htext⟩
    rcases List.prefix_or_prefix_of_prefix hq (List.prefix_append v.root segs) with
      hbefore | ⟨p, rfl⟩
    · exact absurd htext (h.root_clear hbefore hne)
    · have hp : p <+: segs := (List.prefix_append_right_inj _).mp hq
      have hpne : p ≠ [] := by
        rintro rfl
        rw [List.append_nil] at htext hne
        exact h.root_clear (List.prefix_refl _) hne htext
      refine ⟨ofSegments p, (mem_parentFolders hplace.ne_nil hplace.slash).mpr
        ⟨p, hp, by simpa using hproper, hpne, rfl⟩, ?_⟩
      exact (h.file_iff hpne fun s hs => hplace.slash s (hp.mem hs)).mpr ⟨text, htext⟩

/-- A look at a place finds what is kept in memory. -/
theorem look_of_clear (hplace : IsPlace v.disk segs)
    (hclear : m.liesInFile (ofSegments segs) = false) :
    v.disk.look (v.root ++ segs) = match m.kept? (ofSegments segs) with
      | some e => .ok e
      | none => .error .missing := by
  have htakes := h.takes_of_isPlace hplace
  have hne : v.root ++ segs ≠ [] := hplace.append_ne_nil
  rw [← h.entry_eq hplace]
  cases hentry : v.disk.entryAt (v.root ++ segs) with
  | some e => exact (Disk.look_eq_ok_iff h.tree htakes hne).mpr hentry
  | none =>
    rcases Disk.look_cases htakes with ⟨e, hlook⟩ | hlook | hlook
    · rw [(Disk.look_eq_ok_iff h.tree htakes hne).mp hlook] at hentry
      cases hentry
    · exact hlook
    · rw [(h.liesInFile_iff hplace).mpr
        ((Disk.look_eq_notAFolder_iff h.tree htakes).mp hlook)] at hclear
      cases hclear

/-- A look at a place meets an obstacle where its path leads through a file. -/
theorem look_of_blocked (hplace : IsPlace v.disk segs)
    (hblocked : m.liesInFile (ofSegments segs) = true) :
    v.disk.look (v.root ++ segs) = .error .notAFolder :=
  (Disk.look_eq_notAFolder_iff h.tree (h.takes_of_isPlace hplace)).mpr
    ((h.liesInFile_iff hplace).mp hblocked)

end Finding

theorem resolve_eq (hsegs : segments? path = .ok segs) :
    v.resolve path = .ok (ofSegments segs, v.root ++ segs) := by
  rw [DiskVault.resolve, hsegs]
  rfl

theorem normalize?_eq (hsegs : segments? path = .ok segs) :
    normalize? path = .ok (ofSegments segs) := by
  rw [normalize?, hsegs]
  rfl

/-! ### Reading -/

section Reading

variable (h : Mirrors m v)

include h

/-- A file in memory has a place on the disk. -/
theorem exists_place {file text : String} (hfile : m.files.get? file = some text) :
    ∃ segs, IsPlace v.disk segs ∧ file = ofSegments segs ∧
      v.disk.entryAt (v.root ++ segs) = some (.file text) := by
  have hentry : m.kept? file = some (.file text) := by rw [MemoryVault.kept?, hfile]
  obtain ⟨segs, hplace, rfl⟩ := @Mirrors.place _ _ h file (by simp [hentry])
  exact ⟨segs, hplace, rfl, (h.entry_eq hplace).trans hentry⟩

/-- **A file in memory is read from the disk.** -/
theorem read_eq {file text : String} (hfile : m.files.get? file = some text) :
    v.read file = .ok text := by
  obtain ⟨segs, hplace, rfl, hentry⟩ := h.exists_place hfile
  have hlook : v.disk.look (v.root ++ segs) = .ok (.file text) :=
    (Disk.look_eq_ok_iff h.tree (h.takes_of_isPlace hplace) hplace.append_ne_nil).mpr hentry
  rw [DiskVault.read, resolve_eq hplace.segments?]
  simp only [bind, Except.bind, hlook]
  rfl

/-- **The same files are found**, where no path leads through a file. -/
theorem find_eq (hsegs : segments? path = .ok segs) (hplace : IsPlace v.disk segs)
    (hclear : m.liesInFile (ofSegments segs) = false) : v.find path = m.find path := by
  rw [DiskVault.find, MemoryVault.find, resolve_eq hsegs, normalize?_eq hsegs]
  simp only [bind, Except.bind, h.look_of_clear hplace hclear, MemoryVault.kept?]
  cases hfile : m.files.get? (ofSegments segs) with
  | some text =>
    have hhas : m.files.has (ofSegments segs) = true := by rw [Keyed.has, hfile]; rfl
    rw [if_pos hhas]
  | none =>
    have hhas : m.files.has (ofSegments segs) = false := by rw [Keyed.has, hfile]; rfl
    rw [hhas]
    cases m.folders.has (ofSegments segs) <;> rfl

theorem find_of_blocked (hsegs : segments? path = .ok segs) (hplace : IsPlace v.disk segs)
    (hblocked : m.liesInFile (ofSegments segs) = true) :
    v.find path = .error (DiskVault.refusal .notAFolder) := by
  rw [DiskVault.find, resolve_eq hsegs]
  simp only [bind, Except.bind, h.look_of_blocked hplace hblocked]
  rfl

/-- **The same metadata are told**, where no path leads through a file. -/
theorem metadata_eq (hsegs : segments? path = .ok segs) (hplace : IsPlace v.disk segs)
    (hclear : m.liesInFile (ofSegments segs) = false) : v.metadata path = m.metadata path := by
  rw [DiskVault.metadata, h.find_eq hsegs hplace hclear, MemoryVault.find, MemoryVault.metadata,
    normalize?_eq hsegs]
  simp only [bind, Except.bind, pure, Except.pure]
  cases hfile : m.files.get? (ofSegments segs) with
  | some text =>
    have hhas : m.files.has (ofSegments segs) = true := by rw [Keyed.has, hfile]; rfl
    rw [if_pos hhas]
    simp only [h.read_eq hfile, Option.map_some]
  | none =>
    have hhas : m.files.has (ofSegments segs) = false := by rw [Keyed.has, hfile]; rfl
    rw [hhas]
    rfl

end Reading

/-! ### Writing -/

section Writing

variable (h : Mirrors m v)

include h

/-- A disk with other entries mirrors a vault that keeps the same. -/
theorem update {m' : MemoryVault} {disk : Disk} (htree : disk.IsTree)
    (hlimit : disk.maxNameSize = v.disk.maxNameSize)
    (hroot : v.root = [] ∨ disk.entryAt v.root = some .folder)
    (hentry : ∀ {segs : List String}, segs ≠ [] → (∀ s ∈ segs, '/' ∉ s.toList) →
      disk.entryAt (v.root ++ segs) = m'.kept? (ofSegments segs))
    (hplace : ∀ {path : String}, m'.kept? path ≠ none →
      m.kept? path ≠ none ∨ ∃ segs, IsPlace v.disk segs ∧ path = ofSegments segs)
    (hdisjoint : ∀ {path : String}, m'.files.has path = true → m'.folders.has path = false)
    (hfiles : m'.files.Sorted) (hfolders : m'.folders.Sorted) :
    Mirrors m' { v with disk } where
  tree := htree
  root := fun s hs => (Disk.takes_of_limit hlimit).mpr (h.root s hs)
  rooted := .inl ((Disk.look_eq_folder_iff htree fun s hs =>
    (Disk.takes_of_limit hlimit).mpr (h.root s hs)).mpr hroot)
  entry := hentry
  place := fun hne => by
    obtain ⟨segs, hsegs, rfl⟩ := (hplace hne).elim h.place id
    exact ⟨segs, hsegs.of_limit hlimit, rfl⟩
  disjoint := hdisjoint
  files := hfiles
  folders := hfolders

/-- An entry below the folder of the vault leaves this folder in its place. -/
theorem root_put (hplace : IsPlace v.disk segs) {disk : Disk} {e : DiskEntry}
    (hroot : v.root = [] ∨ disk.entryAt v.root = some .folder) :
    v.root = [] ∨ (disk.put (v.root ++ segs) e).entryAt v.root = some .folder := by
  refine or_iff_not_imp_left.mpr fun hnil => ?_
  have hproper : v.root ≠ v.root ++ segs := by simpa using hplace.ne_nil
  rw [Disk.entryAt_put hnil hplace.append_ne_nil (Disk.Takes.slash_of_forall h.root)
    (h.slash_below hplace.slash), if_neg hproper]
  exact hroot.resolve_left hnil

/-- Where there is an entry in the vault, it has a folder. -/
theorem root_of_kept (hkept : m.kept? path ≠ none) :
    v.root = [] ∨ v.disk.entryAt v.root = some .folder := by
  refine (Disk.look_eq_folder_iff h.tree h.root).mp (h.rooted.resolve_right ?_)
  rintro ⟨-, hfiles, hfolders⟩
  rw [MemoryVault.kept?, hfiles, hfolders] at hkept
  exact hkept rfl

/-- **A file is written on the disk** as it is in memory. -/
theorem write_eq {file text : String} (hfile : m.files.get? file = some text) (edit : Edit) :
    ∃ segs, IsPlace v.disk segs ∧ file = ofSegments segs ∧
      v.write file edit = match edit.applied? text with
        | some new => (some (.ok ()), { v with disk := v.disk.put (v.root ++ segs) (.file new) })
        | none => (none, v) := by
  obtain ⟨segs, hplace, rfl, -⟩ := h.exists_place hfile
  refine ⟨segs, hplace, rfl, ?_⟩
  cases hedit : edit.applied? text <;>
    simp only [DiskVault.write, h.read_eq hfile, resolve_eq hplace.segments?, hedit]

/-- **Writing a file** keeps a disk a mirror. -/
theorem write (hplace : IsPlace v.disk segs) {text new : String}
    (hfile : m.files.get? (ofSegments segs) = some text) :
    Mirrors { m with files := m.files.insert (ofSegments segs) new }
      { v with disk := v.disk.put (v.root ++ segs) (.file new) } := by
  have hentry : v.disk.entryAt (v.root ++ segs) = some (.file text) := by
    rw [h.entry_eq hplace, MemoryVault.kept?, hfile]
  have hslash := h.slash_below hplace.slash
  have hne : v.root ++ segs ≠ [] := hplace.append_ne_nil
  have hkept : m.kept? (ofSegments segs) ≠ none := by simp [← h.entry_eq hplace, hentry]
  refine h.update ?tree rfl (h.root_put hplace (h.root_of_kept hkept)) ?entry ?place ?disjoint
    (Keyed.sorted_insert h.files _ _) h.folders
  case tree =>
    exact h.tree.put hne hslash (h.tree.parent hne hslash (by simp [hentry])) (by simp [hentry])
  case entry =>
    intro segs' hne' hslash'
    rw [Disk.entryAt_put (by simp [hne']) hne (h.slash_below hslash') hslash,
      MemoryVault.kept?_write, h.entry hne' hslash']
    simp only [hplace.append_eq_iff hne' hslash']
  case place =>
    intro path hpath
    by_cases heq : path = ofSegments segs
    · exact .inr ⟨segs, hplace, heq⟩
    · exact .inl (by rwa [MemoryVault.kept?_write, if_neg heq] at hpath)
  case disjoint =>
    intro path hhas
    rw [Keyed.has, Keyed.get?_insert] at hhas
    split at hhas
    case isTrue heq =>
      refine h.disjoint ?_
      rw [heq, Keyed.has, hfile]
      rfl
    case isFalse => exact h.disjoint hhas

/-! ### Creating -/

/-- **No file is created** where its path leads through another one. -/
theorem create_of_blocked (hsegs : segments? path = .ok segs) (hplace : IsPlace v.disk segs)
    (hblocked : m.liesInFile (ofSegments segs) = true) (text : String) :
    ∃ o, v.create path text = (.error (DiskVault.refusal o), v) := by
  have hne : v.root ++ segs ≠ [] := hplace.append_ne_nil
  obtain ⟨q, text', hq, hproper, hqne, hfile⟩ := (h.liesInFile_iff hplace).mp hblocked
  obtain ⟨o, ho⟩ := Disk.makeFolders_of_blocked h.tree
    (fun s hs => h.takes_of_isPlace hplace s ((List.dropLast_prefix _).mem hs))
    ((prefix_dropLast_iff hne).mpr ⟨hq, hproper⟩) hqne hfile
  refine ⟨o, ?_⟩
  rw [DiskVault.create, resolve_eq hsegs]
  simp only [ho]

/-- **A file is created** where there is nothing and its path leads through no other one. -/
theorem create_of_clear (hsegs : segments? path = .ok segs) (hplace : IsPlace v.disk segs)
    (hclear : m.liesInFile (ofSegments segs) = false) (text : String) :
    ∃ disk, v.disk.Leads (v.root ++ segs).dropLast disk ∧
      v.create path text = match m.kept? (ofSegments segs) with
        | some _ => (.error (.alreadyExists (ofSegments segs)), { v with disk })
        | none => (.ok (ofSegments segs),
            { v with disk := disk.put (v.root ++ segs) (.file text) }) := by
  have htakes := h.takes_of_isPlace hplace
  have hne : v.root ++ segs ≠ [] := hplace.append_ne_nil
  have hslash := h.slash_below hplace.slash
  obtain ⟨disk, hmade, hleads⟩ := Disk.makeFolders_of_clear h.tree
    (fun s hs => htakes s ((List.dropLast_prefix _).mem hs)) fun q hq hqne text' hfile => by
      obtain ⟨hq, hproper⟩ := (prefix_dropLast_iff hne).mp hq
      rw [(h.liesInFile_iff hplace).mpr ⟨q, text', hq, hproper, hqne, hfile⟩] at hclear
      cases hclear
  refine ⟨disk, hleads, ?_⟩
  have htakes' : ∀ s ∈ v.root ++ segs, disk.Takes s :=
    fun s hs => (Disk.takes_of_limit hleads.limit).mpr (htakes s hs)
  have hentry : disk.entryAt (v.root ++ segs) = m.kept? (ofSegments segs) := by
    rw [hleads.entryAt hne hslash, if_neg fun hq => ((prefix_dropLast_iff hne).mp hq).2 rfl,
      h.entry_eq hplace]
  rw [DiskVault.create, resolve_eq hsegs]
  simp only [hmade, Disk.makeFile]
  cases hkept : m.kept? (ofSegments segs) with
  | some e =>
    rw [(Disk.look_eq_ok_iff hleads.tree htakes' hne).mpr (hentry.trans hkept)]
  | none =>
    -- with all folders made, no file is left to stand on the way
    have hmissing : disk.look (v.root ++ segs) = .error .missing := by
      rcases Disk.look_cases htakes' with ⟨e, hlook⟩ | hlook | hlook
      · rw [(Disk.look_eq_ok_iff hleads.tree htakes' hne).mp hlook, hkept] at hentry
        cases hentry
      · exact hlook
      · obtain ⟨q, text', hq, hproper, hqne, hfile⟩ :=
          (Disk.look_eq_notAFolder_iff hleads.tree htakes').mp hlook
        rw [hleads.entryAt hqne fun s hs => hslash s (hq.mem hs),
          if_pos ((prefix_dropLast_iff hne).mpr ⟨hq, hproper⟩)] at hfile
        cases hfile
    rw [hmissing]

/-- The folder of the vault is there when the folders of a file in it are. -/
theorem root_of_leads (hplace : IsPlace v.disk segs) {disk : Disk}
    (hleads : v.disk.Leads (v.root ++ segs).dropLast disk) :
    v.root = [] ∨ disk.entryAt v.root = some .folder := by
  by_cases hnil : v.root = []
  · exact .inl hnil
  · refine .inr ((hleads.entryAt hnil (Disk.Takes.slash_of_forall h.root)).trans (if_pos ?_))
    exact (prefix_dropLast_iff hplace.append_ne_nil).mpr
      ⟨List.prefix_append _ _, by simpa using hplace.ne_nil⟩

/-- **Making the folders of what is there** keeps a disk a mirror. -/
theorem create_existing (hplace : IsPlace v.disk segs) {disk : Disk}
    (hleads : v.disk.Leads (v.root ++ segs).dropLast disk)
    (hentry : m.kept? (ofSegments segs) ≠ none) : Mirrors m { v with disk } := by
  have hne : v.root ++ segs ≠ [] := hplace.append_ne_nil
  have hslash := h.slash_below hplace.slash
  refine h.update hleads.tree hleads.limit (h.root_of_leads hplace hleads)
    (fun {segs'} hne' hslash' => ?_) .inl h.disjoint h.files h.folders
  rw [hleads.entryAt (by simp [hne']) (h.slash_below hslash'), ← h.entry hne' hslash']
  split
  case isTrue hq =>
    obtain ⟨hq, hproper⟩ := (prefix_dropLast_iff hne).mp hq
    rw [← h.entry_eq hplace] at hentry
    exact (h.tree.folder_of_prefix hslash hentry hq (by simp [hne']) hproper).symm
  case isFalse => rfl

/-- **Creating a file** keeps a disk a mirror. -/
theorem create_new (hplace : IsPlace v.disk segs) {disk : Disk} {text : String}
    (hleads : v.disk.Leads (v.root ++ segs).dropLast disk)
    (hclear : m.liesInFile (ofSegments segs) = false)
    (hentry : m.kept? (ofSegments segs) = none) :
    Mirrors (m.put (ofSegments segs) text)
      { v with disk := disk.put (v.root ++ segs) (.file text) } := by
  have hne : v.root ++ segs ≠ [] := hplace.append_ne_nil
  have hslash := h.slash_below hplace.slash
  refine h.update ?tree hleads.limit (h.root_put hplace (h.root_of_leads hplace hleads)) ?entry
    ?place ?disjoint (Keyed.sorted_insert h.files _ _) (Keyed.sorted_insertAll h.folders)
  case tree =>
    have hfree : disk.entryAt (v.root ++ segs) = none := by
      rw [hleads.entryAt hne hslash, if_neg fun hq => ((prefix_dropLast_iff hne).mp hq).2 rfl,
        h.entry_eq hplace, hentry]
    refine hleads.tree.put hne hslash (or_iff_not_imp_left.mpr fun hnil => ?_) (by simp [hfree])
    exact (hleads.entryAt hnil fun s hs => hslash s ((List.dropLast_prefix _).mem hs)).trans
      (if_pos (List.prefix_refl _))
  case entry =>
    intro segs' hne' hslash'
    rw [Disk.entryAt_put (by simp [hne']) hne (h.slash_below hslash') hslash,
      hleads.entryAt (by simp [hne']) (h.slash_below hslash'), MemoryVault.kept?_put hclear,
      h.entry hne' hslash']
    simp only [hplace.append_eq_iff hne' hslash', hplace.append_prefix_iff hne' hslash']
  case place =>
    intro path hpath
    rw [MemoryVault.kept?_put hclear] at hpath
    by_cases hfile : path = ofSegments segs
    · exact .inr ⟨segs, hplace, hfile⟩
    rw [if_neg hfile] at hpath
    by_cases hfolder : path ∈ parentFolders (ofSegments segs)
    · obtain ⟨p, hp, -, hpne, rfl⟩ := (mem_parentFolders hplace.ne_nil hplace.slash).mp hfolder
      exact .inr ⟨p, hplace.of_prefix hp hpne, rfl⟩
    · exact .inl (by rwa [if_neg hfolder] at hpath)
  case disjoint =>
    intro path hhas
    rw [MemoryVault.liesInFile, List.any_eq_false] at hclear
    rw [MemoryVault.has_put_folders, Bool.or_eq_false_iff, List.contains_eq_mem,
      decide_eq_false_iff_not]
    rw [MemoryVault.put, Keyed.has, Keyed.get?_insert] at hhas
    split at hhas
    case isTrue heq =>
      subst heq
      have hfolder : m.folders.has (ofSegments segs) ≠ true := fun hfolder => by
        rw [MemoryVault.has_folders_iff h.disjoint, hentry] at hfolder
        cases hfolder
      exact ⟨hplace.not_mem_parentFolders, Bool.eq_false_iff.mpr hfolder⟩
    case isFalse => exact ⟨fun hmem => hclear path hmem hhas, h.disjoint hhas⟩

end Writing

end Mirrors

end FormChain
