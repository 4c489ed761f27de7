import FormChain.Proofs.Vault.Growth
import FormChain.Proofs.Vault.Mirror
import Mathlib.Data.List.Sort

/-!
# Vaults that reply alike

Two empty vaults, one in memory and one on a disk, are asked the same. As long as the disk
mirrors what the vault in memory keeps, they reply alike to every query that does not clash with
it, and the disk stays a mirror (`FormChain.Mirrors.reply_of_clear`). A query that clashes takes
a file for a folder, or a folder for a file. The vault in memory does not notice, since it
looks for files under whole paths only; the disk refuses (`FormChain.Mirrors.gist_of_clash`).

So the two reply alike, up to the wording of refusals, exactly as long as nothing clashes
(`FormChain.Vault.replies_alike_iff`). A file of the name of a folder is enough to set them apart
(`FormChain.Vault.replies_differ`): the vault in memory creates it, though its path is taken.
-/

namespace FormChain

open VaultPath

namespace MemoryVault

variable {m : MemoryVault} {path text : String} {segs : List String}

/-- How a vault in memory creates a file. -/
theorem answer_create (hsegs : segments? path = .ok segs) :
    m.answer (.create path text) = if m.files.has (ofSegments segs) then
      (some (.error (.alreadyExists (ofSegments segs))), m)
    else (some (.ok (ofSegments segs)), m.put (ofSegments segs) text) :=
  answer_create_of_plain (normalize?_eq_ok_iff.mpr ⟨segs, hsegs, rfl⟩)

end MemoryVault

namespace Mirrors

variable {m : MemoryVault} {v : DiskVault} {path file text : String} {q : VaultQuery}

section

variable (h : Mirrors m v)

include h

/-! ### Listing -/

section Listing

variable {wanted : DiskEntry → Bool}

/-- **What is listed on the disk** is what is kept in memory. -/
theorem mem_listed : path ∈ v.disk.listed v.root wanted ↔
    ∃ e, m.kept? path = some e ∧ wanted e = true := by
  rw [Disk.mem_listed]
  constructor
  · rintro ⟨full, e, hmem, hwanted, segs, hne, hfull, -, rfl⟩
    have hslash : ∀ s ∈ segs, '/' ∉ s.toList := fun s hs =>
      slash_of_mem_segmentsOf (hfull ▸ List.mem_append_right v.root hs)
    have hentry : v.disk.entryAt (v.root ++ segs) = some e := by
      rw [Disk.entryAt, ← hfull, ofSegments_segmentsOf]
      exact Keyed.get?_of_mem h.tree.sorted hmem
    exact ⟨e, (h.entry hne hslash).symm.trans hentry, hwanted⟩
  · rintro ⟨e, hkept, hwanted⟩
    obtain ⟨segs, hplace, rfl⟩ := @Mirrors.place _ _ h path (by simp [hkept])
    refine ⟨_, e, Keyed.mem_of_get?_eq_some ((h.entry_eq hplace).trans hkept), hwanted, segs,
      hplace.ne_nil, ?_, ?_, rfl⟩
    · exact segmentsOf_ofSegments hplace.append_ne_nil (h.slash_below hplace.slash)
    · exact List.all_eq_true.mpr fun s hs => decide_eq_true (hplace.shown s hs)

theorem list_eq {names : List String} (hsorted : names.Pairwise (· < ·))
    (hmem : ∀ path, path ∈ names ↔ ∃ e, m.kept? path = some e ∧ wanted e = true) :
    v.list wanted = .ok names := by
  rw [DiskVault.list]
  rcases h.rooted with hroot | ⟨hroot, hfiles, hfolders⟩
  · rw [hroot]
    exact congrArg Except.ok ((Disk.sorted_listed h.tree.sorted).eq_of_mem_iff hsorted
      fun path => h.mem_listed.trans (hmem path).symm)
  · have hnil : names = [] := by
      refine List.eq_nil_iff_forall_not_mem.mpr fun path hpath => ?_
      obtain ⟨e, hkept, -⟩ := (hmem path).mp hpath
      rw [MemoryVault.kept?, hfiles, hfolders] at hkept
      cases hkept
    rw [hroot, hnil]

/-- **The same files are listed.** -/
theorem filePaths_eq : v.filePaths = .ok m.files.names := by
  refine h.list_eq h.files fun path => ?_
  rw [Keyed.mem_names_iff, MemoryVault.has_files_iff]
  constructor
  · rintro ⟨text, hkept⟩
    exact ⟨.file text, hkept, rfl⟩
  · rintro ⟨_ | _, hkept, hfile⟩
    · exact ⟨_, hkept⟩
    · cases hfile

/-- **The same folders are listed.** -/
theorem folderPaths_eq : v.folderPaths = .ok m.folders.names := by
  refine h.list_eq h.folders fun path => ?_
  rw [Keyed.mem_names_iff, MemoryVault.has_folders_iff h.disjoint]
  constructor
  · intro hkept
    exact ⟨.folder, hkept, rfl⟩
  · rintro ⟨_ | _, hkept, hfolder⟩
    · cases hfolder
    · exact hkept

end Listing

/-! ### Requests -/

section Requests

/-- **The same file is found**, where nothing clashes. -/
theorem find_alike (hfits : VaultQuery.fitsPath v.disk.maxNameSize path = true)
    (hclear : m.clashes (.request (.find path)) = false) : v.find path = m.find path := by
  cases hsegs : segments? path with
  | error e =>
    rw [DiskVault.find, MemoryVault.find, DiskVault.resolve, normalize?, hsegs]
    rfl
  | ok segs =>
    rw [MemoryVault.clashes, normalize?_eq hsegs] at hclear
    exact h.find_eq hsegs (isPlace_of_fitsPath hfits hsegs) hclear

/-- **The same metadata are told**, where nothing clashes. -/
theorem metadata_alike (hfits : VaultQuery.fitsPath v.disk.maxNameSize path = true)
    (hclear : m.clashes (.request (.metadata path)) = false) :
    v.metadata path = m.metadata path := by
  cases hsegs : segments? path with
  | error e =>
    rw [DiskVault.metadata, DiskVault.find, MemoryVault.metadata, DiskVault.resolve, normalize?,
      hsegs]
    rfl
  | ok segs =>
    rw [MemoryVault.clashes, normalize?_eq hsegs] at hclear
    exact h.metadata_eq hsegs (isPlace_of_fitsPath hfits hsegs) hclear

/-- **The same is read** from a file in memory. -/
theorem read_alike (hfile : m.files.has file = true) : v.read file = m.read file := by
  obtain ⟨text, htext⟩ := Option.isSome_iff_exists.mp hfile
  rw [h.read_eq htext, MemoryVault.read, htext]

/-- **The same is written** to a file in memory, or breaks off there. -/
theorem write_alike (hfile : m.files.has file = true) (edit : Edit) :
    ∃ v', v.answer (.write file edit) = ((m.answer (.write file edit)).1, v') ∧
      (m.breaksOff (.request (.write file edit)) = false →
        Mirrors (m.answer (.write file edit)).2 v') ∧
      v'.disk.maxNameSize = v.disk.maxNameSize := by
  obtain ⟨text, htext⟩ := Option.isSome_iff_exists.mp hfile
  obtain ⟨segs, hplace, rfl, hwrite⟩ := h.write_eq htext edit
  simp only [DiskVault.answer, hwrite, MemoryVault.breaksOff, MemoryVault.answer,
    MemoryVault.write, htext]
  cases hnew : edit.applied? text with
  | none => exact ⟨v, rfl, fun hgoesOn => (Bool.false_ne_true hgoesOn.symm).elim, rfl⟩
  | some new => exact ⟨_, rfl, fun _ => h.write hplace htext, rfl⟩

/-- **The same file is created**, where nothing clashes. -/
theorem create_alike (hfits : VaultQuery.fitsPath v.disk.maxNameSize path = true)
    (hclear : m.clashes (.request (.create path text)) = false) :
    ∃ v', v.answer (.create path text) = ((m.answer (.create path text)).1, v') ∧
      Mirrors (m.answer (.create path text)).2 v' ∧
      v'.disk.maxNameSize = v.disk.maxNameSize := by
  cases hsegs : segments? path with
  | error e =>
    have hmemory : m.answer (.create path text) = (some (.error e), m) := by
      rw [MemoryVault.answer, MemoryVault.create, normalize?, hsegs]
      rfl
    have hdisk : v.answer (.create path text) = (some (.error e), v) := by
      rw [DiskVault.answer, DiskVault.create, DiskVault.resolve, hsegs]
      rfl
    rw [hmemory, hdisk]
    exact ⟨v, rfl, h, rfl⟩
  | ok segs =>
    have hplace := isPlace_of_fitsPath hfits hsegs
    rw [MemoryVault.clashes, normalize?_eq hsegs] at hclear
    obtain ⟨hway, hfolder⟩ := Bool.or_eq_false_iff.mp hclear
    obtain ⟨disk, hleads, hcreate⟩ := h.create_of_clear hsegs hplace hway text
    rw [DiskVault.answer, hcreate, MemoryVault.answer_create hsegs]
    cases hkept : m.kept? (ofSegments segs) with
    | none =>
      rw [MemoryVault.has_files_eq_false (by simp [hkept])]
      exact ⟨_, rfl, h.create_new hplace hleads hway hkept, hleads.limit⟩
    | some e =>
      have htaken : m.files.has (ofSegments segs) = true := by
        cases e with
        | file text => exact MemoryVault.has_files_iff.mpr ⟨text, hkept⟩
        | folder =>
          rw [(MemoryVault.has_folders_iff h.disjoint).mpr hkept] at hfolder
          cases hfolder
      rw [htaken]
      exact ⟨_, rfl, h.create_existing hplace hleads (by simp [hkept]), hleads.limit⟩

end Requests

/-! ### One query -/

/-- **Where nothing clashes, both vaults reply alike**, and unless the query breaks off the disk
mirrors what the vault in memory keeps then. -/
theorem reply_of_clear {given : List String} (hfits : q.fits v.disk.maxNameSize given = true)
    (hgiven : ∀ file ∈ given, m.files.has file = true) (hclear : m.clashes q = false) :
    ∃ v', (Vault.disk v).reply q = (((Vault.memory m).reply q).1, .disk v') ∧
      (m.breaksOff q = false → Mirrors (m.next q) v') ∧
      v'.disk.maxNameSize = v.disk.maxNameSize := by
  cases q with
  | files =>
    refine ⟨v, ?_, fun _ => h, rfl⟩
    rw [Vault.reply, Vault.filePaths, h.filePaths_eq]
    rfl
  | folders =>
    refine ⟨v, ?_, fun _ => h, rfl⟩
    rw [Vault.reply, Vault.folderPaths, h.folderPaths_eq]
    rfl
  | request r =>
    cases r with
    | find path =>
      refine ⟨v, ?_, fun _ => h, rfl⟩
      rw [Vault.reply, Vault.answer, DiskVault.answer, h.find_alike hfits hclear]
      rfl
    | read file =>
      refine ⟨v, ?_, fun _ => h, rfl⟩
      rw [Vault.reply, Vault.answer, DiskVault.answer,
        h.read_alike (hgiven file (List.contains_iff_mem.mp hfits))]
      rfl
    | metadata path =>
      refine ⟨v, ?_, fun _ => h, rfl⟩
      rw [Vault.reply, Vault.answer, DiskVault.answer, h.metadata_alike hfits hclear]
      rfl
    | write file edit =>
      obtain ⟨v', hanswer, hmirrors, hlimit⟩ :=
        h.write_alike (hgiven file (List.contains_iff_mem.mp hfits)) edit
      refine ⟨v', ?_, hmirrors, hlimit⟩
      rw [Vault.reply, Vault.answer, hanswer]
      rfl
    | create path text =>
      obtain ⟨v', hanswer, hmirrors, hlimit⟩ := h.create_alike hfits hclear
      refine ⟨v', ?_, fun _ => hmirrors, hlimit⟩
      rw [Vault.reply, Vault.answer, hanswer]
      rfl

/-- A path that leads through a file: the disk fails, the vault in memory does not. -/
theorem gist_of_blocked_find {segs : List String} (hsegs : segments? path = .ok segs)
    (hplace : IsPlace v.disk segs) (hblocked : m.liesInFile (ofSegments segs) = true) :
    ((Vault.disk v).reply (.request (.find path))).1.gist = .error .io ∧
      ((Vault.disk v).reply (.request (.metadata path))).1.gist = .error .io := by
  have hfind := h.find_of_blocked hsegs hplace hblocked
  rw [Vault.reply, Vault.reply, Vault.answer, Vault.answer, DiskVault.answer, DiskVault.answer,
    DiskVault.metadata, hfind]
  exact ⟨rfl, rfl⟩

/-- **Where a query clashes, the vaults part.** -/
theorem gist_of_clash {given : List String} (hfits : q.fits v.disk.maxNameSize given = true)
    (hclash : m.clashes q = true) :
    ((Vault.disk v).reply q).1.gist ≠ ((Vault.memory m).reply q).1.gist := by
  cases q with
  | files | folders => cases hclash
  | request r =>
    cases r with
    | read | write => cases hclash
    | find path =>
      obtain ⟨segs, hsegs, hplace, hblocked⟩ := exists_isPlace hfits hclash
      rw [(h.gist_of_blocked_find hsegs hplace hblocked).1, Vault.reply, Vault.answer,
        MemoryVault.answer, MemoryVault.find, normalize?_eq hsegs]
      intro hsame
      cases hsame
    | metadata path =>
      obtain ⟨segs, hsegs, hplace, hblocked⟩ := exists_isPlace hfits hclash
      rw [(h.gist_of_blocked_find hsegs hplace hblocked).2, Vault.reply, Vault.answer,
        MemoryVault.answer, MemoryVault.metadata, normalize?_eq hsegs]
      intro hsame
      cases hsame
    | create path text =>
      obtain ⟨segs, hsegs, hplace, hclash⟩ := exists_isPlace hfits hclash
      rw [Vault.reply, Vault.reply, Vault.answer, Vault.answer, DiskVault.answer,
        MemoryVault.answer_create hsegs]
      cases hblocked : m.liesInFile (ofSegments segs) with
      | true =>
        obtain ⟨o, hcreate⟩ := h.create_of_blocked hsegs hplace hblocked text
        rw [hcreate]
        cases m.files.has (ofSegments segs) <;>
          · intro hsame
            cases hsame
      | false =>
        rw [hblocked, Bool.false_or] at hclash
        have hkept := (MemoryVault.has_folders_iff h.disjoint).mp hclash
        obtain ⟨disk, -, hcreate⟩ := h.create_of_clear hsegs hplace hblocked text
        rw [hcreate, hkept, MemoryVault.has_files_eq_false (by simp [hkept])]
        intro hsame
        cases hsame

end

end Mirrors

/-! ### What a vault gives -/

namespace MemoryVault

variable {m : MemoryVault} {file : String} {q : VaultQuery}

/-- Files stay, whatever is asked. -/
theorem has_next (h : m.files.has file = true) : (m.next q).files.has file = true := by
  obtain ⟨text, htext⟩ := Option.isSome_iff_exists.mp h
  cases q with
  | files | folders => exact h
  | request r =>
    cases r with
    | find | read | metadata => exact h
    | create path new =>
      rw [next, Keyed.has, get?_create htext]
      rfl
    | write file' edit =>
      rcases m.answer_write_snd file' edit with hsame | ⟨old, new, -, hput⟩
      · rw [next, hsame]
        exact h
      · rw [next, hput, Keyed.has, Keyed.get?_insert]
        split
        · rfl
        · exact h

/-- A file that is found is there. -/
theorem has_of_found {path : String} (h : (m.answer (.find path)).1 = some (.ok (some file))) :
    m.files.has file = true := by
  have h := Option.some.inj h
  simp only [find, bind, Except.bind] at h
  split at h
  · cases h
  · have hfound := Except.ok.inj h
    split at hfound
    · next hhas =>
      rw [← Option.some.inj hfound]
      exact hhas
    · cases hfound

/-- **The files that a vault gives are there.** -/
theorem has_of_given (h : file ∈ ((Vault.memory m).reply q).1.given) :
    (m.next q).files.has file = true := by
  cases q with
  | files => exact Keyed.mem_names_iff.mp h
  | folders => cases h
  | request r =>
    rw [Vault.reply, Vault.answer] at h
    dsimp only at h
    cases hanswer : (m.answer r).1 with
    | none =>
      rw [hanswer] at h
      cases r <;> cases h
    | some result =>
      cases result with
      | error e =>
        rw [hanswer] at h
        cases r <;> cases h
      | ok a =>
        rw [hanswer] at h
        cases r with
        | read | write | metadata => cases h
        | find path =>
          cases a with
          | none => cases h
          | some found =>
            obtain rfl := List.mem_singleton.mp h
            exact has_of_found hanswer
        | create path text =>
          obtain rfl := List.mem_singleton.mp h
          obtain ⟨-, -, hput⟩ := answer_create_ok hanswer
          rw [next, hput, Keyed.has, put, Keyed.get?_insert_self]
          rfl

end MemoryVault

/-! ### All queries -/

theorem Vault.reply_memory {m : MemoryVault} {q : VaultQuery} :
    ((Vault.memory m).reply q).2 = .memory (m.next q) := by
  cases q <;> rfl

/-- Only a query that breaks off gets no reply. -/
theorem Vault.reply_memory_eq_brokenOff {m : MemoryVault} {q : VaultQuery} :
    ((Vault.memory m).reply q).1 = .brokenOff ↔ m.breaksOff q = true := by
  cases q with
  | files | folders => exact iff_of_false nofun nofun
  | request r =>
    rw [Vault.reply, Vault.answer, MemoryVault.breaksOff]
    dsimp only
    cases (m.answer r).1 with
    | none => exact iff_of_true (by cases r <;> rfl) rfl
    | some result => exact iff_of_false (by cases r <;> cases result <;> nofun) nofun

namespace Mirrors

variable {m : MemoryVault} {v : DiskVault} {given : List String} {q : VaultQuery}
  {rest qs : List VaultQuery}

/-- **One query**, after which others can be asked unless it breaks off. -/
theorem step (h : Mirrors m v) (hgiven : ∀ file ∈ given, m.files.has file = true)
    (hfit : VaultQuery.allFit v.disk.maxNameSize m given (q :: rest) = true)
    (hclear : m.clashes q = false) :
    ∃ v' given', (Vault.disk v).reply q = (((Vault.memory m).reply q).1, .disk v') ∧
      (m.breaksOff q = false → Mirrors (m.next q) v' ∧
        (∀ file ∈ given', (m.next q).files.has file = true) ∧
        VaultQuery.allFit v'.disk.maxNameSize (m.next q) given' rest = true) := by
  obtain ⟨hq, hrest⟩ := (Bool.and_eq_true _ _).mp hfit
  obtain ⟨v', hreply, hmirrors, hlimit⟩ := h.reply_of_clear hq hgiven hclear
  refine ⟨v', given ++ ((Vault.memory m).reply q).1.given, hreply, fun hgoes => ?_⟩
  rw [hgoes, Bool.false_or] at hrest
  refine ⟨hmirrors hgoes, ?_, hlimit ▸ hrest⟩
  exact List.forall_mem_append.mpr
    ⟨fun file hfile => MemoryVault.has_next (hgiven file hfile),
      fun file hfile => MemoryVault.has_of_given hfile⟩

/-- **As long as nothing clashes, both vaults reply alike.** -/
theorem replies_of_clear (h : Mirrors m v) (hgiven : ∀ file ∈ given, m.files.has file = true)
    (hfit : VaultQuery.allFit v.disk.maxNameSize m given qs = true)
    (hclear : m.clashesIn qs = false) :
    (Vault.disk v).replies qs = (Vault.memory m).replies qs := by
  induction qs generalizing m v given with
  | nil => rfl
  | cons q rest ih =>
    obtain ⟨hq, hrest⟩ := Bool.or_eq_false_iff.mp hclear
    obtain ⟨v', given', hreply, hnext⟩ := h.step hgiven hfit hq
    rw [Vault.replies, Vault.replies, hreply, Vault.reply_memory]
    split
    · rfl
    · next hgoes =>
      rw [Vault.reply_memory_eq_brokenOff, Bool.not_eq_true] at hgoes
      obtain ⟨hmirrors, hgiven', hfit'⟩ := hnext hgoes
      rw [hgoes, Bool.not_false, Bool.true_and] at hrest
      rw [ih hmirrors hgiven' hfit' hrest]

/-- **When something clashes, they part.** -/
theorem gists_of_clash (h : Mirrors m v) (hgiven : ∀ file ∈ given, m.files.has file = true)
    (hfit : VaultQuery.allFit v.disk.maxNameSize m given qs = true)
    (hclash : m.clashesIn qs = true) :
    ((Vault.disk v).replies qs).map VaultReply.gist ≠
      ((Vault.memory m).replies qs).map VaultReply.gist := by
  induction qs generalizing m v given with
  | nil => cases hclash
  | cons q rest ih =>
    rw [Vault.replies, Vault.replies, List.map_cons, List.map_cons]
    intro hsame
    obtain ⟨hhead, htail⟩ := List.cons.inj hsame
    -- the first query that clashes sets the replies apart; up to it, the disk is a mirror
    cases hq : m.clashes q with
    | true => exact h.gist_of_clash ((Bool.and_eq_true _ _).mp hfit).1 hq hhead
    | false =>
      rw [MemoryVault.clashesIn, hq, Bool.false_or, Bool.and_eq_true, Bool.not_eq_true'] at hclash
      obtain ⟨hgoes, hclash⟩ := hclash
      obtain ⟨v', given', hreply, hnext⟩ := h.step hgiven hfit hq
      obtain ⟨hmirrors, hgiven', hfit'⟩ := hnext hgoes
      have hreplied : ((Vault.memory m).reply q).1 ≠ .brokenOff := by
        rw [Ne, Vault.reply_memory_eq_brokenOff, hgoes]
        exact Bool.false_ne_true
      rw [hreply, Vault.reply_memory, if_neg hreplied, if_neg hreplied] at htail
      exact ih hmirrors hgiven' hfit' hclash htail

end Mirrors

/-! ### Empty vaults -/

/-- **A vault on a disk is empty**: there is nothing in its folder, if it has one. -/
structure DiskVault.IsEmpty (v : DiskVault) : Prop where
  /-- The disk is a tree. -/
  tree : v.disk.IsTree
  /-- The disk takes the names on the way to the vault. -/
  root : ∀ s ∈ v.root, v.disk.Takes s
  /-- The vault has a folder, or there is nothing in its place. -/
  rooted : v.disk.look v.root = .ok .folder ∨ v.disk.look v.root = .error .missing
  /-- Nothing is in the folder. -/
  nothing : ∀ {segs : List String}, segs ≠ [] → (∀ s ∈ segs, '/' ∉ s.toList) →
    v.disk.entryAt (v.root ++ segs) = none

/-- On a disk without entries, every vault is empty. -/
theorem DiskVault.isEmpty_of_nil {root : List String} (h : ∀ s ∈ root, ({} : Disk).Takes s) :
    DiskVault.IsEmpty { disk := {}, root } where
  tree := Disk.isTree_of_nil
  root := h
  rooted := by
    by_cases hnil : root = []
    · exact .inl (by rw [hnil]; rfl)
    rcases Disk.look_cases h with ⟨e, hlook⟩ | hlook | hlook
    · have hentry := (Disk.look_eq_ok_iff Disk.isTree_of_nil h hnil).mp hlook
      cases hentry
    · exact .inr hlook
    · obtain ⟨q, text, -, -, -, hfile⟩ :=
        (Disk.look_eq_notAFolder_iff Disk.isTree_of_nil h).mp hlook
      cases hfile
  nothing _ _ := rfl

theorem Mirrors.of_isEmpty {v : DiskVault} (h : v.IsEmpty) : Mirrors .empty v where
  tree := h.tree
  root := h.root
  rooted := h.rooted.imp_right fun hmissing => ⟨hmissing, rfl, rfl⟩
  entry := h.nothing
  place hkept := absurd rfl hkept
  disjoint hhas := nomatch hhas
  files := Keyed.sorted_nil
  folders := Keyed.sorted_nil

namespace Vault

/-- **An empty vault on a disk replies like one in memory exactly as long as nothing clashes**:
then the replies are the same, and otherwise they differ in more than the wording of a
refusal. -/
theorem replies_alike_iff {v : DiskVault} {qs : List VaultQuery} (h : v.IsEmpty)
    (hfit : VaultQuery.allFit v.disk.maxNameSize .empty [] qs = true) :
    (MemoryVault.empty.clashesIn qs = false →
      (disk v).replies qs = (memory .empty).replies qs) ∧
    (((disk v).replies qs).map VaultReply.gist =
        ((memory .empty).replies qs).map VaultReply.gist ↔
      MemoryVault.empty.clashesIn qs = false) := by
  have hmirrors := Mirrors.of_isEmpty h
  have hgiven : ∀ file ∈ ([] : List String), MemoryVault.empty.files.has file = true :=
    fun file hfile => absurd hfile List.not_mem_nil
  have hclear := fun hclear => hmirrors.replies_of_clear hgiven hfit hclear
  refine ⟨hclear, fun hsame => ?_, fun hq => by rw [hclear hq]⟩
  rw [Bool.eq_false_iff]
  exact fun hclash => hmirrors.gists_of_clash hgiven hfit hclash hsame

/-- A note is created, and found where the vault keeps it. -/
theorem replies_alike_to_note :
    (disk { disk := {}, root := ["srv"] }).replies
      [.request (.create "day/one" "x"), .request (.write "day/one" (.append "y")),
        .request (.find "day\\one"), .request (.read "day/one"), .request (.metadata "day/one"),
        .files, .folders, .request (.create "./day/one" "")] =
      [.created "day/one", .written, .found (some "day/one"), .text "xy", .metadata (some ⟨none⟩),
        .files ["day/one"], .folders ["day"], .refused (.alreadyExists "day/one")] := by
  refine ((replies_alike_iff (DiskVault.isEmpty_of_nil fun s hs => ?_) (by decide +kernel)).1
    (by decide +kernel)).trans (by decide +kernel)
  obtain rfl := List.mem_singleton.mp hs
  exact ⟨by decide, by decide, by decide⟩

/-- **A file of the name of a folder sets them apart.** -/
theorem replies_differ : ¬ ∀ (v : DiskVault) (qs : List VaultQuery), v.IsEmpty →
    VaultQuery.allFit v.disk.maxNameSize .empty [] qs = true →
    ((disk v).replies qs).map VaultReply.gist =
      ((memory .empty).replies qs).map VaultReply.gist := by
  intro hsame
  have hgists := hsame { disk := {} } [.request (.create "a/b" ""), .request (.create "a" "")]
    (DiskVault.isEmpty_of_nil fun s hs => absurd hs List.not_mem_nil) (by decide +kernel)
  revert hgists
  decide +kernel

end Vault

end FormChain
