import FormChain.Proofs.Vault.Growth
import FormChain.Proofs.Vault.Paths
import FormChain.Vault.Basic

/-!
# What a vault has under a path

A vault has a file under a path if it finds it there and reads its text
(`FormChain.Vault.Has`). It then tells the metadata of this text, and an edit that cuts no
character is granted and leaves the edited text, which is read from the file from then on
(`FormChain.Vault.Has.write`). An edit that cuts one breaks off, and there the vaults part: a disk
still has the text, and in memory it is lost (`FormChain.Vault.Has.brokenOff`). All else is so in
memory and on every disk, whatever else is kept there
and in whatever order its entries are: on the way down to a file there are only folders, so what is
put in place of the file does not get in the way.

Reading leaves every vault as it is (`FormChain.Vault.answer_of_isReading`).
-/

namespace FormChain

/-! ### Walking down to a file -/

namespace Disk

variable {d : Disk} {name : String} {e : DiskEntry} {text : String}

/-- What is found in a folder is the entry there. -/
theorem get?_of_lookIn {folder : List String} (h : d.lookIn folder name = .ok e) :
    d.entries.get? (VaultPath.ofSegments (folder ++ [name])) = some e := by
  rw [lookIn] at h
  split at h
  · cases h
  · split at h
    · next hentry =>
      obtain rfl := Except.ok.inj h
      exact hentry
    · cases h

/-- **A file that a walk leads to is the entry of its path**, and is still led to when another text
is put in its place. -/
theorem walk_put {place names : List String} (hne : names ≠ [])
    (h : d.walk place .folder names = .ok (.file text)) (new : String) :
    d.entries.get? (VaultPath.ofSegments (place ++ names)) = some (.file text) ∧
      (d.put (place ++ names) (.file new)).walk place .folder names = .ok (.file new) := by
  induction names generalizing place with
  | nil => exact absurd rfl hne
  | cons name rest ih =>
    rw [walk] at h
    cases hlook : d.lookIn place name with
    | error o =>
      simp only [hlook] at h
      cases h
    | ok e =>
      simp only [hlook] at h
      have hentry := get?_of_lookIn hlook
      have hsize : ¬ Utf8.size name.toList > d.maxNameSize := by
        intro hlong
        rw [lookIn, if_pos hlong] at hlook
        cases hlook
      cases rest with
      | nil =>
        obtain rfl := Except.ok.inj h
        refine ⟨hentry, ?_⟩
        have hput : (d.put (place ++ [name]) (.file new)).lookIn place name = .ok (.file new) := by
          rw [lookIn, put, if_neg hsize, Keyed.get?_insert_self]
        rw [walk, hput]
        rfl
      | cons name' rest =>
        cases e with
        | file => cases h
        | folder =>
          have hpath : place ++ name :: name' :: rest = place ++ [name] ++ name' :: rest := by simp
          obtain ⟨hfile, hwalk⟩ := ih (List.cons_ne_nil _ _) h
          rw [hpath]
          refine ⟨hfile, ?_⟩
          -- there is a folder here and a file at the end, so these are two entries
          have hother : VaultPath.ofSegments (place ++ [name]) ≠
              VaultPath.ofSegments (place ++ [name] ++ name' :: rest) := by
            intro hsame
            rw [hsame, hfile] at hentry
            cases hentry
          have hput : (d.put (place ++ [name] ++ name' :: rest) (.file new)).lookIn place name =
              .ok .folder := by
            rw [lookIn, put, if_neg hsize, Keyed.get?_insert_of_ne _ _ hother, hentry]
          rw [walk, hput]
          exact hwalk

/-- A file that is found is found with the text that is put in its place. -/
theorem look_put {path : List String} (hne : path ≠ []) (h : d.look path = .ok (.file text))
    (new : String) : (d.put path (.file new)).look path = .ok (.file new) := by
  rw [look] at h ⊢
  split
  · next hzero =>
    rw [if_pos hzero] at h
    cases h
  · next hzero =>
    rw [if_neg hzero] at h
    exact (walk_put hne h new).2

end Disk

/-! ### Reading what was written -/

namespace DiskVault

variable {v : DiskVault} {file text new : String} {edit : Edit}

/-- A file that is read lies under its path. -/
theorem look_of_read (h : v.read file = .ok text) :
    ∃ segments, VaultPath.segments? file = .ok segments ∧ v.root ++ segments ≠ [] ∧
      v.disk.look (v.root ++ segments) = .ok (.file text) := by
  cases hsegments : VaultPath.segments? file with
  | error e =>
    simp only [read, resolve, hsegments, bind, Except.bind] at h
    cases h
  | ok segments =>
    refine ⟨segments, rfl, ?_, ?_⟩
    · exact List.append_ne_nil_of_right_ne_nil _ (VaultPath.isName_of_segments? hsegments).1
    · simp only [read, resolve, hsegments, bind, Except.bind, pure, Except.pure] at h
      split at h <;> cases h
      assumption

/-- **What is written into a file is read from it.** -/
theorem read_write (hread : v.read file = .ok text) (hnew : edit.applied? text = some new) :
    ∃ v', v.write file edit = (some (.ok ()), v') ∧ v'.read file = .ok new := by
  obtain ⟨segments, hsegments, hne, hlook⟩ := look_of_read hread
  have hresolve (disk : Disk) : DiskVault.resolve { v with disk } file =
      .ok (VaultPath.ofSegments segments, v.root ++ segments) := by
    simp only [resolve, hsegments, bind, Except.bind, pure, Except.pure]
  refine ⟨{ v with disk := v.disk.put (v.root ++ segments) (.file new) }, ?_, ?_⟩
  · simp only [write, hread, hresolve v.disk, hnew]
  · simp only [read, hresolve, Disk.look_put hne hlook, bind, Except.bind, pure, Except.pure]

/-- **An edit that would cut a character breaks off**, and leaves the file as it is. -/
theorem write_brokenOff (hread : v.read file = .ok text) (hnone : edit.applied? text = none) :
    v.write file edit = (none, v) := by
  obtain ⟨segments, hsegments, -, -⟩ := look_of_read hread
  simp only [write, hread, resolve, hsegments, hnone, bind, Except.bind, pure, Except.pure]

end DiskVault

namespace MemoryVault

variable {m : MemoryVault} {path file text new : String} {edit : Edit}

theorem read_eq_ok_iff : m.read file = .ok text ↔ m.files.get? file = some text := by
  rw [read]
  cases m.files.get? file <;> simp

/-- **What is written into a file is read from it.** -/
theorem read_write (hread : m.read file = .ok text) (hnew : edit.applied? text = some new) :
    ∃ m', m.write file edit = (some (.ok ()), m') ∧ m'.read file = .ok new := by
  refine ⟨{ m with files := m.files.insert file new }, ?_, ?_⟩
  · simp only [write, read_eq_ok_iff.mp hread, hnew]
  · exact read_eq_ok_iff.mpr (Keyed.get?_insert_self ..)

/-- **An edit that would cut a character breaks off**, and leaves the file without a text. -/
theorem write_brokenOff (hread : m.read file = .ok text) (hnone : edit.applied? text = none) :
    ∃ m', m.write file edit = (none, m') ∧ m'.read file = .ok "" := by
  refine ⟨{ m with files := m.files.insert file "" }, ?_, ?_⟩
  · simp only [write, read_eq_ok_iff.mp hread, hnone]
  · exact read_eq_ok_iff.mpr (Keyed.get?_insert_self ..)

end MemoryVault

namespace Vault

variable {v : Vault} {r : VaultRequest} {path file text new : String} {edit : Edit}

/-- **Reading leaves every vault as it is.** -/
theorem answer_of_isReading (h : r.isReading = true) : (v.answer r).2 = v := by
  cases v <;> cases r <;> first | rfl | cases h

/-- **A request that edits at no place gets an answer.** -/
theorem exists_answer (v : Vault) (h : r.isPlaced = false) : ∃ a, v.ask r = some a := by
  cases v with
  | memory m => exact m.exists_answer h
  | disk d =>
    cases r with
    | find | read | metadata | create => exact ⟨_, rfl⟩
    | write file edit =>
      change ∃ a, (d.write file edit).1 = some a
      rw [DiskVault.write]
      cases d.read file with
      | error e => exact ⟨_, rfl⟩
      | ok old =>
        obtain ⟨new, hnew⟩ := Edit.exists_applied h old
        cases d.resolve file with
        | error e => exact ⟨_, rfl⟩
        | ok full => exact ⟨.ok (), by simp only [hnew]⟩

/-- **A vault has a file under a path**, with a text. -/
structure Has (v : Vault) (path file text : String) : Prop where
  /-- It finds the file. -/
  found : v.ask (.find path) = some (.ok (some file))
  /-- The text is in it. -/
  read : v.ask (.read file) = some (.ok text)

/-- It tells the metadata of the text. -/
theorem Has.metadata (h : v.Has path file text) :
    v.ask (.metadata path) = some (.ok (some ⟨Frontmatter.range? text⟩)) := by
  obtain ⟨hfound, hread⟩ := h
  cases v with
  | memory m =>
    have hplain : VaultPath.normalize? path = .ok file :=
      MemoryVault.find_eq_some (Option.some.inj hfound)
    have hfile : m.files.get? file = some text :=
      MemoryVault.read_eq_ok_iff.mp (Option.some.inj hread)
    change some (m.metadata path) = _
    simp only [MemoryVault.metadata, hplain, hfile, bind, Except.bind, pure, Except.pure,
      Option.map_some]
  | disk d =>
    have hfound : d.find path = .ok (some file) := Option.some.inj hfound
    have hread : d.read file = .ok text := Option.some.inj hread
    change some (d.metadata path) = _
    simp only [DiskVault.metadata, hfound, hread, bind, Except.bind, pure, Except.pure]

/-- **An edit of the file is granted**, and leaves the edited text. -/
theorem Has.write (h : v.Has path file text) (hnew : edit.applied? text = some new) :
    v.ask (.write file edit) = some (.ok ()) ∧
      (v.answer (.write file edit)).2.ask (.read file) = some (.ok new) := by
  cases v with
  | memory m =>
    obtain ⟨m', hwrite, hread⟩ := MemoryVault.read_write (Option.some.inj h.read) hnew
    simp only [ask, answer, MemoryVault.answer, hwrite, hread, and_self]
  | disk d =>
    obtain ⟨d', hwrite, hread⟩ := DiskVault.read_write (Option.some.inj h.read) hnew
    simp only [ask, answer, DiskVault.answer, hwrite, hread, and_self]

/-- **What is left of a text** by an edit that breaks off: all of it on a disk, and nothing in
memory. -/
def leftOf (text : String) : Vault → String
  | memory _ => ""
  | disk _ => text

/-- **An edit that would cut a character breaks off.** -/
theorem Has.brokenOff (h : v.Has path file text) (hnone : edit.applied? text = none) :
    v.ask (.write file edit) = none ∧
      (v.answer (.write file edit)).2.ask (.read file) = some (.ok (v.leftOf text)) := by
  cases v with
  | memory m =>
    obtain ⟨m', hwrite, hread⟩ := MemoryVault.write_brokenOff (Option.some.inj h.read) hnone
    simp only [ask, answer, MemoryVault.answer, hwrite, hread, leftOf, and_self]
  | disk d =>
    have hread : d.read file = .ok text := Option.some.inj h.read
    simp only [ask, answer, DiskVault.answer, DiskVault.write_brokenOff hread hnone, hread, leftOf,
      and_self]

end Vault

end FormChain
