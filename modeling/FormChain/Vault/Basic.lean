import FormChain.Vault.Disk
import FormChain.Vault.Memory

/-!
# Vaults

A vault keeps notes, in memory or on a disk.
-/

namespace FormChain

/-- **A vault.** -/
inductive Vault where
  /-- In memory. -/
  | memory (m : MemoryVault)
  /-- On a disk. -/
  | disk (v : DiskVault)

namespace Vault

/-- **The answer to a request**, unless it breaks off, and the vault behind it. -/
def answer (v : Vault) (r : VaultRequest) : Option r.Result × Vault :=
  match v with
  | memory m =>
    let (a, m) := m.answer r
    (a, .memory m)
  | disk d =>
    let (a, d) := d.answer r
    (a, .disk d)

/-- The answer to a request alone. -/
def ask (v : Vault) (r : VaultRequest) : Option r.Result :=
  (v.answer r).1

/-- The paths of the files, in order. -/
def filePaths : Vault → Except VaultError (List String)
  | memory m => .ok m.files.names
  | disk d => d.filePaths

/-- The paths of the folders, in order. -/
def folderPaths : Vault → Except VaultError (List String)
  | memory m => .ok m.folders.names
  | disk d => d.folderPaths

/-- The files with their texts, as far as they can be read. -/
def texts (v : Vault) : List (String × String) :=
  match v.filePaths with
  | .ok files => files.filterMap fun file =>
    match v.ask (.read file) with
    | some (.ok text) => some (file, text)
    | _ => none
  | .error _ => []

end Vault

end FormChain
