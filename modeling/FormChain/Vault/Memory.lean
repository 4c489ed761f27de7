import FormChain.Keyed
import FormChain.Vault.Path
import FormChain.Vault.Request

/-!
# A vault in memory

Keeps the texts of files under their plain paths, and the folders that these lie in. A
path is brought to its plain form wherever a file is looked for or created; a file that
is read or written is named by the path that the vault gave for it.

A text is taken out of its file while it is edited. An edit that breaks off gets no answer, and
leaves the file without a text.
-/

namespace FormChain

/-- **A vault in memory.** -/
structure MemoryVault where
  /-- The texts of files under their paths. -/
  files : Keyed String := []
  /-- The paths of folders. -/
  folders : Keyed Unit := []

namespace MemoryVault

/-- A vault without files. -/
def empty : MemoryVault := {}

/-- Put a file of a plain path, with the folders that it lies in. -/
def put (m : MemoryVault) (path text : String) : MemoryVault where
  files := m.files.insert path text
  folders := m.folders.insertAll ((VaultPath.parentFolders path).map (·, ()))

/-- **A vault with files**, of which a later one stands for an earlier one of its plain
path. -/
def ofFiles? (files : List (String × String)) : Except VaultError MemoryVault :=
  files.foldlM (fun m f => do return m.put (← VaultPath.normalize? f.1) f.2) empty

/-- The file of a path. -/
def find (m : MemoryVault) (path : String) : Except VaultError (Option String) := do
  let path ← VaultPath.normalize? path
  return if m.files.has path then some path else none

/-- The text of a file. -/
def read (m : MemoryVault) (file : String) : Except VaultError String :=
  match m.files.get? file with
  | some text => .ok text
  | none => .error (.notFound file)

/-- Change the text of a file. -/
def write (m : MemoryVault) (file : String) (edit : Edit) :
    Option (Except VaultError Unit) × MemoryVault :=
  match m.files.get? file with
  | none => (some (.error (.notFound file)), m)
  | some text =>
    match edit.applied? text with
    | some text => (some (.ok ()), { m with files := m.files.insert file text })
    | none => (none, { m with files := m.files.insert file "" })

/-- Create a file. -/
def create (m : MemoryVault) (path text : String) : Except VaultError (String × MemoryVault) := do
  let path ← VaultPath.normalize? path
  if m.files.has path then throw (.alreadyExists path)
  return (path, m.put path text)

/-- The metadata of the file of a path. -/
def metadata (m : MemoryVault) (path : String) : Except VaultError (Option Metadata) := do
  let path ← VaultPath.normalize? path
  return (m.files.get? path).map fun text => ⟨Frontmatter.range? text⟩

/-- **The answer to a request**, unless it breaks off, and the vault behind it; a refused
request changes nothing. -/
def answer (m : MemoryVault) : (r : VaultRequest) → Option r.Result × MemoryVault
  | .find path => (some (m.find path), m)
  | .read file => (some (m.read file), m)
  | .write file edit => m.write file edit
  | .create path text =>
    match m.create path text with
    | .ok (path, m') => (some (.ok path), m')
    | .error e => (some (.error e), m)
  | .metadata path => (some (m.metadata path), m)

/-- The text of the file of a path, when there is one. -/
def content? (m : MemoryVault) (path : String) : Option String :=
  match VaultPath.normalize? path with
  | .ok path => m.files.get? path
  | .error _ => none

end MemoryVault

end FormChain
