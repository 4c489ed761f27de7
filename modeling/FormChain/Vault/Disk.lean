import FormChain.Keyed
import FormChain.Vault.Path
import FormChain.Vault.Request

/-!
# A vault on a disk

A disk is a tree of folders and files; a vault is kept in one of its folders. Where a
disk cannot do what it is asked for, the obstacle tells why, and the vault turns it into
a refusal.

Entries whose names start with a point are not listed, nor is what lies in them; they
can be found, read and written all the same.

A text is edited before the file is touched. An edit that breaks off gets no answer, and leaves
the file as it is.
-/

namespace FormChain

/-- What there is under a path of a disk. -/
inductive DiskEntry where
  /-- A file with its text. -/
  | file (text : String)
  /-- A folder. -/
  | folder
  deriving DecidableEq, Repr

/-- Whether an entry is a file. -/
def DiskEntry.isFile : DiskEntry → Bool
  | file _ => true
  | folder => false

/-- **A disk**: its entries under their paths, every folder on the way to an entry
being an entry too. -/
structure Disk where
  /-- The entries. -/
  entries : Keyed DiskEntry := []
  /-- The greatest number of bytes in a name. -/
  maxNameSize : Nat := 255

/-- Why a disk cannot do what it is asked for. -/
inductive Obstacle where
  /-- There is no such entry. -/
  | missing
  /-- There is an entry already. -/
  | taken
  /-- A file stands where a folder is needed. -/
  | notAFolder
  /-- A folder stands where a file is needed. -/
  | isAFolder
  /-- A name has more bytes than the disk takes. -/
  | nameTooLong
  /-- A name has a zero character. -/
  | zeroInName
  deriving DecidableEq, Repr

/-- The wording of an obstacle. -/
def Obstacle.message : Obstacle → String
  | missing => "No such file or directory (os error 2)"
  | taken => "File exists (os error 17)"
  | notAFolder => "Not a directory (os error 20)"
  | isAFolder => "Is a directory (os error 21)"
  | nameTooLong => "File name too long (os error 36)"
  | zeroInName => "file name contained an unexpected NUL byte"

namespace Disk

/-- Whether some name has a zero character. -/
def hasZero (names : List String) : Bool :=
  names.any fun s => s.toList.contains (Char.ofNat 0)

/-- Look at one entry of a folder. -/
def lookIn (d : Disk) (folder : List String) (name : String) : Except Obstacle DiskEntry :=
  if Utf8.size name.toList > d.maxNameSize then .error .nameTooLong
  else match d.entries.get? (VaultPath.ofSegments (folder ++ [name])) with
    | some e => .ok e
    | none => .error .missing

/-- Walk down from an entry. -/
def walk (d : Disk) (place : List String) (here : DiskEntry) :
    List String → Except Obstacle DiskEntry
  | [] => .ok here
  | name :: rest =>
    match here with
    | .file _ => .error .notAFolder
    | .folder =>
      match d.lookIn place name with
      | .ok e => walk d (place ++ [name]) e rest
      | .error o => .error o

/-- **What there is under a path.** -/
def look (d : Disk) (path : List String) : Except Obstacle DiskEntry :=
  if hasZero path then .error .zeroInName else d.walk [] .folder path

/-- Put an entry. -/
def put (d : Disk) (path : List String) (e : DiskEntry) : Disk :=
  { d with entries := d.entries.insert (VaultPath.ofSegments path) e }

/-- Make the folders of a path from a folder down. Folders made before an obstacle
stay. -/
def makeFoldersFrom (d : Disk) (place : List String) :
    List String → Except Obstacle Unit × Disk
  | [] => (.ok (), d)
  | name :: rest =>
    match d.lookIn place name with
    | .ok .folder => makeFoldersFrom d (place ++ [name]) rest
    | .ok (.file _) => (.error (if rest.isEmpty then .taken else .notAFolder), d)
    | .error .missing =>
      makeFoldersFrom (d.put (place ++ [name]) .folder) (place ++ [name]) rest
    | .error o => (.error o, d)

/-- **Make all folders of a path.** -/
def makeFolders (d : Disk) (path : List String) : Except Obstacle Unit × Disk :=
  if hasZero path then (.error .zeroInName, d) else d.makeFoldersFrom [] path

/-- Make a file that is not there. -/
def makeFile (d : Disk) (path : List String) (text : String) : Except Obstacle Unit × Disk :=
  match d.look path with
  | .ok _ => (.error .taken, d)
  | .error .missing => (.ok (), d.put path (.file text))
  | .error o => (.error o, d)

/-- The path of an entry as seen from a folder, when it lies in it. -/
def seenFrom? (folder : List String) (path : String) : Option (List String) :=
  let names := VaultPath.segmentsOf path
  if folder.isPrefixOf names && folder.length < names.length then
    some (names.drop folder.length)
  else none

/-- Whether an entry is listed: no name in its path starts with a point. -/
def isListed (path : List String) : Bool :=
  path.all fun s => s.toList.head? ≠ some '.'

/-- The listed entries of a folder and of the folders in it, their paths as seen from
it. -/
def listed (d : Disk) (folder : List String) (wanted : DiskEntry → Bool) : List String :=
  d.entries.filterMap fun (path, e) =>
    if wanted e then ((seenFrom? folder path).filter isListed).map VaultPath.ofSegments
    else none

end Disk

/-- **A vault on a disk.** -/
structure DiskVault where
  /-- The disk. -/
  disk : Disk
  /-- The folder that the vault is kept in. -/
  root : List String := []

namespace DiskVault

/-- The refusal of a vault that meets an obstacle. -/
def refusal (o : Obstacle) : VaultError :=
  .io o.message

/-- The segments of a path in the vault, and the same on the disk. -/
def resolve (v : DiskVault) (path : String) : Except VaultError (String × List String) := do
  let segments ← VaultPath.segments? path
  return (VaultPath.ofSegments segments, v.root ++ segments)

/-- The file of a path. -/
def find (v : DiskVault) (path : String) : Except VaultError (Option String) := do
  let (plain, full) ← v.resolve path
  match v.disk.look full with
  | .ok (.file _) => return some plain
  | .ok .folder => return none
  | .error .missing => return none
  | .error o => throw (refusal o)

/-- The text of a file. -/
def read (v : DiskVault) (file : String) : Except VaultError String := do
  let (_, full) ← v.resolve file
  match v.disk.look full with
  | .ok (.file text) => return text
  | .ok .folder => throw (refusal .isAFolder)
  | .error .missing => throw (.notFound file)
  | .error o => throw (refusal o)

/-- Change the text of a file. -/
def write (v : DiskVault) (file : String) (edit : Edit) :
    Option (Except VaultError Unit) × DiskVault :=
  match v.read file, v.resolve file with
  | .error e, _ | _, .error e => (some (.error e), v)
  | .ok text, .ok (_, full) =>
    match edit.applied? text with
    | some text => (some (.ok ()), { v with disk := v.disk.put full (.file text) })
    | none => (none, v)

/-- Create a file. Folders that were made for it stay when that fails. -/
def create (v : DiskVault) (path text : String) : Except VaultError String × DiskVault :=
  match v.resolve path with
  | .error e => (.error e, v)
  | .ok (plain, full) =>
    match v.disk.makeFolders full.dropLast with
    | (.error o, disk) => (.error (refusal o), { v with disk })
    | (.ok _, disk) =>
      match disk.makeFile full text with
      | (.ok _, disk) => (.ok plain, { v with disk })
      | (.error .taken, disk) => (.error (.alreadyExists plain), { v with disk })
      | (.error o, disk) => (.error (refusal o), { v with disk })

/-- The metadata of the file of a path. -/
def metadata (v : DiskVault) (path : String) : Except VaultError (Option Metadata) := do
  match ← v.find path with
  | none => return none
  | some file => return some ⟨Frontmatter.range? (← v.read file)⟩

/-- The listed entries of the vault. -/
def list (v : DiskVault) (wanted : DiskEntry → Bool) : Except VaultError (List String) :=
  match v.disk.look v.root with
  | .ok .folder => .ok (v.disk.listed v.root wanted)
  | .ok (.file _) => .error (refusal .notAFolder)
  | .error .missing => .ok []
  | .error o => .error (refusal o)

/-- The paths of the listed files. -/
def filePaths (v : DiskVault) : Except VaultError (List String) :=
  v.list DiskEntry.isFile

/-- The paths of the listed folders. -/
def folderPaths (v : DiskVault) : Except VaultError (List String) :=
  v.list (!·.isFile)

/-- **The answer to a request**, unless it breaks off, and the vault behind it. -/
def answer (v : DiskVault) : (r : VaultRequest) → Option r.Result × DiskVault
  | .find path => (some (v.find path), v)
  | .read file => (some (v.read file), v)
  | .write file edit => v.write file edit
  | .create path text => ((v.create path text).map some id)
  | .metadata path => (some (v.metadata path), v)

end DiskVault

end FormChain
