import FormChain.Vault.Basic

/-!
# Queries to vaults

A vault is asked one query after another (`FormChain.VaultQuery`): a request, or what there is
in it. Its replies can be compared with those of another vault, refusals by their kinds
(`FormChain.VaultReply.gist`). Whoever asks for an edit that breaks off asks nothing more, so this is
the end of the replies.

A query *clashes* with what a vault in memory keeps if it takes a file for a folder, or a
folder for a file (`FormChain.MemoryVault.clashes`). Queries are *fit* to compare vaults by if
every name in them is one that disks take and list, and files are named as the vault named them
before (`FormChain.VaultQuery.allFit`).
-/

namespace FormChain

/-! ### What vaults are asked -/

/-- **What a vault can be asked**: a request, or what there is in it. -/
inductive VaultQuery where
  /-- A request. -/
  | request (r : VaultRequest)
  /-- Which files there are. -/
  | files
  /-- Which folders there are. -/
  | folders

/-- **What a vault replies.** -/
inductive VaultReply where
  /-- The file of a path, if there is one. -/
  | found (file : Option String)
  /-- The text of a file. -/
  | text (text : String)
  /-- The text of a file was changed. -/
  | written
  /-- A file was created. -/
  | created (file : String)
  /-- The metadata of a file, if there is one. -/
  | metadata (metadata : Option Metadata)
  /-- The paths of the files. -/
  | files (paths : List String)
  /-- The paths of the folders. -/
  | folders (paths : List String)
  /-- The vault refuses. -/
  | refused (e : VaultError)
  /-- There is no reply, as the request breaks off. -/
  | brokenOff
  deriving DecidableEq

/-- A kind of refusal. -/
inductive RefusalKind where
  /-- There is no file of a path. -/
  | notFound
  /-- There is something of a path already. -/
  | alreadyExists
  /-- A path leads out of the vault, or nowhere. -/
  | invalidPath
  /-- What keeps the vault fails. -/
  | io
  deriving DecidableEq

/-- The kind of a refusal. -/
def VaultError.kind : VaultError → RefusalKind
  | notFound _ => .notFound
  | alreadyExists _ => .alreadyExists
  | invalidPath _ => .invalidPath
  | io _ => .io

namespace VaultReply

/-- A reply to a request. -/
def ofResult : (r : VaultRequest) → Option r.Result → VaultReply
  | _, none => brokenOff
  | _, some (.error e) => refused e
  | .find _, some (.ok file) => found file
  | .read _, some (.ok s) => text s
  | .write _ _, some (.ok _) => written
  | .create _ _, some (.ok file) => created file
  | .metadata _, some (.ok m) => metadata m

/-- A reply in which of a refusal only the kind is left. -/
def gist : VaultReply → Except RefusalKind VaultReply
  | refused e => .error e.kind
  | a => .ok a

/-- The files that a reply gives. -/
def given : VaultReply → List String
  | found (some file) => [file]
  | created file => [file]
  | files paths => paths
  | _ => []

end VaultReply

namespace Vault

/-- **The reply of a vault**, and the vault behind it. -/
def reply (v : Vault) : VaultQuery → VaultReply × Vault
  | .request r =>
    let (a, v) := v.answer r
    (.ofResult r a, v)
  | .files =>
    (match v.filePaths with
    | .ok paths => .files paths
    | .error e => .refused e, v)
  | .folders =>
    (match v.folderPaths with
    | .ok paths => .folders paths
    | .error e => .refused e, v)

/-- **The replies of a vault** to one query after another, up to one that breaks off. -/
def replies (v : Vault) : List VaultQuery → List VaultReply
  | [] => []
  | q :: rest =>
    (v.reply q).1 :: if (v.reply q).1 = .brokenOff then [] else replies (v.reply q).2 rest

end Vault

/-! ### Clashes -/

namespace MemoryVault

/-- The vault behind a query. -/
def next (m : MemoryVault) : VaultQuery → MemoryVault
  | .request r => (m.answer r).2
  | .files => m
  | .folders => m

/-- Whether a file has the path of a folder that a path in plain form lies in. -/
def liesInFile (m : MemoryVault) (path : String) : Bool :=
  (VaultPath.parentFolders path).any m.files.has

/-- **Whether a query clashes with what a vault keeps**: its path leads through a file, or a
file is to be created where there is a folder. -/
def clashes (m : MemoryVault) : VaultQuery → Bool
  | .request (.find path) | .request (.metadata path) =>
    match VaultPath.normalize? path with
    | .ok path => m.liesInFile path
    | .error _ => false
  | .request (.create path _) =>
    match VaultPath.normalize? path with
    | .ok path => m.liesInFile path || m.folders.has path
    | .error _ => false
  | _ => false

/-- Whether a query breaks off. -/
def breaksOff (m : MemoryVault) : VaultQuery → Bool
  | .request r => (m.answer r).1.isNone
  | .files => false
  | .folders => false

/-- Whether one of some queries, asked one after another up to one that breaks off, clashes. -/
def clashesIn (m : MemoryVault) : List VaultQuery → Bool
  | [] => false
  | q :: rest => m.clashes q || (!m.breaksOff q && clashesIn (m.next q) rest)

end MemoryVault

/-! ### Queries to be compared -/

namespace VaultQuery

/-- Whether a name can be one of a listed entry on a disk that takes names up to some size. -/
def fitsName (limit : Nat) (s : String) : Bool :=
  Utf8.size s.toList ≤ limit && !s.toList.contains (Char.ofNat 0) && s.toList.head? ≠ some '.'

/-- Whether the names in a path fit. -/
def fitsPath (limit : Nat) (path : String) : Bool :=
  match VaultPath.segments? path with
  | .ok segs => segs.all (fitsName limit)
  | .error _ => true

/-- **Whether a query is one to compare vaults by**: the names in its paths fit, and a file is
named as it was given before. -/
def fits (limit : Nat) (given : List String) : VaultQuery → Bool
  | .request (.find path) => fitsPath limit path
  | .request (.create path _) => fitsPath limit path
  | .request (.metadata path) => fitsPath limit path
  | .request (.read file) => given.contains file
  | .request (.write file _) => given.contains file
  | .files => true
  | .folders => true

/-- Whether all of some queries are, asked one after another up to one that breaks off, where some
files were given before. -/
def allFit (limit : Nat) (m : MemoryVault) (given : List String) : List VaultQuery → Bool
  | [] => true
  | q :: rest => q.fits limit given && (m.breaksOff q ||
    allFit limit (m.next q) (given ++ ((Vault.memory m).reply q).1.given) rest)

end VaultQuery

end FormChain
