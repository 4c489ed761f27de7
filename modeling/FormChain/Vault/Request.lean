import FormChain.Vault.Edit
import FormChain.Vault.Error
import FormChain.Vault.Frontmatter

/-!
# What a vault is asked for

The requests that every vault answers, and the type of each answer. A file that was
found or created is known by the path that the vault gives for it.
-/

namespace FormChain

/-- What a vault knows of a file besides its text. -/
structure Metadata where
  /-- Where the frontmatter is. -/
  frontmatter : Option ByteRange
  deriving DecidableEq, Repr

/-- **A request to a vault.** -/
inductive VaultRequest where
  /-- Find the file of a path. -/
  | find (path : String)
  /-- Read a file. -/
  | read (file : String)
  /-- Change the text of a file. -/
  | write (file : String) (edit : Edit)
  /-- Create a file, and the folders that it lies in. -/
  | create (path : String) (text : String)
  /-- Tell the metadata of the file of a path. -/
  | metadata (path : String)
  deriving DecidableEq, Repr

/-- What a granted request answers. -/
abbrev VaultRequest.Answer : VaultRequest → Type
  | find _ => Option String
  | read _ => String
  | write _ _ => Unit
  | create _ _ => String
  | metadata _ => Option Metadata

/-- The answer to a request, or a refusal. -/
abbrev VaultRequest.Result (r : VaultRequest) : Type :=
  Except VaultError r.Answer

end FormChain
