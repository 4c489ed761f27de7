/-!
# Why a vault refuses

A vault keeps notes under paths. These are the reasons for which it does not do what it
is asked for.
-/

namespace FormChain

/-- **Why a vault refuses.** -/
inductive VaultError where
  /-- There is no file of this path. -/
  | notFound (path : String)
  /-- There is something of this path already. -/
  | alreadyExists (path : String)
  /-- The path leads out of the vault, or nowhere. -/
  | invalidPath (path : String)
  /-- What keeps the vault fails, with a text of its own. -/
  | io (reason : String)
  deriving DecidableEq, Repr

/-- The wording of a refusal. -/
def VaultError.message : VaultError → String
  | notFound path => "file not found: " ++ path
  | alreadyExists path => "file already exists: " ++ path
  | invalidPath path => "invalid path: " ++ path
  | io reason => "io error: " ++ reason

end FormChain
