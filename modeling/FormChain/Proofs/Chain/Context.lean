import FormChain.Proofs.Script.Run
import FormChain.Vault.Memory

/-!
# What a chain works on

A chain works on its answers, its variables and its scope, which are its *context*, and on
the files of a vault. Its state knows more – whether the token was seen cancelled, what the
clock showed last and what random texts are drawn from – and all of this changes by the
mere passing of time, whatever the chain does.

The vault is not part of the state. Where files are kept in memory and requests can fail
without effect, what is in the vault is told by the events alone
(`FormChain.MemoryVault.behind`): a request that was granted has had its effect, and a
refused one has had none. This is so however the vault answers, and where it answers by
itself, the events tell what it has become (`FormChain.MemoryVault.after_answered`). Only an edit
at a place told in bytes may get no answer (`FormChain.MemoryVault.exists_answer`); then there is no
event either, and what becomes of the vault is not told.
-/

namespace FormChain

/-! ### Contexts -/

/-- **The context of a chain**: its state but for what is known of the token, the time and
the seed. -/
structure ChainContext where
  /-- The answers of the form, under the ids of its fields. -/
  values : Bag
  /-- The ids of fields under their labels. -/
  fieldIds : Keyed String
  /-- The variables that actions have written. -/
  outputs : Bag
  /-- The scope of loops. -/
  scope : Scope

/-- The context in a state. -/
def ChainState.context (st : ChainState) : ChainContext where
  values := st.values
  fieldIds := st.fieldIds
  outputs := st.outputs
  scope := st.scope

/-! ### The vault behind events -/

/-- Whether a request leaves every vault as it is. -/
def VaultRequest.isReading : VaultRequest → Bool
  | .find _ | .read _ | .metadata _ => true
  | .write .. | .create .. => false

/-- Whether an edit is at a place told in bytes. -/
def Edit.isPlaced : Edit → Bool
  | insertAt .. => true
  | _ => false

/-- Whether a request is for an edit at a place told in bytes. -/
def VaultRequest.isPlaced : VaultRequest → Bool
  | .write _ edit => edit.isPlaced
  | _ => false

/-- **Only an edit at a place breaks off.** -/
theorem Edit.exists_applied {edit : Edit} (h : edit.isPlaced = false) (old : String) :
    ∃ new, edit.applied? old = some new := by
  cases edit with
  | insertAt => cases h
  | _ => exact ⟨_, rfl⟩

namespace MemoryVault

variable {m : MemoryVault} {r : VaultRequest} {token : Token}

/-- **A request that edits at no place gets an answer.** -/
theorem exists_answer (m : MemoryVault) (h : r.isPlaced = false) :
    ∃ a, (m.answer r).1 = some a := by
  cases r with
  | find | read | metadata => exact ⟨_, rfl⟩
  | create path text =>
    simp only [answer]
    split <;> exact ⟨_, rfl⟩
  | write file edit =>
    simp only [answer, write]
    cases hfile : m.files.get? file with
    | none => exact ⟨_, rfl⟩
    | some old =>
      obtain ⟨new, hnew⟩ := Edit.exists_applied h old
      exact ⟨.ok (), by simp only [hnew]⟩

/-- The vault behind an event. -/
def after (m : MemoryVault) : Event → MemoryVault
  | .exchange _ (.vault r) reply =>
    if reply.answer.isOk then (m.answer r).2 else m
  | _ => m

/-- **The vault behind some events.** -/
def behind (m : MemoryVault) (es : List Event) : MemoryVault :=
  es.foldl after m

@[simp] theorem behind_nil : m.behind [] = m := rfl

@[simp] theorem behind_cons (e : Event) (es : List Event) :
    m.behind (e :: es) = (m.after e).behind es := rfl

@[simp] theorem behind_append (es es' : List Event) :
    m.behind (es ++ es') = (m.behind es).behind es' := by
  simp [behind]

/-- A request that is refused changes nothing. -/
theorem answer_of_refused {e : VaultError} (h : (m.answer r).1 = some (.error e)) :
    (m.answer r).2 = m := by
  cases r with
  | find | read | metadata => rfl
  | create =>
    simp only [answer] at h ⊢
    split at h
    · cases h
    · rfl
  | write =>
    simp only [answer, write] at h ⊢
    split at h
    · rfl
    · split at h <;> cases h

/-- **Where the vault answers by itself**, it is behind the event what its answer makes of
it. -/
theorem after_answered {reply : Reply (.vault r)} (h : (m.answer r).1 = some reply.answer) :
    m.after (.exchange token (.vault r) reply) = (m.answer r).2 := by
  cases hreply : reply.answer with
  | ok a =>
    simp only [after, hreply]
    rfl
  | error e =>
    rw [hreply] at h
    simp only [after, hreply, answer_of_refused h]
    rfl

/-- A refused request has no effect. -/
theorem after_of_refused {reply : Reply (.vault r)} {e : VaultError}
    (h : reply.answer = .error e) : m.after (.exchange token (.vault r) reply) = m := by
  simp only [after, h]
  rfl

/-- Reading has no effect. -/
theorem after_of_isReading (h : r.isReading = true) (reply : Reply (.vault r)) :
    m.after (.exchange token (.vault r) reply) = m := by
  have hsame : (m.answer r).2 = m := by
    cases r with
    | find | read | metadata => rfl
    | write | create => cases h
  simp only [after, hsame, ite_self]

end MemoryVault

end FormChain
