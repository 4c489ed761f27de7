import FormChain.Chain.Collecting
import FormChain.Chain.Items
import FormChain.Chain.Step
import FormChain.Chain.Transform
import FormChain.Vault.Naming

/-!
# What actions do

The effects of the actions that hold no others. Each expands its templates first, then
turns to its surroundings, and changes the state of the chain last; so an effect that
fails leaves answers, variables and scope as they were.
-/

namespace FormChain

/-- **An effect**: a step that fails with the reason of an action. -/
abbrev Effect := Step ActionError

namespace Effect

/-- Ask the vault. -/
def askVault (s : ChainSetting) (r : VaultRequest) : Effect r.Answer := do
  let answer ← Step.ask s (.vault r)
  Step.ofExcept (Except.mapError .vault answer)

/-! ### Files -/

/-- The greatest number that is put into a name. -/
def maxNumber : Nat := 999

/-- Create a file under the first free name with a number, trying `left` of them from
`n` on. -/
def createNumbered (s : ChainSetting) (path content : String) :
    (left n : Nat) → Effect String
  | 0, _ => throw (.misuse (.noFreeName path))
  | left + 1, n => do
    match ← askVault s (.find (NotePath.numbered path n)) with
    | none => askVault s (.create (NotePath.numbered path n) content)
    | some _ => createNumbered s path content left (n + 1)

/-- Put a text into the file of a path that exists, or not, as the conflict has it. -/
def settleConflict (s : ChainSetting) (conflict : Conflict) (path file content : String) :
    Effect String :=
  match conflict with
  | .skip => return file
  | .overwrite => do
    askVault s (.write file (.replace content))
    return file
  | .rename => createNumbered s path content maxNumber 1

/-- **Create a file.** -/
def createFile (s : ChainSetting) (a : CreateFile) : Effect Unit := do
  let name ← Step.expand a.fileName
  if isBlankText name then throw (.misuse .emptyFileName)
  let folder ← Step.expand a.folder
  let path := NotePath.withExtension (NotePath.inFolder folder name)
  let content ← Step.expand a.content
  let created ← match ← askVault s (.find path) with
    | none => askVault s (.create path content)
    | some file => settleConflict s a.conflict path file content
  Step.writeOption a.output (.text created)

/-- The edit that inserts a text at the top of a file. -/
def topEdit (s : ChainSetting) (path content : String) : Effect Edit := do
  let known ← askVault s (.metadata path)
  let range := known.bind (·.frontmatter)
  return .insertAt ((range.map (·.stop)).getD 0) content

/-- The edit that inserts a text behind a heading that is there. -/
def headingEdit (s : ChainSetting) (heading : Option String) (path file content : String) :
    Effect Edit := do
  match (← Step.expandOption heading).filter (!isBlankText ·) with
  | none => throw (.misuse .headingNeeded)
  | some heading =>
    let text ← askVault s (.read file)
    if (Edit.cutAfterHeading? heading text.toList).isNone then
      throw (.misuse (.headingNotFound heading path))
    return .insertAfterHeading heading content

/-- **Insert a text into a file.** -/
def insertText (s : ChainSetting) (a : InsertText) : Effect Unit := do
  let path := NotePath.withExtension (← Step.expand a.filePath)
  let content ← Step.expand a.content
  match ← askVault s (.find path) with
  | none =>
    if a.createIfMissing then
      let _ ← askVault s (.create path content)
    else throw (.vault (.notFound path))
  | some file =>
    let edit ← match a.position with
      | .top => topEdit s path content
      | .bottom => pure (.insertAtEnd content)
      | .afterHeading => headingEdit s a.heading path file content
    askVault s (.write file edit)

/-! ### Texts and values -/

/-- **Change a text.** -/
def textTransform (a : TextTransform) : Effect Unit := do
  let source ← Step.expand a.source
  Step.write a.output (.text (a.transform.apply source))

/-- **Collect a value**, which needs a loop. -/
def collectData (a : Collect) : Effect Unit := do
  if !(← Step.state).scope.insideLoop then throw (.misuse .outsideLoop)
  let v ← Step.expandValue a.content
  let held := (← Step.state).outputs.get? a.output
  Step.write a.output (a.collected held v)

/-! ### The language model and the user -/

/-- An answer that may be a failure. -/
def askOrFail {α : Type} (answer : Effect (Except ActionError α)) : Effect α := do
  Step.ofExcept (← answer)

/-- What the user has given. One who turns the prompt away gives nothing, which is a
failure. -/
def given {α : Type} : Except ActionError (Option α) → Except ActionError α
  | .ok (some a) => .ok a
  | .ok none => .error .dismissed
  | .error e => .error e

/-- An answer that the user may turn away. -/
def askUser {α : Type} (answer : Effect (Except ActionError (Option α))) : Effect α := do
  Step.ofExcept (given (← answer))

/-- **Ask a language model.** -/
def ai (s : ChainSetting) (a : Prompt) : Effect Unit := do
  let prompt ← Step.expand a.prompt
  let systemPrompt ← Step.expandOption a.systemPrompt
  let text ← askOrFail (Step.ask s (.ai ⟨prompt, systemPrompt, a.model⟩))
  Step.writeOption a.output (.text text)

/-- **Let the user choose.** -/
def suggest (s : ChainSetting) (a : Suggest) : Effect Unit := do
  let options := (← Step.expandAll a.options).toItems
  let placeholder ← Step.expandOption a.placeholder
  let choice ← askUser (Step.ask s (.suggest placeholder options))
  Step.write a.output choice

/-- The state with the answers to more fields. -/
def withAnswers (fields : List Field) (answers : Bag) (st : ChainState) : ChainState :=
  { st with
    values := st.values.insertAll answers
    fieldIds := st.fieldIds.insertAll (fields.map fun f => (f.label, f.id)) }

/-- **Let the user fill in more fields.** -/
def generateForm (s : ChainSetting) (fields : List Field) : Effect Unit := do
  let answers ← askUser (Step.ask s (.collect fields))
  Step.change (withAnswers fields answers)

/-- **Launch a form.** -/
def button (s : ChainSetting) (formPath : String) (mode : ButtonMode) : Effect Unit := do
  if !s.canLaunch then throw (.misuse .noLauncher)
  let path ← Step.expand formPath
  askOrFail (Step.ask s (.launch path mode s.session))

end Effect

end FormChain
