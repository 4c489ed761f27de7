import FormChain.Proofs.Chain.Checked
import FormChain.Proofs.Vault.Growth

/-!
# Who asks what of the vault

Only two sorts of actions ask anything of the vault: those that create files and those that
insert texts. What they ask for is settled by the action and the state in which it is
attempted, since the templates are expanded before anything is asked
(`FormChain.Action.Requests`). The text that is asked to be written is that of the action
(`FormChain.CreateFile.textIn`, `FormChain.InsertText.textIn`); replacing a whole file is
asked for by an action that may overwrite and by no other, and an edit at a place told in bytes
only by an insertion at the top.

Nothing comes between the attempt of such an action and its requests, so in the events of a
chain each request belongs to the action that was attempted last
(`FormChain.Chain.request_of_attempt`). An insertion that succeeds has left its text: in the
file that was found, or in one that was created (`FormChain.insertText_done`).
-/

namespace FormChain

/-! ### Drawing on the seed -/

/-- **The text of a template in a state**, and the state behind it. -/
def ChainState.draw (st : ChainState) (template : String) : String × ChainState :=
  let (text, seed) := (Template.expand st.environment template).run st.seed
  (text, { st with seed })

/-- To expand a template is to draw its text, and go on. -/
theorem Step.run_expand_bind {ε α : Type} {template : String} {k : String → Step ε α}
    {st st' : ChainState} {es : List Event} {r : Except ε α} :
    (Step.expand template >>= k).Run st es r st' ↔
      (k (st.draw template).1).Run (st.draw template).2 es r st' :=
  Iff.rfl

/-! ### What files and texts are meant -/

/-- The text of a file to be created, in a state. -/
def CreateFile.textIn (a : CreateFile) (st : ChainState) : String :=
  (((st.draw a.fileName).2.draw a.folder).2.draw a.content).1

/-- The path of the file that a text goes into, in a state. -/
def InsertText.pathIn (a : InsertText) (st : ChainState) : String :=
  NotePath.withExtension (st.draw a.filePath).1

/-- The text that is inserted, in a state. -/
def InsertText.textIn (a : InsertText) (st : ChainState) : String :=
  ((st.draw a.filePath).2.draw a.content).1

/-- The text that an action brings into a file, in a state. -/
def Action.textIn (st : ChainState) : Action → Option String
  | .createFile _ spec => some (spec.textIn st)
  | .insertText _ spec => some (spec.textIn st)
  | _ => none

/-- **What an action may ask of the vault**, attempted in a state. -/
def Action.Requests (st : ChainState) (a : Action) : VaultRequest → Prop
  | .find _ | .read _ | .metadata _ => ∃ text, a.textIn st = some text
  | .create _ text => a.textIn st = some text
  | .write _ edit =>
    a.textIn st = some edit.text ∧
      match a with
      | .createFile _ spec => spec.conflict = .overwrite ∧ edit.isPlaced = false
      | .insertText _ spec =>
        edit.isInsertion = true ∧ (edit.isPlaced = true → spec.position = .top)
      | _ => False

/-- **Only an insertion at the top** asks for an edit at a place told in bytes. -/
theorem Action.Requests.of_isPlaced {st : ChainState} {a : Action} {r : VaultRequest}
    (h : a.Requests st r) (hr : r.isPlaced = true) :
    ∃ head spec, a = .insertText head spec ∧ spec.position = .top := by
  cases r with
  | write file edit =>
    obtain ⟨-, hwrite⟩ := h
    cases a with
    | createFile => cases hwrite.2.symm.trans hr
    | insertText head spec => exact ⟨head, spec, rfl, hwrite.2 hr⟩
    | _ => exact hwrite.elim
  | _ => cases hr

/-! ### What effects ask of the vault -/

/-- **All that a step asks of the vault** from a state on is of some sort. -/
def AsksOnly {α : Type} (P : VaultRequest → Prop) (x : Effect α) (st : ChainState) : Prop :=
  ∀ es r st', x.Run st es r st' →
    ∀ token req reply, .exchange token (.vault req) reply ∈ es → P req

theorem AsksOnly.mono {α : Type} {P Q : VaultRequest → Prop} {x : Effect α} {st : ChainState}
    (h : AsksOnly P x st) (hpq : ∀ r, P r → Q r) : AsksOnly Q x st :=
  fun es r st' hrun token req reply hmem => hpq req (h es r st' hrun token req reply hmem)

section Parts

variable {P : VaultRequest → Prop} {s : ChainSetting} {α β : Type} {st : ChainState}

theorem asksOnly_of_silent {x : Effect α} (h : ∀ es r st', x.Run st es r st' → es = []) :
    AsksOnly P x st := by
  intro es r st' hx token req reply hmem
  rw [h es r st' hx] at hmem
  cases hmem

theorem asksOnly_pure (a : α) : AsksOnly P (pure a : Effect α) st :=
  asksOnly_of_silent fun _ _ _ h => (Step.run_pure.mp h).1

theorem asksOnly_throw (e : ActionError) : AsksOnly P (throw e : Effect α) st :=
  asksOnly_of_silent fun _ _ _ h => (Step.run_throw.mp h).1

theorem asksOnly_throw_bind (e : ActionError) (f : α → Effect β) :
    AsksOnly P (throw e >>= f) st :=
  asksOnly_of_silent fun _ _ _ h => (Step.run_throw_bind.mp h).1

theorem asksOnly_state : AsksOnly P (Step.state : Effect ChainState) st :=
  asksOnly_of_silent fun _ _ _ h => (Step.run_state.mp h).1

theorem asksOnly_drawing (g : Environment → StateM Nat α) :
    AsksOnly P (Step.drawing g : Effect α) st :=
  asksOnly_of_silent fun _ _ _ h => (Step.run_drawing.mp h).1

theorem asksOnly_change (g : ChainState → ChainState) :
    AsksOnly P (Step.change g : Effect Unit) st :=
  asksOnly_of_silent fun _ _ _ h => (Step.run_change.mp h).1

theorem asksOnly_ofExcept (x : Except ActionError α) :
    AsksOnly P (Step.ofExcept x : Effect α) st :=
  asksOnly_of_silent fun _ _ _ h => (Step.run_ofExcept.mp h).1

/-- **What is put together** of steps asks only what they ask, the second one with what the
first comes to. -/
theorem asksOnly_bind_of_run {x : Effect α} {f : α → Effect β} (hx : AsksOnly P x st)
    (hf : ∀ es a st₁, x.Run st es (.ok a) st₁ → AsksOnly P (f a) st₁) :
    AsksOnly P (x >>= f) st := by
  intro es r st' h token req reply hmem
  rcases Step.run_bind.mp h with ⟨e, h₁, rfl⟩ | ⟨es₁, a, st₁, es₂, rfl, h₁, h₂⟩
  · exact hx _ _ _ h₁ _ _ _ hmem
  · rcases List.mem_append.mp hmem with hmem | hmem
    · exact hx _ _ _ h₁ _ _ _ hmem
    · exact hf _ _ _ h₁ _ _ _ h₂ _ _ _ hmem

/-- What is put together of steps asks only what they ask, whatever the first comes to. -/
theorem asksOnly_bind {x : Effect α} {f : α → Effect β} (hx : AsksOnly P x st)
    (hf : ∀ a st, AsksOnly P (f a) st) : AsksOnly P (x >>= f) st :=
  asksOnly_bind_of_run hx fun _ a st₁ _ => hf a st₁

/-- Behind a template, a step asks only what it asks with its text. -/
theorem asksOnly_expand {template : String} {k : String → Effect β}
    (h : AsksOnly P (k (st.draw template).1) (st.draw template).2) :
    AsksOnly P (Step.expand template >>= k) st :=
  h

theorem asksOnly_expandOption (template : Option String) :
    AsksOnly P (Step.expandOption template : Effect (Option String)) st := by
  cases template with
  | none => exact asksOnly_pure _
  | some t => exact asksOnly_expand (asksOnly_pure _)

theorem asksOnly_writeOption (name : Option String) (v : Value) :
    AsksOnly P (Step.writeOption name v : Effect Unit) st := by
  cases name with
  | none => exact asksOnly_pure _
  | some name => exact asksOnly_change _

/-- A request is only what is asked. -/
theorem asksOnly_askVault {r : VaultRequest} (h : P r) :
    AsksOnly P (Effect.askVault s r) st := by
  refine asksOnly_bind ?_ fun answer st => asksOnly_ofExcept _
  intro es res st' hask token req reply hmem
  obtain ⟨reply', rfl, -⟩ := Step.run_ask.mp hask
  cases List.mem_singleton.mp hmem
  exact h

/-- A question that is not for the vault asks nothing of it. -/
theorem asksOnly_ask {c : Call} (h : ∀ r, c ≠ .vault r) :
    AsksOnly P (Step.ask s c : Effect c.Answer) st := by
  intro es res st' hask token req reply hmem
  obtain ⟨reply', rfl, -⟩ := Step.run_ask.mp hask
  cases List.mem_singleton.mp hmem
  exact absurd rfl (h req)

end Parts

section Effects

variable {s : ChainSetting} {head : Head} {st : ChainState} {P : VaultRequest → Prop}

theorem asksOnly_createNumbered {path content : String} (hfind : ∀ p, P (.find p))
    (hcreate : ∀ p, P (.create p content)) (left n : Nat) (st : ChainState) :
    AsksOnly P (Effect.createNumbered s path content left n) st := by
  induction left generalizing n st with
  | zero => exact asksOnly_throw _
  | succ left ih =>
    refine asksOnly_bind (asksOnly_askVault (hfind _)) fun file st => ?_
    cases file with
    | none => exact asksOnly_askVault (hcreate _)
    | some _ => exact ih (n + 1) st

/-- **What creating a file asks of the vault.** -/
theorem asksOnly_createFile (spec : CreateFile) :
    AsksOnly ((Action.createFile head spec).Requests st) (Effect.createFile s spec) st := by
  have hfind : ∀ p, (Action.createFile head spec).Requests st (.find p) := fun p => ⟨_, rfl⟩
  have hcreate : ∀ p, (Action.createFile head spec).Requests st
      (.create p (spec.textIn st)) := fun p => rfl
  refine asksOnly_expand ?_
  split
  · exact asksOnly_throw_bind _ _
  refine asksOnly_expand (asksOnly_expand ?_)
  refine asksOnly_bind (asksOnly_askVault (hfind _)) fun file st' => ?_
  cases file with
  | none =>
    exact asksOnly_bind (asksOnly_askVault (hcreate _)) fun created _ =>
      asksOnly_writeOption _ _
  | some file =>
    refine asksOnly_bind ?_ fun created _ => asksOnly_writeOption _ _
    cases hconflict : spec.conflict with
    | skip => exact asksOnly_pure _
    | overwrite =>
      exact asksOnly_bind (asksOnly_askVault ⟨rfl, hconflict, rfl⟩) fun _ _ => asksOnly_pure _
    | rename => exact asksOnly_createNumbered hfind hcreate _ _ _

/-- A step that comes to edits which insert a text, and before that only reads. -/
structure MakesInsertion (P : VaultRequest → Prop) (position : Position) (text : String)
    (x : Effect Edit) (st : ChainState) : Prop where
  /-- It asks the vault only for what is allowed. -/
  asksOnly : AsksOnly P x st
  /-- Its edit inserts the text, at a place told in bytes only at the top. -/
  inserts : ∀ es edit st', x.Run st es (.ok edit) st' →
    edit.isInsertion = true ∧ edit.text = text ∧ (edit.isPlaced = true → position = .top)

/-- The edit that inserts a text where it is to go. -/
def insertionOf (s : ChainSetting) (spec : InsertText) (path file content : String) :
    Effect Edit :=
  match spec.position with
  | .top => Effect.topEdit s path content
  | .bottom => pure (.insertAtEnd content)
  | .afterHeading => Effect.headingEdit s spec.heading path file content

/-- What inserting a text does with the file that was found, or not. -/
def insertInto (s : ChainSetting) (spec : InsertText) (path content : String) :
    Option String → Effect Unit
  | none =>
    if spec.createIfMissing then Effect.askVault s (.create path content) >>= fun _ => pure ()
    else throw (.vault (.notFound path))
  | some file =>
    insertionOf s spec path file content >>= fun edit => Effect.askVault s (.write file edit)

/-- **Inserting a text** is to look for the file, and to go on by what was found. -/
theorem insertText_eq (spec : InsertText) :
    Effect.insertText s spec =
      Step.expand spec.filePath >>= fun filePath =>
        Step.expand spec.content >>= fun content =>
          Effect.askVault s (.find (NotePath.withExtension filePath)) >>= fun found =>
            insertInto s spec (NotePath.withExtension filePath) content found := by
  rw [Effect.insertText]
  refine bind_congr fun filePath => bind_congr fun content => bind_congr fun found => ?_
  cases found with
  | none => rfl
  | some file =>
    rw [insertInto, insertionOf]
    cases spec.position <;> rfl

/-- **Wherever a text is to go**, the edit inserts it. -/
theorem makesInsertion_insertionOf (s : ChainSetting) (spec : InsertText)
    (path file content : String) (st : ChainState)
    (hreading : ∀ r : VaultRequest, r.isReading = true → P r) :
    MakesInsertion P spec.position content (insertionOf s spec path file content) st := by
  rw [insertionOf]
  cases spec.position with
  | top =>
    refine ⟨asksOnly_bind (asksOnly_askVault (hreading _ rfl)) fun _ _ => asksOnly_pure _, ?_⟩
    intro es edit st' h
    rcases Step.run_bind.mp h with ⟨e, -, hr⟩ | ⟨_, known, _, _, -, -, h⟩
    · cases hr
    · obtain ⟨-, hr, -⟩ := Step.run_pure.mp h
      obtain rfl := Except.ok.inj hr
      exact ⟨rfl, rfl, fun _ => rfl⟩
  | bottom =>
    refine ⟨asksOnly_pure _, ?_⟩
    intro es edit st' h
    obtain ⟨-, hr, -⟩ := Step.run_pure.mp h
    obtain rfl := Except.ok.inj hr
    exact ⟨rfl, rfl, nofun⟩
  | afterHeading =>
    constructor
    · refine asksOnly_bind (asksOnly_expandOption _) fun wanted st => ?_
      split
      · exact asksOnly_throw _
      refine asksOnly_bind (asksOnly_askVault (hreading _ rfl)) fun text st => ?_
      split
      · exact asksOnly_throw_bind _ _
      · exact asksOnly_pure _
    · intro es edit st' h
      rcases Step.run_bind.mp h with ⟨e, -, hr⟩ | ⟨_, wanted, _, _, -, -, h⟩
      · cases hr
      split at h
      · obtain ⟨-, hr, -⟩ := Step.run_throw.mp h
        cases hr
      rcases Step.run_bind.mp h with ⟨e, -, hr⟩ | ⟨_, text, _, _, -, -, h⟩
      · cases hr
      split at h
      · obtain ⟨-, hr, -⟩ := Step.run_throw_bind.mp h
        cases hr
      · obtain ⟨-, hr, -⟩ := Step.run_pure.mp h
        obtain rfl := Except.ok.inj hr
        exact ⟨rfl, rfl, nofun⟩

/-- **What inserting a text asks of the vault.** -/
theorem asksOnly_insertText (spec : InsertText) :
    AsksOnly ((Action.insertText head spec).Requests st) (Effect.insertText s spec) st := by
  have hreading : ∀ r : VaultRequest, r.isReading = true →
      (Action.insertText head spec).Requests st r := by
    intro r hr
    cases r with
    | find | read | metadata => exact ⟨_, rfl⟩
    | write | create => cases hr
  have hcreate : ∀ p, (Action.insertText head spec).Requests st
      (.create p (spec.textIn st)) := fun p => rfl
  have hwrite : ∀ file edit, edit.isInsertion = true ∧ edit.text = spec.textIn st ∧
      (edit.isPlaced = true → spec.position = .top) →
      (Action.insertText head spec).Requests st (.write file edit) :=
    fun file edit h => ⟨congrArg some h.2.1.symm, h.1, h.2.2⟩
  rw [insertText_eq]
  refine asksOnly_expand (asksOnly_expand ?_)
  refine asksOnly_bind (asksOnly_askVault (hreading _ rfl)) fun found st₁ => ?_
  cases found with
  | none =>
    rw [insertInto]
    split
    · exact asksOnly_bind (asksOnly_askVault (hcreate _)) fun _ _ => asksOnly_pure _
    · exact asksOnly_throw _
  | some file =>
    have hedit :=
      makesInsertion_insertionOf s spec (spec.pathIn st) file (spec.textIn st) st₁ hreading
    refine asksOnly_bind_of_run hedit.asksOnly ?_
    intro es edit st₂ hrun
    have hrequest := hwrite file edit (hedit.inserts es edit st₂ hrun)
    exact asksOnly_askVault hrequest

/-- Where a step goes on to succeed, the request in front of it was granted. -/
theorem run_askVault_ok {α : Type} {r : VaultRequest} {k : r.Answer → Effect α}
    {st st' : ChainState} {es : List Event} {a : α}
    (h : (Effect.askVault s r >>= k).Run st es (.ok a) st') :
    ∃ (reply : Reply (.vault r)) (answer : r.Answer) (es' : List Event),
      es = .exchange s.token (.vault r) reply :: es' ∧ reply.answer = .ok answer ∧
        (k answer).Run (st.afterReply reply) es' (.ok a) st' := by
  rw [Effect.askVault, bind_assoc] at h
  obtain ⟨reply, es', rfl, hrest⟩ := Step.run_ask_bind.mp h
  rcases Step.run_ofExcept_bind.mp hrest with ⟨e, -, -, hr, -⟩ | ⟨answer, hanswer, hk⟩
  · cases hr
  · refine ⟨reply, answer, es', rfl, ?_, hk⟩
    cases hreply : reply.answer with
    | error e =>
      rw [hreply] at hanswer
      cases hanswer
    | ok answer' =>
      rw [hreply] at hanswer
      rw [Except.ok.inj hanswer]

/-- **An insertion that succeeds has left its text**: in a file that it has created, or in the
one that it has found. -/
theorem insertText_done {spec : InsertText} {st' : ChainState} {es : List Event}
    (h : (Effect.insertText s spec).Run st es (.ok ()) st') :
    (∃ (reply : Reply (.vault (.create (spec.pathIn st) (spec.textIn st)))) (file : String),
      .exchange s.token (.vault (.create (spec.pathIn st) (spec.textIn st))) reply ∈ es ∧
        reply.answer = .ok file) ∨
    ∃ (found : Reply (.vault (.find (spec.pathIn st)))) (file : String) (edit : Edit)
      (reply : Reply (.vault (.write file edit))),
      .exchange s.token (.vault (.find (spec.pathIn st))) found ∈ es ∧
        found.answer = .ok (some file) ∧
        .exchange s.token (.vault (.write file edit)) reply ∈ es ∧ reply.answer = .ok () ∧
        edit.isInsertion = true ∧ edit.text = spec.textIn st := by
  rw [insertText_eq] at h
  have h := Step.run_expand_bind.mp (Step.run_expand_bind.mp h)
  obtain ⟨found, file?, es', rfl, hfound, h⟩ := run_askVault_ok h
  cases file? with
  | none =>
    rw [insertInto] at h
    split at h
    · obtain ⟨reply, file, es'', rfl, hreply, -⟩ := run_askVault_ok h
      exact Or.inl ⟨reply, file, .tail _ (.head _), hreply⟩
    · obtain ⟨-, hr, -⟩ := Step.run_throw.mp h
      cases hr
  | some file =>
    rcases Step.run_bind.mp h with ⟨e, -, hr⟩ | ⟨es₁, edit, st₁, es₂, rfl, hedit, hwrite⟩
    · cases hr
    · have hinserts := (makesInsertion_insertionOf (P := fun _ => True) s spec _ file _ _
        fun _ _ => trivial).inserts _ _ _ hedit
      rw [← bind_pure (Effect.askVault s (.write file edit))] at hwrite
      obtain ⟨reply, answer, es₃, rfl, hreply, -⟩ := run_askVault_ok hwrite
      refine Or.inr ⟨found, file, edit, reply, .head _, hfound, .tail _ ?_, hreply, hinserts.1,
        hinserts.2.1⟩
      exact List.mem_append_right _ (.head _)

/-- **Actions of other sorts ask nothing of the vault.** -/
theorem asksOnly_others {a : Action} {x : Effect Unit} (h : Chain.plainEffect? s a = some x)
    (ha : a.textIn st = none) : AsksOnly P x st := by
  cases a with
  | createFile | insertText => cases ha
  | textTransform head spec =>
    obtain rfl := Option.some.inj h
    exact asksOnly_expand (asksOnly_change _)
  | ai head spec =>
    obtain rfl := Option.some.inj h
    refine asksOnly_expand (asksOnly_bind (asksOnly_expandOption _) fun systemPrompt st => ?_)
    refine asksOnly_bind ?_ fun text st => asksOnly_writeOption _ _
    exact asksOnly_bind (asksOnly_ask nofun) fun answer st => asksOnly_ofExcept _
  | collectData head spec =>
    obtain rfl := Option.some.inj h
    refine asksOnly_bind asksOnly_state fun st₁ st => ?_
    split
    · exact asksOnly_throw_bind _ _
    refine asksOnly_bind (asksOnly_drawing _) fun v st => ?_
    exact asksOnly_bind asksOnly_state fun st₂ st => asksOnly_change _
  | suggest head spec =>
    obtain rfl := Option.some.inj h
    refine asksOnly_bind (asksOnly_drawing _) fun options st => ?_
    refine asksOnly_bind (asksOnly_expandOption _) fun placeholder st => ?_
    refine asksOnly_bind ?_ fun choice st => asksOnly_change _
    exact asksOnly_bind (asksOnly_ask nofun) fun answer st => asksOnly_ofExcept _
  | generateForm head fields =>
    obtain rfl := Option.some.inj h
    refine asksOnly_bind ?_ fun answers st => asksOnly_change _
    exact asksOnly_bind (asksOnly_ask nofun) fun answer st => asksOnly_ofExcept _
  | button head path mode =>
    obtain rfl := Option.some.inj h
    rw [Effect.button]
    split
    · exact asksOnly_throw_bind _ _
    refine asksOnly_expand ?_
    exact asksOnly_bind (asksOnly_ask nofun) fun answer st => asksOnly_ofExcept _
  | _ => cases h

/-- **An effect asks of the vault only what its action may.** -/
theorem asksOnly_plainEffect {a : Action} {x : Effect Unit}
    (h : Chain.plainEffect? s a = some x) (st : ChainState) : AsksOnly (a.Requests st) x st := by
  cases a with
  | createFile head spec =>
    obtain rfl := Option.some.inj h
    exact asksOnly_createFile spec
  | insertText head spec =>
    obtain rfl := Option.some.inj h
    exact asksOnly_insertText spec
  | _ => exact asksOnly_others h rfl

end Effects

/-! ### Whose requests they are -/

/-- The action that an event attempts, with the state, if it does. -/
def Event.attempted? : Event → Option (Action × ChainState)
  | .remark (.attempt a _ st) => some (a, st)
  | _ => none

/-- **What was attempted last** among some events, or else before them. -/
def latestAttempt (before : Option (Action × ChainState)) (es : List Event) :
    Option (Action × ChainState) :=
  es.foldl (fun last e => e.attempted?.or last) before

/-- Whether an event is no request to the vault but one that an action may make that was
attempted last. -/
def Event.IsOwned (last : Option (Action × ChainState)) : Event → Prop
  | .exchange _ (.vault r) _ => ∃ a st, last = some (a, st) ∧ a.Requests st r
  | _ => True

/-- **Every request is that of the action attempted last**, among some events, or else before
them. -/
def RequestsOwned (last : Option (Action × ChainState)) : List Event → Prop
  | [] => True
  | e :: es => e.IsOwned last ∧ RequestsOwned (e.attempted?.or last) es

/-- Requests have their actions in one part of the events after another. -/
theorem owned_append {last : Option (Action × ChainState)} {es es' : List Event} :
    RequestsOwned last (es ++ es') ↔
      RequestsOwned last es ∧ RequestsOwned (latestAttempt last es) es' := by
  induction es generalizing last with
  | nil => simp [RequestsOwned, latestAttempt]
  | cons e es ih =>
    rw [List.cons_append, RequestsOwned, RequestsOwned, ih, and_assoc]
    rfl

/-- Where nothing is attempted, an action has made the requests that it may make. -/
theorem owned_of_requests {a : Action} {st : ChainState} {es : List Event}
    (hsilent : remarksOf es = [])
    (h : ∀ token r reply, .exchange token (.vault r) reply ∈ es → a.Requests st r) :
    RequestsOwned (some (a, st)) es := by
  induction es with
  | nil => trivial
  | cons e es ih =>
    cases e with
    | remark => cases hsilent
    | exchange token c reply =>
      refine ⟨?_, ih hsilent fun token r reply hmem => h token r reply (.tail _ hmem)⟩
      cases c with
      | vault r => exact ⟨a, st, rfl, h token r reply (.head _)⟩
      | _ => trivial

namespace Chain

/-- Decoding files in front asks nothing of the vault. -/
theorem owned_decoded {s : ChainSetting} {st st' : ChainState} {tests es : List Event}
    (htests : Decodes s st tests st') (h : ∀ last, RequestsOwned last es)
    (last : Option (Action × ChainState)) : RequestsOwned last (tests ++ es) := by
  induction htests generalizing last with
  | ended => exact h last
  | decoded reply _ ih => exact ⟨trivial, ih _⟩

/-- The same for an iteration, whose frame is given. -/
theorem owned_given {s : ChainSetting} {st st₁ st' : ChainState} {plan : LoopPlan} {index : Nat}
    {tests es : List Event} (htests : Decodes s st tests st') (h : ∀ last, RequestsOwned last es)
    (last : Option (Action × ChainState)) :
    RequestsOwned last (tests ++ .remark (.iteration plan index st₁) :: es) :=
  have hbody (last : Option (Action × ChainState)) :
      RequestsOwned last (.remark (.iteration plan index st₁) :: es) := ⟨trivial, h _⟩
  owned_decoded htests hbody last

/-- **Every request of a task is that of the action attempted last.** An effect counts on its
action having been attempted before, in the state that the effect starts in. -/
def Task.Owned (st : ChainState) (es : List Event) : Task → Prop
  | .effect _ _ a => RequestsOwned (some (a, st)) es
  | _ => ∀ last, RequestsOwned last es

/-- **Every request is that of the action attempted last**: by induction on the rules. -/
theorem Happens.owned {s : ChainSetting} {t : Task} {st st' : ChainState} {es : List Event}
    {r : Except Failure Flow} (h : Happens s t st es r st') : t.Owned st es := by
  induction h with
  | tooDeep => exact fun _ => trivial
  | listEnded => exact fun _ => trivial
  | listCalledOff => exact fun _ => ⟨trivial, trivial⟩
  | passedOver _ _ hw _ ih => exact fun last => ⟨trivial, trivial, owned_decoded hw.decodes ih _⟩
  | listLeft _ _ hw _ _ ih => exact fun last => ⟨trivial, trivial, owned_decoded hw.decodes ih _⟩
  | listWentOn _ _ hw _ _ ih₁ ih₂ =>
    exact fun last => ⟨trivial, trivial,
      owned_decoded hw.decodes (fun _ => owned_append.mpr ⟨ih₁ _, ih₂ _⟩) _⟩
  | attemptCalledOff _ _ _ ih =>
    exact fun last => ⟨trivial, owned_append.mpr ⟨ih, trivial, trivial⟩⟩
  | attemptSettled _ _ _ _ ih =>
    exact fun last => ⟨trivial, owned_append.mpr ⟨ih, trivial, trivial⟩⟩
  | delayCalledOff _ _ _ _ _ _ ih =>
    exact fun last => ⟨trivial, owned_append.mpr ⟨ih, trivial, trivial, trivial⟩⟩
  | triedAgain _ _ _ _ _ _ _ ih₁ ih₂ =>
    exact fun last => ⟨trivial, owned_append.mpr ⟨ih₁, trivial, trivial, ih₂ _⟩⟩
  | plainDone hp hx =>
    exact owned_of_requests (conducts_plainEffect hp _ _ _ _ hx).remarksOf_eq
      (asksOnly_plainEffect hp _ _ _ _ hx)
  | plainFailed hp hx =>
    exact owned_of_requests (conducts_plainEffect hp _ _ _ _ hx).remarksOf_eq
      (asksOnly_plainEffect hp _ _ _ _ hx)
  | proceeded => trivial
  | broke => trivial
  | waited => exact ⟨trivial, trivial⟩
  | groupUnknown => trivial
  | grouped _ _ ih => exact ih _
  | loopMisused => trivial
  | looped _ _ _ ih => exact ih _
  | loopSpent => exact fun _ => trivial
  | loopCalledOff => exact fun _ => ⟨trivial, trivial⟩
  | loopTestFailed look _ _ hn =>
    intro last
    have hnone (last : Option (Action × ChainState)) : RequestsOwned last [] := trivial
    have htests := owned_decoded hn.decodes hnone ((looked s look).attempted?.or last)
    rw [List.append_nil] at htests
    exact ⟨trivial, htests⟩
  | bodyFailed _ _ _ hn _ ih =>
    exact fun last => ⟨trivial, owned_given hn.decodes ih _⟩
  | bodyLeft _ _ _ hn _ ih =>
    exact fun last => ⟨trivial, owned_given hn.decodes ih _⟩
  | bodyWentOn _ _ _ hn _ _ ih₁ ih₂ =>
    exact fun last => ⟨trivial, owned_given hn.decodes
      (fun _ => owned_append.mpr ⟨ih₁ _, ih₂ _⟩) _⟩

end Chain

/-- What was attempted last was attempted among the events, or else before them. -/
theorem attempt_mem_of_latest {last : Option (Action × ChainState)} {es : List Event} {a : Action}
    {st : ChainState} (h : latestAttempt last es = some (a, st)) :
    (∃ n, .remark (.attempt a n st) ∈ es) ∨ last = some (a, st) := by
  induction es generalizing last with
  | nil => exact Or.inr h
  | cons e es ih =>
    rcases ih h with ⟨n, hn⟩ | hlast
    · exact Or.inl ⟨n, .tail _ hn⟩
    · rcases Option.or_eq_some_iff.mp hlast with hthis | ⟨-, hbefore⟩
      · unfold Event.attempted? at hthis
        split at hthis
        · obtain ⟨rfl, rfl⟩ := Prod.mk.inj (Option.some.inj hthis)
          exact Or.inl ⟨_, .head _⟩
        · cases hthis
      · exact Or.inr hbefore

namespace Chain

/-- **Every request in the chain of a form** belongs to the action that was attempted last before
it, which is one that the check of the form visits. -/
theorem request_of_attempt {s : ChainSetting} {st : ChainState} {pre post : List Event}
    {token : Token} {r : VaultRequest} {reply : Reply (.vault r)} {x : Outcome × ChainState}
    (h : (execute s s.form.actions st).Run
      (pre ++ .exchange token (.vault r) reply :: post) x) :
    ∃ a st₁, latestAttempt none pre = some (a, st₁) ∧ a.Requests st₁ r ∧
      ∃ inLoop, ⟨a, inLoop⟩ ∈ s.form.visits := by
  obtain ⟨es, result, st', hes, hrun, -⟩ := run_execute h
  have howned : RequestsOwned none (pre ++ .exchange token (.vault r) reply :: post) := by
    rw [hes]
    exact ⟨trivial, (happens_of_run hrun).owned none⟩
  obtain ⟨a, st₁, hlatest, hrequest⟩ := (owned_append.mp howned).2.1
  obtain ⟨n, hn⟩ : ∃ n, .remark (.attempt a n st₁) ∈ pre :=
    (attempt_mem_of_latest hlatest).resolve_right nofun
  have hmem : .remark (.attempt a n st₁) ∈ Event.remark (.entered s.form s.token s.session) :: es :=
    hes ▸ List.mem_append_left _ hn
  exact ⟨a, st₁, hlatest, hrequest, visited_of_attempt hrun (by simpa using hmem)⟩

end Chain

end FormChain
