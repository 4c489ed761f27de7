import FormChain.Proofs.Chain.Adequacy
import FormChain.Proofs.Chain.Context

/-!
# What a failure leaves behind

An effect reads first and changes something last: it expands its templates, asks what it
has to know, and only then makes its one change, to the vault or to the state; behind a
change in the vault nothing can fail any more. So an effect that fails has done nothing.

For the parts of effects this makes two kinds. A part that only *reads*
(`FormChain.Reads`) leaves the context and the vault as they are, whatever it comes to; a
part that is *tidy* (`FormChain.Tidy`) does so where it fails. A tidy part may follow upon a
part that reads, and upon a tidy part may follow what never fails.

Along with it goes what a failure can be: a failure by misuse is either handed in by a reply
or one that an action of this kind raises itself (`FormChain.Action.raises`).

Main statement: a failed attempt leaves no trace. An action that is skipped ends where it has
started, and one that succeeds in some later attempt has gone exactly as if that attempt had
been its first (`FormChain.Chain.failure_leaves_no_trace`).
-/

namespace FormChain

/-! ### Whose failure it is -/

/-- The failure that an answer hands in. -/
def Call.failure? : (c : Call) → c.Answer → Option ActionError
  | .vault _, r => (failureOf r).map .vault
  | .ai _, r => failureOf r
  | .suggest .., r => failureOf r
  | .collect _, r => failureOf r
  | .openForm .., r => failureOf r
  | .launch .., r => failureOf r
  | _, _ => none

/-- The failure that a reply hands in. -/
def Event.failure? : Event → Option ActionError
  | .remark _ => none
  | .exchange _ c reply => c.failure? reply.answer

/-- **The failures that are handed in** by replies. -/
def handedIn (es : List Event) : List ActionError :=
  es.filterMap (·.failure?)

@[simp] theorem handedIn_append (es es' : List Event) :
    handedIn (es ++ es') = handedIn es ++ handedIn es' := by
  simp [handedIn]

/-- **The misuses that an action raises itself**, by its kind. -/
def Action.raises : Action → Misuse → Bool
  | .createFile .., .emptyFileName | .createFile .., .noFreeName _ => true
  | .insertText .., .headingNeeded | .insertText .., .headingNotFound .. => true
  | .collectData .., .outsideLoop => true
  | .button .., .noLauncher => true
  | .group .., .unknownGroup _ => true
  | .loop .., .sourceNeeded _ | .loop .., .emptyPages | .loop .., .rangeNeeded
  | .loop .., .zeroStep | .loop .., .conditionNeeded => true
  | _, _ => false

/-- A failure is **accounted for** where it is no misuse, a misuse of one's own, or handed in
by a reply. -/
def Accounted (own : Misuse → Bool) (es : List Event) (e : ActionError) : Prop :=
  ∀ m, e = .misuse m → own m = true ∨ e ∈ handedIn es

section Accounted

variable {own : Misuse → Bool} {es es' : List Event} {e : ActionError}

theorem Accounted.before (h : Accounted own es' e) : Accounted own (es ++ es') e := by
  intro m hm
  refine (h m hm).imp_right fun hmem => ?_
  rw [handedIn_append]
  exact List.mem_append_right _ hmem

theorem accounted_vault {f : VaultError} : Accounted own es (.vault f) := nofun

theorem accounted_of_raises {m : Misuse} (h : own m = true) : Accounted own es (.misuse m) := by
  intro m' hm
  obtain rfl := ActionError.misuse.inj hm
  exact Or.inl h

end Accounted

/-! ### Leaving everything as it was -/

/-- **Between two states nothing has changed** but for the token, the time and the seed: the
context is the same, and so is every vault. -/
structure Untouched (st : ChainState) (es : List Event) (st' : ChainState) : Prop where
  /-- The context is the same. -/
  context : st'.context = st.context
  /-- The vault is the same. -/
  vault : ∀ m : MemoryVault, m.behind es = m

theorem Untouched.refl (st : ChainState) : Untouched st [] st := ⟨rfl, fun _ => rfl⟩

theorem Untouched.trans {st st₁ st' : ChainState} {es es' : List Event}
    (h : Untouched st es st₁) (h' : Untouched st₁ es' st') : Untouched st (es ++ es') st' where
  context := h'.context.trans h.context
  vault m := by rw [MemoryVault.behind_append, h.vault, h'.vault]

/-- A remark changes nothing. -/
theorem Untouched.remark {r : Remark} {st st' : ChainState} {es : List Event}
    (h : Untouched st es st') : Untouched st (.remark r :: es) st' :=
  ⟨h.context, h.vault⟩

/-- A look at the token changes nothing. -/
theorem untouched_look {token : Token} (st : ChainState) (look : Reply .look) :
    Untouched st [.exchange token .look look] (st.afterReply look) :=
  ⟨rfl, fun _ => rfl⟩

/-- A delay changes nothing. -/
theorem untouched_sleep (token : Token) {duration : Nat} (st : ChainState)
    (reply : Reply (.sleep duration)) :
    Untouched st [.exchange token (.sleep duration) reply] (st.afterReply reply) :=
  ⟨rfl, fun _ => rfl⟩

/-- A part of an effect that **only reads**. -/
def Reads {α : Type} (own : Misuse → Bool) (x : Effect α) : Prop :=
  ∀ st es r st', x.Run st es r st' →
    Untouched st es st' ∧ ∀ e, r = .error e → Accounted own es e

/-- A part of an effect that changes nothing **where it fails**. -/
def Tidy {α : Type} (own : Misuse → Bool) (x : Effect α) : Prop :=
  ∀ st es e st', x.Run st es (.error e) st' → Untouched st es st' ∧ Accounted own es e

/-- A part of an effect that **never fails**. -/
def Sure {α : Type} (x : Effect α) : Prop :=
  ∀ st es e st', ¬x.Run st es (.error e) st'

section Parts

variable {own : Misuse → Bool} {s : ChainSetting} {α β : Type}

/-! ### Putting parts together -/

theorem Reads.tidy {x : Effect α} (hx : Reads own x) : Tidy own x := by
  intro st es e st' h
  obtain ⟨hu, he⟩ := hx _ _ _ _ h
  exact ⟨hu, he e rfl⟩

theorem Sure.tidy {x : Effect α} (hx : Sure x) : Tidy own x :=
  fun _ _ _ _ h => absurd h (hx _ _ _ _)

/-- **Reading on.** -/
theorem Reads.bind {x : Effect α} {f : α → Effect β} (hx : Reads own x)
    (hf : ∀ a, Reads own (f a)) : Reads own (x >>= f) := by
  intro st es r st' h
  rcases Step.run_bind.mp h with ⟨e, h₁, rfl⟩ | ⟨es₁, a, st₁, es₂, rfl, h₁, h₂⟩
  · obtain ⟨hu, he⟩ := hx _ _ _ _ h₁
    exact ⟨hu, fun e' h' => he e' (congrArg _ (Except.error.inj h'))⟩
  · obtain ⟨hu, he⟩ := hf a _ _ _ _ h₂
    exact ⟨(hx _ _ _ _ h₁).1.trans hu, fun e h' => (he e h').before⟩

/-- **A change upon what was read.** -/
theorem Reads.bindTidy {x : Effect α} {f : α → Effect β} (hx : Reads own x)
    (hf : ∀ a, Tidy own (f a)) : Tidy own (x >>= f) := by
  intro st es e st' h
  rcases Step.run_bind.mp h with ⟨e', h₁, h'⟩ | ⟨es₁, a, st₁, es₂, rfl, h₁, h₂⟩
  · obtain rfl := Except.error.inj h'
    exact hx.tidy _ _ _ _ h₁
  · obtain ⟨hu, he⟩ := hf a _ _ _ _ h₂
    exact ⟨(hx _ _ _ _ h₁).1.trans hu, he.before⟩

/-- **Upon a change nothing fails.** -/
theorem Tidy.bind {x : Effect α} {f : α → Effect β} (hx : Tidy own x) (hf : ∀ a, Sure (f a)) :
    Tidy own (x >>= f) := by
  intro st es e st' h
  rcases Step.run_bind.mp h with ⟨e', h₁, h'⟩ | ⟨es₁, a, st₁, es₂, rfl, h₁, h₂⟩
  · obtain rfl := Except.error.inj h'
    exact hx _ _ _ _ h₁
  · exact absurd h₂ (hf a _ _ _ _)

/-! ### The parts of effects -/

theorem reads_pure (a : α) : Reads own (pure a : Effect α) := by
  intro st es r st' h
  obtain ⟨rfl, rfl, rfl⟩ := Step.run_pure.mp h
  exact ⟨.refl _, nofun⟩

theorem reads_throw {e : ActionError} (he : Accounted own [] e) :
    Reads own (throw e : Effect α) := by
  intro st es r st' h
  obtain ⟨rfl, rfl, rfl⟩ := Step.run_throw.mp h
  exact ⟨.refl _, fun e' h' => Except.error.inj h' ▸ he⟩

theorem reads_state : Reads own (Step.state : Effect ChainState) := by
  intro st es r st' h
  obtain ⟨rfl, rfl, rfl⟩ := Step.run_state.mp h
  exact ⟨.refl _, nofun⟩

theorem reads_drawing (g : Environment → StateM Nat α) :
    Reads own (Step.drawing g : Effect α) := by
  intro st es r st' h
  obtain ⟨rfl, rfl, rfl⟩ := Step.run_drawing.mp h
  exact ⟨⟨rfl, fun _ => rfl⟩, nofun⟩

theorem reads_expand (t : String) : Reads own (Step.expand t : Effect String) :=
  reads_drawing _

theorem reads_expandOption :
    (t : Option String) → Reads own (Step.expandOption t : Effect (Option String))
  | none => reads_pure none
  | some t => (reads_expand t).bind fun r => reads_pure (some r)

theorem sure_pure (a : α) : Sure (pure a : Effect α) := by
  intro st es e st' h
  exact absurd (Step.run_pure.mp h).2.1 nofun

theorem sure_change (g : ChainState → ChainState) : Sure (Step.change g : Effect Unit) := by
  intro st es e st' h
  exact absurd (Step.run_change.mp h).2.1 nofun

theorem sure_writeOption :
    (name : Option String) → (v : Value) → Sure (Step.writeOption name v : Effect Unit)
  | none, _ => sure_pure ()
  | some _, _ => sure_change _

/-- **A question**, where what is made of the answer fails only as the answer does, or as
dismissed, and the vault is not changed by such an answer. -/
theorem tidy_ask {c : Call} {g : c.Answer → Except ActionError β}
    (hg : ∀ a e, g a = .error e → e = .dismissed ∨ c.failure? a = some e)
    (hv : ∀ (m : MemoryVault) (reply : Reply c) (e : ActionError),
      g reply.answer = .error e → m.after (.exchange s.token c reply) = m) :
    Tidy own ((Step.ask s c : Effect c.Answer) >>= fun a => Step.ofExcept (g a)) := by
  intro st es e st' h
  obtain ⟨reply, es', rfl, h'⟩ := Step.run_ask_bind.mp h
  obtain ⟨rfl, he, rfl⟩ := Step.run_ofExcept.mp h'
  refine ⟨⟨rfl, fun m => hv m reply e he.symm⟩, fun m hm => ?_⟩
  rcases hg _ e he.symm with rfl | hfailure
  · cases hm
  · exact Or.inr (List.mem_filterMap.mpr ⟨_, List.mem_singleton_self _, hfailure⟩)

/-- A question that no vault is changed by. -/
theorem reads_ask {c : Call} {g : c.Answer → Except ActionError β}
    (hg : ∀ a e, g a = .error e → e = .dismissed ∨ c.failure? a = some e)
    (hv : ∀ (m : MemoryVault) (reply : Reply c), m.after (.exchange s.token c reply) = m) :
    Reads own ((Step.ask s c : Effect c.Answer) >>= fun a => Step.ofExcept (g a)) := by
  intro st es r st' h
  refine ⟨?_, fun e he => (tidy_ask hg (fun m reply _ _ => hv m reply) _ _ _ _ (he ▸ h)).2⟩
  obtain ⟨reply, es', rfl, h'⟩ := Step.run_ask_bind.mp h
  obtain ⟨rfl, -, rfl⟩ := Step.run_ofExcept.mp h'
  exact ⟨rfl, fun m => hv m reply⟩

theorem failure?_vault {r : VaultRequest} (a : r.Result) (e : ActionError)
    (h : Except.mapError ActionError.vault a = .error e) :
    e = .dismissed ∨ (Call.vault r).failure? a = some e := by
  cases a with
  | ok => cases h
  | error f => exact Or.inr (congrArg some (Except.error.inj h))

theorem failure?_given {γ : Type} (a : Except ActionError (Option γ)) (e : ActionError)
    (h : Effect.given a = .error e) : e = .dismissed ∨ failureOf a = some e := by
  rcases a with f | _ | a
  · exact Or.inr (congrArg some (Except.error.inj h))
  · exact Or.inl (Except.error.inj h).symm
  · cases h

theorem reads_askOrFail_ai (r : AiRequest) :
    Reads own (Effect.askOrFail (Step.ask s (.ai r))) :=
  reads_ask (fun _ _ h => Or.inr (congrArg failureOf h)) fun _ _ => rfl

theorem reads_askOrFail_launch (path : String) (mode : ButtonMode) :
    Reads own (Effect.askOrFail (Step.ask s (.launch path mode s.session))) :=
  reads_ask (fun _ _ h => Or.inr (congrArg failureOf h)) fun _ _ => rfl

theorem reads_askUser_suggest (placeholder : Option String) (options : List Value) :
    Reads own (Effect.askUser (Step.ask s (.suggest placeholder options))) :=
  reads_ask failure?_given fun _ _ => rfl

theorem reads_askUser_collect (fields : List Field) :
    Reads own (Effect.askUser (Step.ask s (.collect fields))) :=
  reads_ask failure?_given fun _ _ => rfl

theorem tidy_askVault (r : VaultRequest) : Tidy own (Effect.askVault s r) :=
  tidy_ask failure?_vault fun m reply e h => by
    obtain ⟨f, hf⟩ : ∃ f, reply.answer = .error f := by
      cases ha : reply.answer with
      | ok a =>
        rw [ha] at h
        cases h
      | error f => exact ⟨f, rfl⟩
    exact MemoryVault.after_of_refused hf

theorem reads_askVault {r : VaultRequest} (hr : r.isReading = true) :
    Reads own (Effect.askVault s r) :=
  reads_ask failure?_vault fun _ reply => MemoryVault.after_of_isReading hr reply

end Parts

/-! ### The effects -/

section Effects

variable {s : ChainSetting} {own : Misuse → Bool}

theorem tidy_createNumbered (path content : String) (hown : own (.noFreeName path) = true) :
    (left n : Nat) → Tidy own (Effect.createNumbered s path content left n)
  | 0, _ => (reads_throw (accounted_of_raises hown)).tidy
  | left + 1, n => by
    refine (reads_askVault rfl).bindTidy fun file => ?_
    cases file with
    | none => exact tidy_askVault _
    | some _ => exact tidy_createNumbered path content hown left (n + 1)

theorem tidy_settleConflict (conflict : Conflict) (path file content : String)
    (hown : own (.noFreeName path) = true) :
    Tidy own (Effect.settleConflict s conflict path file content) := by
  cases conflict with
  | skip => exact (sure_pure file).tidy
  | overwrite => exact (tidy_askVault _).bind fun _ => sure_pure file
  | rename => exact tidy_createNumbered path content hown Effect.maxNumber 1

theorem tidy_createFile (head : Head) (a : CreateFile) :
    Tidy (Action.createFile head a).raises (Effect.createFile s a) := by
  refine (reads_expand _).bindTidy fun name => ?_
  split
  · exact (reads_throw (accounted_of_raises rfl)).tidy
  refine (reads_expand _).bindTidy fun folder => ?_
  refine (reads_expand _).bindTidy fun content => ?_
  refine (reads_askVault rfl).bindTidy fun file => ?_
  cases file with
  | none => exact (tidy_askVault _).bind fun created => sure_writeOption _ _
  | some file => exact (tidy_settleConflict _ _ _ _ rfl).bind fun created => sure_writeOption _ _

theorem reads_headingEdit (head : Head) (a : InsertText) (path file content : String) :
    Reads (Action.insertText head a).raises
      (Effect.headingEdit s a.heading path file content) := by
  refine (reads_expandOption _).bind fun wanted => ?_
  split
  · exact reads_throw (accounted_of_raises rfl)
  refine (reads_askVault rfl).bind fun text => ?_
  split
  · exact reads_throw (accounted_of_raises rfl)
  · exact reads_pure _

theorem tidy_insertText (head : Head) (a : InsertText) :
    Tidy (Action.insertText head a).raises (Effect.insertText s a) := by
  refine (reads_expand _).bindTidy fun path => ?_
  refine (reads_expand _).bindTidy fun content => ?_
  refine (reads_askVault rfl).bindTidy fun file => ?_
  cases file with
  | none =>
    change Tidy _ (if a.createIfMissing = true then _ else _)
    split
    · exact (tidy_askVault _).bind fun _ => sure_pure ()
    · exact (reads_throw accounted_vault).tidy
  | some file =>
    -- where to insert is found out by reading, and the file is written last
    cases a.position with
    | top =>
      refine Reads.bindTidy ?_ fun edit => tidy_askVault _
      exact (reads_askVault rfl).bind fun known => reads_pure _
    | bottom => exact (reads_pure _).bindTidy fun edit => tidy_askVault _
    | afterHeading => exact (reads_headingEdit head a _ _ _).bindTidy fun edit => tidy_askVault _

theorem tidy_textTransform (a : TextTransform) : Tidy own (Effect.textTransform a) :=
  (reads_expand _).bindTidy fun _ => (sure_change _).tidy

theorem tidy_collectData (head : Head) (a : Collect) :
    Tidy (Action.collectData head a).raises (Effect.collectData a) := by
  refine reads_state.bindTidy fun st => ?_
  split
  · exact (reads_throw (accounted_of_raises rfl)).tidy
  refine (reads_drawing _).bindTidy fun v => ?_
  exact reads_state.bindTidy fun st => (sure_change _).tidy

theorem tidy_ai (a : Prompt) : Tidy own (Effect.ai s a) := by
  refine (reads_expand _).bindTidy fun prompt => ?_
  refine (reads_expandOption _).bindTidy fun systemPrompt => ?_
  exact (reads_askOrFail_ai _).bindTidy fun text => (sure_writeOption _ _).tidy

theorem tidy_suggest (a : Suggest) : Tidy own (Effect.suggest s a) := by
  refine (reads_drawing _).bindTidy fun options => ?_
  refine (reads_expandOption _).bindTidy fun placeholder => ?_
  exact (reads_askUser_suggest _ _).bindTidy fun choice => (sure_change _).tidy

theorem tidy_generateForm (fields : List Field) : Tidy own (Effect.generateForm s fields) :=
  (reads_askUser_collect fields).bindTidy fun _ => (sure_change _).tidy

theorem tidy_button (head : Head) (path : String) (mode : ButtonMode) :
    Tidy (Action.button head path mode).raises (Effect.button s path mode) := by
  unfold Effect.button
  split
  · exact (reads_throw (accounted_of_raises rfl)).tidy
  · exact (reads_expand _).bindTidy fun _ => (reads_askOrFail_launch _ _).tidy

/-- **An effect that fails changes nothing itself**, and its failure is accounted for. -/
theorem tidy_plainEffect {a : Action} {x : Effect Unit}
    (h : Chain.plainEffect? s a = some x) : Tidy a.raises x := by
  cases a with
  | createFile head a => exact Option.some.inj h ▸ tidy_createFile head a
  | insertText head a => exact Option.some.inj h ▸ tidy_insertText head a
  | textTransform head a => exact Option.some.inj h ▸ tidy_textTransform a
  | ai head a => exact Option.some.inj h ▸ tidy_ai a
  | collectData head a => exact Option.some.inj h ▸ tidy_collectData head a
  | suggest head a => exact Option.some.inj h ▸ tidy_suggest a
  | generateForm head fields => exact Option.some.inj h ▸ tidy_generateForm fields
  | button head path mode => exact Option.some.inj h ▸ tidy_button head path mode
  | _ => cases h

end Effects

/-! ### Attempts -/

/-- Whether an action **works by itself**: it works on the context and the vault, and neither
holds other actions nor launches a form that does. -/
def Action.worksAlone : Action → Bool
  | .createFile .. | .insertText .. | .textTransform .. | .ai .. | .collectData .. | .suggest ..
  | .generateForm .. => true
  | _ => false

/-- Between these events no attempt starts. -/
def NoAttempt (es : List Event) : Prop :=
  ∀ e ∈ es, e.startsAttempt = false

theorem noAttempt_nil : NoAttempt [] := List.forall_mem_nil _

theorem NoAttempt.append {es es' : List Event} (h : NoAttempt es) (h' : NoAttempt es') :
    NoAttempt (es ++ es') :=
  fun e he => (List.mem_append.mp he).elim (h e) (h' e)

theorem noAttempt_exchange {token : Token} {c : Call} {reply : Reply c} {es : List Event}
    (h : NoAttempt es) : NoAttempt (.exchange token c reply :: es) :=
  List.forall_mem_cons.mpr ⟨rfl, h⟩

namespace Chain

section Attempts

variable {s : ChainSetting} {runList : ListRunner} {strategy : Recovery} {a : Action}
  {act : Step Failure Flow} {left before : Nat} {st st' : ChainState} {es : List Event}

/-- **The effect of an action that works by itself**: where it fails, nothing has changed,
and no attempt starts in it. -/
theorem run_effect_of_worksAlone (ha : a.worksAlone = true) {r : Except Failure Flow}
    (h : (effect s runList strategy a).Run st es r st') :
    NoAttempt es ∧ ∀ e, r = .error e → Untouched st es st' := by
  obtain ⟨x, hx, heffect⟩ : ∃ x, plainEffect? s a = some x ∧
      effect s runList strategy a = plainly x := by
    cases a with
    | createFile | insertText | textTransform | ai | collectData | suggest | generateForm =>
      exact ⟨_, rfl, rfl⟩
    | _ => cases ha
  rw [heffect, plainly] at h
  obtain ⟨r₁, rfl, hmap⟩ := Step.run_bind_pure.mp h
  obtain ⟨r₂, rfl, hrun⟩ := Step.run_mapError.mp hmap
  constructor
  · intro e he
    obtain ⟨c, reply, rfl, -⟩ := (conducts_plainEffect hx _ _ _ _ hrun).exchange_of_mem he
    rfl
  · intro e he
    cases r₂ with
    | ok => cases he
    | error f => exact (tidy_plainEffect hx _ _ _ _ hrun).1

/-- **An attempt** is its effect, a look at the token, and what is made of it. -/
theorem run_attempts {r : Except ChainError Flow} :
    (attempts s strategy a act left before).Run st es r st' ↔
      ∃ es₁ r₁ st₁ look es₂,
        es = .remark (.attempt a before st) :: (es₁ ++ looked s look :: es₂) ∧
        act.Run st es₁ r₁ st₁ ∧
        (((st₁.afterReply look).cancelled = true ∧ es₂ = [] ∧ r = .error .cancelled ∧
            st' = st₁.afterReply look) ∨
          ((st₁.afterReply look).cancelled = false ∧
            (settle strategy a (match left with
              | 0 => none
              | left + 1 => some do
                sleep s (delayOf s.config strategy)
                attempts s strategy a act left (before + 1)) r₁).Run
              (st₁.afterReply look) es₂ r st')) := by
  rw [attempts.eq_def]
  simp only [Step.run_remark_bind, Step.run_outcome_bind, guards_checkToken.run_bind]
  constructor
  · rintro ⟨_, rfl, es₁, r₁, st₁, _, rfl, hact, look, ⟨hc, rfl, rfl, rfl⟩ | ⟨hc, es₂, rfl, hk⟩⟩
    · exact ⟨es₁, r₁, st₁, look, [], rfl, hact, Or.inl ⟨hc, rfl, rfl, rfl⟩⟩
    · exact ⟨es₁, r₁, st₁, look, es₂, rfl, hact, Or.inr ⟨hc, hk⟩⟩
  · rintro ⟨es₁, r₁, st₁, look, es₂, rfl, hact, ⟨hc, rfl, rfl, rfl⟩ | ⟨hc, hk⟩⟩
    · exact ⟨_, rfl, es₁, r₁, st₁, _, rfl, hact, look, Or.inl ⟨hc, rfl, rfl, rfl⟩⟩
    · exact ⟨_, rfl, es₁, r₁, st₁, _, rfl, hact, look, Or.inr ⟨hc, es₂, rfl, hk⟩⟩

/-- **An attempt that succeeds** ends the attempts, however many of them are left and went
before it. -/
theorem run_attempts_of_ok {flow : Flow} {st₁ : ChainState} {look : Reply .look}
    {es₁ es₂ : List Event} {r : Except ChainError Flow}
    (hact : act.Run st es₁ (.ok flow) st₁)
    (h : ((st₁.afterReply look).cancelled = true ∧ es₂ = [] ∧ r = .error .cancelled ∧
        st' = st₁.afterReply look) ∨
      ((st₁.afterReply look).cancelled = false ∧
        (pure flow : Step ChainError Flow).Run (st₁.afterReply look) es₂ r st')) :
    es₂ = [] ∧ ∀ left before, (attempts s strategy a act left before).Run st
      (.remark (.attempt a before st) :: (es₁ ++ looked s look :: es₂)) r st' := by
  refine ⟨?_, fun left before => run_attempts.mpr ⟨es₁, _, st₁, look, es₂, rfl, hact, h⟩⟩
  rcases h with ⟨-, rfl, -, -⟩ | ⟨-, hk⟩
  · rfl
  · exact (Step.run_pure.mp hk).1

/-- An action that has failed and goes on is skipped. -/
theorem eq_skip_of_verdict {e : Failure} {flow : Flow}
    (h : verdict strategy left a (.error e) = some (.ok flow)) : strategy = .skip := by
  rcases e with e | e
  · cases e <;> cases strategy <;> cases left <;> first | rfl | cases h
  · cases h

/-- **The last attempt**: in front of it nothing has changed. Where it fails, nothing has
changed at all; where it succeeds, it does not matter how many attempts went before it. -/
theorem exists_lastAttempt
    (hact : ∀ {st es r st'}, act.Run st es r st' →
      NoAttempt es ∧ ∀ e, r = .error e → Untouched st es st')
    {r : Except ChainError Flow} (h : (attempts s strategy a act left before).Run st es r st') :
    ∃ earlier n st₁ es₁ r₁ st₂ rest,
      es = earlier ++ .remark (.attempt a n st₁) :: (es₁ ++ rest) ∧ NoAttempt (es₁ ++ rest) ∧
      Untouched st earlier st₁ ∧ act.Run st₁ es₁ r₁ st₂ ∧
      match r₁ with
      | .ok _ => ∀ left' before', (attempts s strategy a act left' before').Run st₁
          (.remark (.attempt a before' st₁) :: (es₁ ++ rest)) r st'
      | .error _ => Untouched st es st' ∧ ∀ flow, r = .ok flow → strategy = .skip := by
  induction left using Nat.strongRecOn generalizing before st es with
  | ind left ih =>
    obtain ⟨es₁, r₁, st₁, look, es₂, rfl, hrun, hrest⟩ := run_attempts.mp h
    obtain ⟨hquiet, hfail⟩ := hact hrun
    have hlook : NoAttempt [looked s look] := noAttempt_exchange noAttempt_nil
    cases r₁ with
    | ok flow =>
      obtain ⟨rfl, hagain⟩ := run_attempts_of_ok hrun hrest
      exact ⟨[], before, st, es₁, _, st₁, [looked s look], rfl, hquiet.append hlook, .refl st,
        hrun, hagain⟩
    | error e =>
      have hsame : Untouched st (.remark (.attempt a before st) :: (es₁ ++ [looked s look]))
          (st₁.afterReply look) :=
        ((hfail e rfl).trans (untouched_look st₁ look)).remark
      rcases hrest with ⟨-, rfl, rfl, rfl⟩ | ⟨-, hk⟩
      · exact ⟨[], before, st, es₁, _, st₁, [looked s look], rfl, hquiet.append hlook, .refl st,
          hrun, hsame, nofun⟩
      rcases run_settle hk with ⟨r', hv, rfl, hr, rfl⟩ | ⟨left', rfl, -, hagain⟩
      · refine ⟨[], before, st, es₁, _, st₁, [looked s look], rfl, hquiet.append hlook, .refl st,
          hrun, hsame, fun flow hflow => ?_⟩
        subst hr hflow
        exact eq_skip_of_verdict hv
      obtain ⟨reply, ⟨-, rfl, rfl, rfl⟩ | ⟨-, es₃, rfl, hnext⟩⟩ :=
        (guards_sleep _).run_bind.mp hagain
      · refine ⟨[], before, st, es₁, _, st₁, [looked s look, slept s reply], rfl,
          hquiet.append (noAttempt_exchange (noAttempt_exchange noAttempt_nil)), .refl st, hrun, ?_,
          nofun⟩
        simpa using hsame.trans (untouched_sleep s.token _ reply)
      · -- the later attempts start where this one and the delay have left everything alone
        obtain ⟨earlier, n, st₂, es₄, r₄, st₃, rest, rfl, hq, hu, hrun', hend⟩ :=
          ih left' (Nat.lt_succ_self left') hnext
        have hfront := (hsame.trans (untouched_sleep s.token _ reply)).trans hu
        refine ⟨_, n, st₂, es₄, r₄, st₃, rest, ?_, hq, hfront, hrun', ?_⟩
        · simp
        · cases r₄ with
          | ok => exact hend
          | error =>
            refine ⟨?_, hend.2⟩
            simpa using (hsame.trans (untouched_sleep s.token _ reply)).trans hend.1

end Attempts

/-- **A failure leaves no trace.** For an action that works by itself, under every behaviour
of its surroundings: where its effect fails, the context and the vault are as before. So in
front of the last of its attempts they are as before the first; where that attempt fails
– and the action is skipped, or ends the chain – they are so behind it as well; and where it
succeeds, everything is as if it had been the first. -/
theorem failure_leaves_no_trace (s : ChainSetting) (runList : ListRunner) {a : Action}
    (ha : a.worksAlone = true) (st : ChainState) (m : MemoryVault) (b : Behaviour)
    (before : List Event) :
    (∀ strategy,
      let (events, r, st') := (effect s runList strategy a st).under b before
      ∀ e, r = .error e → st'.context = st.context ∧ m.behind events = m) ∧
    ∀ inherited,
      let (events, r, st') := (perform s runList inherited a st).under b before
      ∃ earlier n st₁ es r₁ st₂ rest,
        events = earlier ++ .remark (.attempt a n st₁) :: (es ++ rest) ∧ NoAttempt (es ++ rest) ∧
        st₁.context = st.context ∧ m.behind earlier = m ∧
        (effect s runList (strategyOf inherited a) a).Run st₁ es r₁ st₂ ∧
        match r₁ with
        | .ok _ => (perform s runList inherited a).Run st₁
            (.remark (.attempt a 0 st₁) :: (es ++ rest)) r st'
        | .error _ => st'.context = st.context ∧ m.behind events = m ∧
            ∀ flow, r = .ok flow → strategyOf inherited a = .skip := by
  constructor
  · intro strategy e he
    have hrun := Script.run_under b (effect s runList strategy a st) before
    have hsame := (run_effect_of_worksAlone ha hrun).2 e he
    exact ⟨hsame.context, hsame.vault m⟩
  · intro inherited
    obtain ⟨earlier, n, st₁, es, r₁, st₂, rest, hevents, hquiet, hsame, hrun, hend⟩ :=
      exists_lastAttempt (run_effect_of_worksAlone ha)
        (Script.run_under b (perform s runList inherited a st) before)
    refine ⟨earlier, n, st₁, es, r₁, st₂, rest, hevents, hquiet, hsame.context, hsame.vault m,
      hrun, ?_⟩
    cases r₁ with
    | ok => exact hend _ 0
    | error => exact ⟨hend.1.context, hend.1.vault m, hend.2⟩

/-- **Surroundings without a user**: nothing can be put in front of one, and nobody calls anything
off. There are no files, and no sessions. -/
def withoutUser : Behaviour := fun _ _ c => ⟨answer c, false, default⟩
where
  /-- The answer to a call. -/
  answer : (c : Call) → c.Answer
    | .vault r => (MemoryVault.empty.answer r).1.getD (.error (.io ""))
    | .session r => (Ledger.answer {} none r).1
    | .ai _ | .suggest .. | .collect _ | .openForm .. | .launch .. =>
      .error (.interaction "closed")
    | .decode file => file.fileText?
    | .draw => 0
    | .notify _ | .sleep _ | .detach _ | .look => ()

/-- Surroundings without a user where a vault can be read. -/
def withFiles (m : MemoryVault) : Behaviour
  | _, _, .vault r => ⟨(m.answer r).1.getD (.error (.io "")), false, default⟩
  | before, token, c => withoutUser before token c

/-- A vault with a note that has one heading. -/
def taskVault : MemoryVault where
  files := [("docs/tasks.md", "# Open\n- write\n")]
  folders := [("docs", ())]

/-- The state in a loop over headings. -/
def overHeadings : ChainState where
  values := [("what", .text "proofread")]
  outputs := [("folder", .text "docs"), ("done", .list [.text "Open"])]
  scope := ⟨[{ bindings := [("item", .text "Done"), ("index", .ofNat 1)] }]⟩

/-- The misuse that an effect ends with. -/
def misuseOf : Except Failure Flow → Option Misuse
  | .error (.action (.misuse m)) => some m
  | _ => none

theorem eq_of_misuseOf {r : Except Failure Flow} {m : Misuse} (h : misuseOf r = some m) :
    r = .error (.action (.misuse m)) := by
  rcases r with (e | e) | flow
  · cases e with
    | misuse m' => rw [Option.some.inj h]
    | _ => cases h
  · cases h
  · cases h

/-- A text that goes behind a heading. -/
def underHeading : InsertText where
  filePath := "{{folder}}/tasks"
  content := "- {{@what}}"
  position := .afterHeading
  heading := some "{{item}}"

/-- What is seen of an insertion. -/
def inserting (spec : InsertText) (st : ChainState) (b : Behaviour) :
    List Event × Except Failure Flow × ChainState :=
  (effect { form := {} } (fun _ _ => throw .tooDeep) .skip (.insertText { id := "tell" } spec)
    st).under b []

/-- **A heading that is missing**: the file is found and read, and then the insertion fails. The
answers, the variables, the loop and the files are as before. -/
theorem missing_heading_leaves_no_trace :
    let seen := inserting underHeading overHeadings (withFiles taskVault)
    (Action.insertText { id := "tell" } underHeading).worksAlone = true ∧
      seen.2.1 = .error (.action (.misuse (.headingNotFound "Done" "docs/tasks.md"))) ∧
      seen.2.2.context = overHeadings.context ∧ taskVault.behind seen.1 = taskVault := by
  -- the general statement is opened before there is anything in it that could be evaluated
  have hsame (spec : InsertText) (st : ChainState) (b : Behaviour) :
      ∀ e, (inserting spec st b).2.1 = .error e →
        (inserting spec st b).2.2.context = st.context ∧
          taskVault.behind (inserting spec st b).1 = taskVault :=
    (failure_leaves_no_trace { form := {} } (fun _ _ => throw .tooDeep)
      (a := .insertText { id := "tell" } spec) rfl st taskVault b []).1 .skip
  have hfails : misuseOf (inserting underHeading overHeadings (withFiles taskVault)).2.1 =
      some (.headingNotFound "Done" "docs/tasks.md") := by
    decide +kernel
  exact ⟨rfl, eq_of_misuseOf hfails, hsame _ _ _ _ (eq_of_misuseOf hfails)⟩

end Chain

end FormChain
