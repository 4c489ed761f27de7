import FormChain.Chain.Effect
import FormChain.Proofs.Script.Run

/-!
# What effects may do

The actions that hold no others differ in what they ask and in what they make of the
answers, but not in what they *may* do: draw on the seed, change answers and variables,
ask the vault, the language model, the user or for the launch of a form, and fail. The
relation `FormChain.Conduct` says just that, and what it leaves out is the point of it.

* The scope of loops is never touched.
* What is known of the token changes by replies alone.
* A reply that turns a prompt away is the last thing that happens, and the effect fails
  with it; and nothing else makes it fail that way.

Every effect conducts itself so, as its parts do. What effects are made of is told once for all
such properties (`FormChain.Pervades`): where the parts have one and it passes on to what is put
together of them, all effects have it.
-/

namespace FormChain

/-! ### Dismissals -/

/-- Whether a failure is that of a prompt turned away. -/
def isDismissal {α : Type} : Except ActionError α → Bool
  | .error .dismissed => true
  | _ => false

/-- **Whether an answer is a dismissal.** -/
def Call.dismisses : (c : Call) → c.Answer → Bool
  | .ai _, r => isDismissal r
  | .suggest .., r => isDismissal (Effect.given r)
  | .collect _, r => isDismissal (Effect.given r)
  | .launch .., r => isDismissal r
  | _, _ => false

/-- Whether a reply dismisses a prompt. -/
def Event.dismisses : Event → Bool
  | .remark _ => false
  | .exchange _ c reply => c.dismisses reply.answer

theorem eq_dismissed_of_isDismissal {α : Type} {r : Except ActionError α}
    (h : isDismissal r = true) : r = .error .dismissed := by
  rcases r with e | a
  · cases e <;> simp_all [isDismissal]
  · cases h

theorem ne_dismissed_of_isDismissal {α : Type} {e : ActionError}
    (h : isDismissal (.error e : Except ActionError α) = false) : e ≠ .dismissed := by
  rintro rfl
  cases h

/-- Whether a call is one that effects make, on behalf of a session. -/
def Call.isOfEffect (session : Option SessionId) : Call → Prop
  | .vault _ | .ai _ | .suggest .. | .collect _ => True
  | .launch _ _ id => id = session
  | _ => False

/-- The failure of a result. -/
def failureOf {ε α : Type} : Except ε α → Option ε
  | .ok _ => none
  | .error e => some e

/-! ### Conduct -/

/-- **What an effect may do**, from a state on: what happens, the failure if there is one,
and the state behind it. -/
inductive Conduct (s : ChainSetting) :
    ChainState → List Event → Option ActionError → ChainState → Prop where
  /-- It may end. -/
  | ended (st : ChainState) : Conduct s st [] none st
  /-- It may fail, though not as if a prompt had been turned away. -/
  | failed {st : ChainState} {e : ActionError} : e ≠ .dismissed → Conduct s st [] (some e) st
  /-- It may change what is not the scope and not known of the token. -/
  | changed {st st₁ st' : ChainState} {es : List Event} {f : Option ActionError} :
    st₁.scope = st.scope → st₁.cancelled = st.cancelled → Conduct s st₁ es f st' →
      Conduct s st es f st'
  /-- It may ask. -/
  | asked {st st' : ChainState} {c : Call} {reply : Reply c} {es : List Event}
    {f : Option ActionError} :
    c.isOfEffect s.session → c.dismisses reply.answer = false →
      Conduct s (st.afterReply reply) es f st' →
      Conduct s st (.exchange s.token c reply :: es) f st'
  /-- A prompt may be turned away, and then it fails. -/
  | dismissed {st : ChainState} {c : Call} {reply : Reply c} :
    c.isOfEffect s.session → c.dismisses reply.answer = true →
      Conduct s st [.exchange s.token c reply] (some .dismissed) (st.afterReply reply)

namespace Conduct

variable {s : ChainSetting} {st st₁ st' : ChainState} {es es' : List Event}
  {f : Option ActionError}

/-- Where nothing has failed, an effect may go on. -/
theorem append (h : Conduct s st es none st₁) (h' : Conduct s st₁ es' f st') :
    Conduct s st (es ++ es') f st' := by
  generalize hf : (none : Option ActionError) = f₁ at h
  induction h with
  | ended => exact h'
  | failed => cases hf
  | changed hs hc _ ih => exact changed hs hc (ih h' hf)
  | asked ho hd _ ih => exact asked ho hd (ih h' hf)
  | dismissed => cases hf

/-- **The scope is left alone.** -/
theorem scope_eq (h : Conduct s st es f st') : st'.scope = st.scope := by
  induction h with
  | changed hs _ _ ih => exact ih.trans hs
  | asked _ _ _ ih => exact ih
  | _ => rfl

/-- **What is known of the token** is what was known, and what replies have told. -/
theorem cancelled_eq (h : Conduct s st es f st') :
    st'.cancelled = (st.cancelled || es.any (·.tellsCancelled)) := by
  induction h with
  | changed _ hc _ ih => rw [ih, hc]
  | asked _ _ _ ih => simp [ih, ChainState.afterReply, Event.tellsCancelled, Bool.or_assoc]
  | dismissed => simp [ChainState.afterReply, Event.tellsCancelled]
  | _ => simp

/-- **A dismissal is what makes an effect fail as dismissed**, and it always does. -/
theorem any_dismisses_iff (h : Conduct s st es f st') :
    es.any (·.dismisses) = true ↔ f = some .dismissed := by
  induction h with
  | ended => simp
  | failed hne => simp [hne]
  | changed _ _ _ ih => exact ih
  | asked _ hd _ ih => simpa [Event.dismisses, hd] using ih
  | dismissed _ hd => simp [Event.dismisses, hd]

/-- All that happens is that questions of effects are asked. -/
theorem exchange_of_mem (h : Conduct s st es f st') {e : Event} (he : e ∈ es) :
    ∃ (c : Call) (reply : Reply c), e = .exchange s.token c reply ∧ c.isOfEffect s.session := by
  induction h with
  | ended => cases he
  | failed => cases he
  | changed _ _ _ ih => exact ih he
  | asked ho _ _ ih =>
    rcases List.mem_cons.mp he with rfl | he
    · exact ⟨_, _, rfl, ho⟩
    · exact ih he
  | dismissed ho =>
    obtain rfl := List.mem_singleton.mp he
    exact ⟨_, _, rfl, ho⟩

/-- Nothing is remarked on. -/
theorem remarksOf_eq (h : Conduct s st es f st') : remarksOf es = [] := by
  refine List.filterMap_eq_nil_iff.mpr fun e he => ?_
  obtain ⟨c, reply, rfl, -⟩ := h.exchange_of_mem he
  rfl

end Conduct

/-! ### The parts of effects -/

/-- **A part of an effect that does only what effects may do.** -/
def Conducts {α : Type} (s : ChainSetting) (x : Effect α) : Prop :=
  ∀ st es r st', x.Run st es r st' → Conduct s st es (failureOf r) st'

section Parts

variable {s : ChainSetting} {α β : Type}

theorem conducts_pure (a : α) : Conducts s (pure a : Effect α) := by
  intro st es r st' h
  obtain ⟨rfl, rfl, rfl⟩ := Step.run_pure.mp h
  exact .ended _

theorem conducts_throw {e : ActionError} (he : e ≠ .dismissed) :
    Conducts s (throw e : Effect α) := by
  intro st es r st' h
  obtain ⟨rfl, rfl, rfl⟩ := Step.run_throw.mp h
  exact .failed he

theorem conducts_bind {x : Effect α} {f : α → Effect β} (hx : Conducts s x)
    (hf : ∀ a, Conducts s (f a)) : Conducts s (x >>= f) := by
  intro st es r st' h
  rcases Step.run_bind.mp h with ⟨e, h₁, rfl⟩ | ⟨es₁, a, st₁, es₂, rfl, h₁, h₂⟩
  · exact hx _ _ _ _ h₁
  · exact (hx _ _ _ _ h₁).append (hf a _ _ _ _ h₂)

theorem conducts_state : Conducts s (Step.state : Effect ChainState) := by
  intro st es r st' h
  obtain ⟨rfl, rfl, rfl⟩ := Step.run_state.mp h
  exact .ended _

theorem conducts_change {g : ChainState → ChainState} (hs : ∀ st, (g st).scope = st.scope)
    (hc : ∀ st, (g st).cancelled = st.cancelled) : Conducts s (Step.change g : Effect Unit) := by
  intro st es r st' h
  obtain ⟨rfl, rfl, rfl⟩ := Step.run_change.mp h
  exact .changed (hs st) (hc st) (.ended _)

theorem conducts_drawing (g : Environment → StateM Nat α) :
    Conducts s (Step.drawing g : Effect α) := by
  intro st es r st' h
  obtain ⟨rfl, rfl, rfl⟩ := Step.run_drawing.mp h
  exact .changed (by rfl) (by rfl) (.ended _)

theorem conducts_write (name : String) (v : Value) :
    Conducts s (Step.write name v : Effect Unit) :=
  conducts_change (fun _ => rfl) (fun _ => rfl)

theorem conducts_ofExcept {r : Except ActionError α} (h : isDismissal r = false) :
    Conducts s (Step.ofExcept r) := by
  cases r with
  | ok a => exact conducts_pure a
  | error e => exact conducts_throw (ne_dismissed_of_isDismissal h)

/-- **A question of an effect**, where what is made of the answer fails as dismissed just
when the answer is a dismissal. -/
theorem conducts_ask {c : Call} {g : c.Answer → Except ActionError β}
    (ho : c.isOfEffect s.session) (hg : ∀ a, c.dismisses a = isDismissal (g a)) :
    Conducts s ((Step.ask s c : Effect c.Answer) >>= fun a => Step.ofExcept (g a)) := by
  intro st es r st' h
  rcases Step.run_bind.mp h with ⟨e, h₁, rfl⟩ | ⟨es₁, a, st₁, es₂, rfl, h₁, h₂⟩
  · obtain ⟨reply, -, hr, -⟩ := Step.run_ask.mp h₁
    exact absurd hr (by simp)
  · obtain ⟨reply, rfl, hr, rfl⟩ := Step.run_ask.mp h₁
    obtain rfl := Except.ok.inj hr
    cases ha : c.dismisses reply.answer with
    | true =>
      rw [eq_dismissed_of_isDismissal ((hg _).symm.trans ha)] at h₂
      obtain ⟨rfl, rfl, rfl⟩ := Step.run_ofExcept.mp h₂
      exact .dismissed ho ha
    | false => exact .asked ho ha (conducts_ofExcept ((hg _).symm.trans ha) _ _ _ _ h₂)

end Parts

/-! ### What effects are made of -/

/-- **The variable that an action writes**, if it writes one. -/
def Action.output? : Action → Option String
  | .createFile _ spec => spec.output
  | .textTransform _ spec => some spec.output
  | .ai _ spec => spec.output
  | .collectData _ spec => some spec.output
  | .suggest _ spec => some spec.output
  | _ => none

/-- **A property of all that effects are made of**, which passes on to what is put together. Of
the variables, they write only those that are allowed. -/
structure Pervades (s : ChainSetting) (allowed : String → Prop)
    (P : {α : Type} → Effect α → Prop) : Prop where
  /-- They end. -/
  pure {α : Type} (a : α) : P (pure a : Effect α)
  /-- They fail, though not as if a prompt had been turned away. -/
  throw {α : Type} {e : ActionError} : e ≠ .dismissed → P (throw e : Effect α)
  /-- One part follows another. -/
  bind {α β : Type} {x : Effect α} {f : α → Effect β} :
    P x → (∀ a, P (f a)) → P (x >>= f)
  /-- They look at the state. -/
  state : P (Step.state : Effect ChainState)
  /-- They draw on the seed. -/
  drawing {α : Type} (g : Environment → StateM Nat α) : P (Step.drawing g : Effect α)
  /-- They ask, and fail as dismissed just when the answer is a dismissal. -/
  ask {β : Type} {c : Call} {g : c.Answer → Except ActionError β} :
    c.isOfEffect s.session → (∀ a, c.dismisses a = isDismissal (g a)) →
      P ((Step.ask s c : Effect c.Answer) >>= fun a => Step.ofExcept (g a))
  /-- They write variables. -/
  write {name : String} (v : Value) : allowed name → P (Step.write name v : Effect Unit)
  /-- They take answers to more fields. -/
  answers (fields : List Field) (answers : Bag) :
    P (Step.change (Effect.withAnswers fields answers) : Effect Unit)

/-- **Conduct is such a property**, whatever is written. -/
theorem pervades_conducts (s : ChainSetting) :
    Pervades s (fun _ => True) (Conducts s) where
  pure := conducts_pure
  throw := conducts_throw
  bind := conducts_bind
  state := conducts_state
  drawing := conducts_drawing
  ask := conducts_ask
  write v _ := conducts_write _ v
  answers _ _ := conducts_change (fun _ => rfl) fun _ => rfl

namespace Pervades

variable {s : ChainSetting} {allowed : String → Prop} {P : {α : Type} → Effect α → Prop}

theorem expandOption (h : Pervades s allowed P) :
    (t : Option String) → P (Step.expandOption t : Effect (Option String))
  | none => h.pure none
  | some _ => h.bind (h.drawing _) fun r => h.pure (some r)

theorem writeOption (h : Pervades s allowed P) {v : Value} :
    {name : Option String} → (∀ n, name = some n → allowed n) →
      P (Step.writeOption name v : Effect Unit)
  | none, _ => h.pure ()
  | some name, hname => h.write v (hname name rfl)

theorem askVault (h : Pervades s allowed P) (r : VaultRequest) :
    P (Effect.askVault s r) :=
  h.ask trivial fun a => by cases a <;> rfl

theorem createNumbered (h : Pervades s allowed P) (path content : String) :
    (left n : Nat) → P (Effect.createNumbered s path content left n)
  | 0, _ => h.throw (by simp)
  | left + 1, n => by
    refine h.bind (h.askVault _) fun file => ?_
    cases file with
    | none => exact h.askVault _
    | some _ => exact h.createNumbered path content left (n + 1)

theorem settleConflict (h : Pervades s allowed P) (conflict : Conflict)
    (path file content : String) :
    P (Effect.settleConflict s conflict path file content) := by
  cases conflict with
  | skip => exact h.pure file
  | overwrite => exact h.bind (h.askVault _) fun _ => h.pure file
  | rename => exact h.createNumbered path content Effect.maxNumber 1

theorem createFile (h : Pervades s allowed P) {a : CreateFile}
    (ha : ∀ n, a.output = some n → allowed n) : P (Effect.createFile s a) := by
  refine h.bind (h.drawing _) fun name => ?_
  split
  · exact h.throw (by simp)
  refine h.bind (h.drawing _) fun folder => h.bind (h.drawing _) fun content => ?_
  refine h.bind (h.askVault _) fun file => ?_
  cases file with
  | none => exact h.bind (h.askVault _) fun created => h.writeOption ha
  | some file => exact h.bind (h.settleConflict _ _ _ _) fun created => h.writeOption ha

theorem headingEdit (h : Pervades s allowed P) (heading : Option String)
    (path file content : String) : P (Effect.headingEdit s heading path file content) := by
  refine h.bind (h.expandOption heading) fun wanted => ?_
  split
  · exact h.throw (by simp)
  refine h.bind (h.askVault _) fun text => ?_
  split
  · exact h.throw (by simp)
  · exact h.pure _

theorem insertText (h : Pervades s allowed P) (a : InsertText) :
    P (Effect.insertText s a) := by
  refine h.bind (h.drawing _) fun path => h.bind (h.drawing _) fun content => ?_
  refine h.bind (h.askVault _) fun file => ?_
  cases file with
  | none =>
    change P (if a.createIfMissing = true then _ else _)
    split
    · exact h.bind (h.askVault _) fun _ => h.pure ()
    · exact h.throw (by simp)
  | some file =>
    cases a.position with
    | top =>
      refine h.bind ?_ fun edit => h.askVault _
      exact h.bind (h.askVault _) fun known => h.pure _
    | bottom => exact h.bind (h.pure _) fun edit => h.askVault _
    | afterHeading => exact h.bind (h.headingEdit _ _ _ _) fun edit => h.askVault _

theorem textTransform (h : Pervades s allowed P) {a : TextTransform} (ha : allowed a.output) :
    P (Effect.textTransform a) :=
  h.bind (h.drawing _) fun _ => h.write _ ha

theorem collectData (h : Pervades s allowed P) {a : Collect} (ha : allowed a.output) :
    P (Effect.collectData a) := by
  refine h.bind h.state fun st => ?_
  split
  · exact h.throw (by simp)
  refine h.bind (h.drawing _) fun v => ?_
  exact h.bind h.state fun st => h.write _ ha

theorem ai (h : Pervades s allowed P) {a : Prompt} (ha : ∀ n, a.output = some n → allowed n) :
    P (Effect.ai s a) := by
  refine h.bind (h.drawing _) fun prompt => h.bind (h.expandOption _) fun system => ?_
  exact h.bind (h.ask trivial fun _ => rfl) fun text => h.writeOption ha

theorem suggest (h : Pervades s allowed P) {a : Suggest} (ha : allowed a.output) :
    P (Effect.suggest s a) := by
  refine h.bind (h.drawing _) fun options => h.bind (h.expandOption _) fun placeholder => ?_
  exact h.bind (h.ask trivial fun _ => rfl) fun choice => h.write choice ha

theorem generateForm (h : Pervades s allowed P) (fields : List Field) :
    P (Effect.generateForm s fields) :=
  h.bind (h.ask trivial fun _ => rfl) fun answers => h.answers fields answers

theorem button (h : Pervades s allowed P) (path : String) (mode : ButtonMode) :
    P (Effect.button s path mode) := by
  unfold Effect.button
  split
  · exact h.throw (by simp)
  · exact h.bind (h.drawing _) fun _ => h.ask rfl fun _ => rfl

end Pervades

end FormChain
