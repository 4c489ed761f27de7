import FormChain.Proofs.Chain.Adequacy
import FormChain.Submission.Basic

/-!
# Keeping to one session

A submission deals with the ledger in a certain order: it starts a session, from then on
works within it, and takes, hands on and gives back leases on that session alone; every
chain that it carries out, launched ones included, runs under the token of the session.
A `FormChain.Standing` says how far a script has come in this, and `FormChain.Script.Keeps`
that a script keeps to it from some standing on, whatever is replied – but for what the
ledger promises: that a session can be joined and held as long as there is a lease on it, and
that leases carry the token of their session.

The predicate is a rule for each sort of question, and goes through scripts put together
like a precondition (`FormChain.Script.Keeps.bind`). Chains by themselves only ask
questions that leave the standing alone; where launches are answered by scripts that keep
to it, so do the chains (`FormChain.Script.keeps_withLauncher`).
-/

namespace FormChain

/-! ### Standings -/

/-- Whether a question has nothing to do with leases. -/
def Call.isQuiet : Call → Bool
  | .session (.hasExpired _) => true
  | .session (.timedOut _) => true
  | .session _ => false
  | .detach _ => false
  | _ => true

/-- Whether a question finds or reads a file. -/
def Call.isReading : Call → Bool
  | .vault (.find _) => true
  | .vault (.read _) => true
  | _ => false

/-- **How a script stands with the ledger.** -/
inductive Standing where
  /-- It has not started a session. -/
  | outside
  /-- It works within a session and has some leases on it. -/
  | within (id : SessionId) (leases : Nat)

namespace Standing

/-- **Whether a script may ask a question under a token**: that of its session. The file of
a form that is launched is found and read under none, which is zero. -/
def MayAsk : Standing → Token → Call → Prop
  | outside, token, _ => token = 0
  | within id _, token, c => token = id ∨ (token = 0 ∧ c.isReading = true)

/-- Whether a script may make a remark: a chain that starts does so within the session and
under its token. -/
def Admits : Standing → Remark → Prop
  | outside, .entered .. => False
  | within id _, .entered _ token session => token = id ∧ session = some id
  | _, _ => True

/-- **Whether a script may ask a question.** It starts a session of its own, and then asks
for leases on it and gives them back as long as it has one. -/
def Permits : Standing → Call → Prop
  | outside, .session (.start _ mayJoin) => mayJoin = false
  | within id n, .session (.join j) => j = id ∧ 0 < n
  | within id n, .session (.hold lease) => lease.session = id ∧ 0 < n
  | within id n, .session (.release j) => j = id ∧ 0 < n
  | within id n, .session (.releaseBackground lease) => lease = ⟨id, id, true⟩ ∧ 0 < n
  | within id n, .detach job => job.token = id ∧ job.lease = ⟨id, id, true⟩ ∧ 0 < n
  | _, c => c.isQuiet = true

/-- **What the ledger promises to answer**, as long as there is a lease on the session: leases
carry its token, which goes by its number. -/
def Promises : Standing → (c : Call) → c.Answer → Prop
  | outside, .session (.start ..), a => a.token = a.session
  | within id _, .session (.join _), a => a = some ⟨id, id, id, true⟩
  | within id _, .session (.hold _), a => a = ⟨id, id, true⟩
  | _, _, _ => True

/-- **How a script stands behind a question.** -/
def after : Standing → (c : Call) → c.Answer → Standing
  | outside, .session (.start ..), lease => within lease.session 1
  | within id n, .session (.join _), _ => within id (n + 1)
  | within id n, .session (.hold _), _ => within id (n + 1)
  | within id n, .session (.release _), _ => within id (n - 1)
  | within id n, .session (.releaseBackground _), _ => within id (n - 1)
  | within id n, .detach _, _ => within id (n - 1)
  | σ, _, _ => σ

variable {σ : Standing} {c : Call}

/-- Files may be found and read from anywhere. -/
theorem mayAsk_of_isReading (hc : c.isReading = true) : σ.MayAsk 0 c := by
  cases σ with
  | outside => rfl
  | within => exact Or.inr ⟨rfl, hc⟩

/-- A quiet question may always be asked. -/
theorem permits_of_isQuiet (hc : c.isQuiet = true) : σ.Permits c := by
  cases c with
  | session r => cases r <;> cases σ <;> first | exact hc | cases hc
  | detach => cases hc
  | _ => cases σ <;> rfl

/-- A quiet question changes nothing. -/
theorem after_of_isQuiet (hc : c.isQuiet = true) (a : c.Answer) : σ.after c a = σ := by
  cases c with
  | session r => cases r <;> cases σ <;> first | rfl | cases hc
  | detach => cases hc
  | _ => cases σ <;> rfl

end Standing

/-! ### Scripts that keep to a session -/

namespace Script

variable {α β : Type}

/-- **A script keeps to its session** from some standing on, and ends with some standing
and result. -/
def Keeps (Q : Standing → α → Prop) : Standing → Script α → Prop
  | σ, .done a => Q σ a
  | σ, .remark r next => σ.Admits r ∧ next.Keeps Q σ
  | σ, .ask token c next =>
    σ.MayAsk token c ∧ σ.Permits c ∧
      ∀ reply, σ.Promises c reply.answer → (next reply).Keeps Q (σ.after c reply.answer)

variable {Q : Standing → α → Prop} {R : Standing → β → Prop} {σ : Standing}

/-- **One script behind another.** -/
theorem Keeps.bind {s : Script α} {f : α → Script β} (hs : s.Keeps Q σ)
    (hf : ∀ σ' a, Q σ' a → (f a).Keeps R σ') : (s.bind f).Keeps R σ := by
  induction s generalizing σ with
  | done a => exact hf σ a hs
  | remark r next ih => exact ⟨hs.1, ih hs.2⟩
  | ask token c next ih => exact ⟨hs.1, hs.2.1, fun reply hp => ih reply (hs.2.2 reply hp)⟩

/-- What holds at the end may be weakened. -/
theorem Keeps.imp {Q' : Standing → α → Prop} {s : Script α} (hs : s.Keeps Q σ)
    (hQ : ∀ σ' a, Q σ' a → Q' σ' a) : s.Keeps Q' σ := by
  rw [← bind_done s]
  exact hs.bind hQ

/-- A single question. -/
theorem keeps_call {token : Token} {c : Call} (htoken : σ.MayAsk token c) (hc : σ.Permits c) :
    (call token c).Keeps (fun σ' reply => σ.Promises c reply.answer ∧
      σ' = σ.after c reply.answer) σ :=
  ⟨htoken, hc, fun _ hp => ⟨hp, rfl⟩⟩

/-- A single quiet question. -/
theorem keeps_call_of_isQuiet {token : Token} {c : Call} (htoken : σ.MayAsk token c)
    (hc : c.isQuiet = true) : (call token c).Keeps (fun σ' _ => σ' = σ) σ :=
  (keeps_call htoken (Standing.permits_of_isQuiet hc)).imp fun _ reply h =>
    h.2.trans (Standing.after_of_isQuiet hc reply.answer)

end Script

/-! ### What chains ask -/

/-- Whether a question is one that a chain asks around its effects: it waits, or has a file
decoded for a condition. -/
def Call.isAside : Call → Prop
  | .look => True
  | .sleep _ => True
  | .decode _ => True
  | _ => False

/-- **Whether an event is one of a chain** that has started: it asks under the token of the
chain, what effects ask or what is asked around them. -/
def Event.IsOf (s : ChainSetting) : Event → Prop
  | .remark (.entered ..) => False
  | .remark _ => True
  | .exchange token c _ => token = s.token ∧ (c.isOfEffect s.session ∨ c.isAside)

theorem Conduct.isOf {s : ChainSetting} {st st' : ChainState} {es : List Event}
    {f : Option ActionError} (h : Conduct s st es f st') : ∀ e ∈ es, e.IsOf s := by
  intro e he
  obtain ⟨c, reply, rfl, hc⟩ := h.exchange_of_mem he
  exact ⟨rfl, Or.inl hc⟩

theorem Decodes.isOf {s : ChainSetting} {st st' : ChainState} {es : List Event}
    (h : Decodes s st es st') : ∀ e ∈ es, e.IsOf s := by
  intro e he
  obtain ⟨file, reply, rfl⟩ := h.exchange_of_mem he
  exact ⟨rfl, Or.inr trivial⟩

namespace Chain

section Asking

variable {s : ChainSetting}

theorem isOf_cons {e : Event} {es : List Event} (he : e.IsOf s) (hes : ∀ e ∈ es, e.IsOf s) :
    ∀ e' ∈ e :: es, e'.IsOf s :=
  List.forall_mem_cons.mpr ⟨he, hes⟩

theorem isOf_looked {look : Reply .look} {es : List Event} (hes : ∀ e ∈ es, e.IsOf s) :
    ∀ e ∈ looked s look :: es, e.IsOf s :=
  isOf_cons ⟨rfl, Or.inr trivial⟩ hes

theorem isOf_slept {duration : Nat} {reply : Reply (.sleep duration)} {es : List Event}
    (hes : ∀ e ∈ es, e.IsOf s) : ∀ e ∈ slept s reply :: es, e.IsOf s :=
  isOf_cons ⟨rfl, Or.inr trivial⟩ hes

theorem isOf_append {es es' : List Event} (hes : ∀ e ∈ es, e.IsOf s)
    (hes' : ∀ e ∈ es', e.IsOf s) : ∀ e ∈ es ++ es', e.IsOf s :=
  List.forall_mem_append.mpr ⟨hes, hes'⟩

/-- **All that happens in a chain is of it**, by induction on the rules. -/
theorem Happens.isOf {t : Task} {st st' : ChainState} {es : List Event}
    {r : Except Failure Flow} (h : Happens s t st es r st') : ∀ e ∈ es, e.IsOf s := by
  have hnil : ∀ e ∈ ([] : List Event), e.IsOf s := fun e he => by cases he
  induction h with
  | listCalledOff => exact isOf_looked hnil
  | passedOver _ _ hw _ ih =>
    exact isOf_looked (isOf_cons trivial (isOf_append hw.decodes.isOf ih))
  | listLeft _ _ hw _ _ ih =>
    exact isOf_looked (isOf_cons trivial (isOf_append hw.decodes.isOf ih))
  | listWentOn _ _ hw _ _ ih₁ ih₂ =>
    exact isOf_looked (isOf_cons trivial (isOf_append hw.decodes.isOf (isOf_append ih₁ ih₂)))
  | attemptCalledOff _ _ _ ih => exact isOf_cons trivial (isOf_append ih (isOf_looked hnil))
  | attemptSettled _ _ _ _ ih => exact isOf_cons trivial (isOf_append ih (isOf_looked hnil))
  | delayCalledOff _ _ _ _ _ _ ih =>
    exact isOf_cons trivial (isOf_append ih (isOf_looked (isOf_slept hnil)))
  | triedAgain _ _ _ _ _ _ _ ih₁ ih₂ =>
    exact isOf_cons trivial (isOf_append ih₁ (isOf_looked (isOf_slept ih₂)))
  | plainDone hp hx => exact (conducts_plainEffect hp _ _ _ _ hx).isOf
  | plainFailed hp hx => exact (conducts_plainEffect hp _ _ _ _ hx).isOf
  | waited => exact isOf_slept hnil
  | grouped _ _ ih => exact ih
  | looped _ _ _ ih => exact ih
  | loopCalledOff => exact isOf_looked hnil
  | loopTestFailed _ _ _ hn => exact isOf_looked hn.decodes.isOf
  | bodyFailed _ _ _ hn _ ih =>
    exact isOf_looked (isOf_append hn.decodes.isOf (isOf_cons trivial ih))
  | bodyLeft _ _ _ hn _ ih =>
    exact isOf_looked (isOf_append hn.decodes.isOf (isOf_cons trivial ih))
  | bodyWentOn _ _ _ hn _ _ ih₁ ih₂ =>
    exact isOf_looked (isOf_append hn.decodes.isOf (isOf_cons trivial (isOf_append ih₁ ih₂)))
  | _ => exact hnil

end Asking

end Chain

/-! ### Chains that keep to a session -/

/-- **A chain within a session keeps to it**, if what answers its launches does. -/
theorem Script.keeps_withLauncher {α : Type} {s : ChainSetting} {id : SessionId} {n : Nat}
    {launcher : Launcher} {x : Script α} (htoken : s.token = id) (hsession : s.session = some id)
    (hx : ∀ es a, x.Run es a → ∀ e ∈ es, e.IsOf s)
    (hlauncher : ∀ path mode, (launcher id path mode (some id)).Keeps
      (fun σ _ => σ = .within id n) (.within id n)) :
    (x.withLauncher launcher).Keeps (fun σ _ => σ = .within id n) (.within id n) := by
  induction x with
  | done a => rfl
  | remark r next ih =>
    obtain ⟨es, a, hrun⟩ := next.exists_run
    have hr := hx _ a (.remark hrun) _ List.mem_cons_self
    refine ⟨?_, ih fun es a hnext e he => hx _ a (.remark hnext) e (List.mem_cons_of_mem _ he)⟩
    cases r with
    | entered => exact hr.elim
    | _ => trivial
  | ask token c next ih =>
    have hnext (reply : Reply c) :
        ((next reply).withLauncher launcher).Keeps (fun σ _ => σ = .within id n)
          (.within id n) :=
      ih reply fun es a hrun e he => hx _ a (.ask reply hrun) e (List.mem_cons_of_mem _ he)
    -- however it goes on, some run of the chain starts with this question
    have hask : token = id ∧ (c.isOfEffect (some id) ∨ c.isAside) := by
      obtain ⟨reply⟩ : Nonempty (Reply c) := inferInstance
      obtain ⟨es, a, hrun⟩ := (next reply).exists_run
      have he : token = s.token ∧ (c.isOfEffect s.session ∨ c.isAside) :=
        hx _ a (.ask reply hrun) _ List.mem_cons_self
      rwa [htoken, hsession] at he
    obtain ⟨rfl, hc⟩ := hask
    have hquiet (hc : c.isQuiet = true) :
        (Script.ask token c fun reply => (next reply).withLauncher launcher).Keeps
          (fun σ _ => σ = .within token n) (.within token n) := by
      refine ⟨Or.inl rfl, Standing.permits_of_isQuiet hc, fun reply _ => ?_⟩
      rw [Standing.after_of_isQuiet hc]
      exact hnext reply
    cases c with
    | launch path mode session =>
      obtain rfl : session = some token := hc.elim id False.elim
      -- the launcher replies in place of the surroundings
      refine (hlauncher path mode).bind fun σ reply hσ => ?_
      rw [hσ]
      exact hnext reply
    | session r => exact (hc.elim id id).elim
    | detach job => exact (hc.elim id id).elim
    | _ => exact hquiet rfl

end FormChain
