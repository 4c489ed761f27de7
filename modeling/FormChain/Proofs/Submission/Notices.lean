import FormChain.Proofs.Submission.Within

/-!
# What the user is told

A submission in front of the user tells how it has ended, once and last of all: that it was
carried out, unless the form is a quiet one; that it was called off, where that is asked
for; or why it failed.

A form that is launched from within a chain leaves it to the submission around it to tell
how it has ended – but for one case. Where a required answer is lacking, the launched form
says so by itself, even if the chain around it goes on; where that chain fails with it, the
user is told twice. What the launches of a chain tell is said by the relation
`FormChain.Submission.LaunchesTell`, which has one rule for each way in which a launch can
go, and what a submission tells by `FormChain.Submission.submit_notices`.
-/

namespace FormChain

/-! ### Notices -/

/-- What a question tells the user. -/
def Call.notice? : Call → Option String
  | .notify message => some message
  | _ => none

namespace Event

/-- What an event tells the user. -/
def notice? : Event → Option String
  | remark _ => none
  | exchange _ c _ => c.notice?

/-- Whether an event is the launch of a form. -/
def isLaunch : Event → Bool
  | exchange _ (.launch ..) _ => true
  | _ => false

/-- The chain of a form tells the user nothing by itself. -/
theorem IsOf.notice?_eq_none {s : ChainSetting} {e : Event} (h : e.IsOf s) :
    e.notice? = none := by
  cases e with
  | remark => rfl
  | exchange token c reply =>
    cases c with
    | notify => exact (h.2.elim id id).elim
    | _ => rfl

end Event

/-- **What some events tell the user.** -/
def noticesOf (es : List Event) : List String :=
  es.filterMap (·.notice?)

@[simp] theorem noticesOf_nil : noticesOf [] = [] := rfl

@[simp] theorem noticesOf_append (es es' : List Event) :
    noticesOf (es ++ es') = noticesOf es ++ noticesOf es' :=
  List.filterMap_append

/-! ### Scripts that tell nothing -/

namespace Script

variable {α β : Type}

/-- **A script that tells the user nothing.** -/
def IsSilent (x : Script α) : Prop :=
  ∀ es a, x.Run es a → noticesOf es = []

theorem isSilent_done (a : α) : (done a).IsSilent := by
  intro es a' h
  rw [(run_done.mp h).1]
  rfl

theorem IsSilent.bind {x : Script α} {f : α → Script β} (hx : x.IsSilent)
    (hf : ∀ a, (f a).IsSilent) : (x.bind f).IsSilent := by
  intro es b h
  obtain ⟨es₁, a, es₂, rfl, h₁, h₂⟩ := run_bind.mp h
  rw [noticesOf_append, hx _ _ h₁, hf a _ _ h₂, List.append_nil]

/-- A single question that is no notice. -/
theorem isSilent_call {token : Token} {c : Call} (hc : c.notice? = none) :
    (call token c).IsSilent := by
  intro es reply h
  obtain ⟨reply, es', rfl, h'⟩ := run_ask.mp h
  rw [(run_done.mp h').1]
  exact List.filterMap_cons_none hc

/-- Whatever stands behind a silent script tells all there is to tell. -/
theorem IsSilent.run_bind {x : Script α} {f : α → Script β} {es : List Event} {b : β}
    (hx : x.IsSilent) (h : (x.bind f).Run es b) :
    ∃ es₁ a es₂, x.Run es₁ a ∧ (f a).Run es₂ b ∧ noticesOf es = noticesOf es₂ := by
  obtain ⟨es₁, a, es₂, rfl, h₁, h₂⟩ := Script.run_bind.mp h
  exact ⟨es₁, a, es₂, h₁, h₂, by rw [noticesOf_append, hx _ _ h₁, List.nil_append]⟩

end Script

namespace Submission

open Script

/-! ### The parts of a submission -/

section Parts

variable {token : Token}

theorem isSilent_askLedger (r : SessionRequest) : (askLedger token r).IsSilent :=
  (isSilent_call rfl).bind fun _ => isSilent_done _

theorem isSilent_takeLease {config : Config} {form : Form} {options : SubmitOptions}
    {parent : Option ParentChain} :
    (takeLease config token form options parent).IsSilent := by
  unfold takeLease
  split
  · exact isSilent_askLedger _
  · refine (isSilent_askLedger _).bind fun joined => ?_
    cases joined with
    | none => exact isSilent_askLedger _
    | some lease => exact isSilent_done _

/-- Moving a chain behind the user's back tells nothing, and is what the submission ends
with. -/
theorem run_moveAway {lease : Lease} {form : Form} {values : Bag} {es : List Event}
    {status : SubmitStatus} (h : (moveAway lease form values).Run es status) :
    noticesOf es = [] ∧ status = .backgrounded := by
  obtain ⟨_, held, es₁, -, h, hnotices⟩ := (isSilent_askLedger _).run_bind h
  obtain ⟨_, _, es₂, -, h, hnotices'⟩ := (isSilent_askLedger _).run_bind h
  obtain ⟨_, reply, es₃, -, h, hnotices''⟩ := (isSilent_call rfl).run_bind h
  obtain ⟨rfl, rfl⟩ := run_done.mp h
  exact ⟨hnotices.trans (hnotices'.trans hnotices''), rfl⟩

/-- Two silent scripts that may fail, one behind the other. -/
theorem isSilent_submission_bind {α β : Type} {x : Submission α} {f : α → Submission β}
    (hx : x.run.IsSilent) (hf : ∀ a, (f a).run.IsSilent) : (x >>= f).run.IsSilent := by
  rw [run_bind]
  refine hx.bind fun r => ?_
  cases r with
  | ok a => exact hf a
  | error e => exact isSilent_done _

theorem isSilent_askForForm {path : String} {r : VaultRequest} :
    (askForForm path r).run.IsSilent := by
  refine isSilent_submission_bind ?_ fun a => ?_
  · rw [ask, run_liftM_bind]
    exact (isSilent_call rfl).bind fun _ => isSilent_done _
  · cases a <;> exact isSilent_done _

/-- **Loading a form** tells the user nothing. -/
theorem isSilent_load {path : String} : (load path).run.IsSilent := by
  refine isSilent_submission_bind isSilent_askForForm fun file => ?_
  cases file with
  | none => exact isSilent_done _
  | some file =>
    refine isSilent_submission_bind isSilent_askForForm fun text => ?_
    split
    · exact isSilent_done _
    · split <;> exact isSilent_done _

/-- **Looking for a missing answer** tells the user nothing. -/
theorem isSilent_missing? {form : Form} {values : Bag} {now : LocalMoment} :
    (form.missing? (decode token) values now : Script (Option Field)).IsSilent := by
  have hpasses : PassesOn (decode token) fun {α} (x : Script α) => x.IsSilent :=
    { pure := isSilent_done
      bind := fun hx hf => hx.bind hf
      decode := fun _ => (isSilent_call rfl).bind fun _ => isSilent_done _ }
  exact Form.tested_missing? hpasses

theorem isSilent_launchValues {mode : ButtonMode} {form : Form} :
    (launchValues token mode form).IsSilent := by
  cases mode with
  | submit => exact isSilent_done _
  | openFirst => exact (isSilent_call rfl).bind fun _ => isSilent_done _

/-- A notice is one question. -/
theorem run_notify {message : String} {es : List Event} {u : Unit}
    (h : (notify token message).Run es u) :
    ∃ told, es = [.exchange token (.notify message) told] := by
  obtain ⟨_, reply, _, rfl, hask, hdone⟩ := Script.run_bind.mp h
  obtain ⟨told, _, rfl, hend⟩ := run_ask.mp hask
  obtain ⟨rfl, -⟩ := run_done.mp hdone
  obtain ⟨rfl, -⟩ := run_done.mp hend
  exact ⟨told, rfl⟩

/-- A notice tells what it says. -/
theorem noticesOf_notify {message : String} {es : List Event} {u : Unit}
    (h : (notify token message).Run es u) : noticesOf es = [message] := by
  obtain ⟨told, rfl⟩ := run_notify h
  rfl

/-- The ledger is asked one question. -/
theorem run_askLedger {r : SessionRequest} {es : List Event} {a : r.Answer}
    (h : (askLedger token r).Run es a) :
    ∃ reply : Reply (.session r), es = [.exchange token (.session r) reply] ∧ reply.answer = a := by
  obtain ⟨_, reply, _, rfl, hask, hdone⟩ := Script.run_bind.mp h
  obtain ⟨reply', _, rfl, hend⟩ := run_ask.mp hask
  obtain ⟨rfl, rfl⟩ := run_done.mp hend
  obtain ⟨rfl, rfl⟩ := run_done.mp hdone
  exact ⟨reply, rfl, rfl⟩

/-- **A report** tells of the outcome what there is to tell. -/
theorem noticesOf_report {config : Config} {form : Form} {stage : Stage} {expired : Bool}
    {outcome : Chain.Outcome} {es : List Event} {r : Except SubmitError SubmitStatus}
    (h : (report config token form stage expired outcome).Run es r) :
    noticesOf es = (message? config form stage expired outcome).toList ∧
      r = resultOf outcome := by
  unfold report at h
  split at h
  case h_1 message hm =>
    obtain ⟨es₁, u, es₂, rfl, h₁, h₂⟩ := Script.run_bind.mp h
    obtain ⟨rfl, rfl⟩ := run_done.mp h₂
    rw [List.append_nil, noticesOf_notify h₁, hm]
    exact ⟨rfl, rfl⟩
  case h_2 hm =>
    obtain ⟨rfl, rfl⟩ := run_done.mp h
    rw [hm]
    exact ⟨rfl, rfl⟩

end Parts

/-! ### What launches tell -/

/-- What a launch is answered with, by the result of the form launched. -/
def answerOf : Except SubmitError SubmitStatus → Except ActionError Unit
  | .ok _ => .ok ()
  | .error e => .error (.launched e)

/-- **A submission finds that an answer is lacking**: what happens in it. -/
inductive FindsLack (token : Token) (form : Form) (given : Bag) (field : Field) :
    List Event → Prop where
  /-- Files are decoded for the conditions of fields, and the user is told. -/
  | intro {es : List Event} (look : Reply .look)
    (told : Reply (.notify (SubmitError.missingAnswer field.label).message)) :
    (form.missing? (decode token) (form.withDefaults given) look.now :
      Script (Option Field)).Run es (some field) →
    FindsLack token form given field (.exchange token .look look ::
      (es ++ [.exchange token (.notify (SubmitError.missingAnswer field.label).message) told]))

/-- **A submission carries out the chain of its form**: what happens in the submission, what of it
happens in the chain – with the launches put to the surroundings, and with what these were answered
by –, the outcome of the chain, and whether the deadline of the session is found to have
passed. -/
inductive CarriesOut (config : Config) (form : Form) (given : Bag) (stage : Stage) :
    (events own chain : List Event) → Chain.Outcome → (expired : Bool) → Prop where
  /-- The chain runs under a token and in a session; behind it the ledger is asked whether the
  session has run out of time, the lease is given back, and there is a report. -/
  | intro {token : Token} {lease : Lease} {now : LocalMoment} {seed : Nat} {st' : ChainState}
    {front own chain behind : List Event} {outcome : Chain.Outcome}
    {r : Except SubmitError SubmitStatus} (expiry : Reply (.session (.hasExpired lease.flag)))
    (released : Reply (.session (.release lease.session))) :
    noticesOf front = [] →
    (Chain.execute { form, config, token, session := some lease.session, canLaunch := true }
      form.actions (startState form (form.withDefaults given) now seed)).Run own (outcome, st') →
    (report config token form stage expiry.answer outcome).Run behind r →
    CarriesOut config form given stage
      (front ++ (chain ++ .exchange token (.session (.hasExpired lease.flag)) expiry ::
        .exchange token (.session (.release lease.session)) released :: behind))
      own chain outcome expiry.answer

mutual

/-- **What the launches in a chain tell the user**, by what happens in the chain, where each
launch is a question with a reply, and by what happens where it is answered. -/
inductive LaunchesTell (config : Config) : (own actual : List Event) → List String → Prop where
  /-- Nothing happens any more. -/
  | ended : LaunchesTell config [] [] []
  /-- Whatever is no launch tells nothing. -/
  | passed {e : Event} {own actual : List Event} {told : List String} :
    e.isLaunch = false → LaunchesTell config own actual told →
    LaunchesTell config (e :: own) (e :: actual) told
  /-- A launch tells what it tells, and then the others follow. -/
  | launched {token : Token} {path : String} {mode : ButtonMode} {session : Option SessionId}
    {answer : Except ActionError Unit} {es own actual : List Event} {inner told : List String}
    (look : Reply .look) :
    LaunchTells config token session path mode es answer inner →
    LaunchesTell config own actual told →
    LaunchesTell config
      (.exchange token (.launch path mode session) ⟨answer, look.cancelled, look.now⟩ :: own)
      (es ++ .exchange token .look look :: actual) (inner ++ told)

/-- **What a launch tells the user**, by what happens in it and what it is answered with. -/
inductive LaunchTells (config : Config) : Token → Option SessionId → String → ButtonMode →
    List Event → Except ActionError Unit → List String → Prop where
  /-- Forms launch each other without an end. -/
  | tooDeep {token : Token} {session : Option SessionId} {path : String} {mode : ButtonMode} :
    LaunchTells config token session path mode [] (.error (.launched (.chain .tooDeep))) []
  /-- The form cannot be loaded. -/
  | notLoaded {token : Token} {session : Option SessionId} {path : String} {mode : ButtonMode}
    {es : List Event} {e : SubmitError} :
    (load path).run.Run es (.error e) →
    LaunchTells config token session path mode es (.error (.launched e)) []
  /-- The user cannot fill in the form. -/
  | notFilledIn {token : Token} {session : Option SessionId} {path : String} {mode : ButtonMode}
    {form : Form} {es es' : List Event} {e : ActionError} :
    (load path).run.Run es (.ok form) → (launchValues token mode form).Run es' (.error e) →
    LaunchTells config token session path mode (es ++ es') (.error e) []
  /-- The user turns the form away. -/
  | turnedAway {token : Token} {session : Option SessionId} {path : String} {mode : ButtonMode}
    {form : Form} {es es' : List Event} :
    (load path).run.Run es (.ok form) → (launchValues token mode form).Run es' (.ok none) →
    LaunchTells config token session path mode (es ++ es') (.ok ()) []
  /-- **A required answer is lacking**, and the user is told so. -/
  | lacking {token : Token} {session : Option SessionId} {path : String} {mode : ButtonMode}
    {form : Form} {values : Bag} {field : Field} {es es' es'' : List Event} :
    (load path).run.Run es (.ok form) → (launchValues token mode form).Run es' (.ok (some values)) →
    FindsLack token form values field es'' →
    LaunchTells config token session path mode (es ++ (es' ++ es''))
      (answerOf (.error (.missingAnswer field.label)))
      [(SubmitError.missingAnswer field.label).message]
  /-- The chain of the form is carried out, and tells what its own launches tell. -/
  | carriedOut {token : Token} {session : Option SessionId} {path : String} {mode : ButtonMode}
    {form : Form} {values : Bag} {es es' es'' own chain : List Event} {outcome : Chain.Outcome}
    {expired : Bool} {told : List String} :
    (load path).run.Run es (.ok form) → (launchValues token mode form).Run es' (.ok (some values)) →
    CarriesOut config form values .nested es'' own chain outcome expired →
    LaunchesTell config own chain told →
    LaunchTells config token session path mode (es ++ (es' ++ es''))
      (answerOf (resultOf outcome)) told

end

/-- **What answers launches tells no more than launches do.** -/
def LauncherTells (config : Config) (launcher : Launcher) : Prop :=
  ∀ token path mode session es reply, (launcher token path mode session).Run es reply →
    ∃ es' answer look, es = es' ++ [.exchange token .look look] ∧
      reply = ⟨answer, look.cancelled, look.now⟩ ∧
      LaunchTells config token session path mode es' answer (noticesOf es')

section Launches

variable {config : Config} {launcher : Launcher}

/-- **A script that tells nothing by itself tells what its launches tell.** -/
theorem launchesTell_of_run {α : Type} {x : Script α} (hlauncher : LauncherTells config launcher)
    (hx : ∀ es a, x.Run es a → ∀ e ∈ es, e.notice? = none) {es : List Event} {a : α}
    (h : (x.withLauncher launcher).Run es a) :
    ∃ own, x.Run own a ∧ LaunchesTell config own es (noticesOf es) := by
  induction x generalizing es with
  | done a' =>
    obtain ⟨rfl, rfl⟩ := run_done.mp h
    exact ⟨[], .done _, .ended⟩
  | remark r next ih =>
    obtain ⟨es', rfl, h'⟩ := run_remark.mp h
    obtain ⟨own, hown, htold⟩ := ih (fun es a hrun e he =>
      hx _ a (.remark hrun) e (List.mem_cons_of_mem _ he)) h'
    exact ⟨_, .remark hown, .passed rfl htold⟩
  | ask token c next ih =>
    have hrest (reply : Reply c) (es : List Event) (a : α) (hrun : (next reply).Run es a)
        (e : Event) (he : e ∈ es) : e.notice? = none :=
      hx _ a (.ask reply hrun) e (List.mem_cons_of_mem _ he)
    -- any question but a launch is put to the surroundings as it is
    have hasked (hc : (∃ reply es', es = .exchange token c reply :: es' ∧
        ((next reply).withLauncher launcher).Run es' a)) (hlaunch : ∀ reply : Reply c,
          (Event.exchange token c reply).isLaunch = false) :
        ∃ own, (Script.ask token c next).Run own a ∧
          LaunchesTell config own es (noticesOf es) := by
      obtain ⟨reply, es', rfl, h'⟩ := hc
      obtain ⟨own, hown, htold⟩ := ih reply (hrest reply) h'
      have hquiet : (Event.exchange token c reply).notice? = none :=
        hx _ a (.ask reply hown) _ List.mem_cons_self
      rw [noticesOf, List.filterMap_cons_none hquiet]
      exact ⟨_, .ask reply hown, .passed (hlaunch reply) htold⟩
    cases c with
    | launch path mode session =>
      obtain ⟨es₁, reply, es₂, rfl, h₁, h₂⟩ := Script.run_bind.mp h
      obtain ⟨own, hown, htold⟩ := ih reply (hrest reply) h₂
      obtain ⟨es', answer, look, rfl, rfl, hlaunch⟩ := hlauncher _ _ _ _ _ _ h₁
      refine ⟨_, .ask _ hown, ?_⟩
      rw [List.append_assoc, noticesOf_append]
      exact .launched look hlaunch htold
    | _ => exact hasked (run_ask.mp h) fun _ => rfl

/-- Nothing that happens in a chain by itself tells the user anything. -/
theorem notice?_eq_none_of_execute {s : ChainSetting} {actions : List Action} {st : ChainState}
    (es : List Event) (a : Chain.Outcome × ChainState)
    (h : (Chain.execute s actions st).Run es a) : ∀ e ∈ es, e.notice? = none := by
  obtain ⟨es', rfl, hrun⟩ := run_remark.mp h
  obtain ⟨es₁, ⟨r, st'⟩, _, rfl, hlist, hdone⟩ := Script.run_bind.mp hrun
  obtain ⟨rfl, -⟩ := run_done.mp hdone
  rw [List.append_nil]
  exact List.forall_mem_cons.mpr ⟨rfl, fun e he =>
    ((Chain.happens_of_run hlist).isOf e he).notice?_eq_none⟩

/-- **Carrying out a chain** tells what its launches tell. -/
theorem launchesTell_of_chain (hlauncher : LauncherTells config launcher) {token : Token}
    {id : SessionId} {form : Form} {values : Bag} {now : LocalMoment} {es : List Event}
    {outcome : Chain.Outcome}
    (h : (chain config launcher token id form values now).Run es outcome) :
    ∃ front own actual st' seed, es = front ++ actual ∧ noticesOf front = [] ∧
      (Chain.execute { form, config, token, session := some id, canLaunch := true } form.actions
        (startState form values now seed)).Run own (outcome, st') ∧
      LaunchesTell config own actual (noticesOf actual) := by
  obtain ⟨front, draw, es', rfl, hdraw, h⟩ := Script.run_bind.mp h
  obtain ⟨es₁, ⟨outcome', st'⟩, _, rfl, hrun, hdone⟩ := Script.run_bind.mp h
  obtain ⟨rfl, rfl⟩ := run_done.mp hdone
  obtain ⟨own, hown, htold⟩ := launchesTell_of_run hlauncher notice?_eq_none_of_execute hrun
  rw [List.append_nil]
  exact ⟨front, own, es₁, st', draw.answer, rfl, isSilent_call rfl _ _ hdraw, hown, htold⟩

end Launches

/-! ### What submissions tell -/

/-- **What a submission tells the user**, by what happens in it and its result: first what the
launches in it tell, then how it has ended. -/
inductive Tells (config : Config) (form : Form) (given : Bag) (options : SubmitOptions)
    (token : Token) :
    List Event → Except SubmitError SubmitStatus → List String → Prop where
  /-- A required answer is lacking. -/
  | lacking {field : Field} {es : List Event} :
    FindsLack token form given field es →
    Tells config form given options token es (.error (.missingAnswer field.label))
      [(SubmitError.missingAnswer field.label).message]
  /-- The chain goes on behind the user's back. -/
  | movedAway {es : List Event} : form.inBackground = true → options.nested = false →
    Tells config form given options token es (.ok .backgrounded) []
  /-- The chain is carried out. -/
  | carriedOut {es own chain : List Event} {outcome : Chain.Outcome} {expired : Bool}
    {inner : List String} :
    CarriesOut config form given (if options.nested then .nested else .foreground) es own chain
      outcome expired →
    LaunchesTell config own chain inner →
    Tells config form given options token es (resultOf outcome) (inner ++
      (message? config form (if options.nested then .nested else .foreground) expired
        outcome).toList)

section Submissions

variable {config : Config} {launcher : Launcher} {form : Form} {given : Bag}
  {options : SubmitOptions} {es : List Event} {r : Except SubmitError SubmitStatus}

/-- In front of the user or inside another chain, the chain is carried out. -/
theorem carriesOut_of_foreground (hlauncher : LauncherTells config launcher) {token : Token}
    {lease : Lease} {now : LocalMoment}
    (h : (foreground config launcher token lease form (form.withDefaults given) options.nested
      now).Run es r) {before : List Event} (hbefore : noticesOf before = []) :
    ∃ own chain outcome expired inner,
      CarriesOut config form given (if options.nested then .nested else .foreground)
        (before ++ es) own chain outcome expired ∧
      LaunchesTell config own chain inner ∧ r = resultOf outcome ∧
      noticesOf es = inner ++ (message? config form
        (if options.nested then .nested else .foreground) expired outcome).toList := by
  obtain ⟨es₁, outcome, es₂, rfl, hchain, hend⟩ := Script.run_bind.mp h
  obtain ⟨front, own, actual, st', seed, rfl, hfront, hown, hinner⟩ :=
    launchesTell_of_chain hlauncher hchain
  obtain ⟨es₃, expired, es₄, rfl, hexpired, hend⟩ := Script.run_bind.mp hend
  obtain ⟨es₅, u, behind, rfl, hreleased, hreport⟩ := Script.run_bind.mp hend
  obtain ⟨expiry, rfl, rfl⟩ := run_askLedger hexpired
  obtain ⟨released, rfl, -⟩ := run_askLedger hreleased
  obtain ⟨htold, rfl⟩ := noticesOf_report hreport
  refine ⟨own, actual, outcome, expiry.answer, _, ?_, hinner, rfl, ?_⟩
  · have hquiet : noticesOf (before ++ front) = [] := by
      rw [noticesOf_append, hbefore, hfront, List.append_nil]
    have h : CarriesOut config form given _ _ own actual outcome expiry.answer :=
      .intro expiry released hquiet hown hreport
    simpa only [List.append_assoc, List.cons_append, List.nil_append] using h
  · simp only [noticesOf_append, hfront, htold, List.nil_append]
    rfl

/-- **A submission tells what its launches tell, and how it has ended.** -/
theorem tells_of_submitWithin (hlauncher : LauncherTells config launcher)
    {parent : Option ParentChain}
    (h : (submitWithin config launcher form given options parent).run.Run es r) :
    Tells config form given options ((parent.map (·.token)).getD 0) es r (noticesOf es) := by
  unfold submitWithin at h
  rw [run_liftM_bind] at h
  obtain ⟨_, look, es', rfl, hlook, hrest⟩ := Script.run_bind.mp h
  obtain ⟨_, _, rfl, hend⟩ := run_ask.mp hlook
  obtain ⟨rfl, rfl⟩ := run_done.mp hend
  rw [run_liftM_bind] at hrest
  obtain ⟨tests, lacking, es', rfl, htests, hrest⟩ := Script.run_bind.mp hrest
  -- whatever follows, it is told behind the look and the files
  rw [← List.append_assoc]
  have hquiet : noticesOf ([.exchange ((parent.map (·.token)).getD 0) .look look] ++ tests) = [] :=
    (List.filterMap_cons_none rfl).trans (isSilent_missing? _ _ htests)
  split at hrest
  case h_1 field =>
    rw [run_liftM_bind] at hrest
    obtain ⟨es₁, u, es₂, rfl, hnotify, hdone⟩ := Script.run_bind.mp hrest
    obtain ⟨rfl, rfl⟩ := run_done.mp hdone
    obtain ⟨told, rfl⟩ := run_notify hnotify
    rw [List.append_nil, noticesOf_append, hquiet]
    exact .lacking (.intro look told htests)
  case h_2 =>
    rw [run_liftM_bind] at hrest
    obtain ⟨es₂, lease, es₃, rfl, hlease, hrest⟩ := Script.run_bind.mp hrest
    have hbefore : noticesOf ([.exchange ((parent.map (·.token)).getD 0) .look look] ++ tests ++
        es₂) = [] := by
      rw [noticesOf_append, hquiet, isSilent_takeLease _ _ hlease, List.append_nil]
    rw [← List.append_assoc]
    split at hrest
    case isTrue haway =>
      rw [run_liftM] at hrest
      rw [Bool.and_eq_true, Bool.not_eq_true'] at haway
      obtain ⟨es₄, status, _, rfl, hmove, hdone⟩ := Script.run_bind.mp hrest
      obtain ⟨rfl, rfl⟩ := run_done.mp hdone
      obtain ⟨hnotices, rfl⟩ := run_moveAway hmove
      rw [noticesOf_append, hbefore, List.append_nil, hnotices]
      exact .movedAway haway.1 haway.2
    case isFalse =>
      obtain ⟨own, chain, outcome, expired, inner, hcarries, hinner, rfl, hnotices⟩ :=
        carriesOut_of_foreground hlauncher hrest hbefore
      rw [noticesOf_append, hbefore, hnotices]
      exact .carriedOut hcarries hinner

/-- **A form that is launched tells nothing of how it has ended**, but for a required answer
that is lacking. -/
theorem launchTells_of_tells {token : Token} {session : Option SessionId} {path : String}
    {mode : ButtonMode} {values : Bag} {es₁ es₂ : List Event} {told : List String}
    (hload : (load path).run.Run es₁ (.ok form))
    (hvalues : (launchValues token mode form).Run es₂ (.ok (some values)))
    (h : Tells config form values { nested := true } token es r told) :
    LaunchTells config token session path mode (es₁ ++ (es₂ ++ es)) (answerOf r) told := by
  cases h with
  | lacking hlack => exact .lacking hload hvalues hlack
  | movedAway _ hnested => cases hnested
  | @carriedOut _ _ _ outcome _ _ hcarries hinner =>
    have hquiet {expired : Bool} : message? config form .nested expired outcome = none := by
      cases outcome <;> rfl
    rw [if_pos rfl, hquiet, Option.toList_none, List.append_nil]
    exact .carriedOut hload hvalues hcarries hinner

theorem launchTells_of_launchForm (hlauncher : LauncherTells config launcher) {path : String}
    {mode : ButtonMode} {parent : ParentChain} {answer : Except ActionError Unit}
    (h : (launchForm config launcher path mode parent).Run es answer) :
    LaunchTells config parent.token parent.session path mode es answer (noticesOf es) := by
  obtain ⟨es₁, loaded, es₂, rfl, hload, h⟩ := Script.run_bind.mp h
  rw [noticesOf_append, isSilent_load _ _ hload, List.nil_append]
  cases loaded with
  | error e =>
    obtain ⟨rfl, rfl⟩ := run_done.mp h
    rw [List.append_nil]
    exact .notLoaded hload
  | ok form =>
    obtain ⟨es₃, values, es₄, rfl, hvalues, h⟩ := Script.run_bind.mp h
    rw [noticesOf_append, isSilent_launchValues _ _ hvalues, List.nil_append]
    rcases values with e | _ | values
    · obtain ⟨rfl, rfl⟩ := run_done.mp h
      rw [List.append_nil]
      exact .notFilledIn hload hvalues
    · obtain ⟨rfl, rfl⟩ := run_done.mp h
      rw [List.append_nil]
      exact .turnedAway hload hvalues
    · obtain ⟨es₅, r, es₆, rfl, hsubmit, h⟩ := Script.run_bind.mp h
      have htold : LaunchTells config parent.token parent.session path mode _ _ _ :=
        launchTells_of_tells hload hvalues (tells_of_submitWithin hlauncher hsubmit)
      cases r with
      | ok status =>
        obtain ⟨rfl, rfl⟩ := run_done.mp h
        rwa [List.append_nil]
      | error e =>
        obtain ⟨rfl, rfl⟩ := run_done.mp h
        rwa [List.append_nil]

/-- **Launches tell what launches tell**, by induction on how deep forms may launch each
other. -/
theorem launcherTells_launcherOfDepth (config : Config) (depth : Nat) :
    LauncherTells config (launcherOfDepth config depth) := by
  induction depth with
  | zero =>
    intro token path mode session es reply h
    obtain ⟨look, es', rfl, hend⟩ := run_ask.mp h
    obtain ⟨rfl, rfl⟩ := run_done.mp hend
    exact ⟨[], _, look, rfl, rfl, .tooDeep⟩
  | succ depth ih =>
    intro token path mode session es reply h
    obtain ⟨es₁, answer, es₂, rfl, hlaunch, hlook⟩ := Script.run_bind.mp h
    obtain ⟨look, es', rfl, hend⟩ := run_ask.mp hlook
    obtain ⟨rfl, rfl⟩ := run_done.mp hend
    exact ⟨es₁, answer, look, rfl, rfl, launchTells_of_launchForm ih hlaunch⟩

end Submissions

/-! ### Submissions in front of the user -/

/-- **What a submission in front of the user tells of itself**, by its result. -/
def ownNotices (config : Config) (form : Form) (expired : Bool) :
    Except SubmitError SubmitStatus → List String
  | .ok .completed => if form.quiet then [] else [successMessage form]
  | .ok .aborted => if config.notifyOnAbort then [abortMessage expired] else []
  | .ok .backgrounded => []
  | .error e => [e.message]

/-- An outcome is reported in front of the user as the result says. -/
theorem message?_foreground {config : Config} {form : Form} {expired : Bool}
    {outcome : Chain.Outcome} : (message? config form .foreground expired outcome).toList =
      ownNotices config form expired (resultOf outcome) := by
  cases outcome with
  | completed =>
    simp only [message?, resultOf, ownNotices]
    cases form.quiet <;> rfl
  | aborted =>
    simp only [message?, resultOf, ownNotices]
    cases config.notifyOnAbort <;> rfl
  | failed e => rfl

/-- **What the user is told.** Whatever the surroundings do, a submission in front of the
user, of a form whose chain stays there, tells how it has ended, exactly once and last of
all. Either a required answer is lacking, and nothing else is told; or the chain is carried out,
and all that is told before is told by the launches in it, whose results and answers
to required fields say what it is. -/
theorem submit_notices (config : Config) (form : Form) (given : Bag) (options : SubmitOptions)
    (b : Behaviour) (before : List Event) :
    let form := { form with inBackground := false }
    let (events, result) :=
      (submit config form given { options with nested := false }).run.under b before
    result ≠ .ok .backgrounded ∧ ∃ inner expired,
      noticesOf events = inner ++ ownNotices config form expired result ∧
      ((inner = [] ∧ ∃ field, FindsLack 0 form given field events ∧
          result = .error (.missingAnswer field.label)) ∨
        ∃ own chain outcome, CarriesOut config form given .foreground events own chain outcome
            expired ∧
          result = resultOf outcome ∧ LaunchesTell config own chain inner) := by
  intro form'
  have hrun := Script.run_under b
    (submit config form' given { options with nested := false }).run before
  generalize (submit config form' given { options with nested := false }).run.under b before =
    run at hrun
  obtain ⟨events, result⟩ := run
  have htold := tells_of_submitWithin (launcherTells_launcherOfDepth config config.reach) hrun
  dsimp only at htold ⊢
  generalize noticesOf events = told at htold ⊢
  cases htold with
  | lacking hlack => exact ⟨nofun, [], false, rfl, Or.inl ⟨rfl, _, hlack, rfl⟩⟩
  | movedAway haway => cases haway
  | @carriedOut _ own chain outcome expired inner hcarries hinner =>
    rw [if_neg nofun] at hcarries
    refine ⟨by cases outcome <;> nofun, inner, expired, ?_,
      Or.inr ⟨own, chain, outcome, hcarries, rfl, hinner⟩⟩
    rw [if_neg nofun, message?_foreground]

/-- Surroundings in which every file holds a form that asks for a title. -/
noncomputable def askingForTitle : Behaviour := fun _ _ c =>
  match c with
  | .vault (.find path) => ⟨.ok (some path), false, default⟩
  | .vault (.read _) => ⟨.ok ("\x7b\"fields\": [\x7b\"id\": \"title\", " ++
      "\"label\": \"Title\", \"required\": true\x7d]\x7d"), false, default⟩
  | .look => ⟨(), false, default⟩
  | .decode file => ⟨file.fileText?, false, default⟩
  | .draw => ⟨0, false, default⟩
  | .session (.start ..) => ⟨⟨1, 1, 1, false⟩, false, default⟩
  | .session (.hasExpired _) => ⟨false, false, default⟩
  | _ => Classical.choice inferInstance

/-- A form launched by an action asks for an answer that is not given. The user is told so by
the launched form, and once more as the action fails with it. -/
theorem submit_tells_twice :
    noticesOf ((submit {} { actions := [.button { id := "launch" } "child.json" .submit] } []
      {}).run.under askingForTitle []).1 =
    ["required field 'Title' is empty",
      "action 'launch' (button) failed: nested form failed: required field 'Title' is empty"] := by
  decide +kernel

end Submission

end FormChain
