import FormChain.Proofs.Chain.Breaks
import FormChain.Proofs.Submission.Notices

/-!
# Chains inside chains

A form that is launched from within a chain is a submission, and the chain of the form runs
where the launching chain puts a single question. What happens in all is therefore what
happens in the launching chain by itself, with each launch put in for the question that
stands for it (`FormChain.Submission.Played`).

The two chains share their token and nothing else: how the inner one ends is told the outer
one by the answer to the question, `FormChain.Submission.answerOf`, and in no other way. A
chain that was ended by a break has ended well, so the answer is that all is well, and the
list behind the launch goes on.

Main statement: `FormChain.Submission.break_ends_innermost_loop`, on what a break ends and
what it does not.
-/

namespace FormChain

/-- Whether the chain of a form starts. -/
def Event.startsChain : Event → Bool
  | .remark (.entered ..) => true
  | _ => false

namespace Script

variable {α β : Type}

/-! ### Scripts that carry out no chain -/

/-- **A script that makes no remark**, whatever is replied. All that is told of the progress of
a chain is told by remarks, the first of which says that it starts. -/
def Unremarkable : Script α → Prop
  | .done _ => True
  | .remark .. => False
  | .ask _ c next => ∀ reply : Reply c, (next reply).Unremarkable

theorem Unremarkable.bind {x : Script α} {f : α → Script β} (hx : x.Unremarkable)
    (hf : ∀ a, (f a).Unremarkable) : (x.bind f).Unremarkable := by
  induction x with
  | done a => exact hf a
  | remark => exact hx.elim
  | ask token c next ih => exact fun reply => ih reply (hx reply)

theorem unremarkable_call {token : Token} {c : Call} : (call token c).Unremarkable :=
  fun _ => trivial

/-- No chain starts in a script that makes no remark. -/
theorem Unremarkable.startsChain_eq_false {x : Script α} {es : List Event} {a : α}
    (hx : x.Unremarkable) (h : x.Run es a) : ∀ e ∈ es, e.startsChain = false := by
  induction h with
  | done => exact List.forall_mem_nil _
  | remark => exact hx.elim
  | ask reply _ ih => exact List.forall_mem_cons.mpr ⟨rfl, ih (hx reply)⟩

end Script

namespace Submission

open Script

section Parts

variable {token : Token}

theorem unremarkable_askLedger (r : SessionRequest) : (askLedger token r).Unremarkable :=
  unremarkable_call.bind fun _ => trivial

theorem unremarkable_takeLease {config : Config} {form : Form} {options : SubmitOptions}
    {parent : Option ParentChain} :
    (takeLease config token form options parent).Unremarkable := by
  unfold takeLease
  split
  · exact unremarkable_askLedger _
  · refine (unremarkable_askLedger _).bind fun joined => ?_
    cases joined with
    | none => exact unremarkable_askLedger _
    | some lease => trivial

theorem unremarkable_missing? {form : Form} {values : Bag} {now : LocalMoment} :
    (form.missing? (decode token) values now : Script (Option Field)).Unremarkable := by
  have hpasses : PassesOn (decode token) fun {α} (x : Script α) => x.Unremarkable :=
    { pure := fun _ => trivial
      bind := fun hx hf => hx.bind hf
      decode := fun _ => unremarkable_call.bind fun _ => trivial }
  exact Form.tested_missing? hpasses

theorem unremarkable_notify {message : String} : (notify token message).Unremarkable :=
  unremarkable_call.bind fun _ => trivial

theorem unremarkable_moveAway {lease : Lease} {form : Form} {values : Bag} :
    (moveAway lease form values).Unremarkable :=
  (unremarkable_askLedger _).bind fun _ => (unremarkable_askLedger _).bind fun _ =>
    unremarkable_call.bind fun _ => trivial

theorem unremarkable_report {config : Config} {form : Form} {stage : Stage} {expired : Bool}
    {outcome : Chain.Outcome} :
    (report config token form stage expired outcome).Unremarkable := by
  unfold report
  split
  · exact unremarkable_notify.bind fun _ => trivial
  · trivial

theorem unremarkable_submission_bind {α β : Type} {x : Submission α} {f : α → Submission β}
    (hx : x.run.Unremarkable) (hf : ∀ a, (f a).run.Unremarkable) :
    (x >>= f).run.Unremarkable := by
  rw [run_bind]
  refine hx.bind fun r => ?_
  cases r with
  | ok a => exact hf a
  | error e => trivial

theorem unremarkable_askForForm {path : String} {r : VaultRequest} :
    (askForForm path r).run.Unremarkable := by
  refine unremarkable_submission_bind ?_ fun a => ?_
  · rw [ask, run_liftM_bind]
    exact unremarkable_call.bind fun _ => trivial
  · cases a <;> trivial

theorem unremarkable_load {path : String} : (load path).run.Unremarkable := by
  refine unremarkable_submission_bind unremarkable_askForForm fun file => ?_
  cases file with
  | none => trivial
  | some file =>
    refine unremarkable_submission_bind unremarkable_askForForm fun text => ?_
    split
    · trivial
    · split <;> trivial

theorem unremarkable_launchValues {mode : ButtonMode} {form : Form} :
    (launchValues token mode form).Unremarkable := by
  cases mode with
  | submit => trivial
  | openFirst => exact unremarkable_call.bind fun _ => trivial

end Parts

/-! ### Launches carried out -/

/-- **What happens in a script by itself, and what happens in all**, where each launch is
carried out by what answers it. -/
inductive Played (launcher : Launcher) : List Event → List Event → Prop where
  /-- Nothing happens any more. -/
  | ended : Played launcher [] []
  /-- Whatever is no launch happens as it is. -/
  | passed {e : Event} {own es : List Event} :
    e.isLaunch = false → Played launcher own es → Played launcher (e :: own) (e :: es)
  /-- A launch is carried out, and the reply is what comes of it. -/
  | launched {token : Token} {path : String} {mode : ButtonMode} {session : Option SessionId}
    {reply : Reply (.launch path mode session)} {inner own es : List Event} :
    (launcher token path mode session).Run inner reply → Played launcher own es →
    Played launcher (.exchange token (.launch path mode session) reply :: own) (inner ++ es)

/-- **A run with its launches carried out** is one of the script by itself, with these put
in. -/
theorem played_of_run {α : Type} {launcher : Launcher} {x : Script α} {es : List Event} {a : α}
    (h : (x.withLauncher launcher).Run es a) : ∃ own, x.Run own a ∧ Played launcher own es := by
  induction x generalizing es with
  | done a' =>
    obtain ⟨rfl, rfl⟩ := run_done.mp h
    exact ⟨[], .done _, .ended⟩
  | remark r next ih =>
    obtain ⟨es', rfl, h'⟩ := run_remark.mp h
    obtain ⟨own, hown, hplayed⟩ := ih h'
    exact ⟨_, .remark hown, .passed rfl hplayed⟩
  | ask token c next ih =>
    -- any question but a launch is put to the surroundings as it is
    have hasked (hc : ∃ reply es', es = .exchange token c reply :: es' ∧
        ((next reply).withLauncher launcher).Run es' a) (hlaunch : ∀ reply : Reply c,
          (Event.exchange token c reply).isLaunch = false) :
        ∃ own, (Script.ask token c next).Run own a ∧ Played launcher own es := by
      obtain ⟨reply, es', rfl, h'⟩ := hc
      obtain ⟨own, hown, hplayed⟩ := ih reply h'
      exact ⟨_, .ask reply hown, .passed (hlaunch reply) hplayed⟩
    cases c with
    | launch path mode session =>
      obtain ⟨inner, reply, es', rfl, hinner, h'⟩ := Script.run_bind.mp h
      obtain ⟨own, hown, hplayed⟩ := ih reply h'
      exact ⟨_, .ask reply hown, .launched hinner hplayed⟩
    | _ => exact hasked (run_ask.mp h) fun _ => rfl

/-! ### Chains carried out -/

/-- **A chain is carried out among some events**, and comes to an outcome: nothing but it starts
a chain there, except for what its own launches hold. -/
def HoldsChain (launcher : Launcher) (es : List Event) (outcome : Chain.Outcome) : Prop :=
  ∃ front mid back s st own st', es = front ++ mid ++ back ∧
    (∀ e ∈ front ++ back, e.startsChain = false) ∧
    (Chain.execute s s.form.actions st).Run own (outcome, st') ∧ Played launcher own mid

section Holding

variable {launcher : Launcher} {es es' : List Event} {outcome : Chain.Outcome}

/-- Some events in front, among which no chain starts. -/
theorem HoldsChain.behind (h : HoldsChain launcher es' outcome)
    (hes : ∀ e ∈ es, e.startsChain = false) : HoldsChain launcher (es ++ es') outcome := by
  obtain ⟨front, mid, back, s, st, own, st', rfl, hquiet, hrun, hplayed⟩ := h
  refine ⟨es ++ front, mid, back, s, st, own, st', by simp, ?_, hrun, hplayed⟩
  rw [List.append_assoc]
  exact List.forall_mem_append.mpr ⟨hes, hquiet⟩

/-- Some events behind, among which no chain starts. -/
theorem HoldsChain.ahead (h : HoldsChain launcher es outcome)
    (hes : ∀ e ∈ es', e.startsChain = false) : HoldsChain launcher (es ++ es') outcome := by
  obtain ⟨front, mid, back, s, st, own, st', rfl, hquiet, hrun, hplayed⟩ := h
  refine ⟨front, mid, back ++ es', s, st, own, st', by simp, ?_, hrun, hplayed⟩
  rw [← List.append_assoc]
  exact List.forall_mem_append.mpr ⟨hquiet, hes⟩

variable {config : Config} {token : Token} {form : Form} {values : Bag}

theorem holdsChain_of_chain {session : SessionId} {now : LocalMoment}
    (h : (chain config launcher token session form values now).Run es outcome) :
    HoldsChain launcher es outcome := by
  obtain ⟨es₁, draw, es₂, rfl, hdraw, h⟩ := Script.run_bind.mp h
  obtain ⟨mid, ⟨outcome', st'⟩, _, rfl, hrun, hdone⟩ := Script.run_bind.mp h
  obtain ⟨rfl, rfl⟩ := run_done.mp hdone
  obtain ⟨own, hown, hplayed⟩ := played_of_run hrun
  refine ⟨es₁, mid, [], _, _, own, st', by simp, ?_, hown, hplayed⟩
  rw [List.append_nil]
  exact unremarkable_call.startsChain_eq_false hdraw

theorem holdsChain_of_foreground {lease : Lease} {nested : Bool} {now : LocalMoment}
    {r : Except SubmitError SubmitStatus}
    (h : (foreground config launcher token lease form values nested now).Run es r) :
    ∃ outcome, HoldsChain launcher es outcome ∧ r = resultOf outcome := by
  obtain ⟨es₁, outcome, es₂, rfl, hchain, h⟩ := Script.run_bind.mp h
  obtain ⟨es₃, expired, es₄, rfl, hexpired, h⟩ := Script.run_bind.mp h
  obtain ⟨es₅, _, es₆, rfl, hrelease, hreport⟩ := Script.run_bind.mp h
  refine ⟨outcome, (holdsChain_of_chain hchain).ahead ?_, (noticesOf_report hreport).2⟩
  have hexpired' := (unremarkable_askLedger _).startsChain_eq_false hexpired
  have hrelease' := (unremarkable_askLedger _).startsChain_eq_false hrelease
  have hreport' := unremarkable_report.startsChain_eq_false hreport
  exact List.forall_mem_append.mpr ⟨hexpired', List.forall_mem_append.mpr ⟨hrelease', hreport'⟩⟩

/-- **A submission carries out one chain, or none**, and where it does, the outcome of the chain
is its result. -/
theorem holdsChain_of_submitWithin {options : SubmitOptions} {parent : Option ParentChain}
    {r : Except SubmitError SubmitStatus}
    (h : (submitWithin config launcher form values options parent).run.Run es r) :
    (∀ e ∈ es, e.startsChain = false) ∨
      ∃ outcome, HoldsChain launcher es outcome ∧ r = resultOf outcome := by
  unfold submitWithin at h
  rw [run_liftM_bind] at h
  obtain ⟨es₁, look, es₂, rfl, hlook, h⟩ := Script.run_bind.mp h
  have hlook' := unremarkable_call.startsChain_eq_false hlook
  rw [run_liftM_bind] at h
  obtain ⟨tests, lacking, es₂, rfl, htests, h⟩ := Script.run_bind.mp h
  have htests' := unremarkable_missing?.startsChain_eq_false htests
  have hfront := List.forall_mem_append.mpr ⟨hlook', htests'⟩
  rw [← List.append_assoc]
  split at h
  case h_1 field =>
    rw [run_liftM_bind] at h
    refine Or.inl (List.forall_mem_append.mpr ⟨hfront, ?_⟩)
    refine Unremarkable.startsChain_eq_false ?_ h
    exact unremarkable_notify.bind fun _ => trivial
  case h_2 =>
    rw [run_liftM_bind] at h
    obtain ⟨es₃, lease, es₄, rfl, hlease, h⟩ := Script.run_bind.mp h
    have hlease' := unremarkable_takeLease.startsChain_eq_false hlease
    split at h
    case isTrue =>
      rw [run_liftM] at h
      have haway : ∀ e ∈ es₄, e.startsChain = false := by
        refine Unremarkable.startsChain_eq_false ?_ h
        exact unremarkable_moveAway.bind fun _ => trivial
      exact Or.inl (List.forall_mem_append.mpr
        ⟨hfront, List.forall_mem_append.mpr ⟨hlease', haway⟩⟩)
    case isFalse =>
      obtain ⟨outcome, hholds, hr⟩ := holdsChain_of_foreground h
      exact Or.inr ⟨outcome, (hholds.behind hlease').behind hfront, hr⟩

/-- **A launch carries out one chain, or none**, and where it does, its answer is what the
outcome of the chain comes to. -/
theorem holdsChain_of_launch {depth : Nat} {path : String} {mode : ButtonMode}
    {session : Option SessionId} {reply : Reply (.launch path mode session)}
    (h : (launcherOfDepth config (depth + 1) token path mode session).Run es reply) :
    (∀ e ∈ es, e.startsChain = false) ∨ ∃ outcome,
      HoldsChain (launcherOfDepth config depth) es outcome ∧
        reply.answer = answerOf (resultOf outcome) := by
  obtain ⟨es₁, answer, es₂, rfl, hlaunch, h⟩ := Script.run_bind.mp h
  obtain ⟨es₃, look, es₄, rfl, hlook, hdone⟩ := Script.run_bind.mp h
  obtain ⟨rfl, rfl⟩ := run_done.mp hdone
  rw [List.append_nil]
  have hlook' := unremarkable_call.startsChain_eq_false hlook
  suffices hform : (∀ e ∈ es₁, e.startsChain = false) ∨ ∃ outcome,
      HoldsChain (launcherOfDepth config depth) es₁ outcome ∧
        answer = answerOf (resultOf outcome) by
    rcases hform with hquiet | ⟨outcome, hholds, hanswer⟩
    · exact Or.inl (List.forall_mem_append.mpr ⟨hquiet, hlook'⟩)
    · exact Or.inr ⟨outcome, hholds.ahead hlook', hanswer⟩
  obtain ⟨es₅, loaded, es₆, rfl, hload, h⟩ := Script.run_bind.mp hlaunch
  have hload' := unremarkable_load.startsChain_eq_false hload
  cases loaded with
  | error e =>
    obtain ⟨rfl, rfl⟩ := run_done.mp h
    rw [List.append_nil]
    exact Or.inl hload'
  | ok form =>
    obtain ⟨es₇, values, es₈, rfl, hvalues, h⟩ := Script.run_bind.mp h
    have hvalues' := unremarkable_launchValues.startsChain_eq_false hvalues
    have hfront := List.forall_mem_append.mpr ⟨hload', hvalues'⟩
    rw [← List.append_assoc]
    rcases values with e | _ | values
    · obtain ⟨rfl, rfl⟩ := run_done.mp h
      rw [List.append_nil]
      exact Or.inl hfront
    · obtain ⟨rfl, rfl⟩ := run_done.mp h
      rw [List.append_nil]
      exact Or.inl hfront
    · obtain ⟨es₉, r, es₁₀, rfl, hsubmit, h⟩ := Script.run_bind.mp h
      have hanswer : es₁₀ = [] ∧ answer = answerOf r := by
        cases r with
        | ok status => exact run_done.mp h
        | error e => exact run_done.mp h
      obtain ⟨rfl, rfl⟩ := hanswer
      rw [List.append_nil]
      rcases holdsChain_of_submitWithin hsubmit with hquiet | ⟨outcome, hholds, rfl⟩
      · exact Or.inl (List.forall_mem_append.mpr ⟨hfront, hquiet⟩)
      · exact Or.inr ⟨outcome, hholds.behind hfront, rfl⟩

end Holding

/-! ### What a break ends -/

/-- **A break ends the innermost loop.** Whatever the surroundings do:

* a loop never ends in a break itself;
* a break ends the innermost loop that it stands in, behind which the run goes on, or the whole
  chain where there is none; and behind an action whose launch is answered the list goes on;
* a launch carries out one chain or none, and where a break stands outside of every loop of that
  chain, the launch is answered by all being well. -/
theorem break_ends_innermost_loop (config : Config) (b : Behaviour) (before : List Event) :
    (∀ s depth strategy head plan body st,
      ((Chain.effect s (Chain.runDepth s depth) strategy (.loop head plan body) st).under b
        before).2.1 ≠ .ok .leave) ∧
    (∀ s actions st,
      let (events, outcome, _) := (Chain.execute s actions st).under b before
      ∀ front a n st₁ back, events = front ++ .remark (.attempt a n st₁) :: back →
        (∀ head, a = .leave head →
          Chain.BreaksOut s actions st outcome front head n st₁ back) ∧
        (∀ head path mode, a = .button head path mode →
          Chain.GoesOn s actions st outcome front a n st₁ back)) ∧
    ∀ depth token path mode session,
      let (events, reply) :=
        (launcherOfDepth config (depth + 1) token path mode session).under b before
      (∀ e ∈ events, e.startsChain = false) ∨
        ∃ front mid back s st own outcome st', events = front ++ mid ++ back ∧
          (Chain.execute s s.form.actions st).Run own (outcome, st') ∧
          Played (launcherOfDepth config depth) own mid ∧
          reply.answer = answerOf (resultOf outcome) ∧
          ∀ front head n st₁ back, own = front ++ .remark (.attempt (.leave head) n st₁) :: back →
            ∃ outward rest, Chain.ComesTo s s.form.actions st front outward
                (.attempt (.leave head) rest n) st₁ ∧
              ((∀ c ∈ outward, c.action.isLoop = false) → reply.answer = .ok ()) := by
  refine ⟨?_, ?_, ?_⟩
  · intro s depth strategy head plan body st hleave
    have hrun := Script.run_under b
      (Chain.effect s (Chain.runDepth s depth) strategy (.loop head plan body) st) before
    generalize (Chain.effect s (Chain.runDepth s depth) strategy (.loop head plan body) st).under b
      before = run at hrun hleave
    obtain ⟨events, r, st'⟩ := run
    obtain rfl : r = .ok .leave := hleave
    have h := Chain.happens_of_effect (Chain.listsKeep s depth) hrun
    exact absurd h.next_of_loop nofun
  · intro s actions st
    have hrun := Script.run_under b (Chain.execute s actions st) before
    generalize (Chain.execute s actions st).under b before = run at hrun
    obtain ⟨events, outcome, st'⟩ := run
    intro front a n st₁ back hevents
    constructor
    · rintro head rfl
      exact Chain.breaksOut_of_run hrun hevents
    · rintro head path mode rfl
      exact Chain.goesOn_of_run hrun hevents
  · intro depth token path mode session
    have hrun := Script.run_under b
      (launcherOfDepth config (depth + 1) token path mode session) before
    generalize (launcherOfDepth config (depth + 1) token path mode session).under b before = run
      at hrun
    obtain ⟨events, reply⟩ := run
    refine (holdsChain_of_launch hrun).imp_right ?_
    rintro ⟨outcome, ⟨front, mid, back, s, st, own, st', rfl, -, hown, hplayed⟩, hanswer⟩
    refine ⟨front, mid, back, s, st, own, outcome, st', rfl, hown, hplayed, hanswer, ?_⟩
    intro front head n st₁ back hes
    obtain ⟨outward, rest, look, more, hcomes, -, hends⟩ := Chain.breaksOut_of_run hown hes
    refine ⟨outward, rest, hcomes, fun hloop => ?_⟩
    have houtcome : outcome = .aborted ∨ outcome = .completed := by
      split at hends
      case isTrue => exact Or.inl hends.2
      case isFalse =>
        rw [(hends.1 hloop).2]
        split
        case isTrue => exact Or.inl rfl
        case isFalse => exact Or.inr rfl
    rw [hanswer]
    rcases houtcome with rfl | rfl <;> rfl

end Submission

end FormChain
