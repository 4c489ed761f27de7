import FormChain.Proofs.Session.Armed
import FormChain.Proofs.Session.Custody

/-!
# Deadlines

A session that is started with a timeout in a runtime is cut off after that time, if it
still lives by then and its token is not cancelled yet. Here a clock is added to the ledger
and the leases on it: time passes, though never beyond the moment for which a task waits; by
then the task is woken, before or behind whatever else is done at that moment. It may be woken
at any time before, too, and find that it is over or that its time has not come.

A step is described once, by what it comes to (`FormChain.Timeline.Outcome`): it leaves
tokens and deadlines alone, starts a session, cancels a token, wakes a task, or lets time pass.

Main statement: which tokens are cancelled, which flags are set, and which deadlines are
still to come, told from the steps that were done (`FormChain.Timeline.run_keeps_time`).
-/

namespace FormChain

/-! ### Time -/

/-- **Leases, the ledger and a clock.** -/
structure Timeline where
  /-- The leases and the ledger. -/
  custody : Custody := {}
  /-- What the clock shows, in milliseconds. -/
  now : Nat := 0

/-- **What can be done in the course of time.** -/
inductive TimedStep where
  /-- Start a session, or join the active one, in a runtime or outside of any. -/
  | start (inRuntime : Bool) (timeout : Timeout) (mayJoin : Bool)
  /-- Join a session. -/
  | join (id : SessionId)
  /-- Hold the session of a foreground lease for work behind the user's back. -/
  | hold (n : Nat)
  /-- Give a lease back. -/
  | giveBack (n : Nat)
  /-- Cancel the token of a lease that was handed out, whether it is still held or not. -/
  | cancel (n : Nat)
  /-- Cancel the token of the active session. -/
  | cancelActive
  /-- The task that waits for the deadline of a session is woken. -/
  | wake (id : SessionId)
  /-- Time passes, if there is no task whose moment comes before. -/
  | pass (duration : Nat)

/-- **A lease carries what was made with its session**: its token, and its flag where it is for
work in front of the user. -/
def HeldLease.Carries (k : HeldLease) (s : Session) : Prop :=
  k.session = s.id ∧ k.token = s.token ∧ ∀ lease, k = .foreground lease → lease.flag = s.flag

/-- What a lease carries goes by the number of its session. -/
def HeldLease.IsNamed (k : HeldLease) : Prop :=
  k.token = k.session ∧ ∀ lease, k = .foreground lease → lease.flag = lease.session

namespace Timeline

/-- The ledger. -/
abbrev ledger (t : Timeline) : Ledger := t.custody.ledger

/-- What a step comes to for the ledger and the leases, if anything. -/
def act? (t : Timeline) : TimedStep → Option CustodyStep
  | .start inRuntime timeout mayJoin =>
    some (.start (if inRuntime then some t.now else none) timeout mayJoin)
  | .join id => some (.join id)
  | .hold n => some (.hold n)
  | .giveBack n => some (.giveBack n)
  | .cancel n => t.custody.taken[n]?.map fun k => .cancel k.token
  | .cancelActive => some .cancelActive
  | .wake id => some (.wake t.now id)
  | .pass _ => none

/-- What the clock shows behind a step. -/
def clockBehind (t : Timeline) : TimedStep → Nat
  | .pass duration =>
    if ∀ task ∈ t.ledger.waiting, t.now + duration ≤ task.due then t.now + duration else t.now
  | _ => t.now

/-- **Do a step.** -/
def perform (t : Timeline) (step : TimedStep) : Timeline where
  custody := ((t.act? step).map t.custody.perform).getD t.custody
  now := t.clockBehind step

/-- **Do steps** one after another, from nothing on. -/
def run (steps : List TimedStep) : Timeline :=
  steps.foldl perform {}

@[simp] theorem run_nil : run [] = {} := rfl

@[simp] theorem run_concat (steps : List TimedStep) (step : TimedStep) :
    run (steps ++ [step]) = (run steps).perform step := by
  simp [run]

/-! ### What a step may come to -/

/-- **A step starts a session that is to be cut off at a moment**: it starts a new one, in a
runtime, with a timeout that is in use and not zero. -/
def Starts (t : Timeline) (step : TimedStep) (id : SessionId) (moment : Nat) : Prop :=
  ∃ timeout mayJoin, step = .start true timeout mayJoin ∧
    (t.ledger.start (some t.now) timeout mayJoin).1.session = id ∧
    (t.ledger.start (some t.now) timeout mayJoin).1.reused = false ∧
    timeout.enabled = true ∧ 0 < timeout.seconds ∧ moment = t.now + timeout.seconds * 1000

/-- **A step calls a session off**: the token of a lease on it is cancelled, or that of the
active session while it is the live one of the highest number. -/
def CallsOff (t : Timeline) (step : TimedStep) (id : SessionId) : Prop :=
  (∃ n k, step = .cancel n ∧ t.custody.taken[n]? = some k ∧ k.session = id) ∨
    (step = .cancelActive ∧ t.ledger.isLive id = true ∧
      ∀ j, t.ledger.isLive j = true → j ≤ id)

/-- **The deadline of a session strikes** when its task is woken. -/
def Strikes (t : Timeline) (step : TimedStep) (id : SessionId) : Prop :=
  step = .wake id ∧ t.ledger.Strikes t.now id

/-- **A ledger that differs by leases alone**: of the sessions with their deadlines there are
none but those that were there. -/
structure Inherits (l l' : Ledger) : Prop where
  /-- No number was issued. -/
  issued_eq : l'.issued = l.issued
  /-- No token was cancelled. -/
  cancelled_eq : l'.cancelled = l.cancelled
  /-- No flag was set. -/
  expired_eq : l'.expired = l.expired
  /-- The same tasks wait. -/
  waiting_eq : l'.waiting = l.waiting
  /-- No live session was added, and none has come to a deadline. -/
  live : ∀ s' ∈ l'.live, ∃ s ∈ l.live, s.id = s'.id ∧ s.disarm = s'.disarm

section Inherits

variable {l : Ledger} {id : SessionId}

theorem inherits_refl (l : Ledger) : Inherits l l :=
  ⟨rfl, rfl, rfl, rfl, fun s hs => ⟨s, hs, rfl, rfl⟩⟩

/-- Other numbers of leases on the live sessions. -/
theorem inherits_map {f : Session → Session} (hf : ∀ s, { f s with leases := s.leases } = s) :
    Inherits l { l with live := l.live.map f } := by
  refine ⟨rfl, rfl, rfl, rfl, fun s' hs' => ?_⟩
  obtain ⟨s, hs, rfl⟩ := List.mem_map.mp hs'
  exact ⟨s, hs, congrArg (·.id) (hf s).symm, congrArg (·.disarm) (hf s).symm⟩

theorem inherits_addLease : Inherits l (l.addLease id) :=
  inherits_map fun s => by split <;> rfl

theorem inherits_join : Inherits l (l.join id).2 := by
  unfold Ledger.join
  split
  · exact inherits_addLease
  · exact inherits_refl l

theorem inherits_hold {lease : Lease} : Inherits l (l.hold lease).2 := by
  unfold Ledger.hold
  split
  · exact inherits_addLease
  · exact inherits_refl l

/-- **Giving a lease back** cancels no token and moves no deadline. -/
theorem inherits_release : Inherits l (l.release id) := by
  unfold Ledger.release
  split
  · exact inherits_refl l
  · split
    · exact inherits_map fun s => by split <;> rfl
    · exact ⟨rfl, rfl, rfl, rfl, fun s hs => ⟨s, (List.mem_filter.mp hs).1, rfl, rfl⟩⟩

theorem inherits_giveBack {k : HeldLease} : Inherits l (k.giveBack l) := by
  cases k with
  | foreground lease => exact inherits_release
  | background lease =>
    change Inherits l (l.releaseBackground lease)
    unfold Ledger.releaseBackground
    split
    · exact inherits_release
    · exact inherits_refl l

end Inherits

/-- **What a step comes to.** -/
inductive Outcome (t : Timeline) (step : TimedStep) (t' : Timeline) : Prop where
  /-- Nothing but leases is taken or given back. -/
  | kept : Inherits t.ledger t'.ledger → t'.now = t.now → (∀ id, ¬t.CallsOff step id) →
    (∀ id, ¬t.Strikes step id) → (∀ id moment, ¬t.Starts step id moment) → Outcome t step t'
  /-- A session is started. -/
  | started (deadline : Option Nat) : t'.ledger = (t.ledger.startFresh deadline).2 →
    t'.now = t.now → (∀ id, ¬t.CallsOff step id) → (∀ id, ¬t.Strikes step id) →
    (∀ id moment, t.Starts step id moment ↔
      id = t.ledger.issued + 1 ∧ deadline = some moment) → (∀ m ∈ deadline, t.now ≤ m) →
    Outcome t step t'
  /-- A session is called off. -/
  | calledOff (id : SessionId) : t'.ledger = t.ledger.cancel id → t'.now = t.now →
    (∀ j, t.CallsOff step j ↔ j = id) → (∀ j, ¬t.Strikes step j) →
    (∀ j moment, ¬t.Starts step j moment) → Outcome t step t'
  /-- A task is woken. -/
  | woken (id : SessionId) : t.ledger.Woken t'.ledger id (t.ledger.Strikes t.now id) →
    t'.now = t.now → (∀ j, ¬t.CallsOff step j) →
    (∀ j, t.Strikes step j ↔ t.ledger.Strikes t.now id ∧ j = id) →
    (∀ j moment, ¬t.Starts step j moment) → Outcome t step t'
  /-- Time passes. -/
  | passed : t'.ledger = t.ledger → (∀ task ∈ t.ledger.waiting, t'.now ≤ task.due) →
    (∀ id, ¬t.CallsOff step id) → (∀ id, ¬t.Strikes step id) →
    (∀ id moment, ¬t.Starts step id moment) → Outcome t step t'

section Step

variable {t : Timeline}

/-- The active session is the live one of the highest number. -/
theorem activeSession?_iff (h : t.ledger.WellKept) {id : SessionId} :
    (∃ s, t.ledger.activeSession? = some s ∧ s.id = id) ↔
      t.ledger.isLive id = true ∧ ∀ j, t.ledger.isLive j = true → j ≤ id := by
  constructor
  · rintro ⟨s, hs, rfl⟩
    obtain ⟨hmem, hlast⟩ := h.activeSession?_eq_some hs
    exact ⟨Ledger.isLive_iff.mpr ⟨s, hmem, rfl⟩, hlast⟩
  · rintro ⟨hlive, hlast⟩
    -- the active session is live, so its number is this one
    cases hview : t.ledger.activeSession? with
    | none => simp [h.activeSession?_eq_none.mp hview id] at hlive
    | some s =>
      obtain ⟨hs, hmax⟩ := h.activeSession?_eq_some hview
      exact ⟨s, rfl, Nat.le_antisymm (hlast s.id (Ledger.isLive_iff.mpr ⟨s, hs, rfl⟩))
        (hmax id hlive)⟩

/-- Starting a session takes a lease on a new one, or joins. -/
theorem start_cases (l : Ledger) (clock : Option Nat) (timeout : Timeout) (mayJoin : Bool) :
    l.start clock timeout mayJoin = l.startFresh (Ledger.deadlineOf clock timeout) ∨
      (l.start clock timeout mayJoin).1.reused = true ∧
        Inherits l (l.start clock timeout mayJoin).2 := by
  unfold Ledger.start
  split
  · exact Or.inr ⟨rfl, inherits_addLease⟩
  · exact Or.inl rfl

/-- A session has a deadline just where it is started in a runtime with a timeout that is in
use and not zero. -/
theorem deadlineOf_eq_some {clock : Option Nat} {timeout : Timeout} {moment : Nat} :
    Ledger.deadlineOf clock timeout = some moment ↔ ∃ now, clock = some now ∧
      timeout.enabled = true ∧ 0 < timeout.seconds ∧ moment = now + timeout.seconds * 1000 := by
  unfold Ledger.deadlineOf
  cases clock with
  | none => simp
  | some now =>
    simp only [Bool.and_eq_true, decide_eq_true_eq, Option.map_some, Option.ite_none_right_eq_some,
      Option.some.injEq]
    constructor
    · rintro ⟨⟨henabled, hpos⟩, rfl⟩
      exact ⟨now, rfl, henabled, hpos, rfl⟩
    · rintro ⟨_, rfl, henabled, hpos, rfl⟩
      exact ⟨⟨henabled, hpos⟩, rfl⟩

theorem outcome_start (inRuntime : Bool) (timeout : Timeout) (mayJoin : Bool) :
    Outcome t (.start inRuntime timeout mayJoin)
      (t.perform (.start inRuntime timeout mayJoin)) := by
  have hledger : (t.perform (.start inRuntime timeout mayJoin)).ledger =
      (t.ledger.start (if inRuntime then some t.now else none) timeout mayJoin).2 := rfl
  rcases start_cases t.ledger (if inRuntime then some t.now else none) timeout mayJoin with
    hfresh | ⟨hreused, hl⟩
  · rw [hfresh] at hledger
    refine .started _ hledger rfl (by simp [CallsOff]) (by simp [Strikes]) (fun id moment => ?_)
      fun m hm => ?_
    · constructor
      · rintro ⟨_, _, hstep, hid, -, henabled, hpos, rfl⟩
        cases hstep
        rw [if_pos rfl] at hfresh ⊢
        rw [hfresh] at hid
        exact ⟨hid.symm, deadlineOf_eq_some.mpr ⟨_, rfl, henabled, hpos, rfl⟩⟩
      · rintro ⟨rfl, hdeadline⟩
        obtain ⟨now, hclock, henabled, hpos, rfl⟩ := deadlineOf_eq_some.mp hdeadline
        cases inRuntime with
        | false => cases hclock
        | true =>
          obtain rfl : t.now = now := Option.some.inj hclock
          rw [if_pos rfl] at hfresh
          exact ⟨timeout, mayJoin, rfl, by rw [hfresh]; rfl, by rw [hfresh]; rfl, henabled, hpos,
            rfl⟩
    · obtain ⟨now, hclock, -, -, rfl⟩ := deadlineOf_eq_some.mp hm
      cases inRuntime with
      | false => cases hclock
      | true =>
        obtain rfl : t.now = now := Option.some.inj hclock
        exact Nat.le_add_right _ _
  · rw [← hledger] at hl
    refine .kept hl rfl (by simp [CallsOff]) (by simp [Strikes]) fun id moment => ?_
    rintro ⟨_, _, hstep, -, hnew, -⟩
    cases hstep
    rw [if_pos rfl, hnew] at hreused
    cases hreused

/-- A step that neither starts a session nor cancels a token nor wakes a task. -/
theorem outcome_of_inherits {c : Custody} {step : TimedStep} (hl : Inherits t.ledger c.ledger)
    (hstart : ∀ r timeout mayJoin, step ≠ .start r timeout mayJoin)
    (hcancel : ∀ n, step ≠ .cancel n) (hactive : step ≠ .cancelActive)
    (hwake : ∀ id, step ≠ .wake id) : Outcome t step ⟨c, t.now⟩ := by
  refine .kept hl rfl ?_ (fun id hr => hwake id hr.1) fun id moment hs => ?_
  · rintro id (⟨n, _, h, -⟩ | ⟨h, -⟩)
    · exact hcancel n h
    · exact hactive h
  · obtain ⟨_, _, hs, -⟩ := hs
    exact hstart _ _ _ hs

theorem outcome_join (id : SessionId) : Outcome t (.join id) (t.perform (.join id)) := by
  have hl : Inherits t.ledger (t.custody.perform (.join id)).ledger := by
    have hjoin : Inherits t.ledger (t.ledger.join id).2 := inherits_join
    simp only [Custody.perform]
    rcases heq : t.ledger.join id with ⟨_ | lease, l⟩ <;> rw [heq] at hjoin <;> exact hjoin
  exact outcome_of_inherits hl (by simp) (by simp) (by simp) (by simp)

theorem outcome_hold (n : Nat) : Outcome t (.hold n) (t.perform (.hold n)) := by
  have hl : Inherits t.ledger (t.custody.perform (.hold n)).ledger := by
    simp only [Custody.perform]
    split
    · exact inherits_hold
    · exact inherits_refl _
  exact outcome_of_inherits hl (by simp) (by simp) (by simp) (by simp)

theorem outcome_giveBack (n : Nat) : Outcome t (.giveBack n) (t.perform (.giveBack n)) := by
  have hl : Inherits t.ledger (t.custody.perform (.giveBack n)).ledger := by
    simp only [Custody.perform]
    split
    · exact inherits_giveBack
    · exact inherits_refl _
  exact outcome_of_inherits hl (by simp) (by simp) (by simp) (by simp)

theorem outcome_cancel (hnamed : ∀ k ∈ t.custody.taken, k.IsNamed) (n : Nat) :
    Outcome t (.cancel n) (t.perform (.cancel n)) := by
  have hcalls (j : SessionId) :
      t.CallsOff (.cancel n) j ↔ ∃ k, t.custody.taken[n]? = some k ∧ k.session = j := by
    simp [CallsOff]
  cases hk : t.custody.taken[n]? with
  | none =>
    have hledger : (t.perform (.cancel n)).ledger = t.ledger := by
      simp only [perform, act?, hk, Option.map_none, Option.getD_none]
    refine .kept (hledger ▸ inherits_refl _) rfl (fun j hj => ?_) (by simp [Strikes])
      (by simp [Starts])
    obtain ⟨k, hk', -⟩ := (hcalls j).mp hj
    cases hk.symm.trans hk'
  | some k =>
    have htoken : k.token = k.session := (hnamed k (List.mem_of_getElem? hk)).1
    have hledger : (t.perform (.cancel n)).ledger = t.ledger.cancel k.session := by
      simp only [perform, act?, hk, Option.map_some, Option.getD_some, Custody.perform, htoken]
    refine .calledOff k.session hledger rfl (fun j => ?_) (by simp [Strikes]) (by simp [Starts])
    rw [hcalls, hk]
    simp [eq_comm]

theorem outcome_cancelActive (h : t.ledger.WellKept) :
    Outcome t .cancelActive (t.perform .cancelActive) := by
  have hcalls (j : SessionId) : t.CallsOff .cancelActive j ↔
      ∃ s, t.ledger.activeSession? = some s ∧ s.id = j := by
    rw [activeSession?_iff h]
    simp [CallsOff]
  have hledger : (t.perform .cancelActive).ledger = t.ledger.cancelActive.2 := rfl
  unfold Ledger.cancelActive at hledger
  cases hs : t.ledger.activeSession? with
  | some s =>
    rw [hs] at hledger
    dsimp only at hledger
    rw [(h.named s (Ledger.mem_of_activeSession? hs)).1] at hledger
    refine .calledOff s.id hledger rfl (fun j => ?_) (by simp [Strikes]) (by simp [Starts])
    rw [hcalls, hs]
    simp [eq_comm]
  | none =>
    rw [hs] at hledger
    refine .kept (hledger ▸ inherits_refl _) rfl (fun j hj => ?_) (by simp [Strikes])
      (by simp [Starts])
    obtain ⟨s, hs', -⟩ := (hcalls j).mp hj
    cases hs.symm.trans hs'

theorem outcome_wake (h : t.ledger.WellKept) (harmed : t.ledger.Armed) (id : SessionId) :
    Outcome t (.wake id) (t.perform (.wake id)) := by
  refine .woken id (harmed.wakeFor_spec h t.now id) rfl (by simp [CallsOff]) (fun j => ?_)
    (by simp [Starts])
  simp only [Strikes, TimedStep.wake.injEq]
  constructor
  · rintro ⟨rfl, hstrikes⟩
    exact ⟨hstrikes, rfl⟩
  · rintro ⟨hstrikes, rfl⟩
    exact ⟨rfl, hstrikes⟩

theorem outcome_pass (hnow : ∀ task ∈ t.ledger.waiting, t.now ≤ task.due) (duration : Nat) :
    Outcome t (.pass duration) (t.perform (.pass duration)) := by
  refine .passed rfl ?_ (by simp [CallsOff]) (by simp [Strikes]) (by simp [Starts])
  simp only [perform, clockBehind]
  split
  case isTrue hbefore => exact hbefore
  case isFalse => exact hnow

/-- **What is known of the leases, the ledger and the clock** at any time. -/
structure InStep (t : Timeline) : Prop where
  /-- The ledger and the leases agree. -/
  agrees : t.custody.Agrees
  /-- The deadlines are armed. -/
  armed : t.ledger.Armed
  /-- What leases carry goes by the number of their session. -/
  named : ∀ k ∈ t.custody.taken, k.IsNamed
  /-- **No deadline is missed.** -/
  now_le : ∀ task ∈ t.ledger.waiting, t.now ≤ task.due

/-- **Every step comes to one of these.** -/
theorem InStep.outcome (h : t.InStep) (step : TimedStep) : Outcome t step (t.perform step) := by
  cases step with
  | start inRuntime timeout mayJoin => exact outcome_start inRuntime timeout mayJoin
  | join id => exact outcome_join id
  | hold n => exact outcome_hold n
  | giveBack n => exact outcome_giveBack n
  | cancel n => exact outcome_cancel h.named n
  | cancelActive => exact outcome_cancelActive h.agrees.wellKept
  | wake id => exact outcome_wake h.agrees.wellKept h.armed id
  | pass duration => exact outcome_pass h.now_le duration

end Step

/-! ### What a step does to tokens and deadlines -/

section Behind

variable {t t' : Timeline} {step : TimedStep} {id : SessionId}

/-- **Which tokens are cancelled behind a step**: those that were, and that of a session that
is called off or whose deadline strikes. -/
theorem Outcome.isCancelled_iff (h : Outcome t step t') :
    t'.ledger.isCancelled id = true ↔
      t.ledger.isCancelled id = true ∨ t.CallsOff step id ∨ t.Strikes step id := by
  cases h with
  | kept hl _ hcalls hstrikes =>
    simp only [Ledger.isCancelled, hl.cancelled_eq, hcalls, hstrikes, or_false]
  | started _ hl _ hcalls hstrikes =>
    rw [hl]
    simp only [Ledger.isCancelled, Ledger.startFresh, hcalls, hstrikes, or_false]
  | calledOff j hl _ hcalls hstrikes =>
    rw [hl, Ledger.isCancelled_cancel, hcalls]
    simp only [hstrikes, or_false]
  | woken j hl _ hcalls hstrikes =>
    rw [hl.isCancelled_iff, hstrikes]
    simp only [hcalls, false_or]
  | passed hl _ hcalls hstrikes =>
    rw [hl]
    simp only [hcalls, hstrikes, or_false]

/-- **Which flags are set behind a step**: those that were, and that of a session whose deadline
strikes. -/
theorem Outcome.hasExpired_iff (h : Outcome t step t') :
    t'.ledger.hasExpired id = true ↔ t.ledger.hasExpired id = true ∨ t.Strikes step id := by
  cases h with
  | kept hl _ _ hstrikes => simp only [Ledger.hasExpired, hl.expired_eq, hstrikes, or_false]
  | started _ hl _ _ hstrikes =>
    rw [hl]
    simp only [Ledger.hasExpired, Ledger.startFresh, hstrikes, or_false]
  | calledOff j hl _ _ hstrikes =>
    rw [hl]
    simp only [Ledger.hasExpired, (Ledger.cancel_fields _ _).2.2.2.1, hstrikes, or_false]
  | woken j hl _ _ hstrikes => rw [hl.hasExpired_iff, hstrikes]
  | passed hl _ _ hstrikes =>
    rw [hl]
    simp only [hstrikes, or_false]

/-- No number is taken back, and a session that is started has the next one. -/
theorem Outcome.issued (h : Outcome t step t') : t.ledger.issued ≤ t'.ledger.issued ∧
    ∀ id moment, t.Starts step id moment →
      id = t.ledger.issued + 1 ∧ t'.ledger.issued = t.ledger.issued + 1 := by
  cases h with
  | kept hl _ _ _ hstarts =>
    exact ⟨Nat.le_of_eq hl.issued_eq.symm, fun id m hs => absurd hs (hstarts id m)⟩
  | started _ hl _ _ _ hstarts =>
    rw [hl]
    exact ⟨Nat.le_succ _, fun id m hs => ⟨((hstarts id m).mp hs).1, rfl⟩⟩
  | calledOff j hl _ _ _ hstarts =>
    rw [hl, (Ledger.cancel_fields _ _).2.2.1]
    exact ⟨Nat.le_refl _, fun id m hs => absurd hs (hstarts id m)⟩
  | woken j hl _ _ _ hstarts =>
    exact ⟨Nat.le_of_eq hl.issued_eq.symm, fun id m hs => absurd hs (hstarts id m)⟩
  | passed hl _ _ _ hstarts =>
    rw [hl]
    exact ⟨Nat.le_refl _, fun id m hs => absurd hs (hstarts id m)⟩

/-- **The live sessions behind a step**: each was there, with a deadline or without, or is the
one that the step starts, with a deadline if one is set for it then. -/
theorem Outcome.live (h : Outcome t step t') : ∀ s' ∈ t'.ledger.live,
    (∃ s ∈ t.ledger.live, s.id = s'.id ∧ s.disarm = s'.disarm) ∨
      s'.id = t.ledger.issued + 1 ∧
        (s'.disarm.isSome = true ↔ ∃ moment, t.Starts step s'.id moment) := by
  intro s' hs'
  cases h with
  | kept hl => exact Or.inl (hl.live s' hs')
  | started deadline hl _ _ _ hstarts =>
    rw [hl] at hs'
    rcases List.mem_append.mp hs' with hs | hs
    · exact Or.inl ⟨s', hs, rfl, rfl⟩
    · obtain rfl := List.mem_singleton.mp hs
      refine Or.inr ⟨rfl, ?_⟩
      simp [hstarts, Option.isSome_iff_exists]
  | calledOff j hl =>
    rw [hl, (Ledger.cancel_fields _ _).1] at hs'
    exact Or.inl ⟨s', hs', rfl, rfl⟩
  | woken j hl =>
    rw [hl.live_eq] at hs'
    exact Or.inl ⟨s', hs', rfl, rfl⟩
  | passed hl =>
    rw [hl] at hs'
    exact Or.inl ⟨s', hs', rfl, rfl⟩

/-- **The tasks that wait behind a step**: each has waited before, or waits for the session that
the step starts. No deadline is missed by any of them. -/
theorem Outcome.waiting (h : Outcome t step t')
    (hnow : ∀ task ∈ t.ledger.waiting, t.now ≤ task.due) : ∀ task ∈ t'.ledger.waiting,
      (task ∈ t.ledger.waiting ∨ t.Starts step task.session task.due) ∧ t'.now ≤ task.due := by
  have hold {task : DeadlineTask} (htask : task ∈ t.ledger.waiting) (hclock : t'.now = t.now) :
      (task ∈ t.ledger.waiting ∨ t.Starts step task.session task.due) ∧ t'.now ≤ task.due :=
    ⟨Or.inl htask, hclock ▸ hnow task htask⟩
  intro task htask
  cases h with
  | kept hl hclock => exact hold (hl.waiting_eq ▸ htask) hclock
  | started deadline hl hclock _ _ hstarts hlater =>
    rw [hl] at htask
    rcases List.mem_append.mp htask with htask | htask
    · exact hold htask hclock
    · obtain ⟨due, hdue, rfl⟩ := Option.map_eq_some_iff.mp (Option.mem_toList.mp htask)
      exact ⟨Or.inr ((hstarts _ _).mpr ⟨rfl, hdue⟩), hclock ▸ hlater due hdue⟩
  | calledOff j hl hclock =>
    rw [hl, (Ledger.cancel_fields _ _).2.2.2.2.2] at htask
    exact hold htask hclock
  | woken j hl hclock => exact hold (hl.waiting_subset htask) hclock
  | passed hl hpass =>
    rw [hl] at htask
    exact ⟨Or.inl htask, hpass task htask⟩

/-- A lease that is handed out carries what goes by the number of its session. -/
theorem isNamed_of_taken {c : Custody} (h : c.Agrees) (act : CustodyStep) :
    ∀ k ∈ (c.perform act).taken, k ∈ c.taken ∨ k.IsNamed := by
  have hnew {l : Ledger} {k : HeldLease} (hk : k.IsNamed) :
      ∀ k' ∈ (c.handOut l k).taken, k' ∈ c.taken ∨ k'.IsNamed :=
    List.forall_mem_cons.mpr ⟨Or.inr hk, fun k' hk' => Or.inl hk'⟩
  cases act with
  | start clock timeout mayJoin =>
    simp only [Custody.perform, Ledger.start]
    split
    case h_1 s hs =>
      obtain ⟨htoken, hflag⟩ := h.wellKept.named s (by
        split at hs
        · exact Ledger.mem_of_activeSession? hs
        · cases hs)
      exact hnew ⟨htoken, fun lease hlease => by cases hlease; exact hflag⟩
    case h_2 => exact hnew ⟨rfl, fun lease hlease => by cases hlease; rfl⟩
  | join id =>
    simp only [Custody.perform]
    rcases h.wellKept.join id with ⟨-, hlease, -⟩ | ⟨-, hnone⟩
    · have hjoin : c.ledger.join id = (some ⟨id, id, id, true⟩, (c.ledger.join id).2) :=
        Prod.ext hlease rfl
      rw [hjoin]
      exact hnew ⟨rfl, fun lease hlease => by cases hlease; rfl⟩
    · rw [hnone]
      exact fun k hk => Or.inl hk
  | hold n =>
    simp only [Custody.perform]
    split
    case h_1 lease hn =>
      have hlive : c.ledger.isLive lease.session = true :=
        h.isLive_of_mem (List.mem_of_getElem? hn)
      rw [(h.wellKept.hold hlive).1]
      exact hnew ⟨rfl, fun lease hlease => by cases hlease⟩
    case h_2 => exact fun k hk => Or.inl hk
  | giveBack n =>
    simp only [Custody.perform]
    split <;> exact fun k hk => Or.inl hk
  | cancel token => exact fun k hk => Or.inl hk
  | cancelActive => exact fun k hk => Or.inl hk
  | wake now id => exact fun k hk => Or.inl hk

/-- **Every step leaves the deadlines armed.** -/
theorem armed_perform {c : Custody} (h : c.Agrees) (harmed : c.ledger.Armed) (act : CustodyStep) :
    (c.perform act).ledger.Armed := by
  cases act with
  | start clock timeout mayJoin => exact harmed.start h.wellKept clock timeout mayJoin
  | join id =>
    have hjoin : (c.ledger.join id).2.Armed := harmed.join
    simp only [Custody.perform]
    rcases heq : c.ledger.join id with ⟨_ | lease, l⟩ <;> rw [heq] at hjoin <;> exact hjoin
  | hold n =>
    simp only [Custody.perform]
    split
    · exact harmed.hold
    · exact harmed
  | giveBack n =>
    simp only [Custody.perform]
    split
    · exact harmed.giveBack h.wellKept
    · exact harmed
  | cancel token => exact harmed.cancel
  | cancelActive => exact harmed.cancelActive
  | wake now id => exact (harmed.wakeFor_spec h.wellKept now id).armed

/-- **A step keeps everything in step.** -/
theorem InStep.perform (h : t.InStep) (step : TimedStep) : (t.perform step).InStep := by
  have hnow := (h.outcome step).waiting h.now_le
  have hcustody : (t.perform step).custody = t.custody ∨
      ∃ act, (t.perform step).custody = t.custody.perform act := by
    unfold Timeline.perform
    cases t.act? step with
    | none => exact Or.inl rfl
    | some act => exact Or.inr ⟨act, rfl⟩
  rcases hcustody with hc | ⟨act, hc⟩
  · exact ⟨hc ▸ h.agrees, by rw [ledger, hc]; exact h.armed, hc ▸ h.named,
      fun task htask => (hnow task htask).2⟩
  · have harmed : (t.perform step).ledger.Armed := by
      rw [ledger, hc]
      exact armed_perform h.agrees h.armed act
    refine ⟨hc ▸ (h.agrees.perform act).1, harmed, fun k hk => ?_,
      fun task htask => (hnow task htask).2⟩
    rw [hc] at hk
    exact (isNamed_of_taken h.agrees act k hk).elim (h.named k) id

end Behind

/-! ### Runs -/

/-- **At some step** something is so, of the steps before it and the step itself. -/
def Once (steps : List TimedStep) (P : List TimedStep → TimedStep → Prop) : Prop :=
  ∃ front step back, steps = front ++ step :: back ∧ P front step

/-- **A session was started to be cut off at a moment.** -/
def SetFor (steps : List TimedStep) (id : SessionId) (moment : Nat) : Prop :=
  Once steps fun front step => (run front).Starts step id moment

/-- **A step cuts a session off**: the task that waits for its deadline is woken at the moment
that was set, and the session lives and its token is not cancelled by then. -/
def CutsOff (front : List TimedStep) (step : TimedStep) (id : SessionId) : Prop :=
  step = .wake id ∧
    (∃ s ∈ (run front).ledger.live, s.id = id ∧ (run front).ledger.isCancelled s.token = false) ∧
    SetFor front id (run front).now

section Runs

variable {steps : List TimedStep} {step : TimedStep} {id : SessionId}

theorem once_concat {P : List TimedStep → TimedStep → Prop} :
    Once (steps ++ [step]) P ↔ Once steps P ∨ P steps step := by
  constructor
  · rintro ⟨front, step', back, hsplit, h⟩
    rcases List.eq_nil_or_concat back with rfl | ⟨back, last, rfl⟩
    · obtain ⟨rfl, hstep⟩ := List.append_inj' hsplit rfl
      obtain rfl := (List.cons.inj hstep).1
      exact Or.inr h
    · rw [List.concat_eq_append, ← List.cons_append, ← List.append_assoc] at hsplit
      obtain ⟨rfl, -⟩ := List.append_inj' hsplit rfl
      exact Or.inl ⟨front, step', back, rfl, h⟩
  · rintro (⟨front, step', back, rfl, h⟩ | h)
    · exact ⟨front, step', back ++ [step], by simp, h⟩
    · exact ⟨steps, step, [], rfl, h⟩

/-- **What every run keeps**: what the ledger says of tokens and deadlines is told by the
steps. -/
structure KeepsTime (steps : List TimedStep) : Prop where
  /-- All that is known at any time. -/
  inStep : (run steps).InStep
  /-- Sessions that were started have been issued. -/
  issued : ∀ id moment, SetFor steps id moment → id ≤ (run steps).ledger.issued
  /-- A session is started once, so no deadline moves. -/
  unique : ∀ id moment moment', SetFor steps id moment → SetFor steps id moment' →
    moment = moment'
  /-- Tasks wait for deadlines that were set. -/
  waiting : ∀ task ∈ (run steps).ledger.waiting, SetFor steps task.session task.due
  /-- Live sessions have deadlines where some were set for them. -/
  disarm_iff : ∀ s ∈ (run steps).ledger.live,
    s.disarm.isSome = true ↔ ∃ moment, SetFor steps s.id moment
  /-- Tokens are cancelled for a reason. -/
  isCancelled_iff : ∀ id, (run steps).ledger.isCancelled id = true ↔
    Once steps fun front step => (run front).CallsOff step id ∨ CutsOff front step id
  /-- Flags are set where a deadline cut a session off. -/
  hasExpired_iff : ∀ id, (run steps).ledger.hasExpired id = true ↔
    Once steps fun front step => CutsOff front step id

/-- **A live session that is not called off has its task**, which waits for the moment that was
set. -/
theorem KeepsTime.exists_waiting (h : KeepsTime steps) {s : Session}
    (hs : s ∈ (run steps).ledger.live) (hc : (run steps).ledger.isCancelled s.token = false)
    {moment : Nat} (hset : SetFor steps s.id moment) :
    ∃ task ∈ (run steps).ledger.waiting, task.session = s.id ∧ task.due = moment := by
  obtain ⟨d, hd⟩ := Option.isSome_iff_exists.mp ((h.disarm_iff s hs).mpr ⟨moment, hset⟩)
  obtain ⟨-, hcancelled | ⟨task, htask, hid⟩⟩ := h.inStep.armed.armed s hs d hd
  · exact absurd hcancelled (Bool.eq_false_iff.mp hc)
  · exact ⟨task, htask, hid, h.unique _ _ _ (hid ▸ h.waiting task htask) hset⟩

/-- **A deadline strikes just where a session is cut off.** -/
theorem KeepsTime.strikes_iff (h : KeepsTime steps) :
    (run steps).Strikes step id ↔ CutsOff steps step id := by
  refine and_congr_right fun _ => ?_
  constructor
  · rintro ⟨hlive, hc, task, htask, rfl, hdue⟩
    obtain ⟨s, hs, hid⟩ := Ledger.isLive_iff.mp hlive
    refine ⟨⟨s, hs, hid, ?_⟩, ?_⟩
    · rw [(h.inStep.agrees.wellKept.named s hs).1, hid]
      exact hc
    · rw [Nat.le_antisymm (h.inStep.now_le task htask) hdue]
      exact h.waiting task htask
  · rintro ⟨⟨s, hs, rfl, hc⟩, hset⟩
    obtain ⟨task, htask, hid, hdue⟩ := h.exists_waiting hs hc hset
    rw [(h.inStep.agrees.wellKept.named s hs).1] at hc
    exact ⟨Ledger.isLive_iff.mpr ⟨s, hs, rfl⟩, hc, task, htask, hid, Nat.le_of_eq hdue⟩

/-- **What is kept stays so behind one more step.** -/
theorem KeepsTime.concat (h : KeepsTime steps) (step : TimedStep) :
    KeepsTime (steps ++ [step]) := by
  have houtcome := h.inStep.outcome step
  -- a session that is started now was not started before
  have hnew {id : SessionId} {moment moment' : Nat} (hset : SetFor steps id moment)
      (hstarts : (run steps).Starts step id moment') : False := by
    have hissued := h.issued _ _ hset
    rw [(houtcome.issued.2 _ _ hstarts).1] at hissued
    exact Nat.not_succ_le_self _ hissued
  refine ⟨?_, fun id moment hset => ?_, fun id moment moment' hset hset' => ?_,
    fun task htask => ?_, fun s' hs' => ?_, fun id => ?_, fun id => ?_⟩
  · rw [run_concat]
    exact h.inStep.perform step
  · rw [run_concat]
    rcases once_concat.mp hset with hset | hstarts
    · exact Nat.le_trans (h.issued id moment hset) houtcome.issued.1
    · obtain ⟨rfl, hissued⟩ := houtcome.issued.2 _ _ hstarts
      exact Nat.le_of_eq hissued.symm
  · rcases once_concat.mp hset with hset | hstarts <;>
      rcases once_concat.mp hset' with hset' | hstarts'
    · exact h.unique id moment moment' hset hset'
    · exact (hnew hset hstarts').elim
    · exact (hnew hset' hstarts).elim
    · obtain ⟨_, _, rfl, -, -, -, -, rfl⟩ := hstarts
      obtain ⟨_, _, hstep, -, -, -, -, rfl⟩ := hstarts'
      cases hstep
      rfl
  · rw [run_concat] at htask
    exact once_concat.mpr
      ((houtcome.waiting h.inStep.now_le task htask).1.imp_left (h.waiting task))
  · rw [run_concat] at hs'
    simp only [SetFor, once_concat, exists_or]
    rcases houtcome.live s' hs' with ⟨s, hs, hid, hdisarm⟩ | ⟨hid, hstarts⟩
    · -- a session that was there is not started again
      have hold : ¬∃ moment, (run steps).Starts step s'.id moment := by
        rintro ⟨moment, hstarts⟩
        have hissued := h.inStep.agrees.wellKept.issued s hs
        rw [hid, (houtcome.issued.2 _ _ hstarts).1] at hissued
        exact Nat.not_succ_le_self _ hissued
      rw [← hdisarm, h.disarm_iff s hs, hid]
      exact (or_iff_left hold).symm
    · -- no session of its number was started before
      have hbefore : ¬∃ moment, SetFor steps s'.id moment := by
        rintro ⟨moment, hset⟩
        have hissued := h.issued _ _ hset
        rw [hid] at hissued
        exact Nat.not_succ_le_self _ hissued
      rw [hstarts]
      exact (or_iff_right hbefore).symm
  · rw [run_concat, houtcome.isCancelled_iff, h.isCancelled_iff, once_concat, h.strikes_iff]
  · rw [run_concat, houtcome.hasExpired_iff, h.hasExpired_iff, once_concat, h.strikes_iff]

theorem keepsTime_append (h : KeepsTime steps) (more : List TimedStep) :
    KeepsTime (steps ++ more) := by
  induction more generalizing steps with
  | nil =>
    rw [List.append_nil]
    exact h
  | cons step more ih =>
    rw [List.append_cons]
    exact ih (h.concat step)

/-- Where nothing was done, there is nothing to keep. -/
theorem keepsTime_nil : KeepsTime [] := by
  have hnone {P : List TimedStep → TimedStep → Prop} : ¬Once [] P := by
    rintro ⟨front, step, back, hsplit, -⟩
    simp at hsplit
  have hempty : (run []).InStep :=
    ⟨Custody.agrees_run [], Ledger.armed_empty, List.forall_mem_nil _, List.forall_mem_nil _⟩
  exact ⟨hempty, fun id moment hset => absurd hset hnone,
    fun id moment moment' hset => absurd hset hnone, List.forall_mem_nil _, List.forall_mem_nil _,
    fun id => iff_of_false Bool.false_ne_true hnone,
    fun id => iff_of_false Bool.false_ne_true hnone⟩

/-- **Every run keeps to time.** -/
theorem keepsTime_run (steps : List TimedStep) : KeepsTime steps :=
  keepsTime_append keepsTime_nil steps

end Runs

/-- **Tokens and deadlines.** Behind any steps, in any order, with any time between them:

* the token of a lease is cancelled just where its session was called off – by the token of
  some lease on it, or as the active session while no live one had a higher number – or was cut
  off by its deadline; so leases on one session, held at any time, carry one token, that of
  the session while it lives;
* the flag of a lease is set just where the deadline has cut its session off: at the moment that
  was set when the session was started, with the session alive and its token not cancelled by
  then; and a session is said to have timed out just then, while it lives;
* no deadline is missed: once its moment is over, the session has ended or its token is
  cancelled;
* a session has no deadline but the one that was set when it was started, whoever has joined it
  since, and there is no task that waits for anything else;
* no further step changes whether the token of a lease is cancelled but one that calls off or
  cuts off its session. -/
theorem run_keeps_time (steps : List TimedStep) :
    let t := run steps
    (∀ k ∈ t.custody.taken, (t.ledger.isCancelled k.token = true ↔
      Once steps fun front step =>
        (run front).CallsOff step k.session ∨ CutsOff front step k.session)) ∧
    (∀ k ∈ t.custody.taken, ∀ k' ∈ t.custody.taken, k.session = k'.session →
      k.token = k'.token) ∧
    (∀ k ∈ t.custody.taken, ∀ s ∈ t.ledger.live, k.session = s.id → k.Carries s) ∧
    (∀ lease, .foreground lease ∈ t.custody.taken → (t.ledger.hasExpired lease.flag = true ↔
      Once steps fun front step => CutsOff front step lease.session)) ∧
    (∀ id, t.ledger.timedOut id = true ↔ t.ledger.isLive id = true ∧
      Once steps fun front step => CutsOff front step id) ∧
    (∀ s ∈ t.ledger.live, ∀ moment, SetFor steps s.id moment →
      t.ledger.isCancelled s.token = false → t.now ≤ moment) ∧
    (∀ id moment moment', SetFor steps id moment → SetFor steps id moment' → moment = moment') ∧
    (∀ task ∈ t.ledger.waiting, SetFor steps task.session task.due) ∧
    ∀ k ∈ t.custody.taken, ∀ step,
      (t.perform step).ledger.isCancelled k.token = t.ledger.isCancelled k.token ∨
        t.CallsOff step k.session ∨ CutsOff steps step k.session := by
  intro t
  have h : KeepsTime steps := keepsTime_run steps
  have hkept : t.ledger.WellKept := h.inStep.agrees.wellKept
  have htoken (k : HeldLease) (hk : k ∈ t.custody.taken) : k.token = k.session :=
    (h.inStep.named k hk).1
  refine ⟨fun k hk => ?_, fun k hk k' hk' hid => ?_, fun k hk s hs hid => ⟨hid, ?_, ?_⟩,
    fun lease hk => ?_, fun id => ?_, fun s hs moment hset hc => ?_, h.unique, h.waiting,
    fun k hk step => ?_⟩
  · rw [htoken k hk]
    exact h.isCancelled_iff k.session
  · rw [htoken k hk, htoken k' hk', hid]
  · rw [htoken k hk, (hkept.named s hs).1, hid]
  · rintro lease rfl
    rw [(h.inStep.named _ hk).2 lease rfl, (hkept.named s hs).2]
    exact hid
  · rw [(h.inStep.named _ hk).2 lease rfl]
    exact h.hasExpired_iff lease.session
  · rw [← h.hasExpired_iff, Ledger.timedOut, Ledger.isLive]
    cases hs : t.ledger.session? id with
    | none => simp
    | some s =>
      obtain ⟨hmem, rfl⟩ := hkept.session?_eq_some_iff.mp hs
      rw [Option.any_some, (hkept.named s hmem).2]
      exact (and_iff_right rfl).symm
  · obtain ⟨task, htask, -, rfl⟩ := h.exists_waiting hs hc hset
    exact h.inStep.now_le task htask
  · have hafter : (t.perform step).ledger.isCancelled k.session = true ↔
        t.ledger.isCancelled k.session = true ∨ t.CallsOff step k.session ∨
          t.Strikes step k.session := (h.inStep.outcome step).isCancelled_iff
    rw [htoken k hk, ← h.strikes_iff]
    by_cases hstep : t.CallsOff step k.session ∨ t.Strikes step k.session
    · exact Or.inr hstep
    · exact Or.inl (Bool.eq_iff_iff.mpr (hafter.trans (or_iff_left hstep)))

/-- A session of two seconds is cut off by its deadline, and not a moment before it. -/
example : (run [.start true ⟨true, 2⟩ false, .pass 1999, .wake 1, .pass 1, .wake 1]).ledger =
    { issued := 1, live := [⟨1, 1, 1, 1, some 1⟩], active := some 1, cancelled := [1],
      expired := [1] } := by decide

end Timeline

end FormChain
