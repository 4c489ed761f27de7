import FormChain.Proofs.Session.Ledger

/-!
# Tasks that wait for deadlines

A task that waits for a deadline does not know whether its session lives. When it is woken it
looks at what disarms it, at its token and at the clock, in this order. That it cuts off live
sessions alone is owed to the ledger, which disarms the task of every session that ends: a ledger
that does is *armed* (`FormChain.Ledger.Armed`), and every operation leaves it so.

| a task that is woken finds | which says of an armed ledger |
|---|---|
| itself disarmed | its session has ended |
| its token cancelled | its session was called off |
| its time to come | the deadline is not due |
| nothing of these | the deadline strikes |

Main statement: what becomes of the ledger when a task is woken
(`FormChain.Ledger.Armed.wakeFor_spec`).
-/

namespace FormChain

namespace Ledger

/-- **A ledger whose deadlines are armed.** -/
structure Armed (l : Ledger) : Prop where
  /-- The tasks stand in order of their sessions. -/
  sorted : l.waiting.Pairwise (·.session < ·.session)
  /-- Their sessions have been issued. -/
  issued : ∀ task ∈ l.waiting, task.session ≤ l.issued
  /-- What they set and what disarms them goes by the number of their session. -/
  named : ∀ task ∈ l.waiting, task.flag = task.session ∧ task.disarm = task.session
  /-- **A task is disarmed just where its session has ended.** -/
  disarmed_iff : ∀ task ∈ l.waiting,
    l.isDisarmed task.disarm = true ↔ l.isLive task.session = false
  /-- Nothing is disarmed in advance. -/
  disarmed_issued : ∀ d ∈ l.disarmed, d ≤ l.issued
  /-- A live session with a deadline disarms what goes by its number, and there is a task that
  waits for it unless its token is cancelled. -/
  armed : ∀ s ∈ l.live, ∀ d ∈ s.disarm,
    d = s.id ∧ (l.isCancelled s.token = true ∨ ∃ task ∈ l.waiting, task.session = s.id)
  /-- For a live session without a deadline, no task waits. -/
  unarmed : ∀ s ∈ l.live, s.disarm = none → ∀ task ∈ l.waiting, task.session ≠ s.id

/-- **The deadline of a session strikes**: there is a task that waits for it and is due, the
session lives, and its token is not cancelled. -/
def Strikes (l : Ledger) (now : Nat) (id : SessionId) : Prop :=
  l.isLive id = true ∧ l.isCancelled id = false ∧
    ∃ task ∈ l.waiting, task.session = id ∧ task.due ≤ now

instance (l : Ledger) (now : Nat) (id : SessionId) : Decidable (l.Strikes now id) :=
  inferInstanceAs (Decidable (_ ∧ _ ∧ _))

/-- A ledger without sessions is armed. -/
theorem armed_empty : ({} : Ledger).Armed where
  sorted := List.Pairwise.nil
  issued := List.forall_mem_nil _
  named := List.forall_mem_nil _
  disarmed_iff := List.forall_mem_nil _
  disarmed_issued := List.forall_mem_nil _
  armed := List.forall_mem_nil _
  unarmed := List.forall_mem_nil _

section Operations

variable {l : Ledger} {id : SessionId}

/-! ### Leases -/

/-- Other numbers of leases on the live sessions. -/
theorem Armed.map (h : l.Armed) {f : Session → Session}
    (hf : ∀ s, { f s with leases := s.leases } = s) :
    Armed { l with live := l.live.map f } := by
  have hid (s : Session) : (f s).id = s.id := congrArg (·.id) (hf s)
  have htoken (s : Session) : (f s).token = s.token := congrArg (·.token) (hf s)
  have hdisarm (s : Session) : (f s).disarm = s.disarm := congrArg (·.disarm) (hf s)
  have hlive (j : SessionId) : Ledger.isLive { l with live := l.live.map f } j = l.isLive j := by
    simp only [isLive, session?, List.find?_map, Function.comp_def, hid, Option.isSome_map]
  refine ⟨h.sorted, h.issued, h.named, fun task htask => ?_, h.disarmed_issued, ?_, ?_⟩
  · rw [hlive]
    exact h.disarmed_iff task htask
  · intro s' hs'
    obtain ⟨s, hs, rfl⟩ := List.mem_map.mp hs'
    rw [hid, htoken, hdisarm]
    exact h.armed s hs
  · intro s' hs'
    obtain ⟨s, hs, rfl⟩ := List.mem_map.mp hs'
    rw [hid, hdisarm]
    exact h.unarmed s hs

theorem Armed.addLease (h : l.Armed) : (l.addLease id).Armed :=
  h.map fun s => by split <;> rfl

/-- **A new session**, with a task for its deadline if it has one. -/
theorem Armed.startFresh (h : l.Armed) (hl : l.WellKept) (deadline : Option Nat) :
    (l.startFresh deadline).2.Armed := by
  let new := l.issued + 1
  have hlive (j : SessionId) (hj : j ≤ l.issued) :
      (l.startFresh deadline).2.isLive j = l.isLive j := by
    have hne : ¬new = j := fun hnew => absurd (hnew ▸ hj) (Nat.not_succ_le_self _)
    simp [isLive, session?, Ledger.startFresh, hne, new]
  have hnew : (l.startFresh deadline).2.isLive new = true :=
    isLive_iff.mpr ⟨_, List.mem_append_right _ List.mem_cons_self, rfl⟩
  have hnone : l.isDisarmed new = false := by
    refine Bool.eq_false_iff.mpr fun hmem => ?_
    exact absurd (h.disarmed_issued new (List.contains_iff_mem.mp hmem)) (Nat.not_succ_le_self _)
  have hadded {task : DeadlineTask}
      (htask : task ∈ (deadline.map (⟨new, new, new, new, ·⟩)).toList) :
      deadline = some task.due ∧ task = ⟨new, new, new, new, task.due⟩ := by
    obtain ⟨due, hdue, rfl⟩ := Option.map_eq_some_iff.mp (Option.mem_toList.mp htask)
    exact ⟨hdue, rfl⟩
  refine ⟨?_, ?_, ?_, ?_, ?_, ?_, ?_⟩
  · refine List.pairwise_append.mpr ⟨h.sorted, ?_, fun task htask task' htask' => ?_⟩
    · cases deadline with
      | none => exact List.Pairwise.nil
      | some due => exact List.pairwise_singleton _ _
    · rw [(hadded htask').2]
      exact Nat.lt_succ_of_le (h.issued task htask)
  · intro task htask
    rcases List.mem_append.mp htask with htask | htask
    · exact Nat.le_succ_of_le (h.issued task htask)
    · rw [(hadded htask).2]
      exact Nat.le_refl _
  · intro task htask
    rcases List.mem_append.mp htask with htask | htask
    · exact h.named task htask
    · rw [(hadded htask).2]
      exact ⟨rfl, rfl⟩
  · intro task htask
    rcases List.mem_append.mp htask with htask | htask
    · rw [hlive _ (h.issued task htask)]
      exact h.disarmed_iff task htask
    · rw [(hadded htask).2, hnew]
      exact iff_of_false (Bool.eq_false_iff.mp hnone) (by simp)
  · exact fun d hd => Nat.le_succ_of_le (h.disarmed_issued d hd)
  · intro s hs d hd
    rcases List.mem_append.mp hs with hs | hs
    · obtain ⟨hdid, hwaits⟩ := h.armed s hs d hd
      refine ⟨hdid, hwaits.imp_right ?_⟩
      rintro ⟨task, htask, hid⟩
      exact ⟨task, List.mem_append_left _ htask, hid⟩
    · obtain rfl := List.mem_singleton.mp hs
      obtain ⟨due, hdue, rfl⟩ := Option.map_eq_some_iff.mp hd
      refine ⟨rfl, Or.inr ⟨⟨new, new, new, new, due⟩, List.mem_append_right _ ?_, rfl⟩⟩
      rw [hdue]
      exact List.mem_singleton_self _
  · intro s hs hdisarm task htask hid
    rcases List.mem_append.mp hs with hs | hs
    · rcases List.mem_append.mp htask with htask | htask
      · exact h.unarmed s hs hdisarm task htask hid
      · rw [(hadded htask).2] at hid
        exact absurd (hid ▸ hl.issued s hs) (Nat.not_succ_le_self _)
    · obtain rfl := List.mem_singleton.mp hs
      rcases List.mem_append.mp htask with htask | htask
      · exact absurd (hid ▸ h.issued task htask) (Nat.not_succ_le_self _)
      · rw [(hadded htask).1] at hdisarm
        cases hdisarm

theorem Armed.start (h : l.Armed) (hl : l.WellKept) (clock : Option Nat) (timeout : Timeout)
    (mayJoin : Bool) : (l.start clock timeout mayJoin).2.Armed := by
  unfold Ledger.start
  split
  · exact h.addLease
  · exact h.startFresh hl _

theorem Armed.join (h : l.Armed) : (l.join id).2.Armed := by
  unfold Ledger.join
  split
  · exact h.addLease
  · exact h

theorem Armed.hold (h : l.Armed) {lease : Lease} : (l.hold lease).2.Armed := by
  unfold Ledger.hold
  split
  · exact h.addLease
  · exact h

/-- **A session that ends** disarms its deadline, and no other. -/
theorem Armed.endSession (h : l.Armed) (hl : l.WellKept) {s : Session} (hs : s ∈ l.live)
    (active : Option SessionId) :
    Armed { l with
      live := l.live.filter (·.id ≠ s.id)
      disarmed := s.disarm.toList ++ l.disarmed
      active := active } := by
  have hdisarm (d : Disarm) (hd : d ∈ s.disarm) : d = s.id := (h.armed s hs d hd).1
  refine ⟨h.sorted, h.issued, h.named, fun task htask => ?_, fun d hd => ?_,
    fun t ht => h.armed t (List.mem_filter.mp ht).1,
    fun t ht => h.unarmed t (List.mem_filter.mp ht).1⟩
  · have hnow : (s.disarm.toList ++ l.disarmed).contains task.disarm = true ↔
        task.disarm ∈ s.disarm ∨ l.isDisarmed task.disarm = true := by
      simp [isDisarmed]
    have hlive : ((l.live.filter (·.id ≠ s.id)).find? (·.id == task.session)).isSome = true ↔
        l.isLive task.session = true ∧ task.session ≠ s.id := by
      simp only [isLive_iff, List.find?_isSome, List.mem_filter, decide_eq_true_eq, beq_iff_eq]
      constructor
      · rintro ⟨t, ⟨ht, hne⟩, hid⟩
        exact ⟨⟨t, ht, hid⟩, hid ▸ hne⟩
      · rintro ⟨⟨t, ht, hid⟩, hne⟩
        exact ⟨t, ⟨ht, hid ▸ hne⟩, hid⟩
    rw [← Bool.not_eq_true]
    refine hnow.trans (Iff.trans ?_ (not_congr hlive).symm)
    rw [h.disarmed_iff task htask, (h.named task htask).2]
    by_cases hid : task.session = s.id
    · -- the session that ends is the one of the task, so there is something to disarm it
      refine iff_of_true (Or.inl ?_) fun hother => hother.2 hid
      cases hd : s.disarm with
      | none => exact absurd hid (h.unarmed s hs hd task htask)
      | some d => rw [hid, hdisarm d hd]; rfl
    · have hnone : task.session ∉ s.disarm := fun hmem => hid (hdisarm _ hmem)
      simp [hnone, hid]
  · rcases List.mem_append.mp hd with hd | hd
    · rw [hdisarm d (Option.mem_toList.mp hd)]
      exact hl.issued s hs
    · exact h.disarmed_issued d hd

/-- **Giving a lease back.** -/
theorem Armed.release (h : l.Armed) (hl : l.WellKept) : (l.release id).Armed := by
  unfold Ledger.release
  split
  case h_1 => exact h
  case h_2 s hs =>
    obtain ⟨hmem, rfl⟩ := hl.session?_eq_some_iff.mp hs
    split
    · exact h.map fun t => by split <;> rfl
    · exact h.endSession hl hmem _

theorem Armed.giveBack (h : l.Armed) (hl : l.WellKept) {k : HeldLease} : (k.giveBack l).Armed := by
  cases k with
  | foreground lease => exact h.release hl
  | background lease =>
    change (l.releaseBackground lease).Armed
    unfold releaseBackground
    split
    · exact h.release hl
    · exact h

/-! ### Tokens -/

/-- **Cancelling a token.** -/
theorem Armed.cancel (h : l.Armed) {token : Token} : (l.cancel token).Armed := by
  have hcancelled (j : Token) (hj : l.isCancelled j = true) :
      (l.cancel token).isCancelled j = true :=
    isCancelled_cancel.mpr (Or.inl hj)
  unfold Ledger.cancel at hcancelled ⊢
  split
  case isTrue => exact h
  case isFalse hnot =>
    rw [if_neg hnot] at hcancelled
    exact ⟨h.sorted, h.issued, h.named, h.disarmed_iff, h.disarmed_issued,
      fun s hs d hd => (h.armed s hs d hd).imp_right (Or.imp_left (hcancelled _)), h.unarmed⟩

theorem Armed.cancelActive (h : l.Armed) : l.cancelActive.2.Armed := by
  unfold Ledger.cancelActive
  split
  · exact h.cancel
  · exact h

/-- **No request to the ledger** leaves a deadline unarmed. -/
theorem Armed.answer (h : l.Armed) (hl : l.WellKept) (clock : Option Nat) (r : SessionRequest) :
    (l.answer clock r).2.Armed := by
  cases r with
  | start timeout mayJoin => exact h.start hl clock timeout mayJoin
  | join id => exact h.join
  | hold lease => exact h.hold
  | release id => exact h.release hl
  | releaseBackground lease => exact @Armed.giveBack l h hl (.background lease)
  | hasExpired => exact h
  | timedOut => exact h

/-! ### Tasks that are woken -/

/-- **No two tasks wait for one session.** -/
theorem Armed.eq_of_session_eq (h : l.Armed) {task task' : DeadlineTask} (htask : task ∈ l.waiting)
    (htask' : task' ∈ l.waiting) (hid : task.session = task'.session) : task = task' := by
  obtain ⟨i, hi, rfl⟩ := List.getElem_of_mem htask
  obtain ⟨j, hj, rfl⟩ := List.getElem_of_mem htask'
  have hsorted := List.pairwise_iff_getElem.mp h.sorted
  rcases Nat.lt_trichotomy i j with hij | rfl | hij
  · exact absurd hid (Nat.ne_of_lt (hsorted i j hi hj hij))
  · rfl
  · exact absurd hid.symm (Nat.ne_of_lt (hsorted j i hj hi hij))

/-- **A task that is over** waits no more: the token of its session is cancelled, if that lives. -/
theorem Armed.dismiss (h : l.Armed) {task : DeadlineTask}
    (hover : ∀ s ∈ l.live, s.id = task.session → l.isCancelled s.token = true) :
    (l.dismiss task).Armed := by
  have hold {task' : DeadlineTask} (htask' : task' ∈ (l.dismiss task).waiting) :
      task' ∈ l.waiting := (List.mem_filter.mp htask').1
  refine ⟨h.sorted.filter _, fun task' htask' => h.issued task' (hold htask'),
    fun task' htask' => h.named task' (hold htask'),
    fun task' htask' => h.disarmed_iff task' (hold htask'), h.disarmed_issued,
    fun s hs d hd => ?_, fun s hs hd task' htask' => h.unarmed s hs hd task' (hold htask')⟩
  obtain ⟨hdid, hwaits⟩ := h.armed s hs d hd
  refine ⟨hdid, ?_⟩
  rcases hwaits with hcancelled | ⟨task', htask', hid⟩
  · exact Or.inl hcancelled
  · by_cases heq : task' = task
    · exact Or.inl (hover s hs (heq ▸ hid.symm))
    · exact Or.inr ⟨task', List.mem_filter.mpr ⟨htask', by simpa using heq⟩, hid⟩

/-- A flag that is set. -/
theorem Armed.setFlags (h : l.Armed) (flags : List Flag) : Armed { l with expired := flags } :=
  ⟨h.sorted, h.issued, h.named, h.disarmed_iff, h.disarmed_issued, h.armed, h.unarmed⟩

/-- Nothing changes but that a task is over, and perhaps what its deadline does. -/
structure Woken (l l' : Ledger) (id : SessionId) (strikes : Prop) : Prop where
  /-- The ledger stays armed. -/
  armed : l'.Armed
  /-- The same sessions live. -/
  live_eq : l'.live = l.live
  /-- No number is issued. -/
  issued_eq : l'.issued = l.issued
  /-- No task is set. -/
  waiting_subset : l'.waiting ⊆ l.waiting
  /-- If the deadline strikes, it cancels the token of the session. -/
  isCancelled_iff : ∀ j, l'.isCancelled j = true ↔ l.isCancelled j = true ∨ (strikes ∧ j = id)
  /-- If it strikes, it sets the flag of the session. -/
  hasExpired_iff : ∀ j, l'.hasExpired j = true ↔ l.hasExpired j = true ∨ (strikes ∧ j = id)

/-- A task that is over without its deadline having struck. -/
theorem Armed.woken_dismiss (h : l.Armed) {now : Nat} {task : DeadlineTask}
    (hover : ∀ s ∈ l.live, s.id = task.session → l.isCancelled s.token = true)
    (hnot : ¬l.Strikes now task.session) :
    Woken l (l.dismiss task) task.session (l.Strikes now task.session) where
  armed := h.dismiss hover
  live_eq := rfl
  issued_eq := rfl
  waiting_subset _ hmem := (List.mem_filter.mp hmem).1
  isCancelled_iff j := by simp only [hnot, false_and, or_false]; rfl
  hasExpired_iff j := by simp only [hnot, false_and, or_false]; rfl

/-- It makes no difference when a task is over and a token cancelled which comes first. -/
theorem cancel_dismiss (task : DeadlineTask) (token : Token) :
    (l.dismiss task).cancel token = (l.cancel token).dismiss task := by
  have hsame : (l.dismiss task).isCancelled token = l.isCancelled token := rfl
  rw [cancel, cancel, hsame]
  split <;> rfl

/-- **A deadline that strikes.** -/
theorem Armed.woken_strike (h : l.Armed) (hl : l.WellKept) {now : Nat} {task : DeadlineTask}
    (htask : task ∈ l.waiting) (hstrikes : l.Strikes now task.session) :
    Woken l { (l.dismiss task).cancel task.token with expired := task.flag :: l.expired }
      task.session (l.Strikes now task.session) := by
  have htoken : task.token = task.session := hl.tasks task htask
  have hflag : task.flag = task.session := (h.named task htask).1
  obtain ⟨hlive, -, hissued, -, -, hwaiting⟩ := cancel_fields l task.token
  rw [cancel_dismiss]
  refine ⟨Armed.setFlags (h.cancel.dismiss fun s hs hid => ?_) _, hlive, hissued,
    fun task' htask' => hwaiting ▸ (List.mem_filter.mp htask').1, fun j => ?_, fun j => ?_⟩
  · -- the token that is cancelled is that of the session
    rw [hlive] at hs
    rw [(hl.named s hs).1, hid]
    exact isCancelled_cancel.mpr (Or.inr htoken.symm)
  · simp only [hstrikes, true_and]
    rw [← htoken]
    exact isCancelled_cancel
  · simp only [hstrikes, true_and, hasExpired, List.contains_cons, Bool.or_eq_true, beq_iff_eq,
      hflag]
    exact or_comm

/-- **A task that waits is woken**: it is over if its session has ended or was called off, and cuts
it off if it is due and neither is so. -/
theorem Armed.wake_spec (h : l.Armed) (hl : l.WellKept) (now : Nat) {task : DeadlineTask}
    (htask : task ∈ l.waiting) :
    Woken l (l.wake now task) task.session (l.Strikes now task.session) := by
  have htoken : task.token = task.session := hl.tasks task htask
  unfold Ledger.wake
  split
  case isTrue hdisarmed =>
    have hended := Bool.eq_false_iff.mp ((h.disarmed_iff task htask).mp hdisarmed)
    exact h.woken_dismiss (fun s hs hid => absurd (isLive_iff.mpr ⟨s, hs, hid⟩) hended)
      fun hstrikes => hended hstrikes.1
  case isFalse hdisarmed =>
    have hlive : l.isLive task.session = true := by
      rw [← Bool.not_eq_false]
      exact fun hended => hdisarmed ((h.disarmed_iff task htask).mpr hended)
    rw [htoken]
    split
    case isTrue hcancelled =>
      refine h.woken_dismiss (fun s hs hid => ?_) fun hstrikes => ?_
      · rw [(hl.named s hs).1, hid]
        exact hcancelled
      · exact absurd hcancelled (Bool.eq_false_iff.mp hstrikes.2.1)
    case isFalse hcancelled =>
      split
      case isTrue hdue =>
        have hstrikes : l.Strikes now task.session :=
          ⟨hlive, Bool.eq_false_iff.mpr hcancelled, task, htask, rfl, hdue⟩
        have hwoken := h.woken_strike hl htask hstrikes
        rw [htoken] at hwoken
        exact hwoken
      case isFalse hdue =>
        have hnot : ¬l.Strikes now task.session := by
          rintro ⟨-, -, task', htask', hid, hdue'⟩
          obtain rfl := h.eq_of_session_eq htask' htask hid
          exact hdue hdue'
        exact ⟨h, rfl, rfl, List.Subset.refl _, fun j => by simp [hnot], fun j => by simp [hnot]⟩

/-- **The task that waits for a session is woken**, if there is one. -/
theorem Armed.wakeFor_spec (h : l.Armed) (hl : l.WellKept) (now : Nat) (id : SessionId) :
    Woken l (l.wakeFor now id) id (l.Strikes now id) := by
  unfold Ledger.wakeFor
  split
  case h_1 task hfound =>
    obtain rfl : task.session = id := by simpa using List.find?_some hfound
    exact h.wake_spec hl now (List.mem_of_find?_eq_some hfound)
  case h_2 hnone =>
    have hnot : ¬l.Strikes now id := by
      rintro ⟨-, -, task, htask, hid, -⟩
      exact absurd hid (by simpa using List.find?_eq_none.mp hnone task htask)
    exact ⟨h, rfl, rfl, List.Subset.refl _, fun j => by simp [hnot], fun j => by simp [hnot]⟩

/-! ### All tasks at once -/

/-- The task that is woken for a session is the only one. -/
theorem Armed.wakeFor_eq (h : l.Armed) (now : Nat) {task : DeadlineTask}
    (htask : task ∈ l.waiting) : l.wakeFor now task.session = l.wake now task := by
  unfold Ledger.wakeFor
  split
  case h_1 task' hfound =>
    have hid : task'.session = task.session := by simpa using List.find?_some hfound
    rw [h.eq_of_session_eq (List.mem_of_find?_eq_some hfound) htask hid]
  case h_2 hnone => exact absurd (List.find?_eq_none.mp hnone task htask) (by simp)

/-- A task that is woken leaves the others waiting. -/
theorem mem_waiting_wake (now : Nat) {task task' : DeadlineTask} (htask' : task' ∈ l.waiting)
    (hne : task' ≠ task) : task' ∈ (l.wake now task).waiting := by
  have hless : task' ∈ (l.dismiss task).waiting :=
    List.mem_filter.mpr ⟨htask', by simpa using hne⟩
  unfold Ledger.wake
  split
  · exact hless
  · split
    · exact hless
    · split
      · exact (cancel_fields (l.dismiss task) task.token).2.2.2.2.2 ▸ hless
      · exact htask'

theorem Armed.foldl_wake_eq (h : l.Armed) (hl : l.WellKept) (now : Nat)
    {tasks : List DeadlineTask} (htasks : ∀ task ∈ tasks, task ∈ l.waiting)
    (hnodup : tasks.Nodup) : tasks.foldl (·.wake now ·) l =
      (tasks.map (·.session)).foldl (·.wakeFor now ·) l := by
  induction tasks generalizing l with
  | nil => rfl
  | cons task rest ih =>
    obtain ⟨htask, hrest⟩ := List.forall_mem_cons.mp htasks
    obtain ⟨hnot, hnodup⟩ := List.nodup_cons.mp hnodup
    rw [List.foldl_cons, List.map_cons, List.foldl_cons, h.wakeFor_eq now htask]
    refine ih (h.wake_spec hl now htask).armed (hl.wake now task).wellKept (fun task' htask' => ?_)
      hnodup
    exact mem_waiting_wake now (hrest task' htask') fun heq => hnot (heq ▸ htask')

/-- **To wake all tasks** is to wake the task of each session, one behind the other. -/
theorem Armed.wakeAll_eq (h : l.Armed) (hl : l.WellKept) (now : Nat) :
    l.wakeAll now = (l.waiting.map (·.session)).foldl (·.wakeFor now ·) l := by
  have hnodup : l.waiting.Nodup := by
    refine h.sorted.imp fun {a b} hlt heq => ?_
    rw [heq] at hlt
    exact Nat.lt_irrefl _ hlt
  exact h.foldl_wake_eq hl now (fun _ htask => htask) hnodup

end Operations

end Ledger

end FormChain
