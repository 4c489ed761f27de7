import FormChain.Proofs.Submission.Advance
import Mathlib.Data.List.Induction

/-!
# Overlapping submissions keep their own sessions

A service is in order when its undertakings are, when no two of them have a session in
common, and when the ledger counts on each session just the leases that are held in the
undertaking that has it (`FormChain.Service.InOrder`). No move touches the sessions of
other undertakings, whichever session is the active one, so every move keeps the order.

What a move cancels is told by its target, and what the undertakings hear of their tokens
is never more than what was cancelled (`FormChain.Service.isTrue_run`).

Main statement: `FormChain.Service.run_inOrder`.
-/

namespace FormChain

open Submission

/-! ### The service in order -/

/-- **A service that is in order**: its undertakings are, each has sessions of its own, and
the ledger counts just the leases that are held in them. -/
structure Service.InOrder (s : Service) : Prop where
  /-- The ledger is well kept. -/
  wellKept : s.ledger.WellKept
  /-- Its deadlines are armed. -/
  armed : s.ledger.Armed
  /-- The undertakings are in order. -/
  inOrder : ∀ (i : Nat) (u : Undertaking), s.undertakings[i]? = some u → u.InOrder
  /-- Their sessions have been issued. -/
  issued : ∀ (i : Nat) (u : Undertaking), s.undertakings[i]? = some u →
    ∀ id ∈ u.sessions, id ≤ s.ledger.issued
  /-- No two of them have a session in common. -/
  distinct : ∀ (i j : Nat) (u v : Undertaking) (id : SessionId),
    s.undertakings[i]? = some u → s.undertakings[j]? = some v →
    id ∈ u.sessions → id ∈ v.sessions → i = j
  /-- The ledger counts the leases on their sessions. -/
  counted : ∀ (i : Nat) (u : Undertaking), s.undertakings[i]? = some u →
    ∀ id ∈ u.sessions, s.ledger.leasesOn id = u.leasesOn id
  /-- The ledger counts no others. -/
  owned : ∀ id, 0 < s.ledger.leasesOn id →
    ∃ (i : Nat) (u : Undertaking), s.undertakings[i]? = some u ∧ id ∈ u.sessions

namespace Service

section Order

variable {s : Service} {config : Config} {depth : Nat}

/-- Where the ledger counts the same, the service stays in order. -/
theorem InOrder.same (h : s.InOrder) {l : Ledger}
    (hl : Ledger.Recounts s.ledger l s.ledger.leasesOn) (harmed : l.Armed) :
    InOrder { s with ledger := l } where
  wellKept := hl.wellKept
  armed := harmed
  inOrder := h.inOrder
  issued i u hu id hid := Nat.le_trans (h.issued i u hu id hid) hl.issued_le
  distinct := h.distinct
  counted i u hu id hid := (hl.leasesOn_eq id).trans (h.counted i u hu id hid)
  owned id hid := h.owned id (hl.leasesOn_eq id ▸ hid)

/-- A submission that has just come in is in order. -/
theorem inOrder_submitted (form : Form) (values : Bag) (options : SubmitOptions) :
    (Undertaking.submitted config depth form values options).InOrder where
  standing := by
    refine Or.inl ⟨rfl, _, rfl, rfl, ?_⟩
    exact (keeps_submitWithin_none (keeps_launcherOfDepth config depth) rfl).bind fun _ _ h => h
  fits n e he := by cases he

/-- **A submission that comes in** leaves the service in order. -/
theorem InOrder.submit (h : s.InOrder) (form : Form) (values : Bag) (options : SubmitOptions) :
    InOrder { s with undertakings :=
      s.undertakings ++ [.submitted config depth form values options] } := by
  have hcases {i : Nat} {u : Undertaking}
      (hu : (s.undertakings ++ [.submitted config depth form values options])[i]? = some u) :
      s.undertakings[i]? = some u ∨ u = .submitted config depth form values options := by
    rw [List.getElem?_append] at hu
    split at hu
    · exact Or.inl hu
    · exact Or.inr (List.mem_singleton.mp (List.mem_of_getElem? hu))
  -- it has not started a session
  have hnone {id : SessionId} :
      id ∉ (Undertaking.submitted config depth form values options).sessions := by
    intro hid
    cases hid
  refine ⟨h.wellKept, h.armed, fun i u hu => ?_, fun i u hu id hid => ?_,
    fun i j u v id hu hv hidu hidv => ?_, fun i u hu id hid => ?_, fun id hid => ?_⟩
  · rcases hcases hu with hu | rfl
    · exact h.inOrder i u hu
    · exact inOrder_submitted form values options
  · rcases hcases hu with hu | rfl
    · exact h.issued i u hu id hid
    · exact absurd hid hnone
  · rcases hcases hu with hu | rfl
    · rcases hcases hv with hv | rfl
      · exact h.distinct i j u v id hu hv hidu hidv
      · exact absurd hidv hnone
    · exact absurd hidu hnone
  · rcases hcases hu with hu | rfl
    · exact h.counted i u hu id hid
    · exact absurd hid hnone
  · obtain ⟨i, u, hu, hidu⟩ := h.owned id hid
    refine ⟨i, u, ?_, hidu⟩
    rw [List.getElem?_append_left (List.getElem?_eq_some_iff.mp hu).1]
    exact hu

/-- The undertakings behind a step of one of them. -/
theorem getElem?_set_cases {us : List Undertaking} {i j : Nat} {u v : Undertaking}
    (hv : (us.set i u)[j]? = some v) : (j = i ∧ v = u) ∨ (j ≠ i ∧ us[j]? = some v) := by
  rw [List.getElem?_set] at hv
  split at hv
  case isTrue hij =>
    split at hv
    · exact Or.inl ⟨hij.symm, (Option.some.inj hv).symm⟩
    · cases hv
  case isFalse hij => exact Or.inr ⟨Ne.symm hij, hv⟩

/-- **A step of one undertaking** leaves the service in order: the sessions of the others are
not its own, so nothing changes for them. -/
theorem InOrder.advance (h : s.InOrder) {i : Nat} {u u' : Undertaking} {l : Ledger}
    (hi : s.undertakings[i]? = some u) (ha : Advanced s.ledger l u u') (harmed : l.Armed) :
    InOrder ⟨l, s.undertakings.set i u'⟩ := by
  have hu := h.inOrder i u hi
  have hother {j : Nat} {v : Undertaking} {id : SessionId} (hj : j ≠ i)
      (hv : s.undertakings[j]? = some v) (hid : id ∈ v.sessions) : id ∉ u'.sessions := by
    intro hid'
    rcases ha.old_or_started hid' with hold | ⟨-, hnew, -⟩
    · exact hj (h.distinct j i v u id hv hi hid hold)
    · exact absurd (h.issued j v hv id hid) (Nat.not_le_of_lt hnew)
  refine ⟨ha.wellKept, harmed, fun j v hv => ?_, fun j v hv id hid => ?_,
    fun j k v w id hv hw hidv hidw => ?_, fun j v hv id hid => ?_, fun id hid => ?_⟩
  · rcases getElem?_set_cases hv with ⟨-, rfl⟩ | ⟨-, hv⟩
    · exact ha.inOrder
    · exact h.inOrder j v hv
  · rcases getElem?_set_cases hv with ⟨-, rfl⟩ | ⟨-, hv⟩
    · rcases ha.old_or_started hid with hold | ⟨-, -, hle⟩
      · exact Nat.le_trans (h.issued i u hi id hold) ha.issued_le
      · exact hle
    · exact Nat.le_trans (h.issued j v hv id hid) ha.issued_le
  · rcases getElem?_set_cases hv with ⟨rfl, rfl⟩ | ⟨hj, hv⟩
    · rcases getElem?_set_cases hw with ⟨rfl, -⟩ | ⟨hk, hw⟩
      · rfl
      · exact absurd hidv (hother hk hw hidw)
    · rcases getElem?_set_cases hw with ⟨-, hu'⟩ | ⟨-, hw⟩
      · exact absurd (hu' ▸ hidw) (hother hj hv hidv)
      · exact h.distinct j k v w id hv hw hidv hidw
  · rcases getElem?_set_cases hv with ⟨-, rfl⟩ | ⟨hj, hv⟩
    · exact ha.leasesOn_own h.wellKept hu (h.counted i u hi) hid
    · exact (ha.leasesOn_other hu (hother hj hv hid)).trans (h.counted j v hv id hid)
  · by_cases hid' : id ∈ u'.sessions
    · exact ⟨i, u', List.getElem?_set_self (List.getElem?_eq_some_iff.mp hi).1, hid'⟩
    · -- it is counted as it was, so it belongs to one of the others
      obtain ⟨j, v, hv, hidv⟩ := h.owned id (ha.leasesOn_other hu hid' ▸ hid)
      have hj : j ≠ i := by
        rintro rfl
        obtain rfl := Option.some.inj (hi.symm.trans hv)
        exact hid' (ha.mem_sessions hidv)
      exact ⟨j, v, (List.getElem?_set_ne (Ne.symm hj)).trans hv, hidv⟩

/-- A step of a strand leaves the deadlines armed. -/
theorem armed_advance {l : Ledger} (hl : l.WellKept) (h : l.Armed) (u : Undertaking)
    (w : Surroundings) (k : Nat) : (u.advance config depth w l k).2.Armed := by
  have hreply (token : Token) (c : Call) : (w.reply l token c).2.Armed := by
    cases c with
    | session r => exact h.answer hl w.clock r
    | _ => exact h
  unfold Undertaking.advance
  split
  case h_1 => exact h
  case h_2 =>
    split
    case h_1 => exact h
    case h_2 => exact h
    case h_3 token c next _ => exact hreply token c

/-- **Every move leaves the service in order**, and brings no session back. -/
theorem InOrder.move (h : s.InOrder) (m : ServiceMove) :
    (s.move config depth m).InOrder ∧
      s.ledger.issued ≤ (s.move config depth m).ledger.issued ∧
      ∀ id, (s.move config depth m).ledger.isLive id = true →
        s.ledger.isLive id = true ∨ s.ledger.issued < id := by
  have hsame {l : Ledger} (hl : Ledger.Recounts s.ledger l s.ledger.leasesOn) (harmed : l.Armed) :
      InOrder { s with ledger := l } ∧ s.ledger.issued ≤ l.issued ∧
        ∀ id, l.isLive id = true → s.ledger.isLive id = true ∨ s.ledger.issued < id :=
    ⟨h.same hl harmed, hl.issued_le, hl.old_or_new⟩
  cases m with
  | submit form values options =>
    exact ⟨h.submit form values options, Nat.le_refl _, fun _ hlive => Or.inl hlive⟩
  | advance i k w =>
    simp only [Service.move]
    split
    case h_1 => exact ⟨h, Nat.le_refl _, fun _ hlive => Or.inl hlive⟩
    case h_2 u hi =>
      have hcount (id : SessionId) (hid : id ∈ u.sessions) :
          u.leasesOn id ≤ s.ledger.leasesOn id :=
        Nat.le_of_eq (h.counted i u hi id hid).symm
      have ha := (h.inOrder i u hi).advance h.wellKept hcount config depth w k
      exact ⟨h.advance hi ha (armed_advance h.wellKept h.armed u w k), ha.issued_le,
        ha.old_or_new⟩
  | cancel id => exact hsame h.wellKept.cancel h.armed.cancel
  | cancelActive => exact hsame h.wellKept.cancelActive h.armed.cancelActive
  | wake now id =>
    exact hsame (h.wellKept.wakeFor now id) (h.armed.wakeFor_spec h.wellKept now id).armed

/-- A service that has nothing to do is in order. -/
theorem inOrder_empty : ({} : Service).InOrder where
  wellKept := Ledger.wellKept_empty
  armed := Ledger.armed_empty
  inOrder i u hu := by cases hu
  issued i u hu := by cases hu
  distinct i j u v id hu := by cases hu
  counted i u hu := by cases hu
  owned id hid := absurd hid (Nat.lt_irrefl 0)

theorem inOrder_foldl (h : s.InOrder) (moves : List ServiceMove) :
    (moves.foldl (Service.move config depth) s).InOrder := by
  induction moves generalizing s with
  | nil => exact h
  | cons m rest ih => exact ih (h.move m).1

/-- **A session that was issued and has ended stays so.** -/
theorem ended_foldl (h : s.InOrder) (moves : List ServiceMove) {id : SessionId}
    (hissued : id ≤ s.ledger.issued) (hended : s.ledger.isLive id = false) :
    (moves.foldl (Service.move config depth) s).ledger.isLive id = false := by
  induction moves generalizing s with
  | nil => exact hended
  | cons m rest ih =>
    obtain ⟨horder, hle, hold⟩ := @InOrder.move s config depth h m
    exact ih horder (Nat.le_trans hissued hle)
      (Ledger.not_isLive_of_old_or_new (hold id) hissued hended)

/-- **The service is in order behind any moves.** -/
theorem inOrder_run (config : Config) (depth : Nat) (moves : List ServiceMove) :
    (run config depth moves).InOrder :=
  inOrder_foldl inOrder_empty moves

end Order

/-! ### What is cancelled -/

/-- No request to the ledger cancels a token. -/
theorem cancelled_answer (l : Ledger) (clock : Option Nat) (r : SessionRequest) :
    (l.answer clock r).2.cancelled = l.cancelled := by
  cases r with
  | start =>
    change (l.start _ _ _).2.cancelled = _
    unfold Ledger.start
    split <;> rfl
  | join =>
    change (l.join _).2.cancelled = _
    unfold Ledger.join
    split <;> rfl
  | hold =>
    change (l.hold _).2.cancelled = _
    unfold Ledger.hold
    split <;> rfl
  | release =>
    change (l.release _).cancelled = _
    unfold Ledger.release
    split
    · rfl
    · split <;> rfl
  | releaseBackground =>
    change (l.releaseBackground _).cancelled = _
    unfold Ledger.releaseBackground Ledger.release
    split
    · split
      · rfl
      · split <;> rfl
    · rfl
  | hasExpired => rfl
  | timedOut => rfl

section Cancelled

variable {s : Service} {config : Config} {depth : Nat} {l : Ledger} {id : SessionId}

/-- No step of a strand cancels a token. -/
theorem isCancelled_advance (u : Undertaking) (w : Surroundings) (k : Nat) :
    (u.advance config depth w l k).2.isCancelled id = l.isCancelled id := by
  have hreply (token : Token) (c : Call) : (w.reply l token c).2.cancelled = l.cancelled := by
    cases c with
    | session r => exact cancelled_answer l w.clock r
    | _ => rfl
  unfold Undertaking.advance
  split
  case h_1 => rfl
  case h_2 =>
    split
    case h_1 => rfl
    case h_2 => rfl
    case h_3 token c next _ => rw [Ledger.isCancelled, Ledger.isCancelled, hreply token c]

/-- **A move cancels its target** and no other token. -/
theorem isCancelled_move (h : s.InOrder) (m : ServiceMove) :
    (s.move config depth m).ledger.isCancelled id = true ↔
      s.ledger.isCancelled id = true ∨ m.target? s.ledger = some id := by
  cases m with
  | submit => simp [Service.move, ServiceMove.target?]
  | advance i k w =>
    simp only [Service.move, ServiceMove.target?]
    split
    case h_1 => simp
    case h_2 u _ => simp [isCancelled_advance]
  | cancel j =>
    change (s.ledger.cancel j).isCancelled id = true ↔ _ ∨ some j = some id
    rw [Ledger.isCancelled_cancel, Option.some.injEq]
    exact or_congr_right eq_comm
  | cancelActive =>
    change s.ledger.cancelActive.2.isCancelled id = true ↔
      _ ∨ s.ledger.activeSession?.map (·.id) = some id
    unfold Ledger.cancelActive
    cases hs : s.ledger.activeSession? with
    | none => simp
    | some session =>
      have htoken := (h.wellKept.named session (Ledger.mem_of_activeSession? hs)).1
      dsimp only
      rw [htoken, Ledger.isCancelled_cancel, Option.map_some, Option.some.injEq]
      exact or_congr_right eq_comm
  | wake now j =>
    change (s.ledger.wakeFor now j).isCancelled id = true ↔
      _ ∨ (if s.ledger.Strikes now j then some j else none) = some id
    rw [(h.armed.wakeFor_spec h.wellKept now j).isCancelled_iff, Option.ite_none_right_eq_some,
      Option.some.injEq, eq_comm (b := id)]

theorem run_concat (moves : List ServiceMove) (m : ServiceMove) :
    run config depth (moves ++ [m]) = (run config depth moves).move config depth m := by
  rw [run, run, List.foldl_append]
  rfl

/-- **A token is cancelled just where some move was aimed at it.** -/
theorem isCancelled_run (moves : List ServiceMove) :
    (run config depth moves).ledger.isCancelled id = true ↔
      ∃ front m back, moves = front ++ m :: back ∧
        m.target? (run config depth front).ledger = some id := by
  induction moves using List.reverseRecOn with
  | nil => simp [run, Ledger.isCancelled]
  | append_singleton moves m ih =>
    rw [run_concat, isCancelled_move (inOrder_run config depth moves), ih]
    constructor
    · rintro (⟨front, m', back, rfl, h⟩ | h)
      · exact ⟨front, m', back ++ [m], by simp, h⟩
      · exact ⟨moves, m, [], rfl, h⟩
    · rintro ⟨front, m', back, hsplit, h⟩
      -- the move in question is the last one, or one before it
      rcases List.eq_nil_or_concat back with rfl | ⟨back, m'', rfl⟩
      · obtain ⟨rfl, rfl⟩ : moves = front ∧ m = m' := by simpa using hsplit
        exact Or.inr h
      · rw [List.concat_eq_append, ← List.cons_append, ← List.append_assoc] at hsplit
        obtain ⟨hmoves, -⟩ := List.append_inj' hsplit rfl
        exact Or.inl ⟨front, m', back, hmoves, h⟩

end Cancelled

/-! ### What is heard of it -/

/-- **Whether an event tells the truth**: if its token is told to be cancelled, it is. -/
def Event.IsTrue (l : Ledger) : Event → Prop
  | .exchange token _ reply => reply.cancelled = true → l.isCancelled token = true
  | .remark _ => True

section Heard

variable {s : Service} {config : Config} {depth : Nat} {l l' : Ledger}

theorem Event.IsTrue.mono {e : Event} (h : Event.IsTrue l e)
    (hl : ∀ id, l.isCancelled id = true → l'.isCancelled id = true) : Event.IsTrue l' e := by
  cases e with
  | remark => trivial
  | exchange token c reply => exact fun hcancelled => hl token (h hcancelled)

/-- What a step adds tells the truth, and what was there goes on doing so. -/
theorem isTrue_advance {u : Undertaking} (hu : ∀ e ∈ u.log, Event.IsTrue l e)
    (w : Surroundings) (k : Nat) : ∀ e ∈ (u.advance config depth w l k).1.log,
      Event.IsTrue (u.advance config depth w l k).2 e := by
  have hkept : ∀ e ∈ u.log, Event.IsTrue (u.advance config depth w l k).2 e := fun e he =>
    (hu e he).mono fun id hid => (isCancelled_advance u w k).trans hid
  revert hkept
  unfold Undertaking.advance
  split
  case h_1 => exact fun hkept => hkept
  case h_2 =>
    split
    case h_1 => exact fun hkept => hkept
    case h_2 =>
      intro hkept e he
      rcases List.mem_append.mp he with he | he
      · exact hkept e he
      · rw [List.mem_singleton.mp he]
        trivial
    case h_3 token c next _ =>
      intro hkept e he
      rcases List.mem_append.mp he with he | he
      · exact hkept e he
      · rw [List.mem_singleton.mp he]
        cases c <;> exact fun h => h

/-- **What the undertakings hear of their tokens is true.** -/
theorem isTrue_run (moves : List ServiceMove) :
    ∀ u ∈ (run config depth moves).undertakings, ∀ e ∈ u.log,
      Event.IsTrue (run config depth moves).ledger e := by
  induction moves using List.reverseRecOn with
  | nil => exact fun u hu => by cases hu
  | append_singleton moves m ih =>
    have horder : (run config depth moves).InOrder := inOrder_run config depth moves
    rw [run_concat]
    generalize run config depth moves = s at ih horder
    -- tokens stay cancelled, so what was true stays so
    have hkept : ∀ u ∈ s.undertakings, ∀ e ∈ u.log,
        Event.IsTrue (s.move config depth m).ledger e := fun u hu e he =>
      (ih u hu e he).mono fun id hid => (isCancelled_move horder m).mpr (Or.inl hid)
    cases m with
    | submit form values options =>
      intro u hu e he
      rcases List.mem_append.mp hu with hu | hu
      · exact hkept u hu e he
      · rw [List.mem_singleton.mp hu] at he
        cases he
    | advance i k w =>
      revert hkept
      simp only [Service.move]
      split
      case h_1 => exact fun hkept => hkept
      case h_2 u hi =>
        intro hkept v hv
        rcases List.mem_or_eq_of_mem_set hv with hv | rfl
        · exact hkept v hv
        · exact isTrue_advance (ih u (List.mem_of_getElem? hi)) w k
    | _ => exact hkept

end Heard

/-! ### Undertakings by themselves -/

section Single

variable {u : Undertaking} {id : SessionId}

/-- At most one session is started. -/
theorem length_sessions_le (h : u.InOrder) : u.sessions.length ≤ 1 := by
  rcases h.standing with ⟨hnil, -⟩ | ⟨id, hid, -⟩
  · rw [hnil]
    exact Nat.zero_le 1
  · rw [hid]
    exact Nat.le_refl 1

/-- The session that was started before an event is the only one. -/
theorem sessions_of_before (h : u.InOrder) {n : Nat} (hn : u.sessionsBefore n = [id]) :
    u.sessions = [id] := by
  have hsplit : u.sessions = u.sessionsBefore n ++ (u.log.drop n).filterMap (·.started?) := by
    rw [Undertaking.sessions, Undertaking.sessionsBefore, ← List.filterMap_append,
      List.take_append_drop]
  have hlength := length_sessions_le h
  rw [hsplit, hn, List.length_append, List.length_singleton] at hlength
  have hnil := List.length_eq_zero_iff.mp (Nat.le_zero.mp (Nat.le_of_add_le_add_left hlength))
  rw [hsplit, hn, hnil, List.append_nil]

/-- **Where everything has ended, no lease is held.** -/
theorem leasesOn_of_hasEnded (h : u.InOrder) (hended : u.HasEnded) : u.leasesOn id = 0 := by
  refine List.count_eq_zero.mpr fun hheld => ?_
  obtain ⟨k, hk, hid⟩ := List.mem_flatMap.mp hheld
  obtain ⟨σ, hleases, hkeeps⟩ : ∃ σ, k.StandsAt σ := by
    rcases h.standing with ⟨-, j, hstrands, hj⟩ | ⟨id', -, hall⟩
    · rw [hstrands, List.mem_singleton] at hk
      exact ⟨.outside, hk ▸ hj⟩
    · obtain ⟨n, hn⟩ := hall k hk
      exact ⟨_, hn⟩
  obtain ⟨a, hdone⟩ := hended k hk
  -- a strand that is done has given back all that it held
  rw [hdone] at hkeeps
  rw [hleases] at hid
  cases σ with
  | outside => cases hid
  | within id' n =>
    obtain rfl : n = 0 := hkeeps
    cases hid

theorem leasesOn_pos_iff : 0 < u.leasesOn id ↔ ∃ k ∈ u.strands, id ∈ k.leases := by
  rw [Undertaking.leasesOn, List.count_pos_iff, List.mem_flatMap]

end Single

/-! ### Runs -/

/-- Once all undertakings have ended, no session lives. -/
theorem count_eq_zero {s : Service} (h : s.InOrder)
    (hended : ∀ u ∈ s.undertakings, u.HasEnded) : s.ledger.count = 0 := by
  refine List.length_eq_zero_iff.mpr (List.eq_nil_iff_forall_not_mem.mpr fun session hs => ?_)
  have hlive : s.ledger.isLive session.id = true := Ledger.isLive_iff.mpr ⟨session, hs, rfl⟩
  have hpos := h.wellKept.isLive_iff_leasesOn.mp hlive
  obtain ⟨i, u, hu, hid⟩ := h.owned session.id hpos
  rw [h.counted i u hu session.id hid,
    leasesOn_of_hasEnded (h.inOrder i u hu) (hended u (List.mem_of_getElem? hu))] at hpos
  exact absurd hpos (Nat.lt_irrefl 0)

/-- **Overlapping submissions keep their own sessions.** Behind any moves, in any order:

* an undertaking has started at most one session; every chain in it was started in this
  session and under its token, and from its start on every question was asked under this
  token, but for those that find and read the files of launched forms;
* two undertakings have different sessions, and a move that is aimed at the session of one
  leaves the token of the other alone;
* the ledger counts on the session of an undertaking just the leases that are held in the
  undertaking; the session lives as long as there is one, and then never again;
* a token is cancelled just where some move was aimed at it, and no undertaking hears
  anything else;
* once all undertakings have ended, no session is left. -/
theorem run_inOrder (config : Config) (depth : Nat) (moves : List ServiceMove) :
    let s := run config depth moves
    (∀ u ∈ s.undertakings, u.sessions.length ≤ 1 ∧
      (∀ form token session, .remark (.entered form token session) ∈ u.log →
        u.sessions = [token] ∧ session = some token) ∧
      ∀ n token c reply, u.log[n]? = some (.exchange token c reply) →
        u.sessions = [token] ∨
          (token = 0 ∧ (u.sessionsBefore n = [] ∨ c.isReading = true))) ∧
    (∀ (i j : Nat) (u v : Undertaking), s.undertakings[i]? = some u →
      s.undertakings[j]? = some v → i ≠ j → ∀ id ∈ u.sessions, ∀ id' ∈ v.sessions, id ≠ id' ∧
        ∀ m : ServiceMove, m.target? s.ledger = some id →
          (s.move config depth m).ledger.isCancelled id' = s.ledger.isCancelled id') ∧
    (∀ u ∈ s.undertakings, ∀ id ∈ u.sessions,
      s.ledger.leasesOn id = u.leasesOn id ∧
      (s.ledger.isLive id = true ↔ ∃ k ∈ u.strands, id ∈ k.leases) ∧
      ∀ more, s.ledger.isLive id = false →
        (run config depth (moves ++ more)).ledger.isLive id = false) ∧
    (∀ id, s.ledger.isCancelled id = true ↔ ∃ front m back, moves = front ++ m :: back ∧
      m.target? (run config depth front).ledger = some id) ∧
    (∀ u ∈ s.undertakings, ∀ token c reply, .exchange token c reply ∈ u.log →
      reply.cancelled = true → s.ledger.isCancelled token = true) ∧
    ((∀ u ∈ s.undertakings, u.HasEnded) → s.ledger.count = 0) := by
  intro s
  have h : s.InOrder := inOrder_run config depth moves
  have horder (u : Undertaking) (hu : u ∈ s.undertakings) : u.InOrder := by
    obtain ⟨i, hi⟩ := List.mem_iff_getElem?.mp hu
    exact h.inOrder i u hi
  refine ⟨fun u hu => ⟨length_sessions_le (horder u hu), ?_, ?_⟩,
    fun i j u v hu hv hij id hid id' hid' => ?_, fun u hu id hid => ?_,
    fun id => isCancelled_run moves, fun u hu token c reply he => isTrue_run moves u hu _ he,
    count_eq_zero h⟩
  · intro form token session he
    obtain ⟨n, hn⟩ := List.mem_iff_getElem?.mp he
    obtain ⟨hbefore, hsession⟩ := (horder u hu).fits n _ hn
    exact ⟨sessions_of_before (horder u hu) hbefore, hsession⟩
  · intro n token c reply hn
    exact ((horder u hu).fits n _ hn).imp_left (sessions_of_before (horder u hu))
  · have hne : id ≠ id' := by
      rintro rfl
      exact hij (h.distinct i j u v id hu hv hid hid')
    refine ⟨hne, fun m hm => Bool.eq_iff_iff.mpr ?_⟩
    rw [isCancelled_move h, hm, Option.some.injEq]
    exact or_iff_left hne
  · obtain ⟨i, hi⟩ := List.mem_iff_getElem?.mp hu
    have hcounted := h.counted i u hi id hid
    refine ⟨hcounted, ?_, fun more hended => ?_⟩
    · rw [h.wellKept.isLive_iff_leasesOn, hcounted, leasesOn_pos_iff]
    · rw [run, List.foldl_append]
      exact ended_foldl h more (h.issued i u hi id hid) hended

end Service

end FormChain
