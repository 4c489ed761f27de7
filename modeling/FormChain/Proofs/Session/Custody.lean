import FormChain.Proofs.Session.Ledger

/-!
# Leases and the ledger

Whoever works with sessions takes leases from the ledger and gives each of them back
once. Here the leases that were handed out are kept beside the ledger, in a
`FormChain.Custody`, and among them those that were not given back; its steps are all that can
be done with a ledger and its leases, in any order. Tokens may be cancelled and tasks that wait
for deadlines may be woken at any time, whoever holds a lease by then.

Main statement: the ledger and the leases agree behind any steps, the active session is
the live one of the highest number, and a session that has ended never comes back
(`FormChain.Custody.run_agrees`).
-/

namespace FormChain

/-! ### Custody -/

/-- **A ledger, with the leases on it that are held.** -/
structure Custody where
  /-- The ledger. -/
  ledger : Ledger := {}
  /-- The leases that are held, the latest first. -/
  held : List HeldLease := []
  /-- All leases that were handed out, the latest first. -/
  taken : List HeldLease := []

/-- **What can be done with a ledger and its leases.** Leases go by their place among those
that are held. -/
inductive CustodyStep where
  /-- Start a session, or join the active one. -/
  | start (clock : Option Nat) (timeout : Timeout) (mayJoin : Bool)
  /-- Join a session. -/
  | join (id : SessionId)
  /-- Hold the session of a foreground lease for work behind the user's back. -/
  | hold (n : Nat)
  /-- Give a lease back: its work is finished, or it is dropped. -/
  | giveBack (n : Nat)
  /-- Cancel a token. -/
  | cancel (token : Token)
  /-- Cancel the token of the active session. -/
  | cancelActive
  /-- The task that waits for the deadline of a session is woken. -/
  | wake (now : Nat) (id : SessionId)

namespace Custody

/-- A lease is handed out. -/
def handOut (c : Custody) (l : Ledger) (k : HeldLease) : Custody :=
  ⟨l, k :: c.held, k :: c.taken⟩

/-- **Do a step.** -/
def perform (c : Custody) : CustodyStep → Custody
  | .start clock timeout mayJoin =>
    let (lease, l) := c.ledger.start clock timeout mayJoin
    c.handOut l (.foreground lease)
  | .join id =>
    match c.ledger.join id with
    | (some lease, l) => c.handOut l (.foreground lease)
    | (none, l) => { c with ledger := l }
  | .hold n =>
    match c.held[n]? with
    | some (.foreground lease) =>
      let (lease, l) := c.ledger.hold lease
      c.handOut l (.background lease)
    | _ => c
  | .giveBack n =>
    match c.held[n]? with
    | some k => { c with ledger := k.giveBack c.ledger, held := c.held.eraseIdx n }
    | none => c
  | .cancel token => { c with ledger := c.ledger.cancel token }
  | .cancelActive => { c with ledger := c.ledger.cancelActive.2 }
  | .wake now id => { c with ledger := c.ledger.wakeFor now id }

/-- **Do steps** one after another, from nothing on. -/
def run (steps : List CustodyStep) : Custody :=
  steps.foldl perform {}

/-- How many leases on a session are held. -/
def heldOn (c : Custody) (id : SessionId) : Nat :=
  c.held.countP (·.session == id)

/-! ### The invariant -/

/-- **The ledger and the leases agree.** -/
structure Agrees (c : Custody) : Prop where
  /-- The ledger is well kept. -/
  wellKept : c.ledger.WellKept
  /-- It counts the leases that are held. -/
  leasesOn_eq : ∀ id, c.ledger.leasesOn id = c.heldOn id
  /-- All of them count. -/
  counts : ∀ k ∈ c.held, k.counts = true

section Step

variable {c : Custody} {l : Ledger}

/-- Of a list without one of its entries, fewer have a property if that one had it. -/
theorem countP_eraseIdx {α : Type} {p : α → Bool} {xs : List α} {n : Nat} {a : α}
    (h : xs[n]? = some a) : (xs.eraseIdx n).countP p = xs.countP p - if p a then 1 else 0 := by
  induction xs generalizing n with
  | nil => cases h
  | cons x rest ih =>
    cases n with
    | zero =>
      obtain rfl := Option.some.inj h
      rw [List.eraseIdx_zero, List.tail_cons, List.countP_cons, Nat.add_sub_cancel]
    | succ n =>
      have hrest : rest[n]? = some a := h
      rw [List.eraseIdx_cons_succ, List.countP_cons, List.countP_cons, ih hrest]
      by_cases hp : p a = true
      · have hpos : 0 < rest.countP p :=
          List.countP_pos_iff.mpr ⟨a, List.mem_of_getElem? hrest, hp⟩
        rw [if_pos hp]
        omega
      · rw [if_neg hp, Nat.sub_zero, Nat.sub_zero]

/-- A lease that is held is on a live session. -/
theorem Agrees.isLive_of_mem (h : c.Agrees) {k : HeldLease} (hk : k ∈ c.held) :
    c.ledger.isLive k.session = true := by
  rw [h.wellKept.isLive_iff_leasesOn, h.leasesOn_eq, heldOn, List.countP_pos_iff]
  exact ⟨k, hk, by simp⟩

/-- Where the ledger counts one lease more, one more is held. -/
theorem Agrees.take (h : c.Agrees) {k : HeldLease} (hk : k.counts = true)
    (hl : Ledger.Recounts c.ledger l (c.ledger.withLease k.session)) :
    (c.handOut l k).Agrees where
  wellKept := hl.wellKept
  leasesOn_eq id := by
    change l.leasesOn id = (k :: c.held).countP (·.session == id)
    rw [hl.leasesOn_eq, Ledger.withLease, h.leasesOn_eq, heldOn, List.countP_cons]
    by_cases hid : id = k.session
    · simp [hid]
    · have hne : ¬k.session = id := fun h => hid h.symm
      simp [hid, hne]
  counts := by
    intro j hj
    rcases List.mem_cons.mp hj with rfl | hj
    · exact hk
    · exact h.counts j hj

/-- Where the ledger counts the same, the same leases are held. -/
theorem Agrees.same (h : c.Agrees) (hl : Ledger.Recounts c.ledger l c.ledger.leasesOn) :
    Agrees { c with ledger := l } where
  wellKept := hl.wellKept
  leasesOn_eq id := by rw [hl.leasesOn_eq, h.leasesOn_eq]; rfl
  counts := h.counts

/-- The return of a lease that counts. -/
theorem recounts_giveBack (h : l.WellKept) {k : HeldLease} (hk : k.counts = true) :
    Ledger.Recounts l (k.giveBack l) (l.withoutLease k.session) := by
  cases k with
  | foreground => exact h.release
  | background => exact h.releaseBackground hk

/-- **Every step keeps the agreement**, and brings no session back. -/
theorem Agrees.perform (h : c.Agrees) (step : CustodyStep) :
    (c.perform step).Agrees ∧
      ∃ count, Ledger.Recounts c.ledger (c.perform step).ledger count := by
  have hsame := h.wellKept.recounts_same rfl rfl rfl (List.Subset.refl _)
  cases step with
  | start clock timeout mayJoin =>
    have hl := h.wellKept.start clock timeout mayJoin
    exact ⟨h.take (k := .foreground _) rfl hl, _, hl⟩
  | join id =>
    rcases h.wellKept.join id with ⟨-, hlease, hl⟩ | ⟨-, hnone⟩
    · have hjoin : c.ledger.join id = (some ⟨id, id, id, true⟩, (c.ledger.join id).2) :=
        Prod.ext hlease rfl
      simp only [Custody.perform]
      rw [hjoin]
      exact ⟨h.take (k := .foreground ⟨id, id, id, true⟩) rfl hl, _, hl⟩
    · simp only [Custody.perform, hnone]
      exact ⟨h, _, hsame⟩
  | hold n =>
    simp only [Custody.perform]
    split
    case h_1 lease hn =>
      -- the lease that is shown keeps the session alive
      have hlive : c.ledger.isLive lease.session = true :=
        h.isLive_of_mem (List.mem_of_getElem? hn)
      obtain ⟨hlease, hl⟩ := h.wellKept.hold hlive
      rw [hlease]
      exact ⟨h.take (k := .background ⟨lease.session, lease.session, true⟩) rfl hl, _, hl⟩
    case h_2 => exact ⟨h, _, hsame⟩
  | giveBack n =>
    simp only [Custody.perform]
    split
    case h_1 k hn =>
      have hl := recounts_giveBack h.wellKept (h.counts k (List.mem_of_getElem? hn))
      refine ⟨⟨hl.wellKept, fun id => ?_, fun j hj => ?_⟩, _, hl⟩
      · rw [hl.leasesOn_eq, Ledger.withoutLease, h.leasesOn_eq, heldOn, heldOn,
          countP_eraseIdx hn]
        by_cases hid : id = k.session
        · simp [hid]
        · have hne : ¬k.session = id := fun h => hid h.symm
          simp [hid, hne]
      · exact h.counts j (List.mem_of_mem_eraseIdx hj)
    case h_2 => exact ⟨h, _, hsame⟩
  | cancel token => exact ⟨h.same h.wellKept.cancel, _, h.wellKept.cancel⟩
  | cancelActive => exact ⟨h.same h.wellKept.cancelActive, _, h.wellKept.cancelActive⟩
  | wake now id =>
    have hl := h.wellKept.wakeFor now id
    exact ⟨h.same hl, _, hl⟩

/-- **A session that has ended stays so.** -/
theorem Agrees.ended_perform (h : c.Agrees) (step : CustodyStep) {id : SessionId}
    (hissued : id ≤ c.ledger.issued) (hended : c.ledger.isLive id = false) :
    id ≤ (c.perform step).ledger.issued ∧ (c.perform step).ledger.isLive id = false := by
  obtain ⟨-, count, hl⟩ := h.perform step
  exact ⟨Nat.le_trans hissued hl.issued_le,
    Ledger.not_isLive_of_old_or_new (hl.old_or_new id) hissued hended⟩

end Step

/-! ### Runs -/

theorem agrees_foldl {c : Custody} (h : c.Agrees) (steps : List CustodyStep) :
    (steps.foldl perform c).Agrees := by
  induction steps generalizing c with
  | nil => exact h
  | cons step rest ih => exact ih (h.perform step).1

/-- **The ledger and the leases agree behind any steps.** -/
theorem agrees_run (steps : List CustodyStep) : (run steps).Agrees :=
  agrees_foldl ⟨Ledger.wellKept_empty, fun _ => rfl, fun _ hk => by cases hk⟩ steps

theorem ended_foldl {c : Custody} (h : c.Agrees) (steps : List CustodyStep) {id : SessionId}
    (hissued : id ≤ c.ledger.issued) (hended : c.ledger.isLive id = false) :
    (steps.foldl perform c).ledger.isLive id = false := by
  induction steps generalizing c with
  | nil => exact hended
  | cons step rest ih =>
    obtain ⟨hissued', hended'⟩ := h.ended_perform step hissued hended
    exact ih (h.perform step).1 hissued' hended'

/-- No number that was issued is ever taken back. -/
theorem issued_le_foldl {c : Custody} (h : c.Agrees) (steps : List CustodyStep) :
    c.ledger.issued ≤ (steps.foldl perform c).ledger.issued := by
  induction steps generalizing c with
  | nil => exact Nat.le_refl _
  | cons step rest ih =>
    obtain ⟨hagrees, count, hl⟩ := h.perform step
    exact Nat.le_trans hl.issued_le (ih hagrees)

/-- **Leases and the ledger.** Behind any steps, in any order:

* a session lives just as long as a lease on it is held, and its entry counts them all;
* there is no active session just where none lives, and otherwise it is the live one of
  the highest number;
* as many sessions are counted as live;
* a session that has lived and has ended does not live behind any further steps, and
  cannot be joined then. -/
theorem run_agrees (steps : List CustodyStep) :
    let c := run steps
    (∀ id, c.ledger.isLive id = true ↔ ∃ k ∈ c.held, k.session = id) ∧
    (∀ s ∈ c.ledger.live, s.leases = c.held.countP (·.session == s.id)) ∧
    (c.ledger.activeSession? = none ↔ ∀ id, c.ledger.isLive id = false) ∧
    (∀ s, c.ledger.activeSession? = some s →
      s ∈ c.ledger.live ∧ ∀ id, c.ledger.isLive id = true → id ≤ s.id) ∧
    (∃ ids : List SessionId, ids.Nodup ∧ (∀ id, id ∈ ids ↔ c.ledger.isLive id = true) ∧
      c.ledger.count = ids.length) ∧
    ∀ n id more, (run (steps.take n)).ledger.isLive id = true → c.ledger.isLive id = false →
      (run (steps ++ more)).ledger.isLive id = false ∧
        ((run (steps ++ more)).ledger.join id).1 = none := by
  intro c
  have h : c.Agrees := agrees_run steps
  refine ⟨fun id => ?_, fun s hs => ?_, h.wellKept.activeSession?_eq_none,
    fun s hs => h.wellKept.activeSession?_eq_some hs,
    ⟨c.ledger.live.map (·.id), ?_, fun id => ?_, ?_⟩, fun n id more hlived hended => ?_⟩
  · rw [h.wellKept.isLive_iff_leasesOn, h.leasesOn_eq, heldOn, List.countP_pos_iff]
    simp
  · rw [h.wellKept.leases_eq hs, h.leasesOn_eq, heldOn]
  · exact (List.pairwise_map.mpr h.wellKept.sorted).imp Nat.ne_of_lt
  · rw [Ledger.isLive_iff, List.mem_map]
  · rw [List.length_map, Ledger.count]
  · -- the session lived behind the first steps, so its number was issued by then
    have hissued : id ≤ c.ledger.issued := by
      have hsplit : c = (steps.drop n).foldl perform (run (steps.take n)) := by
        rw [run, ← List.foldl_append, List.take_append_drop]
        rfl
      rw [hsplit]
      exact Nat.le_trans ((agrees_run _).wellKept.le_issued hlived)
        (issued_le_foldl (agrees_run _) _)
    have hafter : (run (steps ++ more)).ledger.isLive id = false := by
      rw [run, List.foldl_append]
      exact ended_foldl h more hissued hended
    refine ⟨hafter, ?_⟩
    have hnone : (run (steps ++ more)).ledger.session? id = none := by
      simpa [Ledger.isLive] using hafter
    rw [Ledger.join, hnone]

end Custody

end FormChain
