import FormChain.Session.Ledger

/-!
# What the ledger counts

All that matters of a ledger is how many leases it counts on each session
(`FormChain.Ledger.leasesOn`), and it says so for every number: none where the session
does not live. A ledger is *well kept* when its live sessions stand in order of their
numbers, have been issued, have a lease each, and the last of them is the active one; and
what was made with a session goes by its number.

Every operation leaves a well kept ledger well kept, and is described by what it does to
the count: `FormChain.Ledger.Recounts` says what the count is behind it, and that no
session has come alive but a new one. There is one such lemma for each operation.
-/

namespace FormChain

namespace Ledger

/-! ### Counting leases -/

/-- **How many leases are counted on a session**; none where it does not live. -/
def leasesOn (l : Ledger) (id : SessionId) : Nat :=
  ((l.session? id).map (·.leases)).getD 0

/-- **A ledger that is well kept.** -/
structure WellKept (l : Ledger) : Prop where
  /-- The live sessions stand in order of their numbers. -/
  sorted : l.live.Pairwise (·.id < ·.id)
  /-- Their numbers have been issued. -/
  issued : ∀ s ∈ l.live, s.id ≤ l.issued
  /-- There is a lease on each of them. -/
  leased : ∀ s ∈ l.live, 0 < s.leases
  /-- The last of them is the active one. -/
  active : l.active = l.live.getLast?.map (·.id)
  /-- Their tokens and flags go by their numbers. -/
  named : ∀ s ∈ l.live, s.token = s.id ∧ s.flag = s.id
  /-- So do the tokens that are cancelled by deadlines. -/
  tasks : ∀ task ∈ l.waiting, task.token = task.session

/-- A ledger without sessions is well kept. -/
theorem wellKept_empty : ({} : Ledger).WellKept where
  sorted := List.Pairwise.nil
  issued _ hs := by cases hs
  leased _ hs := by cases hs
  active := rfl
  named _ hs := by cases hs
  tasks _ hs := by cases hs

section Views

variable {l : Ledger} {id : SessionId}

theorem isLive_iff : l.isLive id = true ↔ ∃ s ∈ l.live, s.id = id := by
  simp [isLive, session?]

/-- A live session is found under its number. -/
theorem WellKept.session?_of_mem (h : l.WellKept) {s : Session} (hs : s ∈ l.live) :
    l.session? s.id = some s := by
  obtain ⟨front, back, hsplit⟩ := List.append_of_mem hs
  have hsorted := h.sorted
  rw [hsplit, List.pairwise_append] at hsorted
  refine List.find?_eq_some_iff_append.mpr ⟨by simp, front, back, hsplit, ?_⟩
  intro t ht
  have hlt := hsorted.2.2 t ht s List.mem_cons_self
  simpa using Nat.ne_of_lt hlt

theorem WellKept.session?_eq_some_iff (h : l.WellKept) {s : Session} :
    l.session? id = some s ↔ s ∈ l.live ∧ s.id = id := by
  constructor
  · intro hs
    exact ⟨List.mem_of_find?_eq_some hs, by simpa using List.find?_some hs⟩
  · rintro ⟨hs, rfl⟩
    exact h.session?_of_mem hs

theorem leasesOn_of_not_live (h : l.isLive id = false) : l.leasesOn id = 0 := by
  simp only [isLive, Option.isSome_eq_false_iff, Option.isNone_iff_eq_none] at h
  rw [leasesOn, h]
  rfl

/-- **A session lives just as long as leases are counted on it.** -/
theorem WellKept.isLive_iff_leasesOn (h : l.WellKept) :
    l.isLive id = true ↔ 0 < l.leasesOn id := by
  constructor
  · intro hlive
    obtain ⟨s, hs⟩ := Option.isSome_iff_exists.mp hlive
    rw [leasesOn, hs]
    exact h.leased s (h.session?_eq_some_iff.mp hs).1
  · intro hpos
    cases hlive : l.isLive id with
    | true => rfl
    | false => exact absurd hpos (by rw [leasesOn_of_not_live hlive]; exact Nat.lt_irrefl 0)

theorem WellKept.le_issued (h : l.WellKept) (hlive : l.isLive id = true) : id ≤ l.issued := by
  obtain ⟨s, hs, rfl⟩ := isLive_iff.mp hlive
  exact h.issued s hs

/-- The count of a live session is that of its entry. -/
theorem WellKept.leases_eq (h : l.WellKept) {s : Session} (hs : s ∈ l.live) :
    s.leases = l.leasesOn s.id := by
  rw [leasesOn, h.session?_of_mem hs]
  rfl

theorem mem_of_activeSession? {s : Session} (h : l.activeSession? = some s) : s ∈ l.live := by
  obtain ⟨id, -, hs⟩ := Option.bind_eq_some_iff.mp h
  exact List.mem_of_find?_eq_some hs

/-- **The active session is the last one.** -/
theorem WellKept.activeSession?_eq (h : l.WellKept) : l.activeSession? = l.live.getLast? := by
  rw [activeSession?, h.active]
  cases hlast : l.live.getLast? with
  | none => rfl
  | some s => exact h.session?_of_mem (List.mem_of_getLast? hlast)

/-- Without a live session there is no active one, and the other way round. -/
theorem WellKept.activeSession?_eq_none (h : l.WellKept) :
    l.activeSession? = none ↔ ∀ id, l.isLive id = false := by
  rw [h.activeSession?_eq, List.getLast?_eq_none_iff]
  constructor
  · intro hnil id
    rw [Bool.eq_false_iff, ne_eq, isLive_iff, hnil]
    rintro ⟨s, hs, -⟩
    cases hs
  · intro hnone
    refine List.eq_nil_iff_forall_not_mem.mpr fun s hs => ?_
    exact absurd (isLive_iff.mpr ⟨s, hs, rfl⟩) (by simp [hnone])

/-- **The active session lives, and no live session has a higher number.** -/
theorem WellKept.activeSession?_eq_some (h : l.WellKept) {s : Session}
    (hs : l.activeSession? = some s) :
    s ∈ l.live ∧ ∀ id, l.isLive id = true → id ≤ s.id := by
  rw [h.activeSession?_eq, List.getLast?_eq_some_iff] at hs
  obtain ⟨front, hsplit⟩ := hs
  have hsorted := h.sorted
  rw [hsplit, List.pairwise_append] at hsorted
  refine ⟨by simp [hsplit], fun id hlive => ?_⟩
  obtain ⟨t, ht, rfl⟩ := isLive_iff.mp hlive
  rw [hsplit, List.mem_append, List.mem_singleton] at ht
  rcases ht with ht | rfl
  · exact Nat.le_of_lt (hsorted.2.2 t ht s List.mem_cons_self)
  · exact Nat.le_refl _

end Views

/-! ### Tokens -/

/-- The task that waits for the deadline of a session is woken, if there is one. -/
def wakeFor (l : Ledger) (now : Nat) (id : SessionId) : Ledger :=
  match l.waiting.find? (·.session == id) with
  | some task => l.wake now task
  | none => l

/-- A token is all that is changed when it is cancelled. -/
theorem cancel_fields (l : Ledger) (token : Token) :
    (l.cancel token).live = l.live ∧ (l.cancel token).active = l.active ∧
      (l.cancel token).issued = l.issued ∧ (l.cancel token).expired = l.expired ∧
      (l.cancel token).disarmed = l.disarmed ∧ (l.cancel token).waiting = l.waiting := by
  unfold Ledger.cancel
  split <;> exact ⟨rfl, rfl, rfl, rfl, rfl, rfl⟩

/-- **Behind its cancellation a token is cancelled**, and so are those that were. -/
theorem isCancelled_cancel {l : Ledger} {token token' : Token} :
    (l.cancel token).isCancelled token' = true ↔
      l.isCancelled token' = true ∨ token' = token := by
  unfold Ledger.cancel
  split
  case isTrue hcancelled =>
    refine ⟨Or.inl, fun h => h.elim id ?_⟩
    rintro rfl
    exact hcancelled
  case isFalse => simp [isCancelled, or_comm]

/-! ### Operations by what they do to the count -/

/-- **What an operation does**: behind it the ledger is well kept, and counts as many
leases as is said; no session has come alive but a new one. -/
structure Recounts (l l' : Ledger) (count : SessionId → Nat) : Prop where
  /-- The ledger is well kept. -/
  wellKept : l'.WellKept
  /-- The count is the one that is said. -/
  leasesOn_eq : ∀ id, l'.leasesOn id = count id
  /-- No issued number is taken back. -/
  issued_le : l.issued ≤ l'.issued
  /-- A session that lives has lived before or is new. -/
  old_or_new : ∀ id, l'.isLive id = true → l.isLive id = true ∨ l.issued < id

/-- **Where only new sessions come alive, one that has ended stays so.** -/
theorem not_isLive_of_old_or_new {l l' : Ledger} {id : SessionId}
    (hl : l'.isLive id = true → l.isLive id = true ∨ l.issued < id) (hissued : id ≤ l.issued)
    (hended : l.isLive id = false) : l'.isLive id = false := by
  refine Bool.eq_false_iff.mpr fun hlive => ?_
  rcases hl hlive with hold | hnew
  · exact absurd (hended.symm.trans hold) Bool.false_ne_true
  · exact absurd hissued (Nat.not_le_of_lt hnew)

/-- One lease more on a session than before. -/
def withLease (l : Ledger) (id : SessionId) : SessionId → Nat :=
  fun j => l.leasesOn j + if j = id then 1 else 0

/-- One lease less on a session than before. -/
def withoutLease (l : Ledger) (id : SessionId) : SessionId → Nat :=
  fun j => l.leasesOn j - if j = id then 1 else 0

section Operations

variable {l : Ledger} {id : SessionId}

/-- A ledger with the same live sessions, the same active one and the same numbers, where no
more deadlines are waited for. -/
theorem WellKept.recounts_same (h : l.WellKept) {l' : Ledger} (hlive : l'.live = l.live)
    (hactive : l'.active = l.active) (hissued : l'.issued = l.issued)
    (hwaiting : l'.waiting ⊆ l.waiting) : Recounts l l' l.leasesOn where
  wellKept := ⟨hlive ▸ h.sorted, by rw [hlive, hissued]; exact h.issued, hlive ▸ h.leased,
    by rw [hlive, hactive]; exact h.active, hlive ▸ h.named,
    fun task htask => h.tasks task (hwaiting htask)⟩
  leasesOn_eq j := by rw [leasesOn, leasesOn, session?, session?, hlive]
  issued_le := Nat.le_of_eq hissued.symm
  old_or_new j hj := Or.inl (by rw [isLive, session?, hlive] at hj; exact hj)

/-- **A ledger with other numbers of leases on its live sessions**, though on each of them
one at least. -/
theorem WellKept.recounts_map (h : l.WellKept) {f : Session → Session} {count : SessionId → Nat}
    (hf : ∀ s, { f s with leases := s.leases } = s) (hpos : ∀ s ∈ l.live, 0 < (f s).leases)
    (hcount : ∀ s ∈ l.live, (f s).leases = count s.id)
    (hnone : ∀ j, l.isLive j = false → count j = 0) :
    Recounts l { l with live := l.live.map f } count := by
  have hid (s : Session) : (f s).id = s.id := congrArg (·.id) (hf s)
  have hsession (j : SessionId) :
      Ledger.session? { l with live := l.live.map f } j = (l.session? j).map f := by
    simp only [session?, List.find?_map, Function.comp_def, hid]
  refine ⟨⟨?_, ?_, ?_, ?_, ?_, h.tasks⟩, ?_, Nat.le_refl _, ?_⟩
  · rw [List.pairwise_map]
    simpa only [hid] using h.sorted
  · intro s hs
    obtain ⟨t, ht, rfl⟩ := List.mem_map.mp hs
    rw [hid]
    exact h.issued t ht
  · intro s hs
    obtain ⟨t, ht, rfl⟩ := List.mem_map.mp hs
    exact hpos t ht
  · rw [List.getLast?_map, Option.map_map, Function.comp_def]
    simpa only [hid] using h.active
  · intro s hs
    obtain ⟨t, ht, rfl⟩ := List.mem_map.mp hs
    have htoken : (f t).token = t.token := congrArg (·.token) (hf t)
    have hflag : (f t).flag = t.flag := congrArg (·.flag) (hf t)
    rw [hid, htoken, hflag]
    exact h.named t ht
  · intro j
    rw [leasesOn, hsession]
    cases hs : l.session? j with
    | none => exact (hnone j (by rw [isLive, hs]; rfl)).symm
    | some s =>
      obtain ⟨hmem, rfl⟩ := h.session?_eq_some_iff.mp hs
      exact hcount s hmem
  · intro j hj
    rw [isLive, hsession, Option.isSome_map] at hj
    exact Or.inl hj

/-- **One lease more** on a live session. -/
theorem WellKept.addLease (h : l.WellKept) (hlive : l.isLive id = true) :
    Recounts l (l.addLease id) (l.withLease id) := by
  refine h.recounts_map (fun s => by split <;> rfl) ?_ ?_ ?_
  · intro s hs
    have hpos := h.leased s hs
    split
    · exact Nat.succ_pos _
    · exact hpos
  · intro s hs
    rw [withLease, ← h.leases_eq hs]
    split <;> rfl
  · intro j hj
    have hne : j ≠ id := by
      rintro rfl
      exact absurd (hj.symm.trans hlive) nofun
    rw [withLease, if_neg hne, leasesOn_of_not_live hj]

/-- **A new session**, with one lease on it. -/
theorem WellKept.startFresh (h : l.WellKept) (deadline : Option Nat) :
    Recounts l (l.startFresh deadline).2 (l.withLease (l.startFresh deadline).1.session) := by
  let id := l.issued + 1
  have hsession (j : SessionId) : (l.startFresh deadline).2.session? j =
      (l.session? j).or
        (if j = id then some ⟨id, 1, id, id, deadline.map fun _ => id⟩ else none) := by
    by_cases hj : j = l.issued + 1
    · simp [session?, Ledger.startFresh, hj, id]
    · have hne : ¬l.issued + 1 = j := fun hj' => hj hj'.symm
      simp [session?, Ledger.startFresh, hj, hne, id]
  refine ⟨⟨?_, ?_, ?_, ?_, ?_, ?_⟩, ?_, Nat.le_succ _, ?_⟩
  · refine List.pairwise_append.mpr ⟨h.sorted, List.pairwise_singleton _ _, ?_⟩
    intro s hs t ht
    obtain rfl := List.mem_singleton.mp ht
    exact Nat.lt_succ_of_le (h.issued s hs)
  · intro s hs
    rcases List.mem_append.mp hs with hs | hs
    · exact Nat.le_succ_of_le (h.issued s hs)
    · obtain rfl := List.mem_singleton.mp hs
      exact Nat.le_refl _
  · intro s hs
    rcases List.mem_append.mp hs with hs | hs
    · exact h.leased s hs
    · obtain rfl := List.mem_singleton.mp hs
      exact Nat.zero_lt_one
  · simp [Ledger.startFresh]
  · intro s hs
    rcases List.mem_append.mp hs with hs | hs
    · exact h.named s hs
    · obtain rfl := List.mem_singleton.mp hs
      exact ⟨rfl, rfl⟩
  · intro task htask
    rcases List.mem_append.mp htask with htask | htask
    · exact h.tasks task htask
    · obtain ⟨due, -, rfl⟩ := Option.map_eq_some_iff.mp (Option.mem_toList.mp htask)
      rfl
  · intro j
    rw [leasesOn, hsession, withLease, leasesOn]
    change _ = _ + if j = l.issued + 1 then 1 else 0
    by_cases hj : j = l.issued + 1
    · -- the number is new, so nothing was counted on it before
      have hnone : l.session? j = none := by
        cases hs : l.session? j with
        | none => rfl
        | some s =>
          have hlive : l.isLive j = true := by rw [isLive, hs]; rfl
          have hle := h.le_issued hlive
          exact absurd (hj ▸ hle) (Nat.not_succ_le_self _)
      rw [hnone, if_pos hj, if_pos hj]
      rfl
    · rw [if_neg hj, if_neg hj, Option.or_none]
      rfl
  · intro j hj
    rw [isLive, hsession, Option.isSome_or, Bool.or_eq_true] at hj
    rcases hj with hj | hj
    · exact Or.inl hj
    · by_cases hnew : j = l.issued + 1
      · exact Or.inr (hnew ▸ Nat.lt_succ_self _)
      · rw [if_neg hnew] at hj
        cases hj

/-- **Starting a session**, or joining the active one. -/
theorem WellKept.start (h : l.WellKept) (clock : Option Nat) (timeout : Timeout)
    (mayJoin : Bool) :
    Recounts l (l.start clock timeout mayJoin).2
      (l.withLease (l.start clock timeout mayJoin).1.session) := by
  unfold Ledger.start
  split
  case h_1 s hs =>
    refine h.addLease (isLive_iff.mpr ⟨s, ?_, rfl⟩)
    split at hs
    · exact mem_of_activeSession? hs
    · cases hs
  case h_2 => exact h.startFresh _

/-- **Joining a session**, if it lives: the lease carries what goes by its number. -/
theorem WellKept.join (h : l.WellKept) (id : SessionId) :
    (l.isLive id = true ∧ (l.join id).1 = some ⟨id, id, id, true⟩ ∧
        Recounts l (l.join id).2 (l.withLease id)) ∨
      (l.isLive id = false ∧ l.join id = (none, l)) := by
  unfold Ledger.join
  split
  case h_1 s hs =>
    obtain ⟨hmem, rfl⟩ := h.session?_eq_some_iff.mp hs
    obtain ⟨htoken, hflag⟩ := h.named s hmem
    have hlive : l.isLive s.id = true := isLive_iff.mpr ⟨s, hmem, rfl⟩
    exact Or.inl ⟨hlive, by rw [htoken, hflag], h.addLease hlive⟩
  case h_2 hnone => exact Or.inr ⟨by rw [isLive, hnone]; rfl, rfl⟩

/-- **Holding a live session** for work behind the user's back. -/
theorem WellKept.hold (h : l.WellKept) {lease : Lease} (hlive : l.isLive lease.session = true) :
    (l.hold lease).1 = ⟨lease.session, lease.session, true⟩ ∧
      Recounts l (l.hold lease).2 (l.withLease lease.session) := by
  obtain ⟨s, hs⟩ := Option.isSome_iff_exists.mp hlive
  obtain ⟨hmem, hid⟩ := h.session?_eq_some_iff.mp hs
  simp only [Ledger.hold, hs, (h.named s hmem).1, hid]
  exact ⟨trivial, h.addLease hlive⟩

/-- The last entry of a list is the last one of a part that has it. -/
theorem getLast?_filter_of_last {live : List Session} {p : Session → Bool} {s : Session}
    (h : live.getLast? = some s) (hp : p s = true) : (live.filter p).getLast? = some s := by
  obtain ⟨front, rfl⟩ := List.getLast?_eq_some_iff.mp h
  rw [List.filter_append, List.filter_cons_of_pos hp, List.filter_nil, List.getLast?_concat]

/-- **Giving the last lease back**, with which the session ends. -/
theorem WellKept.endSession (h : l.WellKept) {s : Session} (hs : s ∈ l.live)
    (hlast : s.leases = 1) :
    Recounts l
      { l with
        live := l.live.filter (·.id ≠ s.id)
        disarmed := s.disarm.toList ++ l.disarmed
        active := if l.active = some s.id then (l.live.filter (·.id ≠ s.id)).getLast?.map (·.id)
          else l.active }
      (l.withoutLease s.id) := by
  have hsession (j : SessionId) : (l.live.filter (·.id ≠ s.id)).find? (·.id == j) =
      if j = s.id then none else l.session? j := by
    split
    case isTrue hj =>
      refine List.find?_eq_none.mpr fun t ht => ?_
      simpa [hj] using (List.mem_filter.mp ht).2
    case isFalse hj =>
      rw [List.find?_filter, session?]
      refine congrArg (List.find? · l.live) (funext fun t => ?_)
      by_cases ht : t.id = j <;> simp [ht, hj]
  refine ⟨⟨?_, ?_, ?_, ?_, ?_, h.tasks⟩, ?_, Nat.le_refl _, ?_⟩
  · exact h.sorted.filter _
  · exact fun t ht => h.issued t (List.mem_filter.mp ht).1
  · exact fun t ht => h.leased t (List.mem_filter.mp ht).1
  · change (if l.active = some s.id then _ else l.active) = _
    split
    case isTrue => rfl
    case isFalse hother =>
      -- the active session is another one, so it is still the last
      rw [h.active] at hother ⊢
      cases hlast : l.live.getLast? with
      | none => rw [List.getLast?_eq_none_iff.mp hlast]; rfl
      | some t =>
        rw [hlast] at hother
        have hne : t.id ≠ s.id := fun hid => hother (congrArg some hid)
        rw [getLast?_filter_of_last hlast (by simpa using hne)]
  · exact fun t ht => h.named t (List.mem_filter.mp ht).1
  · intro j
    rw [leasesOn, session?, hsession, withoutLease]
    by_cases hj : j = s.id
    · rw [if_pos hj, if_pos hj, hj, ← h.leases_eq hs, hlast]
      rfl
    · rw [if_neg hj, if_neg hj]
      rfl
  · intro j hj
    rw [isLive, session?, hsession] at hj
    split at hj
    · cases hj
    · exact Or.inl hj

/-- **Giving a lease back.** -/
theorem WellKept.release (h : l.WellKept) : Recounts l (l.release id) (l.withoutLease id) := by
  unfold Ledger.release
  split
  case h_1 hnone =>
    -- there is no lease to give back
    have hsame : l.withoutLease id = l.leasesOn := by
      funext j
      rw [withoutLease]
      split
      case isTrue hj => rw [hj, leasesOn, hnone]; rfl
      case isFalse => rfl
    rw [hsame]
    exact h.recounts_same rfl rfl rfl (List.Subset.refl _)
  case h_2 s hs =>
    obtain ⟨hmem, rfl⟩ := h.session?_eq_some_iff.mp hs
    split
    case isTrue hmore =>
      refine h.recounts_map (fun s => by split <;> rfl) ?_ ?_ ?_
      · intro t ht
        have hpos := h.leased t ht
        split
        case isTrue hid =>
          have hsame : t.leases = s.leases := by rw [h.leases_eq ht, h.leases_eq hmem, hid]
          exact Nat.sub_pos_of_lt (hsame ▸ hmore)
        case isFalse => exact hpos
      · intro t ht
        rw [withoutLease, ← h.leases_eq ht]
        split <;> rfl
      · intro j hj
        rw [withoutLease, leasesOn_of_not_live hj, Nat.zero_sub]
    case isFalse hmore =>
      have hpos := h.leased s hmem
      exact h.endSession hmem (by omega)

/-- Giving a lease for work behind the user's back back, where it counts. -/
theorem WellKept.releaseBackground (h : l.WellKept) {lease : BackgroundLease}
    (hcounted : lease.counted = true) :
    Recounts l (l.releaseBackground lease) (l.withoutLease lease.session) := by
  rw [Ledger.releaseBackground, if_pos hcounted]
  exact h.release

/-! ### Tokens and deadlines -/

/-- **Cancelling a token** counts nothing. -/
theorem WellKept.cancel (h : l.WellKept) {token : Token} :
    Recounts l (l.cancel token) l.leasesOn := by
  unfold Ledger.cancel
  split <;> exact h.recounts_same rfl rfl rfl (List.Subset.refl _)

theorem WellKept.cancelActive (h : l.WellKept) : Recounts l l.cancelActive.2 l.leasesOn := by
  unfold Ledger.cancelActive
  split
  · exact h.cancel
  · exact h.recounts_same rfl rfl rfl (List.Subset.refl _)

/-- **A task that is woken** counts nothing either, whatever it does. -/
theorem WellKept.wake (h : l.WellKept) (now : Nat) (task : DeadlineTask) :
    Recounts l (l.wake now task) l.leasesOn := by
  have hless : (l.dismiss task).waiting ⊆ l.waiting := fun _ hmem => (List.mem_filter.mp hmem).1
  have hdismiss : Recounts l (l.dismiss task) l.leasesOn := h.recounts_same rfl rfl rfl hless
  unfold Ledger.wake
  split
  · exact hdismiss
  · split
    · exact hdismiss
    · split
      · have hcancel := cancel_fields (l.dismiss task) task.token
        refine h.recounts_same hcancel.1 hcancel.2.1 hcancel.2.2.1 ?_
        exact hcancel.2.2.2.2.2 ▸ hless
      · exact h.recounts_same rfl rfl rfl (List.Subset.refl _)

theorem WellKept.wakeFor (h : l.WellKept) (now : Nat) (id : SessionId) :
    Recounts l (l.wakeFor now id) l.leasesOn := by
  unfold Ledger.wakeFor
  split
  · exact h.wake now _
  · exact h.recounts_same rfl rfl rfl (List.Subset.refl _)

end Operations

end Ledger

end FormChain
