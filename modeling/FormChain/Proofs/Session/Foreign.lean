import FormChain.Proofs.Form.Fields
import FormChain.Proofs.Session.Ledger
import FormChain.Session.Desk

/-!
# Leases of another ledger

Two ledgers stand at one desk, and each of them gives numbers to its sessions from one on. Work
behind the user's back may be asked for at one ledger with a lease of the other. That ledger looks
at the number of the session alone: where no session of its own has it, it hands out a lease that
does not count and carries the token of the lease that was shown
(`FormChain.Desk.background_unknown`). Where one has it, the ledger takes that session for the one
that is meant (`FormChain.Desk.background_mistaken`).

Which of the two it is can be seen from the leases that are kept: behind any steps, both ledgers
count just these (`FormChain.Desk.agrees_run`), so a session lives just as long as a lease on it is
kept.
-/

namespace FormChain

/-! ### What is done at the desk -/

/-- **What happens at the desk.** -/
inductive DeskEvent where
  /-- A step is done with one of the ledgers. -/
  | step (clock : Option Nat) (book : Book) (step : DeskStep)
  /-- The task that waits for the deadline of a session is woken. -/
  | wake (now : Nat) (book : Book) (id : SessionId)

/-- Whether a lease counts on a session of a ledger. -/
def KeptLease.countsOn (k : KeptLease) (book : Book) (id : SessionId) : Bool :=
  k.lease.counts && k.book = book && k.lease.session = id

namespace Desk

/-- The desk behind an event. -/
def after (d : Desk) : DeskEvent → Desk
  | .step clock book step => (d.perform clock book step).2
  | .wake now book id => d.setLedger ((d.ledger book).wakeFor now id) book

/-- The desk behind events, from nothing on. -/
def run (events : List DeskEvent) : Desk :=
  events.foldl after {}

/-- The leases that are kept. -/
def kept (d : Desk) : List KeptLease :=
  d.leases.map Prod.snd

/-! ### What the ledgers count -/

/-- A lease that counts is given back, as it was taken. -/
theorem giveBack_of_counts {k : HeldLease} (hk : k.counts = true) (l : Ledger) :
    k.giveBack l = l.release k.session := by
  cases k with
  | foreground => rfl
  | background lease => exact if_pos hk

/-- With a lease that does not count, nothing is given back. -/
theorem giveBack_of_not_counts {k : HeldLease} (hk : k.counts = false) (l : Ledger) :
    k.giveBack l = l := by
  cases k with
  | foreground => cases hk
  | background lease => exact if_neg (Bool.eq_false_iff.mp hk)

section Frame

variable (d : Desk) (l : Ledger) (b b' : Book)

theorem ledger_setLedger : (d.setLedger l b).ledger b' = if b' = b then l else d.ledger b' := by
  cases b <;> cases b' <;> rfl

@[simp] theorem leases_setLedger : (d.setLedger l b).leases = d.leases := by
  cases b <;> rfl

@[simp] theorem setLedger_self : d.setLedger (d.ledger b) b = d := by
  cases b <;> rfl

/-- What is written of leases is in no ledger. -/
theorem ledger_leases (leases : Keyed KeptLease) (ids : Keyed SessionId) :
    { d with leases := leases, ids := ids }.ledger = d.ledger := by
  funext b
  cases b <;> rfl

theorem leases_giveBack (k : KeptLease) : (d.giveBack k).leases = d.leases :=
  leases_setLedger ..

end Frame

/-- **The ledgers count some leases**, and no others. -/
structure Counts (ledger : Book → Ledger) (ks : List KeptLease) : Prop where
  /-- The ledgers are well kept. -/
  wellKept : ∀ b, (ledger b).WellKept
  /-- On each session, they count the leases that count. -/
  leasesOn_eq : ∀ b id, (ledger b).leasesOn id = ks.countP (·.countsOn b id)
  /-- A lease in front of the user carries a token of the ledger that counts it. -/
  foreground : ∀ k ∈ ks, k.isForeground = true → k.tokenBook = k.book

/-- **The ledgers and the leases that are kept agree.** -/
structure Agrees (d : Desk) : Prop where
  /-- The leases stand in order. -/
  sorted : d.leases.Sorted
  /-- The ledgers count the leases that are kept. -/
  counts : Counts d.ledger d.kept

section Counting

variable {d : Desk} {l : Ledger} {b : Book} {k : KeptLease} {ks ks' : List KeptLease}
  {name : String}

theorem Counts.perm {ledger : Book → Ledger} (h : Counts ledger ks) (hperm : ks.Perm ks') :
    Counts ledger ks' where
  wellKept := h.wellKept
  leasesOn_eq b id := (h.leasesOn_eq b id).trans (hperm.countP_eq _)
  foreground k hk := h.foreground k (hperm.mem_iff.mpr hk)

/-- A ledger of the desk that counts otherwise. -/
theorem Counts.set (h : Counts d.ledger ks) {count : SessionId → Nat}
    (hl : Ledger.Recounts (d.ledger b) l count)
    (hown : ∀ id, count id = ks'.countP (·.countsOn b id))
    (hother : ∀ b' id, b' ≠ b → ks.countP (·.countsOn b' id) = ks'.countP (·.countsOn b' id))
    (hforeground : ∀ k ∈ ks', k.isForeground = true → k.tokenBook = k.book) :
    Counts (d.setLedger l b).ledger ks' where
  wellKept b' := by
    rw [ledger_setLedger]
    split
    · exact hl.wellKept
    · exact h.wellKept b'
  leasesOn_eq b' id := by
    rw [ledger_setLedger]
    split
    case isTrue heq => rw [hl.leasesOn_eq, hown, heq]
    case isFalse hne => rw [h.leasesOn_eq, hother b' id hne]
  foreground := hforeground

/-- A ledger that counts the same. -/
theorem Counts.same (h : Counts d.ledger ks)
    (hl : Ledger.Recounts (d.ledger b) l (d.ledger b).leasesOn) :
    Counts (d.setLedger l b).ledger ks :=
  h.set hl (h.leasesOn_eq b) (fun _ _ _ => rfl) h.foreground

theorem countP_cons_other (hb : b ≠ k.book) (id : SessionId) :
    (k :: ks).countP (·.countsOn b id) = ks.countP (·.countsOn b id) := by
  refine List.countP_cons_of_neg ?_
  simp [KeptLease.countsOn, hb.symm]

theorem countP_cons_counted (hk : k.lease.counts = true) (id : SessionId) :
    (k :: ks).countP (·.countsOn k.book id) =
      ks.countP (·.countsOn k.book id) + if id = k.lease.session then 1 else 0 := by
  rw [List.countP_cons]
  simp [KeptLease.countsOn, hk, eq_comm]

theorem countP_cons_uncounted (hk : k.lease.counts = false) (id : SessionId) :
    (k :: ks).countP (·.countsOn b id) = ks.countP (·.countsOn b id) := by
  refine List.countP_cons_of_neg ?_
  simp [KeptLease.countsOn, hk]

/-- **One lease more**, which its ledger counts. -/
theorem Counts.take (h : Counts d.ledger ks) (hk : k.lease.counts = true)
    (htoken : k.isForeground = true → k.tokenBook = k.book)
    (hl : Ledger.Recounts (d.ledger k.book) l ((d.ledger k.book).withLease k.lease.session)) :
    Counts (d.setLedger l k.book).ledger (k :: ks) := by
  refine h.set hl (fun id => ?_) (fun b id hb => (countP_cons_other hb id).symm) ?_
  · rw [Ledger.withLease, h.leasesOn_eq, countP_cons_counted hk]
  · exact List.forall_mem_cons.mpr ⟨htoken, h.foreground⟩

/-- One lease more, which does not count. -/
theorem Counts.takeUncounted {ledger : Book → Ledger} (h : Counts ledger ks)
    (hk : k.lease.counts = false) (hback : k.isForeground = false) : Counts ledger (k :: ks) where
  wellKept := h.wellKept
  leasesOn_eq b id := by rw [h.leasesOn_eq, countP_cons_uncounted hk]
  foreground := List.forall_mem_cons.mpr ⟨fun hfront => by simp [hback] at hfront, h.foreground⟩

/-- **One lease less**, which is given back. -/
theorem Counts.giveBack (h : Counts d.ledger (k :: ks)) : Counts (d.giveBack k).ledger ks := by
  have hforeground := (List.forall_mem_cons.mp h.foreground).2
  rw [Desk.giveBack]
  cases hk : k.lease.counts with
  | true =>
    rw [giveBack_of_counts hk]
    refine h.set (h.wellKept k.book).release (fun id => ?_) (fun b id hb => countP_cons_other hb id)
      hforeground
    rw [Ledger.withoutLease, h.leasesOn_eq, countP_cons_counted hk, Nat.add_sub_cancel]
  | false =>
    rw [giveBack_of_not_counts hk, setLedger_self]
    refine ⟨h.wellKept, fun b id => ?_, hforeground⟩
    rw [h.leasesOn_eq, countP_cons_uncounted hk]

/-- A lease that is no longer among those that are kept is given back. -/
theorem agrees_giveBack {leases : Keyed KeptLease} (ids : Keyed SessionId) (hsorted : leases.Sorted)
    (h : Counts d.ledger (k :: leases.map Prod.snd)) :
    ({ d with leases := leases, ids := ids }.giveBack k).Agrees := by
  rw [← ledger_leases d leases ids] at h
  refine ⟨?_, ?_⟩
  · rw [leases_giveBack]
    exact hsorted
  · rw [kept, leases_giveBack]
    exact h.giveBack

/-- **A lease is kept** under a name, and the one that was there is given back. -/
theorem agrees_keep (hsorted : d.leases.Sorted) (h : Counts d.ledger (k :: d.kept)) :
    (d.keep name k).Agrees := by
  have hinsert := (Keyed.perm_insert hsorted name k).map Prod.snd
  rw [keep]
  split
  case h_1 old hold =>
    have hold := (Keyed.perm_of_get? hsorted hold).map Prod.snd
    -- the new lease and the old one are both outstanding before the old one is given back
    have hboth : (k :: d.kept).Perm (old :: (d.leases.insert name k).map Prod.snd) :=
      (hold.cons k).trans ((List.Perm.swap old k _).trans (hinsert.symm.cons old))
    exact agrees_giveBack _ (Keyed.sorted_insert hsorted name k) (h.perm hboth)
  case h_2 hnone =>
    rw [Keyed.erase_of_get?_eq_none hnone] at hinsert
    refine ⟨Keyed.sorted_insert hsorted name k, ?_⟩
    rw [ledger_leases]
    exact h.perm hinsert.symm

/-- **A lease is given back.** -/
theorem Agrees.dropLease (h : d.Agrees) (name : String) : (d.dropLease name).2.Agrees := by
  rw [Desk.dropLease]
  split
  case h_1 k hk =>
    have hperm := (Keyed.perm_of_get? h.sorted hk).map Prod.snd
    exact agrees_giveBack d.ids (Keyed.sorted_erase h.sorted name) (h.counts.perm hperm)
  case h_2 => exact h

theorem Agrees.setLedger (h : d.Agrees)
    (hl : Ledger.Recounts (d.ledger b) l (d.ledger b).leasesOn) : (d.setLedger l b).Agrees :=
  ⟨by rw [leases_setLedger]; exact h.sorted, by rw [kept, leases_setLedger]; exact h.counts.same hl⟩

/-- A new lease that its ledger counts is kept. -/
theorem Agrees.keepAndShow (h : d.Agrees) (hk : k.lease.counts = true)
    (htoken : k.isForeground = true → k.tokenBook = k.book)
    (hl : Ledger.Recounts (d.ledger k.book) l ((d.ledger k.book).withLease k.lease.session))
    (asked : Book) : ((d.setLedger l k.book).keepAndShow asked name k).2.Agrees := by
  refine agrees_keep (by rw [leases_setLedger]; exact h.sorted) ?_
  rw [kept, leases_setLedger]
  exact h.counts.take hk htoken hl

/-- A lease in front of the user carries a token of the ledger that counts it. -/
theorem Agrees.tokenBook_eq (h : d.Agrees) (hk : d.leases.get? name = some k)
    (hfront : k.isForeground = true) : k.tokenBook = k.book :=
  h.counts.foreground k (List.mem_map.mpr ⟨_, Keyed.mem_of_get?_eq_some hk, rfl⟩) hfront

/-- **A session lives just as long as a lease on it is kept.** -/
theorem Agrees.isLive_iff (h : d.Agrees) {id : SessionId} : (d.ledger b).isLive id = true ↔
    ∃ name k, d.leases.get? name = some k ∧ k.countsOn b id = true := by
  rw [(h.counts.wellKept b).isLive_iff_leasesOn, h.counts.leasesOn_eq, List.countP_pos_iff]
  constructor
  · rintro ⟨k, hk, hcounts⟩
    obtain ⟨⟨name, k⟩, hmem, rfl⟩ := List.mem_map.mp hk
    exact ⟨name, k, (Keyed.mem_iff_get?_eq_some h.sorted).mp hmem, hcounts⟩
  · rintro ⟨name, k, hk, hcounts⟩
    exact ⟨k, List.mem_map.mpr ⟨_, Keyed.mem_of_get?_eq_some hk, rfl⟩, hcounts⟩

end Counting

/-! ### Steps -/

section Steps

variable {d : Desk} {b : Book} {name source : String} {k : KeptLease}

/-- Joining a session keeps the agreement. -/
theorem Agrees.join (h : d.Agrees) (b : Book) (name source : String) :
    (d.join b name source).2.Agrees := by
  rw [Desk.join]
  split
  case h_1 => exact h
  case h_2 id _ =>
    rcases (h.counts.wellKept b).join id with ⟨-, hlease, hl⟩ | ⟨-, hnone⟩
    · have hjoin : (d.ledger b).join id = (some ⟨id, id, id, true⟩, ((d.ledger b).join id).2) :=
        Prod.ext hlease rfl
      rw [hjoin]
      exact @Agrees.keepAndShow d _ ⟨.foreground ⟨id, id, id, true⟩, b, b⟩ name h rfl
        (fun _ => rfl) hl b
    · rw [hnone]
      exact h

/-- A ledger that does not know the session of a lease hands out one that carries its token. -/
theorem background_of_ended (hk : d.leases.get? source = some k) {lease : Lease}
    (hlease : k.lease = .foreground lease) (hended : (d.ledger b).isLive lease.session = false) :
    d.background b name source =
      d.keepAndShow b name ⟨.background ⟨lease.session, lease.token, false⟩, b, k.tokenBook⟩ := by
  obtain ⟨_, book, tokenBook⟩ := k
  obtain rfl := hlease
  have hnone : (d.ledger b).session? lease.session = none := by
    simpa [Ledger.isLive] using hended
  simp only [background, hk, Ledger.hold, hnone, setLedger_self, Bool.false_eq_true, if_false]

/-- A ledger that knows the session of a lease hands out one that carries the token of its own. -/
theorem background_of_live (hk : d.leases.get? source = some k) {lease : Lease}
    (hlease : k.lease = .foreground lease) {s : Session}
    (hs : (d.ledger b).session? lease.session = some s) :
    d.background b name source =
      (d.setLedger ((d.ledger b).addLease lease.session) b).keepAndShow b name
        ⟨.background ⟨lease.session, s.token, true⟩, b, b⟩ := by
  obtain ⟨_, book, tokenBook⟩ := k
  obtain rfl := hlease
  simp only [background, hk, Ledger.hold, hs, if_true]

/-- Holding a session for work behind the user's back keeps the agreement. -/
theorem Agrees.background (h : d.Agrees) (b : Book) (name source : String) :
    (d.background b name source).2.Agrees := by
  cases hk : d.leases.get? source with
  | none =>
    rw [Desk.background, hk]
    exact h
  | some k =>
    cases hlease : k.lease with
    | background lease =>
      obtain ⟨_, book, tokenBook⟩ := k
      obtain rfl := hlease
      rw [Desk.background, hk]
      exact h
    | foreground lease =>
      cases hs : (d.ledger b).session? lease.session with
      | some s =>
        have hlive : (d.ledger b).isLive lease.session = true := by
          rw [Ledger.isLive, hs]
          rfl
        rw [background_of_live hk hlease hs]
        exact @Agrees.keepAndShow d _ ⟨.background ⟨lease.session, s.token, true⟩, b, b⟩ name h rfl
          (fun _ => rfl) ((h.counts.wellKept b).addLease hlive) b
      | none =>
        rw [background_of_ended hk hlease (by rw [Ledger.isLive, hs]; rfl)]
        exact agrees_keep h.sorted (h.counts.takeUncounted rfl rfl)

/-- **Every event keeps the agreement.** -/
theorem Agrees.after (h : d.Agrees) (e : DeskEvent) : (d.after e).Agrees := by
  cases e with
  | wake now b id => exact h.setLedger ((h.counts.wellKept b).wakeFor now id)
  | step clock b step =>
    rw [Desk.after]
    cases step with
    | start name timeout mayJoin =>
      exact @Agrees.keepAndShow d _ ⟨.foreground _, b, b⟩ name h rfl (fun _ => rfl)
        ((h.counts.wellKept b).start clock timeout mayJoin) b
    | join name source => exact h.join b name source
    | background name source => exact h.background b name source
    | finish name =>
      have hdrop := h.dropLease name
      simp only [perform]
      split
      case h_1 heq =>
        rw [heq] at hdrop
        exact hdrop
      case h_2 heq =>
        rw [heq] at hdrop
        exact hdrop
    | drop name => exact h.dropLease name
    | cancel name =>
      simp only [perform]
      split
      · exact h.setLedger (h.counts.wellKept _).cancel
      · exact h
    | cancelActive => exact h.setLedger (h.counts.wellKept b).cancelActive
    | «show» name =>
      simp only [perform]
      split <;> exact h
    | timedOut name =>
      simp only [perform]
      split <;> exact h

/-- **The ledgers and the leases that are kept agree behind any events.** -/
theorem agrees_run (events : List DeskEvent) : (run events).Agrees := by
  suffices hfold : ∀ d : Desk, d.Agrees → (events.foldl Desk.after d).Agrees by
    refine hfold {} ⟨Keyed.sorted_nil, fun b => ?_, fun b id => ?_,
      fun k hk => absurd hk List.not_mem_nil⟩
    · cases b <;> exact Ledger.wellKept_empty
    · cases b <;> rfl
  induction events with
  | nil => exact fun d h => h
  | cons e rest ih => exact fun d h => ih (d.after e) (h.after e)

end Steps

/-! ### A lease of the other ledger -/

section Foreign

variable {d : Desk} {b : Book} {name source : String} {k : KeptLease}

/-- A lease under a free name changes no ledger. -/
theorem keepAndShow_of_free (hfree : d.leases.get? name = none) (asked : Book) :
    (d.keepAndShow asked name k).2.leases.get? name = some k ∧
      (d.keepAndShow asked name k).2.ledger = d.ledger := by
  rw [keepAndShow, keep, hfree]
  exact ⟨Keyed.get?_insert_self _ _ _, ledger_leases ..⟩

/-- Of a lease that is dropped, only its return changes a ledger. -/
theorem ledger_dropLease (hk : d.leases.get? name = some k) :
    (d.dropLease name).2.ledger = (d.giveBack k).ledger := by
  rw [dropLease, hk]
  funext b
  simp only [giveBack, ledger_setLedger, ledger_leases]

/-- **A ledger that has no session of the number** leaves everything as it is. The lease that it
hands out carries the token of the one that was shown, and its return changes nothing. -/
theorem background_unknown (hk : d.leases.get? source = some k) {lease : Lease}
    (hlease : k.lease = .foreground lease) (hfree : d.leases.get? name = none)
    (hended : (d.ledger b).isLive lease.session = false) :
    (d.background b name source).2.leases.get? name =
        some ⟨.background ⟨lease.session, lease.token, false⟩, b, k.tokenBook⟩ ∧
      (d.background b name source).2.ledger = d.ledger ∧
      ∀ (later : Desk) n, later.leases.get? n =
          some ⟨.background ⟨lease.session, lease.token, false⟩, b, k.tokenBook⟩ →
        (later.dropLease n).2.ledger = later.ledger := by
  rw [background_of_ended hk hlease hended]
  obtain ⟨hfound, hledger⟩ := @keepAndShow_of_free d name
    ⟨.background ⟨lease.session, lease.token, false⟩, b, k.tokenBook⟩ hfree b
  refine ⟨hfound, hledger, fun later n hn => ?_⟩
  rw [ledger_dropLease hn, giveBack, giveBack_of_not_counts rfl, setLedger_self]

/-- **A ledger that has a session of the number** counts one lease more on it, and hands out a lease
that carries the token of this session. Its return takes the count back. -/
theorem background_mistaken (h : d.Agrees) (hk : d.leases.get? source = some k) {lease : Lease}
    (hlease : k.lease = .foreground lease) (hfree : d.leases.get? name = none) {s : Session}
    (hs : (d.ledger b).session? lease.session = some s) :
    let d' := (d.background b name source).2
    d'.leases.get? name = some ⟨.background ⟨lease.session, s.token, true⟩, b, b⟩ ∧
      (∀ b', b' ≠ b → d'.ledger b' = d.ledger b') ∧
      (d'.ledger b).active = (d.ledger b).active ∧
      (∀ id, (d'.ledger b).leasesOn id =
        (d.ledger b).leasesOn id + if id = lease.session then 1 else 0) ∧
      ∀ id, ((d'.dropLease name).2.ledger b).leasesOn id = (d.ledger b).leasesOn id := by
  intro d'
  have hlive : (d.ledger b).isLive lease.session = true := by
    rw [Ledger.isLive, hs]
    rfl
  have hadd := (h.counts.wellKept b).addLease hlive
  have hd' : d' = ((d.setLedger ((d.ledger b).addLease lease.session) b).keepAndShow b name
      ⟨.background ⟨lease.session, s.token, true⟩, b, b⟩).2 := by
    change (d.background b name source).2 = _
    rw [background_of_live hk hlease hs]
  obtain ⟨hfound, hledger⟩ := @keepAndShow_of_free
    (d.setLedger ((d.ledger b).addLease lease.session) b) name
    ⟨.background ⟨lease.session, s.token, true⟩, b, b⟩ (by rw [leases_setLedger]; exact hfree) b
  rw [← hd'] at hfound hledger
  have hother (b' : Book) (hb : b' ≠ b) : d'.ledger b' = d.ledger b' := by
    rw [hledger, ledger_setLedger, if_neg hb]
  have hown : d'.ledger b = (d.ledger b).addLease lease.session := by
    rw [hledger, ledger_setLedger, if_pos rfl]
  have hcount (id : SessionId) : (d'.ledger b).leasesOn id =
      (d.ledger b).leasesOn id + if id = lease.session then 1 else 0 := by
    rw [hown]
    exact hadd.leasesOn_eq id
  refine ⟨hfound, hother, by rw [hown]; rfl, hcount, fun id => ?_⟩
  have hback : (d'.dropLease name).2.ledger b = (d'.ledger b).release lease.session := by
    rw [ledger_dropLease hfound, giveBack, ledger_setLedger, if_pos rfl]
    exact giveBack_of_counts rfl _
  have hwell : (d'.ledger b).WellKept := hown ▸ hadd.wellKept
  rw [hback, hwell.release.leasesOn_eq, Ledger.withoutLease, hcount, Nat.add_sub_cancel]

/-- **A lease that is shown to the other ledger.** Behind any events, let a lease in front of the
user be kept that one ledger counts, and let the other ledger be asked for work behind the user's
back with it. If that ledger has no lease on a session of the same number, nothing changes in either
of them, the new lease carries the token of the one that was shown, and dropping it changes nothing
either; so it is where the ledger has not yet come to that number. Otherwise, the ledger takes a
session of its own for the one that is meant: it counts one lease more on it, until the new one is
dropped, and the new lease carries the token of that session. -/
theorem background_of_foreign {events : List DeskEvent} {b : Book} {name source : String}
    {k : KeptLease} {lease : Lease} (hk : (run events).leases.get? source = some k)
    (hlease : k.lease = .foreground lease) (hforeign : k.book ≠ b)
    (hfree : (run events).leases.get? name = none) (clock : Option Nat) :
    let d := run events
    let d' := run (events ++ [.step clock b (.background name source)])
    let known := ∃ other k', d.leases.get? other = some k' ∧ k'.countsOn b lease.session = true
    k.tokenBook = k.book ∧ d'.ledger k.book = d.ledger k.book ∧
    (d'.ledger b).active = (d.ledger b).active ∧
    ((d.ledger b).issued < lease.session → ¬ known) ∧
    (¬ known →
      d'.leases.get? name = some ⟨.background ⟨lease.session, lease.token, false⟩, b, k.book⟩ ∧
      d'.ledger b = d.ledger b ∧
      ∀ (later : Desk) n, later.leases.get? n =
          some ⟨.background ⟨lease.session, lease.token, false⟩, b, k.book⟩ →
        (later.dropLease n).2.ledger = later.ledger) ∧
    (known →
      (∃ s ∈ (d.ledger b).live, s.id = lease.session ∧
        d'.leases.get? name = some ⟨.background ⟨lease.session, s.token, true⟩, b, b⟩) ∧
      (∀ id, (d'.ledger b).leasesOn id =
        (d.ledger b).leasesOn id + if id = lease.session then 1 else 0) ∧
      ∀ id, ((d'.dropLease name).2.ledger b).leasesOn id = (d.ledger b).leasesOn id) := by
  intro d d' known
  have hd : d.Agrees := agrees_run events
  have hstep : d' = (d.background b name source).2 := by
    change (events ++ [_]).foldl after {} = _
    rw [List.foldl_append]
    rfl
  have hlive : (d.ledger b).isLive lease.session = true ↔ known := hd.isLive_iff
  have htoken : k.tokenBook = k.book :=
    hd.tokenBook_eq hk (by rw [KeptLease.isForeground, hlease]; rfl)
  have hissued (hlt : (d.ledger b).issued < lease.session) : ¬ known := fun hknown =>
    absurd ((hd.counts.wellKept b).le_issued (hlive.mpr hknown)) (Nat.not_le_of_lt hlt)
  by_cases hknown : known
  · obtain ⟨s, hs⟩ := Option.isSome_iff_exists.mp (hlive.mpr hknown)
    obtain ⟨hfound, hother, hactive, hcount, hdrop⟩ := background_mistaken hd hk hlease hfree hs
    rw [← hstep] at hfound hother hactive hcount hdrop
    obtain ⟨hmem, hid⟩ := (hd.counts.wellKept b).session?_eq_some_iff.mp hs
    exact ⟨htoken, hother k.book hforeign, hactive, hissued, fun hnot => absurd hknown hnot,
      fun _ => ⟨⟨s, hmem, hid, hfound⟩, hcount, hdrop⟩⟩
  · obtain ⟨hfound, hsame, hdrop⟩ := background_unknown hk hlease hfree
      (Bool.eq_false_iff.mpr fun hl => hknown (hlive.mp hl))
    rw [← hstep, htoken] at hfound
    rw [← hstep] at hsame
    rw [htoken] at hdrop
    exact ⟨htoken, by rw [hsame], by rw [hsame], hissued, fun _ => ⟨hfound, by rw [hsame], hdrop⟩,
      fun h => absurd h hknown⟩

/-- A session is started with each of the ledgers. -/
def oneEach : List DeskEvent :=
  [.step none .second (.start "theirs" ⟨false, 0⟩ false),
    .step none .first (.start "ours" ⟨false, 0⟩ false)]

/-- One more is started with the second ledger. -/
def oneMore : List DeskEvent :=
  oneEach ++ [.step none .second (.start "newer" ⟨false, 0⟩ false)]

/-- A session of a number that the other ledger has not come to is not mistaken. -/
theorem newer_not_mistaken :
    let d := run oneMore
    let d' := run (oneMore ++ [.step none .first (.background "work" "newer")])
    d'.leases.get? "work" = some ⟨.background ⟨2, 2, false⟩, .first, .second⟩ ∧
      d'.ledger .first = d.ledger .first ∧ d'.ledger .second = d.ledger .second := by
  obtain ⟨-, hsecond, -, hissued, hunknown, -⟩ :=
    @background_of_foreign oneMore .first "work" "newer"
      ⟨.foreground ⟨2, 2, 2, false⟩, .second, .second⟩ ⟨2, 2, 2, false⟩
      (by decide) (by decide) (by decide) (by decide) none
  obtain ⟨hfound, hfirst, -⟩ := hunknown (hissued (by decide))
  exact ⟨hfound, hfirst, hsecond⟩

/-- **The first session of one ledger is mistaken for the first of the other.** The other one has a
lease more on it then, and whoever calls off what was shown does not call off the work. -/
theorem first_session_mistaken :
    let d := run oneEach
    let d' := run (oneEach ++ [.step none .first (.background "work" "theirs")])
    let d'' := run (oneEach ++ [.step none .first (.background "work" "theirs"),
      .step none .first (.cancel "theirs")])
    (d.leases.get? "theirs").map (·.book) = some .second ∧
      (d.ledger .first).leasesOn 1 = 1 ∧ (d'.ledger .first).leasesOn 1 = 2 ∧
      (d'.leases.get? "work").map (·.tokenBook) = some .first ∧
      (d''.leases.get? "theirs").map (fun k => (d''.view .first k).cancelled) = some true ∧
      (d''.leases.get? "work").map (fun k => (d''.view .first k).cancelled) = some false := by
  decide

end Foreign

end Desk

end FormChain
