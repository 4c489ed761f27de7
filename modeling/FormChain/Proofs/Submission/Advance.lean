import FormChain.Proofs.Submission.Service

/-!
# One step of a submission

A strand stands with the ledger in a way that says how many leases it holds
(`FormChain.Strand.StandsAt`), and its script keeps to that. So a single question does to
the ledger just what it does to the leases of the strand: their balance is kept
(`FormChain.answered`). From there it is carried over to the undertaking, where at most one
session is ever started and all that happens behind that keeps to it
(`FormChain.Undertaking.InOrder`).

Main statement: every step of a strand leaves its undertaking in order, and what the ledger
counts more or less behind it is held more or less in the undertaking
(`FormChain.Undertaking.InOrder.advance`).
-/

namespace FormChain

open Submission

/-! ### A question and the ledger -/

/-- The leases that belong to a standing. -/
def Standing.leases : Standing → List SessionId
  | outside => []
  | within id n => List.replicate n id

/-- **How a question is answered** to somebody with a standing: as the ledger promises, with
the leases in balance – what is counted more is held more, or handed on. -/
structure Answered (l l' : Ledger) (σ : Standing) (c : Call) (a : c.Answer) : Prop where
  /-- The answer is as promised. -/
  promises : σ.Promises c a
  /-- The leases held behind it are those of the standing behind it. -/
  leases_eq : leasesAfter σ.leases c a = (σ.after c a).leases
  /-- The ledger behind it is well kept. -/
  wellKept : l'.WellKept
  /-- No issued number is taken back. -/
  issued_le : l.issued ≤ l'.issued
  /-- No session has come alive but a new one. -/
  old_or_new : ∀ id, l'.isLive id = true → l.isLive id = true ∨ l.issued < id
  /-- What is counted more is held more, or handed on. -/
  balance : ∀ id, l'.leasesOn id + σ.leases.count id =
    l.leasesOn id + (σ.after c a).leases.count id + (leasesHandedOn c).count id
  /-- A session that is started is a new one. -/
  started : ∀ id n, σ = .outside → σ.after c a = .within id n →
    l.issued < id ∧ id ≤ l'.issued

section Answers

variable {l l' : Ledger} {σ : Standing} {c : Call} {id : SessionId} {n : Nat}

/-- A quiet question changes nothing. -/
theorem answered_of_isQuiet (hl : l.WellKept) (hc : c.isQuiet = true) (a : c.Answer) :
    Answered l l σ c a where
  promises := by
    cases c with
    | session r => cases r <;> cases σ <;> trivial
    | detach => cases hc
    | _ => cases σ <;> trivial
  leases_eq := by
    rw [Standing.after_of_isQuiet hc]
    cases c with
    | session r => cases r <;> first | rfl | cases hc
    | detach => cases hc
    | _ => rfl
  wellKept := hl
  issued_le := Nat.le_refl _
  old_or_new _ h := Or.inl h
  balance id := by
    have hnone : leasesHandedOn c = [] := by
      cases c with
      | detach => cases hc
      | _ => rfl
    rw [Standing.after_of_isQuiet hc, hnone, List.count_nil, Nat.add_zero]
  started id n hσ hafter := by
    rw [Standing.after_of_isQuiet hc, hσ] at hafter
    cases hafter

@[simp] theorem count_leases_within {j : SessionId} :
    (Standing.within id n).leases.count j = if j = id then n else 0 := by
  rw [Standing.leases, List.count_replicate]
  by_cases hj : j = id
  · simp [hj]
  · have hne : ¬id = j := fun h => hj h.symm
    simp [hj, hne]

/-- A session is started. -/
theorem answered_start (hl : l.WellKept) (clock : Option Nat) (timeout : Timeout) :
    Answered l (l.start clock timeout false).2 .outside (.session (.start timeout false))
      (l.start clock timeout false).1 := by
  have h := hl.start clock timeout false
  refine ⟨rfl, rfl, h.wellKept, h.issued_le, h.old_or_new, fun j => ?_, ?_⟩
  · rw [h.leasesOn_eq, Ledger.withLease, ← @count_leases_within _ 1 j]
    rfl
  · rintro id n - hafter
    obtain ⟨rfl, rfl⟩ := Standing.within.inj hafter
    exact ⟨Nat.lt_succ_self _, Nat.le_refl _⟩

/-- A lease more is taken on a session that there is a lease on. -/
theorem answered_take (hr : Ledger.Recounts l l' (l.withLease id)) {a : c.Answer}
    (hp : (Standing.within id n).Promises c a)
    (hafter : (Standing.within id n).after c a = .within id (n + 1))
    (hheld : leasesAfter (List.replicate n id) c a = List.replicate (n + 1) id)
    (hhanded : leasesHandedOn c = []) :
    Answered l l' (.within id n) c a := by
  refine ⟨hp, ?_, hr.wellKept, hr.issued_le, hr.old_or_new, fun j => ?_, nofun⟩
  · rw [hafter]
    exact hheld
  · rw [hafter, hr.leasesOn_eq, Ledger.withLease, hhanded, count_leases_within,
      count_leases_within, List.count_nil]
    split <;> omega

/-- A lease is given back. -/
theorem answered_giveBack (hr : Ledger.Recounts l l' (l.withoutLease id)) {a : c.Answer}
    (hn : 0 < n) (hcount : n ≤ l.leasesOn id) (hp : (Standing.within id n).Promises c a)
    (hafter : (Standing.within id n).after c a = .within id (n - 1))
    (hheld : leasesAfter (List.replicate n id) c a = (List.replicate n id).erase id)
    (hhanded : leasesHandedOn c = []) :
    Answered l l' (.within id n) c a := by
  refine ⟨hp, ?_, hr.wellKept, hr.issued_le, hr.old_or_new, fun j => ?_, nofun⟩
  · rw [hafter]
    exact hheld.trans List.erase_replicate_self
  · rw [hafter, hr.leasesOn_eq, Ledger.withoutLease, hhanded, count_leases_within,
      count_leases_within, List.count_nil]
    split
    case isTrue hj => rw [hj]; omega
    case isFalse => omega

/-- A lease is handed on. -/
theorem answered_detach (hl : l.WellKept) (hn : 0 < n) {form : Form} {values : Bag} :
    Answered l l (.within id n) (.detach ⟨form, values, id, ⟨id, id, true⟩⟩) () := by
  refine ⟨trivial, List.erase_replicate_self, hl, Nat.le_refl _, fun _ h => Or.inl h,
    fun j => ?_, nofun⟩
  change _ = _ + (Standing.within id (n - 1)).leases.count j + (Standing.within id 1).leases.count j
  rw [count_leases_within, count_leases_within, count_leases_within]
  split <;> omega

/-- **Every question that a standing permits is answered as promised**, with the leases in
balance. -/
theorem answered (hl : l.WellKept) (hcount : ∀ id n, σ = .within id n → n ≤ l.leasesOn id)
    (hc : σ.Permits c) (w : Surroundings) (token : Token) :
    Answered l (w.reply l token c).2 σ c (w.reply l token c).1.answer := by
  cases c with
  | session r =>
    cases σ with
    | outside =>
      cases r with
      | start timeout mayJoin =>
        obtain rfl : mayJoin = false := hc
        exact answered_start hl w.clock timeout
      | hasExpired => exact answered_of_isQuiet hl rfl _
      | timedOut => exact answered_of_isQuiet hl rfl _
      | _ => cases hc
    | within id n =>
      have hn := hcount id n rfl
      cases r with
      | start => cases hc
      | join j =>
        obtain ⟨rfl, hpos⟩ := hc
        rcases hl.join j with ⟨-, hlease, hr⟩ | ⟨hlive, -⟩
        · refine answered_take hr hlease rfl ?_ rfl
          change leasesAfter _ (.session (.join j)) (l.join j).1 = _
          rw [hlease]
          rfl
        · -- a lease on it is held, so it lives
          have hlive' := hl.isLive_iff_leasesOn.mpr (Nat.lt_of_lt_of_le hpos hn)
          exact absurd (hlive.symm.trans hlive') nofun
      | hold lease =>
        obtain ⟨rfl, hpos⟩ := hc
        have hlive := hl.isLive_iff_leasesOn.mpr (Nat.lt_of_lt_of_le hpos hn)
        obtain ⟨hlease, hr⟩ := hl.hold hlive
        refine answered_take hr hlease rfl ?_ rfl
        change leasesAfter _ (.session (.hold lease)) (l.hold lease).1 = _
        rw [hlease]
        rfl
      | release j =>
        obtain ⟨rfl, hpos⟩ := hc
        exact answered_giveBack hl.release hpos hn trivial rfl rfl rfl
      | releaseBackground lease =>
        obtain ⟨rfl, hpos⟩ := hc
        have hr : Ledger.Recounts l (l.releaseBackground ⟨id, id, true⟩) (l.withoutLease id) :=
          hl.releaseBackground rfl
        exact answered_giveBack hr hpos hn trivial rfl rfl rfl
      | hasExpired => exact answered_of_isQuiet hl rfl _
      | timedOut => exact answered_of_isQuiet hl rfl _
  | detach job =>
    cases σ with
    | outside => cases hc
    | within id n =>
      obtain ⟨form, values, token, lease⟩ := job
      obtain ⟨rfl : token = id, rfl, hpos⟩ := hc
      exact answered_detach hl hpos
  | _ => exact answered_of_isQuiet hl rfl _

end Answers

/-! ### Undertakings in order -/

/-- **How a strand stands**: it holds the leases of its standing, keeps to its session, and
gives all of them back. -/
def Strand.StandsAt (k : Strand) (σ : Standing) : Prop :=
  k.leases = σ.leases ∧ k.script.Keeps (fun σ _ => HasReleased σ) σ

/-- **Whether an event fits**, given the sessions that were started before it: a chain starts
in the only one and under its token, and from then on all questions are asked under it, but
for those that find and read the files of forms. -/
def Event.Fits (sessions : List SessionId) : Event → Prop
  | .remark (.entered _ token session) => sessions = [token] ∧ session = some token
  | .remark _ => True
  | .exchange token c _ =>
    sessions = [token] ∨ (token = 0 ∧ (sessions = [] ∨ c.isReading = true))

/-- **An undertaking that is in order**: as long as it has not started a session, there is
only the submission, and from then on everything keeps to that session. -/
structure Undertaking.InOrder (u : Undertaking) : Prop where
  /-- All strands stand where they should. -/
  standing : (u.sessions = [] ∧ ∃ k, u.strands = [k] ∧ k.StandsAt .outside) ∨
    ∃ id, u.sessions = [id] ∧ ∀ k ∈ u.strands, ∃ n, k.StandsAt (.within id n)
  /-- What has happened fits. -/
  fits : ∀ (n : Nat) (e : Event), u.log[n]? = some e → e.Fits (u.sessionsBefore n)

/-- **What a step does** to an undertaking and the ledger. -/
structure Advanced (l l' : Ledger) (u u' : Undertaking) : Prop where
  /-- The undertaking stays in order. -/
  inOrder : u'.InOrder
  /-- The ledger stays well kept. -/
  wellKept : l'.WellKept
  /-- No issued number is taken back. -/
  issued_le : l.issued ≤ l'.issued
  /-- No session has come alive but a new one. -/
  old_or_new : ∀ id, l'.isLive id = true → l.isLive id = true ∨ l.issued < id
  /-- A session is started, a new one, only where none was before. -/
  sessions : u'.sessions = u.sessions ∨
    ∃ id, u.sessions = [] ∧ u'.sessions = [id] ∧ l.issued < id ∧ id ≤ l'.issued
  /-- What is counted more is held more. -/
  balance : ∀ id, l'.leasesOn id + u.leasesOn id = l.leasesOn id + u'.leasesOn id

section Advance

variable {l : Ledger} {u : Undertaking} {strand : Strand} {k : Nat} {id : SessionId}

theorem count_flatMap_set {xs : List Strand} {n : Nat} (h : xs[n]? = some strand)
    (strand' : Strand) (id : SessionId) :
    ((xs.set n strand').flatMap (·.leases)).count id + strand.leases.count id =
      (xs.flatMap (·.leases)).count id + strand'.leases.count id := by
  induction xs generalizing n with
  | nil => cases h
  | cons x rest ih =>
    cases n with
    | zero =>
      obtain rfl := Option.some.inj h
      simp only [List.set_cons_zero, List.flatMap_cons, List.count_append]
      omega
    | succ n =>
      have hrest := ih (n := n) h
      simp only [List.set_cons_succ, List.flatMap_cons, List.count_append]
      omega

/-- What is held in an undertaking behind a change of one strand. -/
theorem leasesOn_set (h : u.strands[k]? = some strand) (strand' : Strand)
    (more : List Strand) (log : List Event) (id : SessionId) :
    (⟨u.strands.set k strand' ++ more, log⟩ : Undertaking).leasesOn id +
        strand.leases.count id =
      u.leasesOn id + strand'.leases.count id + (more.flatMap (·.leases)).count id := by
  have hset := count_flatMap_set h strand' id
  simp only [Undertaking.leasesOn, List.flatMap_append, List.count_append]
  omega

/-- What one strand holds is held in the undertaking. -/
theorem count_le_leasesOn (h : u.strands[k]? = some strand) (id : SessionId) :
    strand.leases.count id ≤ u.leasesOn id := by
  have hset := count_flatMap_set h { strand with leases := [] } id
  rw [List.count_nil, Nat.add_zero] at hset
  rw [Undertaking.leasesOn, ← hset]
  exact Nat.le_add_left _ _

/-- **No lease is held on a session of somebody else.** -/
theorem Undertaking.InOrder.leasesOn_eq_zero (h : u.InOrder) (hid : id ∉ u.sessions) :
    u.leasesOn id = 0 := by
  refine List.count_eq_zero.mpr fun hheld => ?_
  obtain ⟨k, hk, hid'⟩ := List.mem_flatMap.mp hheld
  rcases h.standing with ⟨-, j, hstrands, hj⟩ | ⟨id', hsessions, hall⟩
  · rw [hstrands, List.mem_singleton] at hk
    rw [hk, hj.1] at hid'
    cases hid'
  · obtain ⟨n, hleases, -⟩ := hall k hk
    rw [hleases] at hid'
    rw [hsessions, List.mem_singleton] at hid
    exact hid (List.eq_of_mem_replicate hid')

/-- The sessions started behind one more event. -/
theorem sessions_append (strands : List Strand) (e : Event) :
    (⟨strands, u.log ++ [e]⟩ : Undertaking).sessions = u.sessions ++ e.started?.toList := by
  rw [Undertaking.sessions, Undertaking.sessions, List.filterMap_append]
  cases h : e.started? <;> simp [h]

/-- Where one more event fits behind the others, all of them fit. -/
theorem Undertaking.InOrder.fits_append (h : u.InOrder) (strands : List Strand) {e : Event}
    (he : e.Fits u.sessions) (n : Nat) (e' : Event)
    (hn : (⟨strands, u.log ++ [e]⟩ : Undertaking).log[n]? = some e') :
    e'.Fits ((⟨strands, u.log ++ [e]⟩ : Undertaking).sessionsBefore n) := by
  rw [Undertaking.sessionsBefore]
  rcases Nat.lt_or_ge n u.log.length with hlt | hge
  · rw [List.getElem?_append_left hlt] at hn
    rw [List.take_append_of_le_length (Nat.le_of_lt hlt)]
    exact h.fits n e' hn
  · obtain rfl : n = u.log.length := by
      obtain ⟨hlt, -⟩ := List.getElem?_eq_some_iff.mp hn
      rw [List.length_append, List.length_singleton] at hlt
      exact Nat.le_antisymm (Nat.le_of_lt_succ hlt) hge
    rw [List.getElem?_concat_length] at hn
    obtain rfl := Option.some.inj hn
    rw [List.take_left]
    exact he

/-- **A step within the session** leaves the undertaking in order. -/
theorem Undertaking.InOrder.step_within (h : u.InOrder) (hid : u.sessions = [id])
    {strand' : Strand} {more : List Strand} {e : Event}
    (hstrand : ∃ n, strand'.StandsAt (.within id n))
    (hmore : ∀ j ∈ more, ∃ n, j.StandsAt (.within id n)) (he : e.Fits [id])
    (hnone : e.started? = none) :
    (⟨u.strands.set k strand' ++ more, u.log ++ [e]⟩ : Undertaking).InOrder := by
  have hsessions := sessions_append (u := u) (u.strands.set k strand' ++ more) e
  rw [hnone, Option.toList_none, List.append_nil] at hsessions
  have hall : ∀ j ∈ u.strands, ∃ n, j.StandsAt (.within id n) := by
    rcases h.standing with ⟨hnil, -⟩ | ⟨id', hid', hall⟩
    · exact absurd (hnil.symm.trans hid) (by simp)
    · obtain rfl : id' = id := by simpa using hid'.symm.trans hid
      exact hall
  refine ⟨Or.inr ⟨id, hsessions.trans hid, fun j hj => ?_⟩, h.fits_append _ (hid ▸ he)⟩
  rcases List.mem_append.mp hj with hj | hj
  · rcases List.mem_or_eq_of_mem_set hj with hj | rfl
    · exact hall j hj
    · exact hstrand
  · exact hmore j hj

/-- **A step outside of every session** leaves the undertaking in order, whether it starts
one or not. -/
theorem Undertaking.InOrder.step_outside (h : u.InOrder) (hnil : u.sessions = [])
    (hstrands : u.strands = [strand]) (hk : u.strands[k]? = some strand) {strand' : Strand}
    {e : Event} (he : e.Fits [])
    (hstrand : (e.started? = none ∧ strand'.StandsAt .outside) ∨
      ∃ id n, e.started? = some id ∧ strand'.StandsAt (.within id n)) :
    (⟨u.strands.set k strand' ++ [], u.log ++ [e]⟩ : Undertaking).InOrder := by
  have hsessions := sessions_append (u := u) (u.strands.set k strand' ++ []) e
  rw [hnil, List.nil_append] at hsessions
  have hset : u.strands.set k strand' ++ [] = [strand'] := by
    rw [hstrands] at hk ⊢
    cases k with
    | zero => rfl
    | succ k => cases hk
  refine ⟨?_, h.fits_append _ (hnil ▸ he)⟩
  rcases hstrand with ⟨hnone, hstand⟩ | ⟨id, n, hsome, hstand⟩
  · rw [hnone] at hsessions
    exact Or.inl ⟨hsessions, strand', hset, hstand⟩
  · rw [hsome] at hsessions
    refine Or.inr ⟨id, hsessions, fun j hj => ?_⟩
    obtain rfl := List.mem_singleton.mp (hset ▸ hj)
    exact ⟨n, hstand⟩

/-- A strand of an undertaking in order stands outside, alone, or within the session. -/
theorem Undertaking.InOrder.stands (h : u.InOrder) (hk : u.strands[k]? = some strand) :
    (u.sessions = [] ∧ u.strands = [strand] ∧ strand.StandsAt .outside) ∨
      ∃ id n, u.sessions = [id] ∧ strand.StandsAt (.within id n) := by
  have hmem := List.mem_of_getElem? hk
  rcases h.standing with ⟨hnil, j, hstrands, hj⟩ | ⟨id, hid, hall⟩
  · rw [hstrands, List.mem_singleton] at hmem
    rw [hmem]
    exact Or.inl ⟨hnil, hstrands, hj⟩
  · obtain ⟨n, hn⟩ := hall strand hmem
    exact Or.inr ⟨id, n, hid, hn⟩

/-- The chains that a question starts stand within the session, with the leases that are
handed on. -/
theorem standsAt_strandsFrom {config : Config} {depth n : Nat} {c : Call}
    (hc : (Standing.within id n).Permits c) :
    ∀ j ∈ strandsFrom config depth c, ∃ n, j.StandsAt (.within id n) := by
  cases c with
  | detach job =>
    obtain ⟨form, values, token, lease⟩ := job
    obtain ⟨rfl : token = id, rfl, -⟩ := hc
    intro j hj
    obtain rfl := List.mem_singleton.mp hj
    refine ⟨1, rfl, (keeps_background (keeps_launcherOfDepth config depth)).imp ?_⟩
    rintro σ - rfl
    exact rfl
  | _ => exact fun j hj => by cases hj

/-- The leases that are handed on are those of the chains that are started. -/
theorem leases_strandsFrom {config : Config} {depth : Nat} (c : Call) :
    (strandsFrom config depth c).flatMap (·.leases) = leasesHandedOn c := by
  cases c with
  | detach => exact List.append_nil _
  | _ => rfl

/-- Outside of a session, no chain is started. -/
theorem strandsFrom_of_outside {config : Config} {depth : Nat} {c : Call}
    (hc : Standing.outside.Permits c) : strandsFrom config depth c = [] := by
  cases c with
  | detach => cases hc
  | _ => rfl

/-- Within a session, none is started. -/
theorem started?_of_within {n : Nat} {c : Call} (hc : (Standing.within id n).Permits c)
    (token : Token) (reply : Reply c) :
    (Event.exchange token c reply).started? = none ∧
      ∃ n', (Standing.within id n).after c reply.answer = .within id n' := by
  cases c with
  | session r => cases r <;> first | exact ⟨rfl, _, rfl⟩ | cases hc
  | _ => exact ⟨rfl, _, rfl⟩

/-- Outside of a session, one is started or nothing changes. -/
theorem started?_of_outside {c : Call} (hc : Standing.outside.Permits c) (token : Token)
    (reply : Reply c) :
    ((Event.exchange token c reply).started? = none ∧
      Standing.outside.after c reply.answer = .outside) ∨
    ∃ id, (Event.exchange token c reply).started? = some id ∧
      Standing.outside.after c reply.answer = .within id 1 := by
  cases c with
  | session r =>
    cases r with
    | start => exact Or.inr ⟨_, rfl, rfl⟩
    | hasExpired => exact Or.inl ⟨rfl, rfl⟩
    | timedOut => exact Or.inl ⟨rfl, rfl⟩
    | _ => cases hc
  | _ => exact Or.inl ⟨rfl, rfl⟩

/-- A step that does nothing. -/
theorem advanced_self (hl : l.WellKept) (hu : u.InOrder) : Advanced l l u u where
  inOrder := hu
  wellKept := hl
  issued_le := Nat.le_refl _
  old_or_new _ h := Or.inl h
  sessions := Or.inl rfl
  balance _ := rfl

/-- A step that is a remark. -/
theorem advanced_remark (hl : l.WellKept) (hu : u.InOrder) {r : Remark} {next : Script Unit}
    (hk : u.strands[k]? = some strand) (hscript : strand.script = .remark r next) :
    Advanced l l u
      ⟨u.strands.set k { strand with script := next } ++ [], u.log ++ [.remark r]⟩ where
  inOrder := by
    rcases hu.stands hk with ⟨hnil, hstrands, hheld, hkeeps⟩ | ⟨id, n, hid, hheld, hkeeps⟩
    · rw [hscript] at hkeeps
      refine hu.step_outside hnil hstrands hk ?_ (Or.inl ⟨rfl, hheld, hkeeps.2⟩)
      cases r with
      | entered => exact hkeeps.1.elim
      | _ => trivial
    · rw [hscript] at hkeeps
      refine hu.step_within hid ⟨n, hheld, hkeeps.2⟩ (fun j hj => by cases hj) ?_ rfl
      cases r with
      | entered form token session =>
        obtain ⟨rfl, hsession⟩ := hkeeps.1
        exact ⟨rfl, hsession⟩
      | _ => trivial
  wellKept := hl
  issued_le := Nat.le_refl _
  old_or_new _ h := Or.inl h
  sessions := Or.inl ((sessions_append _ _).trans (List.append_nil _))
  balance id := by
    have hset := leasesOn_set hk { strand with script := next } [] (u.log ++ [.remark r]) id
    simp only [List.flatMap_nil, List.count_nil] at hset
    omega

section Asking

variable {config : Config} {depth : Nat} {w : Surroundings} {token : Token} {c : Call}
  {next : Reply c → Script Unit} {σ : Standing}

/-- A question that is answered as promised leaves the strand where it should stand. -/
theorem standsAt_behind {l' : Ledger} {reply : Reply c} (hstand : strand.StandsAt σ)
    (hscript : strand.script = .ask token c next) (h : Answered l l' σ c reply.answer) :
    (strand.behind next reply).StandsAt (σ.after c reply.answer) := by
  obtain ⟨hheld, hkeeps⟩ := hstand
  rw [hscript] at hkeeps
  refine ⟨?_, hkeeps.2.2 reply h.promises⟩
  rw [Strand.behind, hheld]
  exact h.leases_eq

/-- A question keeps the leases of the whole undertaking in balance. -/
theorem balance_behind {l' : Ledger} {reply : Reply c} (hk : u.strands[k]? = some strand)
    (hstand : strand.StandsAt σ) (h : Answered l l' σ c reply.answer) (log : List Event)
    (id : SessionId) :
    l'.leasesOn id + u.leasesOn id = l.leasesOn id + (⟨u.strands.set k (strand.behind next reply) ++
      strandsFrom config depth c, log⟩ : Undertaking).leasesOn id := by
  have hset := leasesOn_set hk (strand.behind next reply) (strandsFrom config depth c) log id
  have hbalance := h.balance id
  have hbehind : (strand.behind next reply).leases = (σ.after c reply.answer).leases := by
    rw [Strand.behind, hstand.1]
    exact h.leases_eq
  rw [leases_strandsFrom, hbehind, hstand.1] at hset
  omega

/-- A question of a strand outside of every session. -/
theorem advanced_ask_outside (hl : l.WellKept) (hu : u.InOrder) (hnil : u.sessions = [])
    (hstrands : u.strands = [strand]) (hk : u.strands[k]? = some strand)
    (hstand : strand.StandsAt .outside) (hscript : strand.script = .ask token c next) :
    Advanced l (w.reply l token c).2 u
      ⟨u.strands.set k (strand.behind next (w.reply l token c).1) ++ strandsFrom config depth c,
        u.log ++ [.exchange token c (w.reply l token c).1]⟩ := by
  have hkeeps := hstand.2
  rw [hscript] at hkeeps
  obtain ⟨htoken, hc, -⟩ := hkeeps
  have h := answered hl (fun _ _ h => by cases h) hc w token
  have hbehind := standsAt_behind hstand hscript h
  have hstarted := started?_of_outside hc token (w.reply l token c).1
  refine ⟨?_, h.wellKept, h.issued_le, h.old_or_new, ?_, balance_behind hk hstand h _⟩
  · rw [strandsFrom_of_outside hc]
    refine hu.step_outside hnil hstrands hk (Or.inr ⟨htoken, Or.inl rfl⟩) ?_
    rcases hstarted with ⟨hnone, hafter⟩ | ⟨id, hsome, hafter⟩
    · exact Or.inl ⟨hnone, hafter ▸ hbehind⟩
    · exact Or.inr ⟨id, 1, hsome, hafter ▸ hbehind⟩
  · rw [sessions_append, hnil]
    rcases hstarted with ⟨hnone, -⟩ | ⟨id, hsome, hafter⟩
    · exact Or.inl (by rw [hnone]; rfl)
    · refine Or.inr ⟨id, rfl, by rw [hsome]; rfl, h.started id 1 rfl hafter⟩

/-- A question of a strand within a session. -/
theorem advanced_ask_within {n : Nat} (hl : l.WellKept) (hu : u.InOrder)
    (hid : u.sessions = [id]) (hcount : n ≤ l.leasesOn id) (hk : u.strands[k]? = some strand)
    (hstand : strand.StandsAt (.within id n)) (hscript : strand.script = .ask token c next) :
    Advanced l (w.reply l token c).2 u
      ⟨u.strands.set k (strand.behind next (w.reply l token c).1) ++ strandsFrom config depth c,
        u.log ++ [.exchange token c (w.reply l token c).1]⟩ := by
  have hkeeps := hstand.2
  rw [hscript] at hkeeps
  obtain ⟨htoken, hc, -⟩ := hkeeps
  have h := answered hl (fun _ _ h => by obtain ⟨rfl, rfl⟩ := Standing.within.inj h; exact hcount)
    hc w token
  have hbehind := standsAt_behind hstand hscript h
  obtain ⟨hnone, n', hafter⟩ := started?_of_within hc token (w.reply l token c).1
  refine ⟨?_, h.wellKept, h.issued_le, h.old_or_new, Or.inl ?_, balance_behind hk hstand h _⟩
  · refine hu.step_within hid ⟨n', hafter ▸ hbehind⟩ (standsAt_strandsFrom hc) ?_ hnone
    exact htoken.imp (fun h => by rw [h]) fun ⟨hzero, hreading⟩ => ⟨hzero, Or.inr hreading⟩
  · rw [sessions_append, hnone, Option.toList_none, List.append_nil]

end Asking

/-- **Every step keeps the undertaking and the ledger in order.** -/
theorem Undertaking.InOrder.advance (hl : l.WellKept) (hu : u.InOrder)
    (hcount : ∀ id ∈ u.sessions, u.leasesOn id ≤ l.leasesOn id) (config : Config) (depth : Nat)
    (w : Surroundings) (k : Nat) :
    Advanced l (u.advance config depth w l k).2 u (u.advance config depth w l k).1 := by
  unfold Undertaking.advance
  split
  case h_1 => exact advanced_self hl hu
  case h_2 strand hk =>
    split
    case h_1 => exact advanced_self hl hu
    case h_2 r next hscript =>
      have h := advanced_remark hl hu hk hscript
      rwa [List.append_nil] at h
    case h_3 token c next hscript =>
      rcases hu.stands hk with ⟨hnil, hstrands, hstand⟩ | ⟨id, n, hid, hstand⟩
      · exact advanced_ask_outside hl hu hnil hstrands hk hstand hscript
      · -- the ledger counts what the strand holds, since it counts what the undertaking holds
        have hn : n ≤ l.leasesOn id := by
          have hle := count_le_leasesOn hk id
          rw [hstand.1, count_leases_within, if_pos rfl] at hle
          exact Nat.le_trans hle (hcount id (by rw [hid]; exact List.mem_singleton_self id))
        exact advanced_ask_within hl hu hid hn hk hstand hscript

end Advance

/-! ### What a step means for sessions -/

namespace Advanced

variable {l l' : Ledger} {u u' : Undertaking} {id : SessionId}

/-- A session of an undertaking behind a step was one before, or is a new one. -/
theorem old_or_started (h : Advanced l l' u u') (hid : id ∈ u'.sessions) :
    id ∈ u.sessions ∨ (id ∉ u.sessions ∧ l.issued < id ∧ id ≤ l'.issued) := by
  rcases h.sessions with hsame | ⟨id', hnil, hstarted, hlt, hle⟩
  · exact Or.inl (hsame ▸ hid)
  · rw [hstarted, List.mem_singleton] at hid
    rw [hid, hnil]
    exact Or.inr ⟨List.not_mem_nil, hlt, hle⟩

/-- A session of an undertaking stays its session. -/
theorem mem_sessions (h : Advanced l l' u u') (hid : id ∈ u.sessions) : id ∈ u'.sessions := by
  rcases h.sessions with hsame | ⟨id', hnil, -⟩
  · exact hsame ▸ hid
  · rw [hnil] at hid
    cases hid

/-- **On the sessions of others a step changes nothing.** -/
theorem leasesOn_other (h : Advanced l l' u u') (hu : u.InOrder) (hid : id ∉ u'.sessions) :
    l'.leasesOn id = l.leasesOn id := by
  have hbalance := h.balance id
  rwa [h.inOrder.leasesOn_eq_zero hid,
    hu.leasesOn_eq_zero fun hold => hid (h.mem_sessions hold)] at hbalance

/-- **On its own session an undertaking holds what is counted**, if it did before: on a new
one, neither was anything counted nor held. -/
theorem leasesOn_own (h : Advanced l l' u u') (hl : l.WellKept) (hu : u.InOrder)
    (hcounted : ∀ id ∈ u.sessions, l.leasesOn id = u.leasesOn id) (hid : id ∈ u'.sessions) :
    l'.leasesOn id = u'.leasesOn id := by
  have hbalance := h.balance id
  have hbefore : l.leasesOn id = u.leasesOn id := by
    rcases h.old_or_started hid with hold | ⟨hnew, hlt, -⟩
    · exact hcounted id hold
    · rw [hu.leasesOn_eq_zero hnew]
      refine Ledger.leasesOn_of_not_live (Bool.eq_false_iff.mpr fun hlive => ?_)
      exact absurd (hl.le_issued hlive) (Nat.not_le_of_lt hlt)
  omega

end Advanced

end FormChain
