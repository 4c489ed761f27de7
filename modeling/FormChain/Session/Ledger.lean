import FormChain.Form.Basic

/-!
# Sessions

A session is what a submission and everything launched from it share: one token, by
which all of it is called off at once, and perhaps a deadline. It lives as long as
somebody holds a lease on it. The ledger hands out leases, counts them, and knows which
session is the active one, which nested submissions join when they know no better.

Every lease carries the token of its session by itself, so chains may look at it when the
session has ended. A deadline is kept by a task of its own, which knows nothing of leases:
it waits with the token in hand, until its time has come, or the token is cancelled, or the
session has ended and disarms it.

Numbers of sessions start at one and are never used twice; what is made with a session – its
token, its flag and what disarms its deadline – goes by its number. What is known of these
is kept for good.
-/

namespace FormChain

/-- The number of a session. -/
abbrev SessionId := Nat

/-- The name of a session for people. -/
def sessionName (id : SessionId) : String :=
  "session-" ++ toString id

/-- A token, by which all that carries it is called off. Zero is that of whoever belongs to
no session. -/
abbrev Token := Nat

/-- A flag that is set when a deadline takes effect. -/
abbrev Flag := Nat

/-- A token by which a task that waits for a deadline is disarmed. -/
abbrev Disarm := Nat

/-- **A live session.** -/
structure Session where
  /-- Its number. -/
  id : SessionId
  /-- How many leases are held on it. -/
  leases : Nat
  /-- Its token. -/
  token : Token
  /-- The flag that its deadline sets. -/
  flag : Flag
  /-- What disarms its deadline, if it has one. -/
  disarm : Option Disarm
  deriving DecidableEq, Repr

/-- A lease on a session. -/
structure Lease where
  /-- The session. -/
  session : SessionId
  /-- The token that it carries. -/
  token : Token
  /-- The flag that it carries. -/
  flag : Flag
  /-- Whether the session was there before. -/
  reused : Bool
  deriving DecidableEq, Repr

/-- A lease for work behind the user's back. It does not count where the ledger does not
know the session. -/
structure BackgroundLease where
  /-- The session. -/
  session : SessionId
  /-- The token that it carries. -/
  token : Token
  /-- Whether the lease counts. -/
  counted : Bool
  deriving DecidableEq, Repr

/-- **A task that waits for a deadline**, which is all that it knows of the session. -/
structure DeadlineTask where
  /-- The session that it was set for. -/
  session : SessionId
  /-- The token that it cancels. -/
  token : Token
  /-- The flag that it sets. -/
  flag : Flag
  /-- What disarms it. -/
  disarm : Disarm
  /-- The moment of the deadline, in milliseconds. -/
  due : Nat
  deriving DecidableEq, Repr

/-- **The ledger of sessions**, with what has become of their tokens and the tasks that wait
for their deadlines. -/
structure Ledger where
  /-- The number of the last session. -/
  issued : Nat := 0
  /-- The live sessions in order of their numbers. -/
  live : List Session := []
  /-- The active session. -/
  active : Option SessionId := none
  /-- The tokens that are cancelled. -/
  cancelled : List Token := []
  /-- The flags that are set. -/
  expired : List Flag := []
  /-- The tasks that are disarmed. -/
  disarmed : List Disarm := []
  /-- The tasks that wait for deadlines. -/
  waiting : List DeadlineTask := []
  deriving DecidableEq, Repr

namespace Ledger

/-- The live session of a number. -/
def session? (l : Ledger) (id : SessionId) : Option Session :=
  l.live.find? (·.id == id)

/-- Whether a session lives. -/
def isLive (l : Ledger) (id : SessionId) : Bool :=
  (l.session? id).isSome

/-- Whether a token is cancelled. -/
def isCancelled (l : Ledger) (token : Token) : Bool :=
  l.cancelled.contains token

/-- Whether a flag is set: the deadline that sets it has taken effect. -/
def hasExpired (l : Ledger) (flag : Flag) : Bool :=
  l.expired.contains flag

/-- Whether a task is disarmed. -/
def isDisarmed (l : Ledger) (disarm : Disarm) : Bool :=
  l.disarmed.contains disarm

/-- Whether the deadline of a live session has taken effect. -/
def timedOut (l : Ledger) (id : SessionId) : Bool :=
  (l.session? id).any fun s => l.hasExpired s.flag

/-- One lease more on a session. -/
def addLease (l : Ledger) (id : SessionId) : Ledger :=
  { l with live := l.live.map fun s => if s.id = id then { s with leases := s.leases + 1 } else s }

/-! ### Leases -/

/-- **Take a lease on a live session**, which carries the token and the flag of the session. -/
def join (l : Ledger) (id : SessionId) : Option Lease × Ledger :=
  match l.session? id with
  | some s => (some ⟨id, s.token, s.flag, true⟩, l.addLease id)
  | none => (none, l)

/-- When a session that starts now is cut off, given what the clock shows if there is one. -/
def deadlineOf (clock : Option Nat) (timeout : Timeout) : Option Nat :=
  if timeout.enabled && 0 < timeout.seconds then clock.map (· + timeout.seconds * 1000)
  else none

/-- A session that starts now, and the task that waits for its deadline, if it has one. -/
def startFresh (l : Ledger) (deadline : Option Nat) : Lease × Ledger :=
  let id := l.issued + 1
  (⟨id, id, id, false⟩,
    { l with
      issued := id
      live := l.live ++ [⟨id, 1, id, id, deadline.map fun _ => id⟩]
      active := some id
      waiting := l.waiting ++ (deadline.map (⟨id, id, id, id, ·⟩)).toList })

/-- The active session, if it lives. -/
def activeSession? (l : Ledger) : Option Session :=
  l.active.bind l.session?

/-- **Start a session**, or join the active one where that is allowed. -/
def start (l : Ledger) (clock : Option Nat) (timeout : Timeout) (mayJoin : Bool) :
    Lease × Ledger :=
  match (if mayJoin then l.activeSession? else none) with
  | some s => (⟨s.id, s.token, s.flag, true⟩, l.addLease s.id)
  | none => l.startFresh (deadlineOf clock timeout)

/-- **Take a lease for work behind the user's back**, given one in front of the user. Where
its session lives, the new lease carries the token of the session, and otherwise that of the
lease that was given. -/
def hold (l : Ledger) (lease : Lease) : BackgroundLease × Ledger :=
  match l.session? lease.session with
  | some s => (⟨lease.session, s.token, true⟩, l.addLease lease.session)
  | none => (⟨lease.session, lease.token, false⟩, l)

/-- **Give a lease back.** With its last lease a session ends, which disarms its deadline;
where it was the active one, the live session of the highest number takes its place. -/
def release (l : Ledger) (id : SessionId) : Ledger :=
  match l.session? id with
  | none => l
  | some s =>
    if 1 < s.leases then
      { l with live := l.live.map fun t =>
          if t.id = id then { t with leases := t.leases - 1 } else t }
    else
      let live := l.live.filter (·.id ≠ id)
      { l with
        live := live
        disarmed := s.disarm.toList ++ l.disarmed
        active := if l.active = some id then live.getLast?.map (·.id) else l.active }

/-- Give a lease for work behind the user's back back. -/
def releaseBackground (l : Ledger) (lease : BackgroundLease) : Ledger :=
  if lease.counted then l.release lease.session else l

/-! ### Tokens and deadlines -/

/-- **Cancel a token.** -/
def cancel (l : Ledger) (token : Token) : Ledger :=
  if l.isCancelled token then l else { l with cancelled := token :: l.cancelled }

/-- Cancel the token of the active session, and tell whether there was one. -/
def cancelActive (l : Ledger) : Bool × Ledger :=
  match l.activeSession? with
  | some s => (true, l.cancel s.token)
  | none => (false, l)

/-- A task that waits for a deadline is over. -/
def dismiss (l : Ledger) (task : DeadlineTask) : Ledger :=
  { l with waiting := l.waiting.filter (· ≠ task) }

/-- **A task that waits for a deadline is woken.** It looks first whether it is disarmed, then
whether its token is cancelled, and is over in both cases; only then does it look whether its
time has come, sets its flag and cancels its token. -/
def wake (l : Ledger) (now : Nat) (task : DeadlineTask) : Ledger :=
  if l.isDisarmed task.disarm then l.dismiss task
  else if l.isCancelled task.token then l.dismiss task
  else if task.due ≤ now then
    { (l.dismiss task).cancel task.token with expired := task.flag :: l.expired }
  else l

/-- All tasks that wait for deadlines are woken. -/
def wakeAll (l : Ledger) (now : Nat) : Ledger :=
  l.waiting.foldl (·.wake now ·) l

/-- The moments for which a task waits that finds neither itself disarmed nor its token
cancelled. -/
def deadlines (l : Ledger) : List Nat :=
  (l.waiting.filter fun task => !l.isDisarmed task.disarm && !l.isCancelled task.token).map (·.due)

/-! ### Views -/

/-- How many sessions live. -/
def count (l : Ledger) : Nat := l.live.length

end Ledger

/-! ### Leases of either kind -/

/-- **A lease**, for work in front of the user or behind the user's back. -/
inductive HeldLease where
  /-- For work in front of the user. -/
  | foreground (lease : Lease)
  /-- For work behind the user's back. -/
  | background (lease : BackgroundLease)
  deriving DecidableEq, Repr

namespace HeldLease

/-- The session of a lease. -/
def session : HeldLease → SessionId
  | foreground lease => lease.session
  | background lease => lease.session

/-- The token that a lease carries. -/
def token : HeldLease → Token
  | foreground lease => lease.token
  | background lease => lease.token

/-- Whether a lease counts. -/
def counts : HeldLease → Bool
  | foreground _ => true
  | background lease => lease.counted

/-- The ledger behind the return of a lease. -/
def giveBack (l : Ledger) : HeldLease → Ledger
  | foreground lease => l.release lease.session
  | background lease => l.releaseBackground lease

end HeldLease

/-! ### Requests -/

/-- **What a submission asks the ledger for.** -/
inductive SessionRequest where
  /-- Start a session, or join the active one. -/
  | start (timeout : Timeout) (mayJoin : Bool)
  /-- Join a session. -/
  | join (id : SessionId)
  /-- Hold the session of a lease for work behind the user's back. -/
  | hold (lease : Lease)
  /-- Give a lease back. -/
  | release (id : SessionId)
  /-- Give a lease for work behind the user's back back. -/
  | releaseBackground (lease : BackgroundLease)
  /-- Tell whether the flag of a lease is set. -/
  | hasExpired (flag : Flag)
  /-- Tell whether the deadline of a live session has taken effect. -/
  | timedOut (id : SessionId)
  deriving DecidableEq, Repr

/-- What a request answers. -/
abbrev SessionRequest.Answer : SessionRequest → Type
  | start _ _ => Lease
  | join _ => Option Lease
  | hold _ => BackgroundLease
  | release _ => Unit
  | releaseBackground _ => Unit
  | hasExpired _ => Bool
  | timedOut _ => Bool

/-- **The answer to a request**, and the ledger behind it. -/
def Ledger.answer (l : Ledger) (clock : Option Nat) : (r : SessionRequest) → r.Answer × Ledger
  | .start timeout mayJoin => l.start clock timeout mayJoin
  | .join id => l.join id
  | .hold lease => l.hold lease
  | .release id => ((), l.release id)
  | .releaseBackground lease => ((), l.releaseBackground lease)
  | .hasExpired flag => (l.hasExpired flag, l)
  | .timedOut id => (l.timedOut id, l)

end FormChain
