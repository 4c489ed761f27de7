import FormChain.Session.Ledger

/-!
# A desk for leases

Two ledgers, and leases kept under names: what a host does that works with sessions by
itself. Of a lease it is known which ledger counts it and from which ledger the token is that
it carries; the two differ only where work behind the user's back was to be held for a session
that the ledger asked does not know.

A new lease under a name in use takes the place of the old one, which is given back once
the new one is there. The number of a session stays known under a name after its lease
was given back.
-/

namespace FormChain

/-- Which of the two ledgers. -/
inductive Book where
  /-- The first. -/
  | first
  /-- The second. -/
  | second
  deriving DecidableEq, Repr

/-- **A lease that is kept at the desk.** -/
structure KeptLease where
  /-- The lease. -/
  lease : HeldLease
  /-- The ledger that counts it. -/
  book : Book
  /-- The ledger from which its token is. -/
  tokenBook : Book
  deriving DecidableEq, Repr

/-- A lease, if it is for work in front of the user. -/
def HeldLease.foreground? : HeldLease → Option Lease
  | foreground lease => some lease
  | background _ => none

/-- Whether a lease is for work in front of the user. -/
def KeptLease.isForeground (k : KeptLease) : Bool :=
  k.lease.foreground?.isSome

/-- **The desk.** -/
structure Desk where
  /-- The first ledger. -/
  first : Ledger := {}
  /-- The second ledger. -/
  second : Ledger := {}
  /-- The leases under their names. -/
  leases : Keyed KeptLease := []
  /-- The numbers of sessions under the names of leases. -/
  ids : Keyed SessionId := []

/-- What can be done at the desk with one of the ledgers. -/
inductive DeskStep where
  /-- Start a session, or join the active one. -/
  | start (name : String) (timeout : Timeout) (mayJoin : Bool)
  /-- Join the session known under a name. -/
  | join (name source : String)
  /-- Hold the session of a lease for work behind the user's back. -/
  | background (name source : String)
  /-- Finish the work under a lease. -/
  | finish (name : String)
  /-- Give a lease back. -/
  | drop (name : String)
  /-- Cancel the token of a lease. -/
  | cancel (name : String)
  /-- Cancel the token of the active session. -/
  | cancelActive
  /-- Look at a lease. -/
  | show (name : String)
  /-- Tell whether the session known under a name has timed out. -/
  | timedOut (name : String)
  deriving DecidableEq, Repr

/-- How a lease looks. -/
structure LeaseView where
  /-- The session. -/
  session : SessionId
  /-- For a foreground lease, whether the session was there before. -/
  reused : Option Bool
  /-- Whether its token is cancelled. -/
  cancelled : Bool
  /-- For a foreground lease, whether the deadline of its session has taken effect. -/
  expired : Option Bool
  /-- Whether the ledger asked says that the session has timed out. -/
  timedOut : Bool
  deriving DecidableEq, Repr

/-- What is seen at the desk. -/
inductive DeskAnswer where
  /-- Nothing. -/
  | nothing
  /-- A lease. -/
  | lease (v : LeaseView)
  /-- Yes or no. -/
  | flag (b : Bool)
  /-- Work was finished, in front of the user or not. -/
  | finished (isForeground : Bool)
  deriving DecidableEq, Repr

namespace Desk

/-- A ledger. -/
def ledger (d : Desk) : Book → Ledger
  | .first => d.first
  | .second => d.second

/-- The desk with a ledger changed. -/
def setLedger (d : Desk) (l : Ledger) : Book → Desk
  | .first => { d with first := l }
  | .second => { d with second := l }

/-- How a lease looks, asking one of the ledgers. -/
def view (d : Desk) (asked : Book) (k : KeptLease) : LeaseView where
  session := k.lease.session
  reused := k.lease.foreground?.map (·.reused)
  cancelled := (d.ledger k.tokenBook).isCancelled k.lease.token
  expired := k.lease.foreground?.map fun lease => (d.ledger k.tokenBook).hasExpired lease.flag
  timedOut := (d.ledger asked).timedOut k.lease.session

/-- Give a lease back. -/
def giveBack (d : Desk) (k : KeptLease) : Desk :=
  d.setLedger (k.lease.giveBack (d.ledger k.book)) k.book

/-- Keep a lease under a name, and give back the one that was there. -/
def keep (d : Desk) (name : String) (k : KeptLease) : Desk :=
  let kept :=
    { d with leases := d.leases.insert name k, ids := d.ids.insert name k.lease.session }
  match d.leases.get? name with
  | some old => kept.giveBack old
  | none => kept

/-- Keep a lease, and tell how it looks. -/
def keepAndShow (d : Desk) (asked : Book) (name : String) (k : KeptLease) : DeskAnswer × Desk :=
  (.lease (d.view asked k), d.keep name k)

/-- Give the lease of a name back. -/
def dropLease (d : Desk) (name : String) : Option KeptLease × Desk :=
  match d.leases.get? name with
  | some k => (some k, { d with leases := d.leases.erase name }.giveBack k)
  | none => (none, d)

/-- Join the session known under a name. -/
def join (d : Desk) (book : Book) (name source : String) : DeskAnswer × Desk :=
  match d.ids.get? source with
  | none => (.nothing, d)
  | some id =>
    match (d.ledger book).join id with
    | (some lease, l) =>
      (d.setLedger l book).keepAndShow book name ⟨.foreground lease, book, book⟩
    | (none, _) => (.nothing, d)

/-- Hold the session of a foreground lease for work behind the user's back. -/
def background (d : Desk) (book : Book) (name source : String) : DeskAnswer × Desk :=
  match d.leases.get? source with
  | some ⟨.foreground lease, _, tokenBook⟩ =>
    let (held, l) := (d.ledger book).hold lease
    let tokenBook := if held.counted then book else tokenBook
    (d.setLedger l book).keepAndShow book name ⟨.background held, book, tokenBook⟩
  | _ => (.nothing, d)

/-- **Do a step** with one of the ledgers, given what the clock shows if there is one. -/
def perform (d : Desk) (clock : Option Nat) (book : Book) : DeskStep → DeskAnswer × Desk
  | .start name timeout mayJoin =>
    let (lease, l) := (d.ledger book).start clock timeout mayJoin
    (d.setLedger l book).keepAndShow book name ⟨.foreground lease, book, book⟩
  | .join name source => d.join book name source
  | .background name source => d.background book name source
  | .finish name =>
    match d.dropLease name with
    | (some k, d) => (.finished k.isForeground, d)
    | (none, d) => (.nothing, d)
  | .drop name =>
    match d.dropLease name with
    | (k, d) => (.flag k.isSome, d)
  | .cancel name =>
    match d.leases.get? name with
    | some k => (.nothing, d.setLedger ((d.ledger k.tokenBook).cancel k.lease.token) k.tokenBook)
    | none => (.nothing, d)
  | .cancelActive =>
    let (b, l) := (d.ledger book).cancelActive
    (.flag b, d.setLedger l book)
  | .show name =>
    match d.leases.get? name with
    | some k => (.lease (d.view book k), d)
    | none => (.nothing, d)
  | .timedOut name =>
    match d.ids.get? name with
    | some id => (.flag ((d.ledger book).timedOut id), d)
    | none => (.flag false, d)

/-- The deadlines that can still take effect. -/
def deadlines (d : Desk) : List Nat :=
  d.first.deadlines ++ d.second.deadlines

/-- All tasks that wait for deadlines are woken. -/
def wakeAll (d : Desk) (now : Nat) : Desk :=
  { d with first := d.first.wakeAll now, second := d.second.wakeAll now }

end Desk

end FormChain
