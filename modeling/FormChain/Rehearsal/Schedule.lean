import FormChain.Rehearsal.World

/-!
# Rehearsing several scripts at once

Scripts take turns: one runs until it sleeps or ends, then the next one that is ready.
Time passes only when all of them sleep, and then up to the next moment at which
something is due: a script wakes, a deadline takes effect, or a token is cancelled as
laid out. A script whose token is cancelled wakes at once.

A turn has room for so many requests to a vault in memory. A script that makes one more
is interrupted with this request, and goes on with it when all that are ready have had a
turn. No time passes meanwhile.

One script is the main one; the others run only while the main one waits, and all that
are ready run before it goes on. Waking up by itself, or after an interruption, it goes
first.

A request that breaks off is the end of its script, which comes to no result.
-/

namespace FormChain

namespace Rehearsal

variable {α ρ : Type}

/-! ### Turns -/

/-- How many requests to a vault in memory there is room for in a turn. -/
def maxRequests : Nat := 128

/-- **How a turn of a script ends.** -/
inductive Turn (α : Type) where
  /-- With the end of the script. -/
  | ended (a : α)
  /-- With sleep up to a moment, under a token; and what follows then. -/
  | asleep (wake : Nat) (token : Token) (resume : World → Script α)
  /-- With a request that there was no room for; and what follows its answer, if there is one. -/
  | interrupted (resume : World → Option (Script α) × World)
  /-- With a request that breaks off. -/
  | brokenOff

/-- **Run a script** until it sleeps or ends, or there is no room for its requests. A
token that is cancelled before keeps a script from falling asleep, and so does a sleep of
no time. A request is written down before it has to wait, and what is laid out to fail
does not wait. -/
def turn : (room : Nat) → Script α → World → Turn α × World
  | _, .done a, w => (.ended a, w)
  | room, .remark _ next, w => turn room next w
  | room, .ask token (.sleep duration) next, w =>
    -- nothing to wait for: the turn goes on
    if duration = 0 || w.isCancelled token then
      turn room (next (w.reply token (.sleep duration) ())) w
    else
      (.asleep (w.clock + duration) token
        fun w => next (w.reply token (.sleep duration) ()), w)
  | room, .ask token (.vault r) next, w =>
    let w := w.noting r
    match w.takeFailure? r with
    | some w => turn room (next (w.reply token (.vault r) (.error (.io World.hiccup)))) w
    | none =>
      if w.lockedFor r && room = 0 then
        (.interrupted fun w =>
          let (a, w) := w.grant r
          (a.map fun a => next (w.reply token (.vault r) a), w), w)
      else
        let left := if w.lockedFor r then room - 1 else room
        match w.grant r with
        | (some a, w) => turn left (next (w.reply token (.vault r) a)) w
        | (none, w) => (.brokenOff, w)
  | room, .ask token call next, w =>
    match w.answer token call with
    | (some a, w) => turn room (next (w.reply token call a)) w
    | (none, w) => (.brokenOff, w)

/-! ### The others -/

/-- A script that is not the main one. -/
structure Player (ρ : Type) where
  /-- The name under which its result is kept, if anybody asks for it. -/
  name : Option String
  /-- What it does next, unless it breaks off there. -/
  next : World → Option (Script ρ) × World
  /-- The room in its next turn. -/
  room : Nat := maxRequests

/-- A player that has not had a turn yet. -/
def Player.ofScript (name : Option String) (s : Script ρ) : Player ρ where
  name := name
  next w := (some s, w)

/-- A player that sleeps. -/
structure Sleeper (ρ : Type) where
  /-- The player. -/
  player : Player ρ
  /-- When it wakes. -/
  wake : Nat
  /-- The token that wakes it. -/
  token : Token

/-- **The players beside the main script.** -/
structure Troupe (ρ : Type) where
  /-- Who is ready, in order of turns. -/
  ready : List (Player ρ) := []
  /-- Who was interrupted, in the order of turns. -/
  putOff : List (Player ρ) := []
  /-- Who sleeps, in the order of falling asleep. -/
  asleep : List (Sleeper ρ) := []
  /-- The results of those who have ended. -/
  ended : List (String × ρ) := []

namespace Troupe

/-- One more player, with the last turn. -/
def add (t : Troupe ρ) (p : Player ρ) : Troupe ρ :=
  { t with ready := t.ready ++ [p] }

/-- Those who were interrupted are ready again. -/
def callBack (t : Troupe ρ) : Troupe ρ :=
  { t with ready := t.ready ++ t.putOff, putOff := [] }

/-- Those who sleep wake where something holds of them. -/
def wakeIf (t : Troupe ρ) (due : Sleeper ρ → Bool) : Troupe ρ :=
  { t with
    ready := t.ready ++ ((t.asleep.filter due).map (·.player))
    asleep := t.asleep.filter (!due ·) }

/-- Those whose tokens are cancelled wake. -/
def wakeCancelled (t : Troupe ρ) (w : World) : Troupe ρ :=
  t.wakeIf fun s => w.isCancelled s.token

/-- Note how the turn of a player has ended. -/
def note (t : Troupe ρ) (name : Option String) : Turn ρ → Troupe ρ
  | .ended r =>
    match name with
    | some n => { t with ended := (n, r) :: t.ended }
    | none => t
  | .asleep wake token resume =>
    let next := fun w => (some (resume w), w)
    { t with asleep := t.asleep ++ [⟨{ name, next }, wake, token⟩] }
  | .interrupted resume =>
    { t with putOff := t.putOff ++ [{ name, next := resume, room := maxRequests - 1 }] }
  | .brokenOff => t

/-- The result kept under a name. -/
def result? (t : Troupe ρ) (name : String) : Option ρ :=
  t.ended.lookup name

end Troupe

/-- **What a rehearsal does with chains behind the user's back.** -/
abbrev JobScript (ρ : Type) := Job → Script ρ

/-- The chains that were moved behind the user's back become players. -/
def startJobs (jobScript : JobScript ρ) (t : Troupe ρ) (w : World) : Troupe ρ × World :=
  (w.jobs.foldl (fun t j => t.add (.ofScript none (jobScript j))) t, { w with jobs := [] })

/-- Bring the troupe up to date with what has happened. -/
def settle (jobScript : JobScript ρ) (t : Troupe ρ) (w : World) : Troupe ρ × World :=
  startJobs jobScript (t.wakeCancelled w) w

/-- **Turns of all players that are ready**, and of those that become ready meanwhile. Who is
interrupted is put off. -/
def drain (jobScript : JobScript ρ) : (fuel : Nat) → Troupe ρ → World → Troupe ρ × World
  | 0, t, w => (t, w)
  | fuel + 1, t, w =>
    match t.ready with
    | [] => (t, w)
    | p :: rest =>
      let (r, w) := match p.next w with
        | (some s, w) => turn p.room s w
        | (none, w) => (.brokenOff, w)
      let (t, w) := settle jobScript (({ t with ready := rest }).note p.name r) w
      drain jobScript fuel t w

/-! ### Time -/

/-- The earliest of some moments. -/
def earliest? (xs : List Nat) : Option Nat :=
  xs.foldl (fun m x => some (match m with
    | some y => min x y
    | none => x)) none

/-- When something is due next, the main script aside. -/
def nextDue? (t : Troupe ρ) (w : World) : Option Nat :=
  earliest? (w.desk.deadlines ++ t.asleep.map (·.wake) ++ w.alarm.toList)

/-- The world in which everything due by now has taken effect. -/
def fire (w : World) : World :=
  let w := { w with desk := w.desk.wakeAll w.clock }
  match w.alarm with
  | some a => if a ≤ w.clock then { w.cancel 0 with alarm := none } else w
  | none => w

/-- Let time pass up to a moment. -/
def passTo (jobScript : JobScript ρ) (moment : Nat) (t : Troupe ρ) (w : World) :
    Troupe ρ × World :=
  let w := fire { w with clock := max w.clock moment }
  let t := t.wakeIf fun s => s.wake ≤ w.clock
  settle jobScript t w

/-! ### The main script -/

/-- **What the main script waits for.** -/
structure Waiting (α ρ : Type) where
  /-- The moment at which it wakes by itself. -/
  wake : Option Nat
  /-- Whether it may go on before. -/
  isReady : Troupe ρ → World → Bool
  /-- How it goes on, unless it breaks off there. -/
  resume : Troupe ρ → World → Option (Script α) × World
  /-- The room in the turn then. -/
  room : Nat := maxRequests

/-- The wait of a script that sleeps. -/
def Waiting.ofSleep (wake : Nat) (token : Token) (resume : World → Script α) : Waiting α ρ where
  wake := some wake
  isReady _ w := w.isCancelled token
  resume _ w := (some (resume w), w)

/-- The wait of a script that was interrupted: the others have a turn. -/
def Waiting.ofInterruption (resume : World → Option (Script α) × World) : Waiting α ρ where
  wake := none
  isReady _ _ := true
  resume _ := resume
  room := maxRequests - 1

/-- The wait for a moment. -/
def Waiting.forTime (wake : Nat) (a : α) : Waiting α ρ where
  wake := some wake
  isReady _ _ := false
  resume _ w := (some (.done a), w)

/-- The wait for everybody who is ready. -/
def Waiting.forTurns (a : α) : Waiting α ρ where
  wake := none
  isReady _ _ := true
  resume _ w := (some (.done a), w)

/-- The wait for the result of a player. -/
def Waiting.forPlayer (name : String) : Waiting (Option ρ) ρ where
  wake := none
  isReady t _ := (t.result? name).isSome
  resume t w := (some (.done (t.result? name)), w)

mutual

/-- **Run the main script**, and the others whenever it waits. Without a result something
waits for ever, or has broken off. -/
def play (jobScript : JobScript ρ) (fuel room : Nat) (s : Script α) (t : Troupe ρ) (w : World) :
    Option α × Troupe ρ × World :=
  match fuel with
  | 0 => (none, t, w)
  | fuel + 1 =>
    let (r, w) := turn room s w
    let (t, w) := settle jobScript t w
    match r with
    | .ended a => (some a, t, w)
    | .asleep wake token resume => wait jobScript fuel (.ofSleep wake token resume) t w
    | .interrupted resume => wait jobScript fuel (.ofInterruption resume) t w
    | .brokenOff => (none, t, w)

/-- Wait, and go on with the main script. -/
def wait (jobScript : JobScript ρ) (fuel : Nat) (x : Waiting α ρ) (t : Troupe ρ) (w : World) :
    Option α × Troupe ρ × World :=
  match fuel with
  | 0 => (none, t, w)
  | fuel + 1 =>
    let (t, w) := drain jobScript (fuel + 1) t w
    let t := t.callBack
    if x.isReady t w then
      match x.resume t w with
      | (some s, w) => play jobScript fuel x.room s t w
      | (none, w) => (none, t, w)
    -- somebody was interrupted, and time stands still
    else if !t.ready.isEmpty then wait jobScript fuel x t w
    else
      match earliest? ((nextDue? t w).toList ++ x.wake.toList) with
      -- everybody waits for somebody else
      | none => (none, t, w)
      | some moment =>
        let (t, w) := passTo jobScript moment t w
        -- the main script wakes by itself: it goes before those who wake with it
        if x.wake = some moment then
          match x.resume t w with
          | (some s, w) => play jobScript fuel x.room s t w
          | (none, w) => (none, t, w)
        else wait jobScript fuel x t w

end

/-- How many turns a rehearsal may take. -/
def maxTurns : Nat := 1000000000

end Rehearsal

end FormChain
