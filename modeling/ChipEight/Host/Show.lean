import ChipEight.Engine.Advance
import ChipEight.Host.Screen
import ChipEight.Host.Seat

/-
  The show: an engine played from the host's keyboard and
  seen in the host's window, turn after turn.

  In a turn the events that have come are handled. Then the
  host's clock is read, and the engine runs for the time that
  has passed since it was read in the turn before. A picture
  that the engine shows is kept back until the engine is done,
  and the latest one is brought to the window. A turn ends with
  a short sleep.

  A show ends when the engine has halted. A fault ends it in
  the middle of its turn.

  Key definitions include:
    * `ChipEight.Stopwatch`
    * `ChipEight.Turn`
    * `ChipEight.Show`
    * `ChipEight.Show.flush`
    * `ChipEight.Show.turn`
    * `ChipEight.Show.play`
    * `ChipEight.Ending`
    * `ChipEight.Show.run`
-/

namespace ChipEight

------------------------------------------------------------
-- Stopwatches
------------------------------------------------------------

/-
  What a clock shows, and what it showed when it was read last.
  A clock does not run backwards.
-/
structure Stopwatch where
  now : Nat
  lastRead : Nat
  lastRead_le : lastRead ≤ now

namespace Stopwatch

/- A clock that is read as it starts. -/
def start : Stopwatch where
  now := 0
  lastRead := 0
  lastRead_le := Nat.le_refl 0

/- Time passes. -/
def pass
    (w : Stopwatch)
    (nanos : Nat) : Stopwatch where
  now := w.now + nanos
  lastRead := w.lastRead
  lastRead_le := Nat.le_add_right_of_le w.lastRead_le

/- Read the clock: the time since it was read last. -/
def read (w : Stopwatch) : Nat × Stopwatch :=
  (w.now - w.lastRead,
    { now := w.now
      lastRead := w.now
      lastRead_le := Nat.le_refl w.now })

end Stopwatch

------------------------------------------------------------
-- Turns
------------------------------------------------------------

/-
  The time that passes before a turn, the events that come
  with it, and what keeps its picture from being shown.
-/
structure Turn where
  nanos : Nat
  events : List HostEvent
  failure : Option RenderFailure := none

/-
  A session at the player's seat, the padding of texture rows,
  the calls made to the host, the oldest first, the picture
  that waits to be brought to the window, and the host's clock.
-/
structure Show where
  session : Session Seat
  padding : Nat
  calls : Array ScreenCall
  staged : Option Frame
  watch : Stopwatch

/- What was exchanged behind an earlier session. -/
def Session.exchangedSince
    {κ : Type}
    (s early : Session κ) : List Exchange :=
  s.exchanges.toList.drop early.exchanges.size

/- A picture that is shown waits in place of another one. -/
def Exchange.stage
    (staged : Option Frame) : Exchange → Option Frame
  | .frameShown frame => some frame
  | _ => staged

namespace Show

/- The sleep that ends a turn: 1 ms. -/
def nap : Nat :=
  1000000

/- Handle the events of a turn, in order. -/
def seated
    (s : Show)
    (events : List HostEvent) : Seat :=
  events.foldl Seat.handle s.session.controls

/-
  Bring the picture that waits to the window, if there is one.
  It waits no longer even if that fails, which the log is told.
-/
def flush
    (s : Show)
    (failure : Option RenderFailure) : Show :=
  match s.staged with
  | none => s
  | some frame =>
      let (result, calls) :=
        (renderPicture s.padding frame failure).outcome
          s.calls
      let s := { s with staged := none, calls := calls }
      match result with
      | .ok () => s
      | .error f =>
          { s with
            session := s.session.note (.frameLost f.reason) }

/- Let a short time pass. -/
def sleep (s : Show) : Show :=
  { s with
    calls := s.calls.push (.sleep nap)
    watch := s.watch.pass nap }

/- One turn; a fault leaves its picture waiting. -/
def turn
    (s : Show)
    (t : Turn) : Show × Option Fault :=
  let watch := s.watch.pass t.nanos
  let seat := s.seated t.events
  let (elapsed, watch) := watch.read
  let before := { s.session with controls := seat }
  let (session, fault) := before.advance (elapsed * seat.pace)
  let shown := session.exchangedSince before
  let s :=
    { s with
      session := session
      staged := shown.foldl Exchange.stage s.staged
      watch := watch }
  match fault with
  | some fault => (s, some fault)
  | none => ((s.flush t.failure).sleep, none)

end Show

------------------------------------------------------------
-- Endings
------------------------------------------------------------

/- How a show ended. -/
inductive Ending where
  /- The engine has halted and the window was closed. -/
  | closed
  /- An instruction could not be carried out. -/
  | faulted (fault : Fault)
  /- The window could not be opened. -/
  | notOpened (failure : OpenFailure)
  /- The turns ran out while the engine was still going. -/
  | unfinished
deriving DecidableEq

/- What is told about an ending that is a failure. -/
def Ending.error? : Ending → Option String
  | .closed => none
  | .faulted fault => some fault.message
  | .notOpened failure => some failure.reason
  | .unfinished => none

------------------------------------------------------------
-- Whole Shows
------------------------------------------------------------

namespace Show

/- Close the window. -/
def close (s : Show) : Show :=
  { s with session := s.session.note .closing }

/- Play turns until the engine halts. -/
def play
    (s : Show)
    (turns : List Turn) : Show × Ending :=
  if s.session.engine.isHalted then
    (s.close, .closed)
  else
    match turns with
    | [] => (s, .unfinished)
    | t :: rest =>
        match s.turn t with
        | (s, some fault) => (s, .faulted fault)
        | (s, none) => s.play rest

/- A show whose window was opened, up to a failure. -/
def opening
    (engine : Engine)
    (scale : UInt32)
    (padding : Nat)
    (failure : Option OpenFailure) : Show where
  session := Session.initial engine Seat.initial
  padding := padding
  calls := ((openScreen scale failure).outcome #[]).2
  staged := none
  watch := Stopwatch.start

/- Open a window and play turns in it. -/
def run
    (engine : Engine)
    (scale : UInt32)
    (padding : Nat)
    (failure : Option OpenFailure)
    (turns : List Turn) : Show × Ending :=
  let opened := opening engine scale padding failure
  match ((openScreen scale failure).outcome #[]).1 with
  | .error f => (opened, .notOpened f)
  | .ok () => opened.play turns

end Show

end ChipEight
