import MotionControl.Settings.Basic

/-!
# The homing sequence

Homing runs four legs, each of them started, waited for and travelled, then zeroes the channels
and may release the drives for a while:

rapid search (to the reference), backoff (away), slow search (to the reference), offset (away),
zeroing, release.

A search leg ends when every channel has signaled the reference, the others when their move ends.
A `HomingSession` is one run of the sequence.
-/

namespace MotionControl

/-- The last instant of the clock, in milliseconds. -/
def clockEnd : Nat := UInt64.size - 1

/-- The instant `dt` milliseconds after `now`, held to the end of the clock. -/
def later (now dt : Nat) : Nat := min clockEnd (now + dt)

/-- A leg of the homing sequence. -/
inductive Leg where
  | rapidSearch
  | backoff
  | slowSearch
  | setOffset
deriving DecidableEq, Repr, Inhabited

/-- How far a leg has come. -/
inductive Stage where
  /-- The move is still to be commanded. -/
  | start
  /-- The move is commanded and has not started. -/
  | waitStart
  /-- The move is going on. -/
  | moving
deriving DecidableEq, Repr, Inhabited

namespace Stage

def all : List Stage := [start, waitStart, moving]

def name : Stage → String
  | start => "Start"
  | waitStart => "WaitStart"
  | moving => "Moving"

end Stage

namespace Leg

def all : List Leg := [rapidSearch, backoff, slowSearch, setOffset]

def name : Leg → String
  | rapidSearch => "RapidSearch"
  | backoff => "Backoff"
  | slowSearch => "SlowSearch"
  | setOffset => "SetOffset"

/-- Whether a leg goes towards the reference. -/
def isSearch : Leg → Bool
  | rapidSearch | slowSearch => true
  | backoff | setOffset => false

/-- The leg that follows. -/
def next? : Leg → Option Leg
  | rapidSearch => some backoff
  | backoff => some slowSearch
  | slowSearch => some setOffset
  | setOffset => none

/-- How far a leg goes, in axis units; the first search as far as the command allows. -/
def distance (homing : HomingSettings) (maxTravel : Single) : Leg → Single
  | rapidSearch => maxTravel
  | backoff => homing.backoffDistance
  | slowSearch => homing.slowSearchDistance
  | setOffset => homing.offsetDistance

/-- The speed of a leg, in axis units. -/
def speed (homing : HomingSettings) : Leg → Single
  | rapidSearch => homing.rapidSpeed
  | backoff | setOffset => homing.backoffSpeed
  | slowSearch => homing.slowSpeed

/-- The sign of a leg's displacement. -/
def sign (homing : HomingSettings) (leg : Leg) : Single :=
  if leg.isSearch then homing.direction.sign else -homing.direction.sign

end Leg

/-- Where a homing run stands. -/
inductive HomingPhase where
  | leg (leg : Leg) (stage : Stage)
  /-- The channels are to be zeroed. -/
  | setZero
  /-- The drives are released until an instant. -/
  | destress (deadline : Nat)
deriving DecidableEq, Repr

namespace HomingPhase

def name : HomingPhase → String
  | leg l stage => l.name ++ stage.name
  | setZero => "SetZero"
  | destress _ => "Destress"

/-- The phase that follows a completed leg. -/
def after (l : Leg) : HomingPhase :=
  match l.next? with
  | some next => leg next .start
  | none => setZero

/-- Whether the drives are released. -/
def isDestress : HomingPhase → Bool
  | destress _ => true
  | _ => false

end HomingPhase

/-- One run of the homing sequence. -/
structure HomingSession where
  phase : HomingPhase
  /-- The settings as they were when the run began. -/
  settings : HomingSettings
  /-- How far the first search may go, in axis units. -/
  maxTravel : Single
  /-- The torque limit, in percent. -/
  torque : Single
  /-- The channels that have signaled the reference in the current leg. -/
  hits : List Bool
  /-- When the run began. -/
  started : Nat
  /-- When the current phase began. -/
  phaseStarted : Nat
deriving DecidableEq

namespace HomingSession

/-- No channel has signaled. -/
def noHits : List Bool := List.replicate maxChannels false

/-- A run that begins now. -/
def start (settings : HomingSettings) (maxTravel torque : Single) (now : Nat) :
    HomingSession where
  phase := .leg .rapidSearch .start
  settings
  maxTravel
  torque
  hits := noHits
  started := now
  phaseStarted := now

/-- Goes on to a phase. -/
def enter (session : HomingSession) (phase : HomingPhase) (now : Nat) : HomingSession :=
  { session with phase, phaseStarted := now }

/-- The time since the run began. -/
def elapsed (session : HomingSession) (now : Nat) : Nat := now - session.started

/-- The time since the current phase began. -/
def phaseElapsed (session : HomingSession) (now : Nat) : Nat := now - session.phaseStarted

/-- Records the signal of a channel. -/
def setHit (session : HomingSession) (channel : Nat) (hit : Bool) : HomingSession :=
  { session with hits := session.hits.set channel hit }

/-- Whether each of the first `count` channels has signaled. -/
def allHit (session : HomingSession) (count : Nat) : Bool := (session.hits.take count).all id

end HomingSession

end MotionControl
