import FaultDrill.Channel.Message
import FaultDrill.Check.Evaluate
import FaultDrill.Files.Tree
import FaultDrill.Injection.Site
import FaultDrill.Machine.Ending
import FaultDrill.Trial.Id
import FaultDrill.Trial.Script

/-!
# FaultDrill.Trial.Bench

What a trial runs on: the site of the faults, the driver of the system under test, the reporters
that speak through the channel, and the request of an operator to stop. Each is a function on a
state that is left open, so a trial can be run on a simulation, and whatever holds on every bench
holds in every order of what happens.
-/

namespace FaultDrill

/-- How a driver has ended. -/
inductive DriverExit where
  | exited (code : Nat)
  | signaled
  deriving DecidableEq, Repr

namespace DriverExit

/-- The exit code, if there is one. -/
def code? : DriverExit → Option Int
  | .exited code => some code
  | .signaled => none

/-- Whether a signal has ended the driver. -/
def isSignaled : DriverExit → Bool
  | .exited _ => false
  | .signaled => true

end DriverExit

/-- What is waited for, and until when. A request to stop always counts. -/
structure Watch where
  deadline : Nat
  /-- Whether messages are waited for. -/
  channel : Bool
  /-- Whether the end of the driver is waited for. -/
  driver : Bool

/-- What ends a wait. -/
inductive Wake where
  | received (m : Message)
  | exited (e : DriverExit)
  /-- The driver cannot be waited for. -/
  | lost (cause : FileError)
  | cancelled
  /-- Nobody can report any more. -/
  | deserted
  | timedOut
  deriving DecidableEq, Repr

/-- What a trial runs on. -/
structure Bench (σ : Type) extends Site σ where
  /-- Whether an operator has asked to stop. -/
  cancelled : σ → Bool
  /-- The milliseconds since the beginning of the epoch. -/
  wallClock : σ → UInt64
  freshId : σ → TrialId × σ
  /-- The files, as plans and records see them. -/
  files : σ → FileTree
  setFiles : FileTree → σ → σ
  /-- Opens a channel at an address. Gives the address that reporters use. -/
  openChannel : String → σ → Except ChannelError String × σ
  /-- Lets a reporter go on. -/
  answer : Ticket → σ → σ
  /-- Shuts the channel down and waits until it is closed. -/
  shutDown : σ → σ
  /-- Gives the channel up without waiting until it is closed. -/
  abandon : σ → σ
  /-- Starts the driver with an environment. -/
  launch : Script → List (String × String) → σ → Except FileError Unit × σ
  wait : Watch → σ → Wake × σ
  /-- Kills the driver and waits for its end. -/
  terminate : σ → Option DriverExit × σ
  /-- The lines that the driver has written, in the order in which they were read. -/
  output : σ → List String × σ
  /-- Runs a probe in a trial. -/
  ask : Probe → String → σ → ProbeAnswer × σ
  /-- Runs a cleanup script with an environment and so many nanoseconds of time. Gives its end and
  what it has written to its error stream. -/
  cleanUp : Script → List (String × String) → Nat → σ → Except FileError (Ending × Bytes) × σ

end FaultDrill
