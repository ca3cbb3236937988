import FaultDrill.Injection.Error
import FaultDrill.Target.Endpoint

/-!
# FaultDrill.Injection.Site

What an injector acts on: processes, the network, files and a clock, each as a function on a state
that is left open. An operation that has a deadline either answers or gives nothing, which means
that the deadline came first. Two laws are asked for: sleeping lets at least the given time pass,
and the clock does not go back while a process is looked at.
-/

namespace FaultDrill

/-- The signals that faults are made of. -/
inductive Signal where
  | kill
  | stop
  | resume
  deriving DecidableEq, Repr

/-- The name of a signal. -/
def Signal.name : Signal → String
  | .kill => "SIGKILL"
  | .stop => "SIGSTOP"
  | .resume => "SIGCONT"

/-- What an injector acts on. Deadlines and times are in nanoseconds. -/
structure Site (σ : Type) where
  now : σ → Nat
  /-- Lets time pass. -/
  sleep : Nat → σ → σ
  /-- Sends a signal to a process before a deadline. -/
  signal : Nat → UInt32 → Signal → σ → Option (Except InjectionError Unit) × σ
  /-- Whether a process lives. -/
  isAlive : UInt32 → σ → Bool × σ
  /-- Cuts the connection of two endpoints before a deadline. -/
  block : Nat → Endpoint → Endpoint → σ → Option (Except InjectionError Unit) × σ
  /-- Restores the connection of two endpoints before a deadline. -/
  unblock : Nat → Endpoint → Endpoint → σ → Option (Except InjectionError Unit) × σ
  /-- The size of a file, had before a deadline. -/
  sizeBy : Nat → String → σ → Option (Except FileError Nat) × σ
  /-- The content of a file, had before a deadline. -/
  readBy : Nat → String → σ → Option (Except FileError Bytes) × σ
  /-- Writes a file before a deadline. -/
  writeBy : Nat → String → Bytes → σ → Option (Except FileError Unit) × σ
  /-- The content of a file. -/
  read : String → σ → Except FileError Bytes × σ
  /-- Writes a file. -/
  write : String → Bytes → σ → Except FileError Unit × σ
  add_le_now_sleep : ∀ n s, now s + n ≤ now (sleep n s)
  now_le_now_isAlive : ∀ pid s, now s ≤ now (isAlive pid s).2

end FaultDrill
