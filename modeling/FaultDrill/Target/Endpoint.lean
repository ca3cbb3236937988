import FaultDrill.Text.Decimal
import FaultDrill.Text.Pieces

/-!
# FaultDrill.Target.Endpoint

Network addresses of targets, and the command templates that mention them. The host may stand in
brackets; the port follows the last colon.
-/

namespace FaultDrill

open FaultDrill.Text

/-- A target with its network address. -/
structure Endpoint where
  name : String
  host : String
  port : UInt16
  deriving DecidableEq, Repr

namespace Endpoint

/-- The text without opening brackets at its start and closing ones at its end. -/
def withoutBrackets (s : List Char) : List Char :=
  ((s.dropWhile (· = '[')).reverse.dropWhile (· = ']')).reverse

/-- The endpoint of an address, if the address is a host with a port. -/
def ofAddress? (name address : String) : Option Endpoint := do
  let (host, port) ← cutLast? ':' address.toList
  let port ← Decimal.read16? port
  let host := withoutBrackets host
  if host = [] then none else some ⟨name, String.ofList host, port⟩

/-- The commands of a template for two endpoints: every placeholder is replaced, the longer ones
first. -/
def fill (template : String) (target peer : Endpoint) : String :=
  [("\x7btarget_host\x7d", target.host), ("\x7btarget_port\x7d", Decimal.text target.port.toNat),
    ("\x7bpeer_host\x7d", peer.host), ("\x7bpeer_port\x7d", Decimal.text peer.port.toNat),
    ("\x7btarget\x7d", target.name), ("\x7bpeer\x7d", peer.name)].foldl
    (fun command (placeholder, value) => replaced command placeholder value) template

end Endpoint

end FaultDrill
