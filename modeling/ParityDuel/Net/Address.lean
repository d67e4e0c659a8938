import ParityDuel.Net.Host
import ParityDuel.Settings.Guess

/-!
# Addresses

An address is a host and a port with a colon between them. The last colon counts, so a host may hold
colons of its own. A host of 128 bits may stand in brackets; then the port is made of digits alone.
-/

namespace ParityDuel

/-- Where a server listens. -/
structure Address where
  host : Host
  port : Nat
deriving DecidableEq, Repr

/-- Why a text is no address. -/
inductive AddressFault where
  | noColon
  | badPort
deriving DecidableEq, Repr

/-- The words for why a text is no address. -/
def AddressFault.message : AddressFault → String
  | noColon => "invalid socket address"
  | badPort => "invalid port value"

namespace Address

/-- The address with a host in brackets that a text names. -/
def bracketed? (cs : List Char) : Option Address :=
  match cs with
  | '[' :: cs => do
    let host ← Host.long? (cs.takeWhile (· ≠ ']'))
    match cs.dropWhile (· ≠ ']') with
    | ']' :: ':' :: port =>
      ((Settings.natural? port).filter (· < 1 <<< 16)).map fun n => ⟨.long host, n⟩
    | _ => none
  | _ => none

/-- The characters before and behind the last colon. -/
def splitLast? (cs : List Char) : Option (List Char × List Char) :=
  match cs.reverse.span (· ≠ ':') with
  | (port, _ :: host) => some (host.reverse, port.reverse)
  | (_, []) => none

/-- The address that a text names. -/
def parse (s : String) : Except AddressFault Address :=
  match bracketed? s.toList with
  | some a => .ok a
  | none =>
    match splitLast? s.toList with
    | none => .error .noColon
    | some (host, port) =>
      match (Settings.unsigned? port).filter (· < 1 <<< 16) with
      | some n => .ok ⟨Host.ofText host, n⟩
      | none => .error .badPort

end Address

end ParityDuel
