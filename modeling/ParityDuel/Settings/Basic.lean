import ParityDuel.Settings.Guess
import ParityDuel.Text.Blank

/-!
# Settings of a server

The address to listen on, the capacity of the command queue, and how long a connection may stay
silent.
-/

namespace ParityDuel

/-- A length of time. -/
structure Span where
  seconds : UInt64
  nanos : Nat
deriving DecidableEq, Repr

namespace Span

/-- A whole number of seconds. -/
def ofSeconds (n : UInt64) : Span := ⟨n, 0⟩

/-- A whole number of milliseconds. -/
def ofMillis (n : UInt64) : Span := ⟨n / 1000, (n % 1000).toNat * 1000000⟩

/-- Whether the span is no time at all. -/
def isZero (t : Span) : Bool := t.seconds == 0 && t.nanos == 0

end Span

/-- What a server is started with. -/
structure ServerSettings where
  address : String
  queue : UInt64
  idle : Option Span
deriving DecidableEq, Repr

/-- What is wrong with settings. -/
inductive SettingsFault where
  | badPort (text : String)
  | emptyAddress
  | emptyQueue
  | zeroIdle
  | other (detail : String)
deriving DecidableEq, Repr

/-- The words for what is wrong. -/
def SettingsFault.message : SettingsFault → String
  | badPort text => "PORT is not a port: " ++ text
  | emptyAddress => "bind address is empty"
  | emptyQueue => "command buffer must be non-zero"
  | zeroIdle => "idle timeout must be non-zero"
  | other detail => detail

namespace ServerSettings

/-- The address of all interfaces and a port. -/
def addressOfPort (port : Nat) : String := "0.0.0.0:" ++ toString port

/-- What holds where nothing is set. -/
def standard : ServerSettings := ⟨addressOfPort 8080, 64, none⟩

/-- Checks the address, the queue and the time allowed, in this order. -/
def validate (s : ServerSettings) : Except SettingsFault Unit :=
  if Blank.trim s.address.toList = [] then .error .emptyAddress
  else if s.queue = 0 then .error .emptyQueue
  else if s.idle.any Span.isZero then .error .zeroIdle
  else .ok ()

end ServerSettings

end ParityDuel
