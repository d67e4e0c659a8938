/-!
# Connections

A connection is known by its number, in texts as much as in messages between the parts of a server.
-/

namespace ParityDuel

/-- The identity of a connection. -/
structure Conn where
  number : UInt64
deriving DecidableEq, Repr

/-- How a connection is called in texts. -/
def Conn.name (c : Conn) : String := "conn-" ++ toString c.number.toNat

/-- The order of connections by number: -1, 0 or 1. -/
def Conn.compare (a b : Conn) : Int :=
  if a.number < b.number then -1 else if b.number < a.number then 1 else 0

end ParityDuel
