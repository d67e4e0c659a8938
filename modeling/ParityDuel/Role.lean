/-!
# Roles

The two players of a duel play for a parity each. A cell belongs to the player of its parity; an
untouched cell, which holds zero, belongs to nobody.
-/

namespace ParityDuel

/-- The parity a player plays for. -/
inductive Role where
  | odd
  | even
deriving DecidableEq, Repr

namespace Role

/-- The other role. -/
def opposite : Role → Role
  | odd => even
  | even => odd

/-- The name of a role, on the wire and in texts. -/
def name : Role → String
  | odd => "ODD"
  | even => "EVEN"

/-- The names of the roles. -/
def names : List String := [odd.name, even.name]

/-- The role of a name. -/
def ofName? (s : String) : Option Role :=
  if s = odd.name then some odd else if s = even.name then some even else none

/-- The role that owns a cell holding `value`. -/
def owning (value : UInt64) : Option Role :=
  if value = 0 then none else if value % 2 = 1 then some odd else some even

@[simp] theorem opposite_opposite (r : Role) : r.opposite.opposite = r := by
  cases r <;> rfl

@[simp] theorem ofName?_name (r : Role) : ofName? r.name = some r := by
  cases r <;> rfl

end Role

end ParityDuel
