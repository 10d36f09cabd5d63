/-!
# Worker slots

How many checks may run at once, how many do, and the most that did. At least one may.
-/

namespace GateRunner

/-- How many checks may run at once. -/
structure SlotLimit where
  count : Nat
  count_pos : 0 < count := by decide
deriving DecidableEq, Repr

namespace SlotLimit

/-- The limit where nothing else is said. -/
def default : SlotLimit := ⟨4, by decide⟩

instance : Inhabited SlotLimit := ⟨default⟩

/-- The limit of a number, if it lets anything run. -/
def ofNat? (count : Nat) : Option SlotLimit := if h : 0 < count then some ⟨count, h⟩ else none

end SlotLimit

/-- The slots of a run. -/
structure Slots where
  limit : SlotLimit
  active : Nat
  peak : Nat
deriving DecidableEq, Repr, Inhabited

namespace Slots

/-- Slots that are all free. -/
def ofLimit (limit : SlotLimit) : Slots := ⟨limit, 0, 0⟩

/-- Whether a slot is free. -/
def hasFree (s : Slots) : Bool := s.active < s.limit.count

/-- One more check runs. Whether a slot is free is for the caller to ask. -/
def take (s : Slots) : Slots := { s with active := s.active + 1, peak := max s.peak (s.active + 1) }

/-- One check less runs, if any did. -/
def release (s : Slots) : Slots := { s with active := s.active - 1 }

end Slots

end GateRunner
