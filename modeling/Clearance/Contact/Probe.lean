/-! What can be asked about one pair of objects: all contacts, the first few, or the presence of
one. -/

namespace Clearance

/-- The question put to a narrow phase about one pair. -/
structure Probe where
  /-- How many contacts to return at most, unless all are asked for. -/
  maxContacts : Nat
  exhaustive : Bool
  /-- Whether contacts are computed; otherwise only whether there is one. -/
  enableContact : Bool
  deriving DecidableEq

namespace Probe

/-- Asks for every contact. The limit it carries is the largest word. -/
def all : Probe := ⟨UInt64.size - 1, true, true⟩

/-- Asks for the first `n` contacts. -/
def budgeted (n : Nat) : Probe := ⟨n, false, true⟩

/-- Asks whether there is a contact. -/
def presence : Probe := ⟨1, false, false⟩

/-- Whether `n` contacts are all that the probe asks for. -/
def isMet (p : Probe) (n : Nat) : Bool := !p.exhaustive && n == p.maxContacts

/-- Cuts a list to what the probe asks for. -/
def cut {α : Type} (p : Probe) (xs : List α) : List α :=
  if p.exhaustive then xs else xs.take p.maxContacts

end Probe

end Clearance
