import Clearance.Body.Pair
import Clearance.OrderedMap
import Clearance.Allowance.Basic

/-! The allowances of a scene, one for each unordered pair of bodies that has any. A pair without an
entry may never touch. -/

namespace Clearance

structure AllowanceMatrix where
  byPair : OrderedMap BodyPair Allowance

namespace AllowanceMatrix

def empty : AllowanceMatrix := ⟨.empty⟩

/-- The entry of a pair, in either order. -/
def get? (m : AllowanceMatrix) (a b : BodyId) : Option Allowance := m.byPair.get? (.make a b)

def hasEntry (m : AllowanceMatrix) (a b : BodyId) : Bool := (m.get? a b).isSome

/-- What a pair may do, entry or not. -/
def lookup (m : AllowanceMatrix) (a b : BodyId) : Allowance := (m.get? a b).getD .never

def set (m : AllowanceMatrix) (a b : BodyId) (p : Allowance) : AllowanceMatrix :=
  ⟨m.byPair.set (.make a b) p⟩

/-- Sets one allowance for `a` with each of the others. -/
def setAll (m : AllowanceMatrix) (a : BodyId) (others : List BodyId) (p : Allowance) :
    AllowanceMatrix := others.foldl (fun m b => m.set a b p) m

/-- Removes the entry of a pair and tells what it was. -/
def erase (m : AllowanceMatrix) (a b : BodyId) : Option Allowance × AllowanceMatrix :=
  (m.get? a b, ⟨m.byPair.erase (.make a b)⟩)

/-- Removes every entry of a pair with `a` in it. -/
def eraseBody (m : AllowanceMatrix) (a : BodyId) : AllowanceMatrix :=
  ⟨m.byPair.keep fun p => !p.contains a⟩

def size (m : AllowanceMatrix) : Nat := m.byPair.size

def isEmpty (m : AllowanceMatrix) : Bool := m.byPair.isEmpty

def toList (m : AllowanceMatrix) : List (BodyPair × Allowance) := m.byPair.entries

/-- The entries in the order of their pairs. -/
def sorted (m : AllowanceMatrix) : List (BodyPair × Allowance) :=
  m.toList.mergeSort fun e f => e.1.le f.1

theorem get?_comm (m : AllowanceMatrix) (a b : BodyId) : m.get? a b = m.get? b a := by
  rw [get?, get?, BodyPair.make_comm]

@[simp] theorem get?_empty (a b : BodyId) : empty.get? a b = none := rfl

theorem get?_set (m : AllowanceMatrix) (a b c d : BodyId) (p : Allowance) :
    (m.set a b p).get? c d =
      if BodyPair.make a b = BodyPair.make c d then some p else m.get? c d :=
  OrderedMap.get?_set ..

theorem get?_erase (m : AllowanceMatrix) (a b c d : BodyId) :
    (m.erase a b).2.get? c d =
      if BodyPair.make c d = BodyPair.make a b then none else m.get? c d :=
  OrderedMap.get?_erase ..

theorem get?_eraseBody (m : AllowanceMatrix) (a c d : BodyId) :
    (m.eraseBody a).get? c d =
      if !(BodyPair.make c d).contains a then m.get? c d else none :=
  OrderedMap.get?_keep ..

end AllowanceMatrix

end Clearance
