import Clearance.Body.Basic

/-! Keys for pairs of bodies. A pair made from two names holds them in order, so that both ways to
name it give one key. -/

namespace Clearance

structure BodyPair where
  first : BodyId
  second : BodyId
  deriving DecidableEq

namespace BodyPair

/-- The pair of two names, the lesser one first. -/
def make (a b : BodyId) : BodyPair := if b.name < a.name then ⟨b, a⟩ else ⟨a, b⟩

theorem make_comm (a b : BodyId) : make a b = make b a := by
  obtain ⟨a⟩ := a
  obtain ⟨b⟩ := b
  by_cases h : a < b <;> by_cases k : b < a
  · exact absurd k (String.lt_asymm h)
  · simp [make, h, k]
  · simp [make, h, k]
  · have : a = b := String.le_antisymm k h
    simp [make, this]

def contains (p : BodyPair) (id : BodyId) : Bool := p.first = id || p.second = id

/-- By the first name, then by the second. -/
def compare (p q : BodyPair) : Ordering :=
  (p.first.compare q.first).then (p.second.compare q.second)

def le (p q : BodyPair) : Bool := p.compare q != .gt

end BodyPair

end Clearance
