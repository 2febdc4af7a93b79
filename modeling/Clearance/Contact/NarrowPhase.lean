import Clearance.Contact.Basic
import Clearance.Contact.Probe
import Clearance.Log
import Clearance.Scene.Object

/-! The narrow phase: what answers a probe about two objects. It may be anything at all, with a
memory of its own, and is not trusted to keep to the probe. -/

namespace Clearance

/-- A pair of objects whose shapes a narrow phase cannot treat. -/
structure Refusal where
  first : BodyId
  firstKind : ShapeKind
  second : BodyId
  secondKind : ShapeKind
  deriving DecidableEq

def Refusal.between (a b : Object) : Refusal := ⟨a.id, a.geometry.kind, b.id, b.geometry.kind⟩

def Refusal.line (r : Refusal) : LogLine :=
  ⟨.warn,
    s!"Contact computation between '{r.first.name}' ({r.firstKind.name}) and '{r.second.name}' " ++
      s!"({r.secondKind.name}) is not supported. The pair is considered collision-free."⟩

/-- An answer: the buffer of contacts as the narrow phase leaves it, the number of contacts it says
it found, and what it refused. -/
structure Answer where
  contacts : List Contact
  count : Nat
  refusals : List Refusal := []

/-- One more contact in the buffer, and counted. -/
def Answer.add (r : Answer) (c : Contact) : Answer :=
  { r with contacts := r.contacts ++ [c], count := r.count + 1 }

/-- Answers a probe about two objects, given a memory and the buffer that contacts are added to. -/
structure NarrowPhase (σ : Type) where
  ask : σ → Object → Object → Probe → List Contact → σ × Answer

/-- The narrow phase that answers by a function of the question alone. -/
def NarrowPhase.pure (f : Object → Object → Probe → List Contact → Answer) : NarrowPhase Unit :=
  ⟨fun _ a b p held => ((), f a b p held)⟩

end Clearance
