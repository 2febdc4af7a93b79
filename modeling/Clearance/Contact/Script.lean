import Clearance.Contact.NarrowPhase

/-! A narrow phase that answers from a script, for trying out queries without geometry. A script
lists contacts for a pair of bodies and may say a wrong count, ignore the limit of a probe, or add
contacts when only their presence is asked for. -/

namespace Clearance

structure ScriptedContact where
  depth : Float
  position : Vec3 Float := .zero
  normal : Vec3 Float := .unitZ

structure Script where
  contacts : List ScriptedContact
  /-- The count to say instead of the true one. -/
  count? : Option Nat := none
  /-- Adds all contacts, whatever the limit. -/
  uncapped : Bool := false
  /-- Adds contacts even if only their presence is asked for. -/
  pushAlways : Bool := false

namespace Script

def contactsFor (s : Script) (a b : Object) : List Contact :=
  s.contacts.map fun c => .make c.position c.normal c.depth a.body b.body

def answer (s : Script) (a b : Object) (p : Probe) (held : List Contact) : Answer :=
  let all := s.contactsFor a b
  if p.enableContact || s.pushAlways then
    let given := if s.uncapped then all else p.cut all
    { contacts := held ++ given, count := s.count?.getD given.length }
  else { contacts := held, count := s.count?.getD (min 1 all.length) }

end Script

/-- Scripts for pairs of bodies, and one for all other pairs. -/
structure ScriptBook where
  pairs : List (BodyId × BodyId × Script)
  otherwise : Script

namespace ScriptBook

/-- The script of the first pair with the two names, in either order. -/
def find (t : ScriptBook) (a b : BodyId) : Script :=
  match t.pairs.find? fun e => (e.1 = a ∧ e.2.1 = b) ∨ (e.1 = b ∧ e.2.1 = a) with
  | some e => e.2.2
  | none => t.otherwise

def narrowPhase (t : ScriptBook) : NarrowPhase Unit :=
  .pure fun a b p held => (t.find a.id b.id).answer a b p held

end ScriptBook

end Clearance
