import Clearance.Engine.Basic
import Clearance.Contact.NarrowPhase

/-! The narrow phase of a contact engine. Contacts are taken from the manifolds, in their order and
only where the solids touch, until the probe has all that it asks for; an engine without manifolds
for a pair is asked for its deepest contact, and one that declines this too is taken to have found
nothing. -/

namespace Clearance.Engine

variable {σ : Type}

/-- A contact between two objects from a point of each in world space. -/
def contactAt (a b : Object) (point1 point2 normal : Vec3 Float) (dist : Float) : Contact :=
  .make (point1.midpoint point2) normal (-dist) a.body b.body

/-- The frame of a part of an object. -/
def partFrame (o : Object) (part? : Option (Pose Float)) : Pose Float :=
  match part? with
  | some p => o.solidPose * p
  | none => o.solidPose

/-- The contact at a point of a manifold. -/
def manifoldContact (a b : Object) (m : Manifold) (q : ManifoldPoint) : Contact :=
  let frame1 := partFrame a m.part1?
  let frame2 := partFrame b m.part2?
  contactAt a b (frame1.apply q.point1) (frame2.apply q.point2)
    (frame1.rotation.rotate m.normal1) q.dist

/-- The contact at a deepest point. -/
def closestContact (a b : Object) (c : Closest) : Contact :=
  contactAt a b (a.solidPose.apply c.point1) (b.solidPose.apply c.point2)
    (a.solidPose.rotation.rotate c.normal1) c.dist

/-- Adds a contact for each point that touches. Stops with `true` at a contact that the probe does not
ask for any more. -/
def addPoints (p : Probe) (contact : ManifoldPoint → Contact) :
    List ManifoldPoint → Answer → Answer × Bool
  | [], r => (r, false)
  | q :: qs, r =>
    if q.dist ≤ 0 then
      if p.isMet r.count then (r, true)
      else addPoints p contact qs (r.add (contact q))
    else addPoints p contact qs r

/-- Adds the contacts of one manifold after the other, until one of them stops. -/
def addManifolds (p : Probe) (a b : Object) : List Manifold → Answer → Answer
  | [], r => r
  | m :: ms, r =>
    match addPoints p (manifoldContact a b m) m.points r with
    | (r, true) => r
    | (r, false) => addManifolds p a b ms r

/-- Adds the deepest contact if there is one and it touches. -/
def addClosest (a b : Object) : Option Closest → Answer → Answer
  | some c, r => if c.dist ≤ 0 then r.add (closestContact a b c) else r
  | none, r => r

/-- Asks only whether the objects touch. -/
def answerPresence (e : Engine σ) (memory : σ) (a b : Object) (held : List Contact) : σ × Answer :=
  match e.touching memory (a.solidPose.relative b.solidPose) a.solid b.solid with
  | (memory, some hit) => (memory, { contacts := held, count := if hit then 1 else 0 })
  | (memory, none) =>
    (memory, { contacts := held, count := 0, refusals := [.between a b] })

/-- Adds the contacts that the probe asks for to the buffer. -/
def answerContacts (e : Engine σ) (memory : σ) (a b : Object) (p : Probe) (held : List Contact) :
    σ × Answer :=
  let pos12 := a.solidPose.relative b.solidPose
  let start : Answer := { contacts := held, count := 0 }
  match e.manifolds memory pos12 a.solid b.solid 0 with
  | (memory, some ms) => (memory, addManifolds p a b ms start)
  | (memory, none) =>
    match e.closest memory pos12 a.solid b.solid 0 with
    | (memory, some c) => (memory, addClosest a b c start)
    | (memory, none) => (memory, { start with refusals := [.between a b] })

/-- A probe for no contacts at all is answered without the engine. -/
def narrowPhase (e : Engine σ) : NarrowPhase σ where
  ask memory a b p held :=
    if !p.enableContact then e.answerPresence memory a b held
    else if p.isMet 0 then (memory, { contacts := held, count := 0 })
    else e.answerContacts memory a b p held

end Clearance.Engine
