import Mathlib.Data.List.Forall2
import Clearance.Engine.NarrowPhase
import Clearance.Proofs.Contact.Answers

/-! What the narrow phase of an engine answers. Whatever the engine reports on two objects, every
probe for contacts draws on one list: a contact for each reported place where they touch, in the
order of the engine, each seen in the frames of its own parts. A budget cuts this list and nothing
else. -/

namespace Clearance

/-- A place where an engine reports two solids, with the frames in which it does so. A negative
distance is a depth. -/
structure Sighting where
  frame1 : Pose Float
  frame2 : Pose Float
  normal1 : Vec3 Float
  point1 : Vec3 Float
  point2 : Vec3 Float
  dist : Float

namespace Sighting

def touches (s : Sighting) : Bool := s.dist ≤ 0

/-- A contact shows a sighting in world space. -/
structure ShownBy (a b : Object) (s : Sighting) (c : Contact) : Prop where
  first : c.first = a.body
  second : c.second = b.body
  depth : c.depth = if 0 < -s.dist then -s.dist else 0
  position : c.position = (s.frame1.apply s.point1).midpoint (s.frame2.apply s.point2)
  normal : c.normal = s.frame1.rotation.rotate s.normal1

def contact (a b : Object) (s : Sighting) : Contact :=
  Engine.contactAt a b (s.frame1.apply s.point1) (s.frame2.apply s.point2)
    (s.frame1.rotation.rotate s.normal1) s.dist

theorem shownBy_contact (a b : Object) (s : Sighting) : s.ShownBy a b (s.contact a b) :=
  ⟨rfl, rfl, rfl, rfl, rfl⟩

/-- The contacts of the sightings that touch. -/
def contacts (a b : Object) (ss : List Sighting) : List Contact :=
  (ss.filter touches).map (contact a b)

end Sighting

/-- A point of a manifold, in the frames of the parts that the manifold belongs to. The frame of a
part is given in that of the whole solid. -/
def Manifold.sighting (m : Manifold) (a b : Object) (q : ManifoldPoint) : Sighting :=
  ⟨m.part1?.elim a.solidPose (a.solidPose * ·), m.part2?.elim b.solidPose (b.solidPose * ·),
    m.normal1, q.point1, q.point2, q.dist⟩

def Manifold.sightings (m : Manifold) (a b : Object) : List Sighting :=
  m.points.map (m.sighting a b)

def Closest.sighting (c : Closest) (a b : Object) : Sighting :=
  ⟨a.solidPose, b.solidPose, c.normal1, c.point1, c.point2, c.dist⟩

/-- What is left of a list for a probe that has `n` contacts already. -/
def Probe.rest {α : Type} (p : Probe) (n : Nat) (xs : List α) : List α :=
  if p.exhaustive then xs else xs.take (p.maxContacts - n)

/-- An answer adds contacts to a buffer and counts just these. -/
structure Answer.Adds (r : Answer) (held added : List Contact) : Prop where
  contacts : r.contacts = held ++ added
  count : r.count = added.length

def Answer.addAll (r : Answer) (cs : List Contact) : Answer :=
  { r with contacts := r.contacts ++ cs, count := r.count + cs.length }

@[simp] theorem Answer.addAll_nil (r : Answer) : r.addAll [] = r := by simp [addAll]

theorem Answer.addAll_cons (r : Answer) (c : Contact) (cs : List Contact) :
    r.addAll (c :: cs) = (r.add c).addAll cs := by
  simp only [addAll, add, List.append_assoc, List.singleton_append, List.length_cons,
    Nat.add_assoc, Nat.add_comm 1]

namespace Probe

variable {α : Type} {p : Probe} {n : Nat}

theorem rest_of_isMet (h : p.isMet n = true) (xs : List α) : p.rest n xs = [] := by
  simp only [isMet, Bool.and_eq_true, Bool.not_eq_true', beq_iff_eq] at h
  simp [rest, h.1, h.2]

/-- Whether `n` contacts are no more than the probe asks for. -/
def Allows (p : Probe) (n : Nat) : Prop := p.exhaustive = true ∨ n ≤ p.maxContacts

theorem allows_zero (p : Probe) : p.Allows 0 := .inr (Nat.zero_le _)

theorem Allows.succ (h : p.Allows n) (hmet : p.isMet n = false) : p.Allows (n + 1) := by
  cases hex : p.exhaustive with
  | true => exact .inl hex
  | false =>
    have hle : n ≤ p.maxContacts := h.resolve_left (by simp [hex])
    have hne : n ≠ p.maxContacts := by simpa [isMet, hex] using hmet
    exact .inr (by omega)

theorem Allows.rest_cons (h : p.Allows n) (hmet : p.isMet n = false) (x : α) (xs : List α) :
    p.rest n (x :: xs) = x :: p.rest (n + 1) xs := by
  unfold rest
  cases hex : p.exhaustive with
  | true => rfl
  | false =>
    have hlt : n + 1 ≤ p.maxContacts := (h.succ hmet).resolve_left (by simp [hex])
    have hroom : p.maxContacts - n = p.maxContacts - (n + 1) + 1 := by omega
    simp [hroom]

end Probe

namespace Engine

open Sighting

/-! ### One walk over all sightings -/

/-- Adds a contact for each sighting that touches, until the probe is met. -/
def addSightings (p : Probe) (a b : Object) : List Sighting → Answer → Answer
  | [], r => r
  | s :: ss, r =>
    if s.touches then
      if p.isMet r.count then r else addSightings p a b ss (r.add (s.contact a b))
    else addSightings p a b ss r

variable {p : Probe} {a b : Object} {r : Answer}

theorem addSightings_of_isMet (h : p.isMet r.count = true) (ss : List Sighting) :
    addSightings p a b ss r = r := by
  induction ss with
  | nil => rfl
  | cons s ss ih => simp [addSightings, h, ih]

/-- A walk that has stopped does not go on with a further row, for it would add nothing. -/
theorem addSightings_append (p : Probe) (a b : Object) (ss ts : List Sighting) (r : Answer) :
    addSightings p a b (ss ++ ts) r = addSightings p a b ts (addSightings p a b ss r) := by
  induction ss generalizing r with
  | nil => rfl
  | cons s ss ih =>
    simp only [List.cons_append, addSightings]
    split
    · split
      · rename_i hmet
        -- The walk over the first row has stopped with what it had.
        rw [addSightings_of_isMet hmet]
      · exact ih _
    · exact ih _

theorem addSightings_eq (ss : List Sighting) (hr : p.Allows r.count) :
    addSightings p a b ss r = r.addAll (p.rest r.count (contacts a b ss)) := by
  -- The answer is general, for the room that is left shrinks with each contact.
  induction ss generalizing r with
  | nil => simp [addSightings, contacts, Probe.rest]
  | cons s ss ih =>
    cases hs : s.touches with
    | false => simpa [addSightings, contacts, hs] using ih hr
    | true =>
      have hcons : contacts a b (s :: ss) = s.contact a b :: contacts a b ss := by
        simp [contacts, hs]
      cases hmet : p.isMet r.count with
      | true => simp [addSightings, hs, hmet, Probe.rest_of_isMet hmet]
      | false =>
        have hrest := ih (r := r.add (s.contact a b)) (hr.succ hmet)
        rw [hcons, hr.rest_cons hmet, Answer.addAll_cons]
        simp only [addSightings, hs, hmet, if_true]
        exact hrest

/-! ### The walk over the manifolds -/

theorem contact_sighting (a b : Object) (m : Manifold) (q : ManifoldPoint) :
    (m.sighting a b q).contact a b = manifoldContact a b m q := by
  unfold Manifold.sighting manifoldContact partFrame
  cases m.part1? <;> cases m.part2? <;> rfl

theorem fst_addPoints (p : Probe) (a b : Object) (m : Manifold) (qs : List ManifoldPoint)
    (r : Answer) : (addPoints p (manifoldContact a b m) qs r).1 =
      addSightings p a b (qs.map (m.sighting a b)) r := by
  induction qs generalizing r with
  | nil => rfl
  | cons q qs ih =>
    have htouches : (m.sighting a b q).touches = decide (q.dist ≤ 0) := rfl
    simp only [addPoints, List.map_cons, addSightings, htouches, decide_eq_true_eq,
      contact_sighting]
    split
    · split
      · rfl
      · exact ih _
    · exact ih _

theorem isMet_of_snd_addPoints (p : Probe) (contact : ManifoldPoint → Contact)
    (qs : List ManifoldPoint) (r : Answer) (h : (addPoints p contact qs r).2 = true) :
    p.isMet (addPoints p contact qs r).1.count = true := by
  induction qs generalizing r with
  | nil => cases h
  | cons q qs ih =>
    by_cases hq : q.dist ≤ 0
    · cases hmet : p.isMet r.count with
      | true => simp [addPoints, hq, hmet]
      | false =>
        simp only [addPoints, hq, hmet, if_true, Bool.false_eq_true, if_false] at h ⊢
        exact ih _ h
    · simp only [addPoints, hq, if_false] at h ⊢
      exact ih _ h

/-- The early end of the walk over the manifolds does not show. -/
theorem addManifolds_eq (p : Probe) (a b : Object) (ms : List Manifold) (r : Answer) :
    addManifolds p a b ms r = addSightings p a b (ms.flatMap (·.sightings a b)) r := by
  induction ms generalizing r with
  | nil => rfl
  | cons m ms ih =>
    have hpoints := fst_addPoints p a b m m.points r
    have hstop := isMet_of_snd_addPoints p (manifoldContact a b m) m.points r
    rw [List.flatMap_cons, addSightings_append, Manifold.sightings, ← hpoints, addManifolds]
    cases hwalk : addPoints p (manifoldContact a b m) m.points r with
    | mk next stopped =>
      rw [hwalk] at hstop
      cases stopped with
      | true => exact (addSightings_of_isMet (hstop rfl) _).symm
      | false => exact ih next

theorem addClosest_eq (a b : Object) (hr : p.isMet r.count = false) (c? : Option Closest) :
    addClosest a b c? r = addSightings p a b (c?.map (·.sighting a b)).toList r := by
  cases c? with
  | none => rfl
  | some c =>
    have htouches : (c.sighting a b).touches = decide (c.dist ≤ 0) := rfl
    simp only [addClosest, Option.map_some, Option.toList_some, addSightings, htouches,
      decide_eq_true_eq, hr, Bool.false_eq_true, if_false]
    rfl

/-! ### Answers -/

variable {σ : Type}

/-- What an engine reports on two objects: the points of its manifolds, in order, or its deepest point
if it has no manifolds for them. -/
def sightings (e : Engine σ) (memory : σ) (a b : Object) : List Sighting :=
  let pos12 := a.solidPose.relative b.solidPose
  match e.manifolds memory pos12 a.solid b.solid 0 with
  | (_, some ms) => ms.flatMap (·.sightings a b)
  | (memory, none) =>
    ((e.closest memory pos12 a.solid b.solid 0).2.join.map (·.sighting a b)).toList

/-- Whether an engine declines to report on two objects at all. -/
def declines (e : Engine σ) (memory : σ) (a b : Object) : Bool :=
  let pos12 := a.solidPose.relative b.solidPose
  match e.manifolds memory pos12 a.solid b.solid 0 with
  | (_, some _) => false
  | (memory, none) => (e.closest memory pos12 a.solid b.solid 0).2.isNone

def refusalsIf (refused : Bool) (a b : Object) : List Refusal :=
  if refused then [.between a b] else []

variable (e : Engine σ) (memory : σ) (a b : Object) (held : List Contact)

/-- The answer that adds what a probe asks for of a list of contacts. -/
def answerFrom (p : Probe) (held all : List Contact) (refused : Bool) : Answer :=
  { contacts := held ++ p.cut all
    count := (p.cut all).length
    refusals := refusalsIf refused a b }

theorem snd_answerContacts (hp : p.isMet 0 = false) : (e.answerContacts memory a b p held).2 =
    answerFrom a b p held (contacts a b (e.sightings memory a b)) (e.declines memory a b) := by
  have hwalk (ss : List Sighting) : addSightings p a b ss { contacts := held, count := 0 } =
      answerFrom a b p held (contacts a b ss) false := by
    rw [addSightings_eq ss p.allows_zero]
    simp [Answer.addAll, answerFrom, Probe.rest, Probe.cut, refusalsIf]
  have hclosest (c? : Option Closest) : addClosest a b c? { contacts := held, count := 0 } =
      answerFrom a b p held (contacts a b (c?.map (·.sighting a b)).toList) false := by
    rw [addClosest_eq a b hp, hwalk]
  simp only [answerContacts, sightings, declines]
  cases e.manifolds memory (a.solidPose.relative b.solidPose) a.solid b.solid 0 with
  | mk after ms? =>
    cases ms? with
    | some ms => exact (addManifolds_eq p a b ms _).trans (hwalk _)
    | none =>
      dsimp only
      cases e.closest after (a.solidPose.relative b.solidPose) a.solid b.solid 0 with
      | mk _ c?? =>
        cases c?? with
        | some c? => exact hclosest c?
        | none => simp [answerFrom, contacts, Probe.cut, refusalsIf]

/-- Every probe for contacts gets what it asks for of the contacts of the sightings that touch. -/
theorem ask_of_enableContact (hp : p.enableContact = true) :
    (e.narrowPhase.ask memory a b p held).2 =
      answerFrom a b p held (contacts a b (e.sightings memory a b))
        (!p.isMet 0 && e.declines memory a b) := by
  simp only [narrowPhase, hp, Bool.not_true, Bool.false_eq_true, if_false]
  cases hmet : p.isMet 0 with
  | true =>
    have hcut : p.cut (contacts a b (e.sightings memory a b)) = [] := Probe.rest_of_isMet hmet _
    simp [answerFrom, hcut, refusalsIf]
  | false => simpa using snd_answerContacts e memory a b held hmet

theorem ask_of_not_enableContact (hp : p.enableContact = false) :
    (e.narrowPhase.ask memory a b p held).2 =
      let hit? := (e.touching memory (a.solidPose.relative b.solidPose) a.solid b.solid).2
      { contacts := held
        count := if hit? = some true then 1 else 0
        refusals := refusalsIf hit?.isNone a b } := by
  simp only [narrowPhase, hp, Bool.not_false, if_true, answerPresence]
  cases e.touching memory (a.solidPose.relative b.solidPose) a.solid b.solid with
  | mk memory hit? => rcases hit? with _ | _ | _ <;> rfl

theorem length_sightings_le_one
    (h : (e.manifolds memory (a.solidPose.relative b.solidPose) a.solid b.solid 0).2 = none) :
    (e.sightings memory a b).length ≤ 1 := by
  simp only [sightings]
  cases hm : e.manifolds memory (a.solidPose.relative b.solidPose) a.solid b.solid 0 with
  | mk after ms? =>
    obtain rfl : ms? = none := by simpa [hm] using h
    cases (e.closest after (a.solidPose.relative b.solidPose) a.solid b.solid 0).2.join <;> simp

/-- The answers of the narrow phase of an engine about two objects, as drawn from one list. -/
structure AnswersFrom (all : List Contact) : Prop where
  /-- The list shows the sightings that touch, one by one. -/
  shown : List.Forall₂ (ShownBy a b) ((e.sightings memory a b).filter touches) all
  /-- Without manifolds there is at most one contact. -/
  single : (e.manifolds memory (a.solidPose.relative b.solidPose) a.solid b.solid 0).2 = none →
    all.length ≤ 1
  exhaustive : ∀ n held, (e.narrowPhase.ask memory a b ⟨n, true, true⟩ held).2.Adds held all
  budgeted : ∀ n held,
    (e.narrowPhase.ask memory a b ⟨n, false, true⟩ held).2.Adds held (all.take n)
  presence : ∀ n exhaustive held, (e.narrowPhase.ask memory a b ⟨n, exhaustive, false⟩ held).2 =
    let hit? := (e.touching memory (a.solidPose.relative b.solidPose) a.solid b.solid).2
    { contacts := held
      count := if hit? = some true then 1 else 0
      refusals := refusalsIf hit?.isNone a b }
  /-- A probe that asks for contacts at all is refused if the engine declines to report any. -/
  refusals : ∀ n exhaustive held,
    (e.narrowPhase.ask memory a b ⟨n, exhaustive, true⟩ held).2.refusals =
      refusalsIf ((exhaustive || n != 0) && e.declines memory a b) a b

/-- Whatever an engine reports, all its answers about two objects are drawn from the contacts of the
sightings that touch. -/
theorem answersFrom_contacts :
    e.AnswersFrom memory a b (contacts a b (e.sightings memory a b)) where
  shown := by
    simp only [contacts, List.forall₂_map_right_iff, List.forall₂_same]
    exact fun s _ => shownBy_contact a b s
  single h := by
    have hone : (e.sightings memory a b).length ≤ 1 := length_sightings_le_one e memory a b h
    calc (contacts a b (e.sightings memory a b)).length
      _ ≤ (e.sightings memory a b).length := by
          simpa only [contacts, List.length_map] using List.length_filter_le touches _
      _ ≤ 1 := hone
  exhaustive n held := by
    rw [ask_of_enableContact e memory a b held rfl]
    exact ⟨rfl, rfl⟩
  budgeted n held := by
    rw [ask_of_enableContact e memory a b held rfl]
    exact ⟨rfl, rfl⟩
  presence n exhaustive held := ask_of_not_enableContact e memory a b held rfl
  refusals n exhaustive held := by
    rw [ask_of_enableContact e memory a b held rfl]
    cases exhaustive <;> cases n <;> rfl

/-- An engine whose reports depend on the objects alone, and which says that two of them touch when it
reports a touch, answers every probe from one list of contacts. -/
theorem lists_narrowPhase (all : Object → Object → List Contact)
    (hall : ∀ memory a b, contacts a b (e.sightings memory a b) = all a b)
    (htouching : ∀ memory a b,
      (e.touching memory (a.solidPose.relative b.solidPose) a.solid b.solid).2 = some true ↔
        all a b ≠ []) : e.narrowPhase.Lists all where
  all memory a b held := by
    rw [ask_of_enableContact e memory a b held rfl, hall]
    exact ⟨rfl, rfl⟩
  budgeted memory a b n held _ := by
    rw [ask_of_enableContact e memory a b held rfl, hall]
    exact ⟨rfl, rfl⟩
  presence memory a b held := by
    rw [ask_of_not_enableContact e memory a b held rfl]
    refine ⟨rfl, ?_⟩
    refine (if_congr (htouching memory a b) rfl rfl).trans ?_
    split
    · rename_i hne
      have hpos := List.length_pos_iff.mpr hne
      omega
    · rename_i hnil
      rw [not_not.mp hnil]
      rfl

end Engine

end Clearance
