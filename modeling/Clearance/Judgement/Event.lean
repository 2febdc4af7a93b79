import Clearance.Contact.NarrowPhase

/-! What a query says and does, event by event: questions to the narrow phase and what it refused,
verdicts of deciders, and remarks. The log is the part of the events that has a text. -/

namespace Clearance

/-- A remark on the decision about two bodies. -/
inductive Remark where
  | alwaysAllowed (a b : BodyId)
  | conditionallyAllowed (a b : BodyId)
  | touchAllowed (link attached : BodyId)
  /-- Contacts were found that a decider will look at. -/
  | toBeWeighed (count : Nat) (a b : BodyId)
  | offenderStored (a b : BodyId)
  | offenderNotStored (a b : BodyId)
  /-- Contacts were found of which the first `kept` are stored. -/
  | contactsFound (count : Nat) (a b : BodyId) (kept : Nat)
  | contactFound (a b : BodyId)
  | complete (stored : UInt64)
  deriving DecidableEq

namespace Remark

def level : Remark → LogLevel
  | offenderStored _ _ | offenderNotStored _ _ => .debug
  | _ => .info

def text : Remark → String
  | alwaysAllowed a b =>
    s!"Collision between '{a.name}' and '{b.name}' is always allowed. No contacts are computed."
  | conditionallyAllowed a b =>
    s!"Collision between '{a.name}' and '{b.name}' is conditionally allowed."
  | touchAllowed l a =>
    s!"Robot link '{l.name}' is allowed to touch attached object '{a.name}'. " ++
      "No contacts are computed."
  | toBeWeighed n a b =>
    s!"Found {n} contacts between '{a.name}' and '{b.name}'. " ++
      "These contacts will be evaluated to check if they are accepted or not."
  | offenderStored a b =>
    s!"Found unacceptable contact between '{a.name}' and '{b.name}'. Contact was stored."
  | offenderNotStored a b =>
    s!"Found unacceptable contact between '{a.name}' and '{b.name}'. Contact was not stored."
  | contactsFound n a b k =>
    s!"Found {n} contacts between '{a.name}' and '{b.name}', which constitute a collision. " ++
      s!"{k} contacts will be stored."
  | contactFound a b =>
    s!"Found a contact between '{a.name}' and '{b.name}', which constitutes a collision. " ++
      "Contact information is not stored."
  | complete n =>
    "Collision checking is considered complete " ++
      s!"(collision was found and {n.toNat} contacts are stored)."

def line (r : Remark) : LogLine := ⟨r.level, r.text⟩

end Remark

inductive Event where
  /-- The narrow phase was asked, with so many contacts in the buffer. -/
  | asked (first second : Object) (probe : Probe) (held : Nat)
  | refused (r : Refusal)
  /-- A decider looked at a contact. -/
  | weighed (contact : Contact) (allowed : Bool)
  | remarked (r : Remark)

namespace Event

def logLine? : Event → Option LogLine
  | refused r => some r.line
  | remarked r => some r.line
  | _ => none

def isCall : Event → Bool
  | asked .. => true
  | _ => false

end Event

/-- The log of a row of events. -/
def logOf (es : List Event) : List LogLine := es.filterMap Event.logLine?

/-- The questions to the narrow phase in a row of events. -/
def callsOf (es : List Event) : List Event := es.filter Event.isCall

@[simp] theorem logOf_append (es fs : List Event) : logOf (es ++ fs) = logOf es ++ logOf fs :=
  List.filterMap_append

@[simp] theorem callsOf_append (es fs : List Event) :
    callsOf (es ++ fs) = callsOf es ++ callsOf fs :=
  List.filter_append ..

end Clearance
