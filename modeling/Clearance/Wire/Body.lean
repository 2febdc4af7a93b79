import Clearance.Body.Attachment
import Clearance.Body.Pair
import Clearance.Json.Basic
import Clearance.Scene.SweepIndex

/-! Documents for bodies, attachments, pairs and handles. Reading takes values as they stand: a pair
keeps its order and touch links may repeat. -/

namespace Clearance

def BodyId.toJson (id : BodyId) : Json := .text id.name

def BodyId.ofJson? (j : Json) : Option BodyId := j.text?.map mk

def Role.ofName? (s : String) : Option Role :=
  [Role.robotLink, .robotAttached, .worldObject, .other].find? fun r => r.name = s

def Role.toJson (r : Role) : Json := .text r.name

def Role.ofJson? (j : Json) : Option Role := j.plainVariant?.bind ofName?

def Body.toJson (b : Body) : Json := .object [("id", b.id.toJson), ("kind", b.role.toJson)]

def Body.ofJson? (j : Json) : Option Body := do
  match ← j.fields? ["id", "kind"] with
  | [id, kind] => return ⟨← BodyId.ofJson? id, ← Role.ofJson? kind⟩
  | _ => none

namespace Attachment

def toJson (t : Attachment) : Json :=
  .object [("attach_link", t.link.toJson), ("touch_links", .array (t.touchLinks.map BodyId.toJson))]

def ofJson? (j : Json) : Option Attachment := do
  match ← j.fields? ["attach_link", "touch_links"] with
  | [link, links] => return ⟨← BodyId.ofJson? link, ← (← links.array?).mapM BodyId.ofJson?⟩
  | _ => none

end Attachment

namespace OrderedMap

variable {κ α : Type}

/-- A map as an object. A member has for its name the text that its key is written as, and a key that
is not written as text cannot be a name. -/
def toJson? (key : κ → Json) (value : α → Json) (m : OrderedMap κ α) : Option Json :=
  (m.entries.mapM fun e => (key e.1).text?.map (·, value e.2)).map .object

/-- Of two members with one name the later one stands. -/
def ofJson? [DecidableEq κ] (key : Json → Option κ) (value : Json → Option α) (j : Json) :
    Option (OrderedMap κ α) := do
  let entries ← (← j.object?).mapM fun m => do return (← key (.text m.1), ← value m.2)
  return .ofList entries

end OrderedMap

namespace Attachments

def toJson (r : Attachments) : Json :=
  .object [("attached", .object (r.byBody.entries.map fun e => (e.1.name, e.2.toJson)))]

def ofJson? (j : Json) : Option Attachments := do
  match ← j.fields? ["attached"] with
  | [attached] => return ⟨← OrderedMap.ofJson? BodyId.ofJson? Attachment.ofJson? attached⟩
  | _ => none

end Attachments

def BodyPair.toJson (p : BodyPair) : Json := .array [p.first.toJson, p.second.toJson]

def BodyPair.ofJson? (j : Json) : Option BodyPair := do
  match ← j.array? with
  | [a, b] => return ⟨← BodyId.ofJson? a, ← BodyId.ofJson? b⟩
  | _ => none

def Handle.toJson (h : Handle) : Json := .integer h.key

def Handle.ofJson? (j : Json) : Option Handle := (j.natBelow? UInt32.size).map ofKey

end Clearance
