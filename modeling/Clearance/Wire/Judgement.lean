import Clearance.Judgement.Findings
import Clearance.Judgement.Request
import Clearance.Wire.Body
import Clearance.Wire.Shape

/-! Documents for contacts, requests and findings. Buckets are written as the members of an object,
and since a pair cannot be the name of a member, findings are written only while there is none. -/

namespace Clearance

namespace Contact

def toJson (c : Contact) : Json :=
  .object [("pos", c.position.toJson), ("normal", c.normal.toJson), ("depth", .ofFloat c.depth),
    ("body_name_1", c.first.id.toJson), ("body_type_1", c.first.role.toJson),
    ("body_name_2", c.second.id.toJson), ("body_type_2", c.second.role.toJson)]

/-- Takes the depth as it stands, a negative one too. -/
def ofJson? (j : Json) : Option Contact := do
  match ← j.fields? ["pos", "normal", "depth", "body_name_1", "body_type_1", "body_name_2",
    "body_type_2"] with
  | [pos, normal, depth, name1, type1, name2, type2] =>
    return ⟨← Vec3.ofJson? pos, ← Vec3.ofJson? normal, ← depth.float?,
      ⟨← BodyId.ofJson? name1, ← Role.ofJson? type1⟩,
      ⟨← BodyId.ofJson? name2, ← Role.ofJson? type2⟩⟩
  | _ => none

end Contact

/-- A machine word from a whole number. -/
def Json.word? (j : Json) : Option UInt64 := (j.natBelow? UInt64.size).map UInt64.ofNat

namespace Request

def toJson (r : Request) : Json :=
  .object [("contacts", .bool r.contacts), ("max_contacts", .integer r.maxContacts.toNat),
    ("max_contacts_per_pair", .integer r.maxPerPair.toNat), ("verbose", .bool r.verbose)]

def ofJson? (j : Json) : Option Request := do
  match ← j.fields? ["contacts", "max_contacts", "max_contacts_per_pair", "verbose"] with
  | [contacts, maxContacts, maxPerPair, verbose] =>
    return ⟨← contacts.bool?, ← maxContacts.word?, ← maxPerPair.word?, ← verbose.bool?⟩
  | _ => none

end Request

namespace Findings

def bucketToJson (b : List Contact) : Json := .array (b.map Contact.toJson)

def bucketOfJson? (j : Json) : Option (List Contact) := do (← j.array?).mapM Contact.ofJson?

def toJson? (f : Findings) : Option Json := do
  let contacts ← f.buckets.toJson? BodyPair.toJson bucketToJson
  return .object [("collision", .bool f.collision),
    ("contact_count", .integer f.contactCount.toNat), ("contacts", contacts)]

/-- Takes the count as it stands, whatever the buckets hold. -/
def ofJson? (j : Json) : Option Findings := do
  match ← j.fields? ["collision", "contact_count", "contacts"] with
  | [collision, count, contacts] =>
    return ⟨← collision.bool?, ← count.word?,
      ← OrderedMap.ofJson? BodyPair.ofJson? bucketOfJson? contacts⟩
  | _ => none

end Findings

end Clearance
