import Clearance.Body.Pair
import Clearance.Contact.Basic
import Clearance.OrderedMap

/-! What a query has found so far: whether there is a collision, and contacts in one bucket per pair
of bodies. How many more contacts a pair may store depends on its bucket and on the total. -/

namespace Clearance

structure Findings where
  collision : Bool
  contactCount : UInt64
  buckets : OrderedMap BodyPair (List Contact)

namespace Findings

def empty : Findings := ⟨false, 0, .empty⟩

/-- The contacts stored for a pair. -/
def bucket (f : Findings) (p : BodyPair) : List Contact := (f.buckets.get? p).getD []

def stored (f : Findings) (p : BodyPair) : Nat := (f.bucket p).length

/-- How many more contacts the pair may store: what is left of its own quota, but no more than what
is left of the total. -/
def budget (f : Findings) (p : BodyPair) (maxPerPair maxContacts : UInt64) : Nat :=
  if maxContacts ≤ f.contactCount then 0
  else min (maxPerPair.toNat - f.stored p) (maxContacts.toNat - f.contactCount.toNat)

/-- Stores a contact at the end of the bucket of the pair. -/
def record (f : Findings) (p : BodyPair) (c : Contact) : Findings :=
  { f with
    contactCount := f.contactCount + 1
    buckets := f.buckets.update p fun b => b.getD [] ++ [c] }

def recordAll (f : Findings) (p : BodyPair) (cs : List Contact) : Findings :=
  cs.foldl (fun f c => f.record p c) f

/-- All contacts, bucket after bucket. -/
def toList (f : Findings) : List Contact := f.buckets.values.flatten

theorem bucket_record (f : Findings) (p q : BodyPair) (c : Contact) :
    (f.record p c).bucket q = if p = q then f.bucket p ++ [c] else f.bucket q := by
  by_cases h : p = q
  · subst h; simp [bucket, record, OrderedMap.get?_update]
  · simp [bucket, record, OrderedMap.get?_update, h]

@[simp] theorem collision_record (f : Findings) (p : BodyPair) (c : Contact) :
    (f.record p c).collision = f.collision := rfl

@[simp] theorem recordAll_nil (f : Findings) (p : BodyPair) : f.recordAll p [] = f := rfl

@[simp] theorem recordAll_cons (f : Findings) (p : BodyPair) (c : Contact) (cs : List Contact) :
    f.recordAll p (c :: cs) = (f.record p c).recordAll p cs := rfl

theorem bucket_recordAll (f : Findings) (p q : BodyPair) (cs : List Contact) :
    (f.recordAll p cs).bucket q = if p = q then f.bucket p ++ cs else f.bucket q := by
  induction cs generalizing f with
  | nil => by_cases h : p = q <;> simp [h]
  | cons c cs ih =>
    rw [recordAll_cons, ih]
    by_cases h : p = q <;> simp [h, bucket_record]

end Findings

end Clearance
