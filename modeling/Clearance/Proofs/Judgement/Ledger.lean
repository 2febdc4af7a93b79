import Clearance.Proofs.Judgement.Storage

/-! Findings as a ledger: one row of contacts in the order of storing, each with its pair. Grouping
the row by pairs gives the buckets in their order. A row is thinned greedily, by letting an entry
through only while its pair has room, and a further block of entries of one pair gets through up to
the room that is left to the pair. -/

namespace Clearance

/-- A contact with the pair that it counts for. -/
abbrev Entry := BodyPair × Contact

namespace Ledger

/-- The contacts of one pair, in order. -/
def ofPair (p : BodyPair) (xs : List Entry) : List Contact := (xs.filter (·.1 = p)).map Prod.snd

/-- The contacts of each pair, the pairs in the order in which they first come. -/
def grouped (xs : List Entry) : List (BodyPair × List Contact) :=
  (xs.map Prod.fst).eraseDups.map fun p => (p, ofPair p xs)

/-- Keeps an entry only if fewer than `k` of its pair were kept before it. -/
def thin (k : Nat) (xs : List Entry) : List Entry :=
  xs.foldl (fun kept x => if (ofPair x.1 kept).length < k then kept ++ [x] else kept) []

theorem ofPair_append (p : BodyPair) (xs ys : List Entry) :
    ofPair p (xs ++ ys) = ofPair p xs ++ ofPair p ys := by
  simp [ofPair]

theorem ofPair_map (p r : BodyPair) (cs : List Contact) :
    ofPair r (cs.map (Prod.mk p)) = if p = r then cs else [] := by
  by_cases h : p = r <;> simp [ofPair, List.filter_map, Function.comp_def, h]

/-- A block of entries of one pair is cut to the room that the pair still has. -/
theorem thin_append_map (k : Nat) (xs : List Entry) (p : BodyPair) (cs : List Contact) :
    thin k (xs ++ cs.map (Prod.mk p)) =
      thin k xs ++ (cs.take (k - (ofPair p (thin k xs)).length)).map (Prod.mk p) := by
  unfold thin
  rw [List.foldl_append]
  generalize xs.foldl _ [] = kept
  induction cs generalizing kept with
  | nil => simp
  | cons c cs ih =>
    rw [List.map_cons, List.foldl_cons, ih]
    by_cases h : (ofPair p kept).length < k
    · have hone : (ofPair p (kept ++ [(p, c)])).length = (ofPair p kept).length + 1 := by
        simp [ofPair]
      have hroom : k - (ofPair p kept).length = k - ((ofPair p kept).length + 1) + 1 := by omega
      rw [if_pos h, hone, hroom, List.take_succ_cons, List.map_cons, List.append_assoc]
      rfl
    · have hfull : k - (ofPair p kept).length = 0 := by omega
      rw [if_neg h, hfull, List.take_zero, List.take_zero]

theorem eraseDups_append_singleton (ps : List BodyPair) (p : BodyPair) :
    (ps ++ [p]).eraseDups = if p ∈ ps then ps.eraseDups else ps.eraseDups ++ [p] := by
  rw [List.eraseDups_append]
  by_cases h : p ∈ ps <;> simp [List.removeAll, h, List.eraseDups_cons]

end Ledger

namespace Findings

open Ledger

/-- The findings store just the entries of a row. -/
structure Holds (f : Findings) (xs : List Entry) : Prop where
  keys : f.buckets.keys = (xs.map Prod.fst).eraseDups
  bucket : ∀ p, f.bucket p = ofPair p xs
  count : f.contactCount.toNat = xs.length

theorem holds_empty : empty.Holds [] := ⟨rfl, fun _ => rfl, rfl⟩

theorem keys_recordAll {f : Findings} {ps : List BodyPair} (h : f.buckets.keys = ps.eraseDups)
    (p : BodyPair) (cs : List Contact) :
    (f.recordAll p cs).buckets.keys = (ps ++ cs.map fun _ => p).eraseDups := by
  induction cs generalizing f ps with
  | nil => simpa using h
  | cons c cs ih =>
    have hone : (f.record p c).buckets.keys = (ps ++ [p]).eraseDups := by
      rw [keys_record, h, eraseDups_append_singleton]
      simp only [List.mem_eraseDups]
    rw [recordAll_cons, ih hone, List.append_assoc]
    rfl

theorem Holds.recordAll {f : Findings} {xs : List Entry} (h : f.Holds xs) (p : BodyPair)
    (cs : List Contact) (hlt : xs.length + cs.length < UInt64.size) :
    (f.recordAll p cs).Holds (xs ++ cs.map (Prod.mk p)) where
  keys := by
    rw [keys_recordAll h.keys, List.map_append, List.map_map]
    rfl
  bucket r := by
    rw [bucket_recordAll, ofPair_append, ofPair_map, h.bucket, h.bucket]
    split
    · rename_i hpr; rw [hpr]
    · simp
  count := by
    rw [count_recordAll _ _ _ (by rw [h.count]; exact hlt), h.count]
    simp

theorem Holds.entries {f : Findings} {xs : List Entry} (h : f.Holds xs) :
    f.buckets.entries = grouped xs := by
  rw [entries_eq, h.keys, grouped]
  exact List.map_congr_left fun p _ => by rw [h.bucket]

end Findings

end Clearance
