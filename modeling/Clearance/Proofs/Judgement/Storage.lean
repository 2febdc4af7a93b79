import Clearance.Judgement.Findings

/-! What storing contacts does to findings. A bucket only grows at its end, a new bucket comes last,
and the count keeps step with the buckets as long as it does not pass the largest word. What a pair
may still store is the lesser of two remainders. -/

namespace Clearance

/-- With no key twice, looking up the keys gives the entries back. -/
theorem OrderedMap.map_find_keys {κ α : Type} [DecidableEq κ] (a : α) {es : List (κ × α)}
    (h : (es.map Prod.fst).Nodup) :
    (es.map Prod.fst).map (fun k => (k, (find k es).getD a)) = es := by
  induction es with
  | nil => rfl
  | cons e es ih =>
    obtain ⟨j, b⟩ := e
    rw [List.map_cons, List.nodup_cons] at h
    have hrest : ∀ k ∈ es.map Prod.fst, find k ((j, b) :: es) = find k es := by
      intro k hk
      have hne : j ≠ k := fun e => h.1 (e ▸ hk)
      rw [find, if_neg hne]
    rw [List.map_cons, List.map_cons, List.map_congr_left fun k hk => by rw [hrest k hk], ih h.2]
    simp [find]

namespace Findings

/-- Findings with contacts stored for a pair, and a collision on record if there was one. -/
def add (f : Findings) (p : BodyPair) (cs : List Contact) (hit : Bool) : Findings :=
  { f.recordAll p cs with collision := f.collision || hit }

/-- The sum of the lengths of the buckets. -/
def total (f : Findings) : Nat := f.buckets.values.foldr (fun b n => b.length + n) 0

/-! ### Buckets -/

theorem keys_record (f : Findings) (p : BodyPair) (c : Contact) :
    (f.record p c).buckets.keys =
      if p ∈ f.buckets.keys then f.buckets.keys else f.buckets.keys ++ [p] :=
  OrderedMap.keys_update ..

theorem mem_keys_record (f : Findings) (p k : BodyPair) (c : Contact) :
    k ∈ (f.record p c).buckets.keys ↔ k ∈ f.buckets.keys ∨ k = p := by
  rw [keys_record]
  split
  · rename_i hp
    exact ⟨Or.inl, fun h => h.elim id (fun e => e ▸ hp)⟩
  · simp

theorem mem_keys_recordAll (f : Findings) (p k : BodyPair) (cs : List Contact) :
    k ∈ (f.recordAll p cs).buckets.keys ↔ k ∈ f.buckets.keys ∨ (k = p ∧ cs ≠ []) := by
  induction cs generalizing f with
  | nil => simp
  | cons c cs ih =>
    rw [recordAll_cons, ih, mem_keys_record, or_assoc]
    exact or_congr_right ⟨fun h => ⟨h.elim id And.left, by simp⟩, fun h => Or.inl h.1⟩

/-- The buckets are what the keys lead to. -/
theorem entries_eq (f : Findings) :
    f.buckets.entries = f.buckets.keys.map fun p => (p, f.bucket p) := by
  have h := OrderedMap.map_find_keys [] f.buckets.nodup_keys
  exact h.symm

theorem mem_entries_iff (f : Findings) (p : BodyPair) (b : List Contact) :
    (p, b) ∈ f.buckets.entries ↔ p ∈ f.buckets.keys ∧ b = f.bucket p := by
  rw [entries_eq, List.mem_map]
  constructor
  · rintro ⟨r, hr, h⟩
    cases h
    exact ⟨hr, rfl⟩
  · rintro ⟨hp, rfl⟩
    exact ⟨p, hp, rfl⟩

/-- A bucket is either as before, or the one that contacts were added to. -/
theorem mem_entries_recordAll (f : Findings) {p : BodyPair} {cs : List Contact}
    {e : BodyPair × List Contact} (h : e ∈ (f.recordAll p cs).buckets.entries) :
    e ∈ f.buckets.entries ∨ (cs ≠ [] ∧ e = (p, f.bucket p ++ cs)) := by
  obtain ⟨k, bucket⟩ := e
  rw [mem_entries_iff, mem_keys_recordAll] at h
  obtain ⟨hk, rfl⟩ := h
  rw [mem_entries_iff, bucket_recordAll]
  by_cases hpk : p = k
  · subst hpk
    rw [if_pos rfl]
    by_cases hcs : cs = []
    · exact .inl ⟨hk.resolve_right fun h => h.2 hcs, by rw [hcs, List.append_nil]⟩
    · exact .inr ⟨hcs, rfl⟩
  · rw [if_neg hpk]
    exact .inl ⟨hk.resolve_right fun h => hpk h.1.symm, rfl⟩

theorem foldr_length_put (p : BodyPair) (c : Contact) (es : List (BodyPair × List Contact)) :
    ((OrderedMap.put p (fun b => b.getD [] ++ [c]) es).map Prod.snd).foldr
        (fun b n => b.length + n) 0 =
      (es.map Prod.snd).foldr (fun b n => b.length + n) 0 + 1 := by
  induction es with
  | nil => rfl
  | cons e es ih =>
    obtain ⟨k, b⟩ := e
    rw [OrderedMap.put]
    split
    · simp only [List.map_cons, List.foldr_cons, Option.getD_some, List.length_append,
        List.length_singleton]
      omega
    · rw [List.map_cons, List.foldr_cons, ih, List.map_cons, List.foldr_cons]
      omega

theorem total_record (f : Findings) (p : BodyPair) (c : Contact) :
    (f.record p c).total = f.total + 1 := foldr_length_put p c f.buckets.entries

theorem total_recordAll (f : Findings) (p : BodyPair) (cs : List Contact) :
    (f.recordAll p cs).total = f.total + cs.length := by
  induction cs generalizing f with
  | nil => rfl
  | cons c cs ih => rw [recordAll_cons, ih, total_record, List.length_cons]; omega

/-! ### The count -/

theorem count_record (f : Findings) (p : BodyPair) (c : Contact)
    (h : f.contactCount.toNat + 1 < UInt64.size) :
    (f.record p c).contactCount.toNat = f.contactCount.toNat + 1 := by
  simp only [record, UInt64.toNat_add]
  exact Nat.mod_eq_of_lt (by simp only [UInt64.size] at h; simp; omega)

theorem count_recordAll (f : Findings) (p : BodyPair) (cs : List Contact)
    (h : f.contactCount.toNat + cs.length < UInt64.size) :
    (f.recordAll p cs).contactCount.toNat = f.contactCount.toNat + cs.length := by
  induction cs generalizing f with
  | nil => rfl
  | cons c cs ih =>
    rw [List.length_cons] at h
    have hc := f.count_record p c (by omega)
    rw [recordAll_cons, ih _ (by omega), hc, List.length_cons]
    omega

/-! ### The budget -/

/-- The test of the total only guards a subtraction that would stop at zero anyway. -/
theorem budget_eq (f : Findings) (p : BodyPair) (maxPerPair maxContacts : UInt64) :
    f.budget p maxPerPair maxContacts =
      min (maxPerPair.toNat - f.stored p) (maxContacts.toNat - f.contactCount.toNat) := by
  unfold budget
  split
  · rename_i h
    have := UInt64.le_iff_toNat_le.mp h
    omega
  · rfl

/-- The budget is the greatest number of contacts that both quotas have room for. -/
theorem le_budget_iff (f : Findings) (p : BodyPair) (maxPerPair maxContacts : UInt64) (n : Nat) :
    n ≤ f.budget p maxPerPair maxContacts ↔ n = 0 ∨
      (f.stored p + n ≤ maxPerPair.toNat ∧ f.contactCount.toNat + n ≤ maxContacts.toNat) := by
  rw [budget_eq]
  omega

theorem stored_record (f : Findings) (p : BodyPair) (c : Contact) :
    (f.record p c).stored p = f.stored p + 1 := by
  rw [stored, bucket_record, if_pos rfl, List.length_append, List.length_singleton, stored]

/-- A contact that there is a budget for takes one from it. -/
theorem budget_record {f : Findings} {p : BodyPair} {maxPerPair maxContacts : UInt64}
    (h : 0 < f.budget p maxPerPair maxContacts) (c : Contact) :
    (f.record p c).budget p maxPerPair maxContacts = f.budget p maxPerPair maxContacts - 1 := by
  simp only [budget_eq] at h ⊢
  have hmax := maxContacts.toNat_lt_size
  rw [stored_record, count_record f p c (by omega)]
  omega

/-! ### Findings after a look at a pair -/

@[simp] theorem collision_add (f : Findings) (p : BodyPair) (cs : List Contact) (hit : Bool) :
    (f.add p cs hit).collision = (f.collision || hit) := rfl

@[simp] theorem buckets_add (f : Findings) (p : BodyPair) (cs : List Contact) (hit : Bool) :
    (f.add p cs hit).buckets = (f.recordAll p cs).buckets := rfl

@[simp] theorem contactCount_add (f : Findings) (p : BodyPair) (cs : List Contact) (hit : Bool) :
    (f.add p cs hit).contactCount = (f.recordAll p cs).contactCount := rfl

theorem total_add (f : Findings) (p : BodyPair) (cs : List Contact) (hit : Bool) :
    (f.add p cs hit).total = f.total + cs.length := f.total_recordAll p cs

@[simp] theorem add_nil_false (f : Findings) (p : BodyPair) : f.add p [] false = f := by
  simp [add]

theorem recordAll_mark (f : Findings) (p : BodyPair) (cs : List Contact) (b : Bool) :
    ({ f with collision := b }).recordAll p cs = { f.recordAll p cs with collision := b } := by
  induction cs generalizing f with
  | nil => rfl
  | cons c cs ih => exact ih (f.record p c)

/-- A contact stored before a row that goes to the same pair. -/
theorem add_record (f : Findings) (p : BodyPair) (c : Contact) (cs : List Contact) (hit : Bool) :
    ({ f.record p c with collision := true }).add p cs hit = f.add p (c :: cs) true := by
  rw [add, add, recordAll_mark, recordAll_cons]
  simp

end Findings

end Clearance
