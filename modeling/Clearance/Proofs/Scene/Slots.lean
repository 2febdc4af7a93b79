import Clearance.Scene.Slab

/-! The keys of a store. The freed keys are those of the empty slots, each once, and so a key that is
handed out is not taken; the store grows only when it is full. -/

namespace Clearance.Slab

variable {α : Type} {s : Slab α}

/-- The freed keys are those of the empty slots, each once. -/
structure Tidy (s : Slab α) : Prop where
  nodup : s.free.Nodup
  mem_free : ∀ k, k ∈ s.free ↔ k < s.slots.length ∧ s.get? k = none

theorem tidy_empty : (empty : Slab α).Tidy := ⟨by simp [empty], by simp [empty]⟩

theorem get?_eq_none_of_le {k : Nat} (h : s.slots.length ≤ k) : s.get? k = none := by
  simp [get?, h]

/-! ### Handing out a key -/

theorem Tidy.get?_insert (h : s.Tidy) (a : α) (l : Nat) :
    (s.insert a).2.get? l = if l = (s.insert a).1 then some a else s.get? l := by
  unfold Slab.insert
  cases hf : s.free with
  | nil =>
    rcases Nat.lt_trichotomy l s.slots.length with hl | rfl | hl
    · simp [get?, List.getElem?_append_left hl, Nat.ne_of_lt hl]
    · simp [get?]
    · rw [if_neg (Nat.ne_of_gt hl), get?_eq_none_of_le (Nat.le_of_lt hl),
        get?_eq_none_of_le (by simp; omega)]
  | cons k ks =>
    have hk : k < s.slots.length := ((h.mem_free k).mp (by simp [hf])).1
    by_cases hl : l = k
    · simp [get?, hl, hk]
    · simp [get?, hl, Ne.symm hl]

/-- A key that is handed out is not taken. -/
theorem Tidy.get?_fst_insert (h : s.Tidy) (a : α) : s.get? (s.insert a).1 = none := by
  unfold Slab.insert
  cases hf : s.free with
  | nil => exact get?_eq_none_of_le (Nat.le_refl _)
  | cons k ks => exact ((h.mem_free k).mp (by simp [hf])).2

theorem Tidy.insert (h : s.Tidy) (a : α) : (s.insert a).2.Tidy := by
  have hget := h.get?_insert a
  unfold Slab.insert at hget ⊢
  cases hf : s.free with
  | nil =>
    rw [hf] at hget
    refine ⟨by simp, fun k => ?_⟩
    have hfull : ¬ (k < s.slots.length ∧ s.get? k = none) := by simp [← h.mem_free, hf]
    rw [hget]
    grind
  | cons k ks =>
    rw [hf] at hget
    have hnodup := h.nodup
    rw [hf, List.nodup_cons] at hnodup
    refine ⟨hnodup.2, fun l => ?_⟩
    have hmem := h.mem_free l
    rw [hf, List.mem_cons] at hmem
    rw [hget]
    grind

/-! ### Giving back a key -/

theorem Tidy.remove (h : s.Tidy) (k : Nat) : (s.remove k).2.Tidy := by
  have hget := s.get?_remove k
  unfold Slab.remove at hget ⊢
  cases hk : s.get? k with
  | none => exact h
  | some a =>
    have hlt : k < s.slots.length := Nat.lt_of_not_le fun hle => by
      simp [get?_eq_none_of_le hle] at hk
    have hfresh : k ∉ s.free := fun hm => by simp [((h.mem_free k).mp hm).2] at hk
    rw [hk] at hget
    refine ⟨List.nodup_cons.mpr ⟨hfresh, h.nodup⟩, fun l => ?_⟩
    have hmem := h.mem_free l
    rw [hget, List.mem_cons, hmem, List.length_set]
    grind

theorem length_remove (s : Slab α) (k : Nat) :
    (s.remove k).2.slots.length = s.slots.length := by
  unfold Slab.remove
  cases s.get? k <;> simp

/-! ### Counting -/

theorem slots_eq_map (s : Slab α) : s.slots = (List.range s.slots.length).map s.get? := by
  refine List.ext_getElem (by simp) fun k h _ => ?_
  simp [get?, h]

/-- The size is the number of the keys that are taken. -/
theorem size_eq_length {ks : List Nat} (hks : ks.Nodup)
    (hmem : ∀ k, k ∈ ks ↔ (s.get? k).isSome = true) : s.size = ks.length := by
  have hperm : ((List.range s.slots.length).filter fun k => (s.get? k).isSome).Perm ks := by
    refine (List.perm_ext_iff_of_nodup (List.nodup_range.filter _) hks).mpr fun k => ?_
    have hlt : (s.get? k).isSome = true → k < s.slots.length := fun hk =>
      Nat.lt_of_not_le fun hle => by simp [get?_eq_none_of_le hle] at hk
    simpa [hmem k] using hlt
  rw [size, slots_eq_map, List.countP_map, List.countP_eq_length_filter]
  exact hperm.length_eq

theorem Tidy.fst_insert_lt (h : s.Tidy) (a : α) :
    (s.insert a).1 < (s.insert a).2.slots.length := by
  unfold Slab.insert
  cases hf : s.free with
  | nil => simp
  | cons k ks => simpa using ((h.mem_free k).mp (by simp [hf])).1

/-- A store grows only when it is full. -/
theorem Tidy.length_insert (h : s.Tidy) (a : α) :
    (s.insert a).2.slots.length = s.slots.length ∨
      (s.insert a).2.slots.length = (s.insert a).2.size := by
  unfold Slab.insert
  cases hf : s.free with
  | nil =>
    have hfull : ∀ o ∈ s.slots, o.isSome = true := by
      intro o ho
      obtain ⟨k, hk, rfl⟩ := List.getElem_of_mem ho
      have hmem := h.mem_free k
      rw [hf] at hmem
      simp [get?, hk] at hmem
      exact Option.isSome_iff_ne_none.mpr hmem
    simp [size, List.countP_eq_length.mpr hfull]
  | cons k ks => simp

end Clearance.Slab
