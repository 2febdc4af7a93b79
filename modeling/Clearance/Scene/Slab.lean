/-! A store that hands out numbers as keys. A freed key is handed out again before any new one, the
last one freed first; an emptied store starts again at zero. -/

namespace Clearance

structure Slab (α : Type) where
  slots : List (Option α)
  /-- The freed keys, the next one to be handed out first. -/
  free : List Nat

namespace Slab

variable {α : Type}

def empty : Slab α := ⟨[], []⟩

def get? (s : Slab α) (k : Nat) : Option α := s.slots[k]?.join

def insert (s : Slab α) (a : α) : Nat × Slab α :=
  match s.free with
  | k :: ks => (k, ⟨s.slots.set k (some a), ks⟩)
  | [] => (s.slots.length, ⟨s.slots ++ [some a], []⟩)

/-- Takes out what stands under a key; a key that is not taken changes nothing. -/
def remove (s : Slab α) (k : Nat) : Option α × Slab α :=
  match s.get? k with
  | some a => (some a, ⟨s.slots.set k none, k :: s.free⟩)
  | none => (none, s)

def size (s : Slab α) : Nat := s.slots.countP Option.isSome

@[simp] theorem get?_empty (k : Nat) : (empty : Slab α).get? k = none := rfl

theorem remove_of_get?_eq_none {s : Slab α} {k : Nat} (h : s.get? k = none) :
    s.remove k = (none, s) := by simp [remove, h]

theorem get?_remove (s : Slab α) (k l : Nat) :
    (s.remove k).2.get? l = if l = k then none else s.get? l := by
  unfold remove
  cases h : s.get? k with
  | none => by_cases hl : l = k <;> simp [hl, h]
  | some a =>
    by_cases hl : l = k
    · subst hl
      by_cases hk : l < s.slots.length <;> simp [get?, hk]
    · have : ¬ k = l := fun e => hl e.symm
      simp [get?, hl, this]

end Slab

end Clearance
