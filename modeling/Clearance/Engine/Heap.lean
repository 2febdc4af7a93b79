/-! A binary heap of keys with items, the largest key on top. Of equal keys the order in which they
are taken follows from the places they have in the heap. -/

namespace Clearance

/-- The entries below the one at `i` are at `2 * i + 1` and `2 * i + 2`. -/
structure Heap (κ : Type) where
  entries : Array (Float × κ) := #[]

namespace Heap

variable {κ : Type}

/-- Whether the key at `i` is not larger than the key at `j`. -/
def atMost (xs : Array (Float × κ)) (i j : Nat) : Bool :=
  match xs[i]?, xs[j]? with
  | some s, some t => !(t.1 < s.1)
  | _, _ => false

/-- Moves the entry at `i` up until no key above it is smaller. -/
def up (xs : Array (Float × κ)) : Nat → Array (Float × κ)
  | 0 => xs
  | i + 1 =>
    let parent := i / 2
    if atMost xs (i + 1) parent then xs else up (xs.swapIfInBounds (i + 1) parent) parent
  termination_by i => i
  decreasing_by omega

/-- Moves the entry at `i` down to the bottom, along the larger keys, and then up to its place. -/
def down (xs : Array (Float × κ)) (i : Nat) : Array (Float × κ) :=
  let child := 2 * i + 1
  if child < xs.size then
    let larger := if child + 1 < xs.size && atMost xs child (child + 1) then child + 1 else child
    down (xs.swapIfInBounds i larger) larger
  else up xs i
  termination_by xs.size - i
  decreasing_by simp only [Array.size_swapIfInBounds]; grind

def push (h : Heap κ) (key : Float) (item : κ) : Heap κ :=
  ⟨up (h.entries.push (key, item)) h.entries.size⟩

/-- The entry on top, and the heap without it. -/
def pop? (h : Heap κ) : Option ((Float × κ) × Heap κ) := do
  let last ← h.entries.back?
  let rest := h.entries.pop
  match rest[0]? with
  | none => return (last, ⟨rest⟩)
  | some top => return (top, ⟨down (rest.setIfInBounds 0 last) 0⟩)

end Heap

end Clearance
