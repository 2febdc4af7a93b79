import Clearance.Space.Bounds

/-! Items with boxes, in a binary tree. The box of a tree is the union of the boxes below it, so
whatever misses it misses all of them. The tree is grown from the top: the centres are put into
eight slices along the axis on which they spread most, and cut between two slices where the areas of
the boxes on both sides, times the numbers of items, add up to least. -/

namespace Clearance

/-- The box that holds nothing: its sides are turned inside out as far as numbers go. -/
def Bounds.hollow : Bounds Float :=
  let far := Scalar.largest
  ⟨⟨far, far, far⟩, ⟨-far, -far, -far⟩⟩

/-- A tree with an item and its box in every leaf. -/
inductive BoxTree (κ : Type) where
  | leaf (box : Bounds Float) (item : κ)
  | node (left right : BoxTree κ)

namespace BoxTree

variable {κ : Type}

def box : BoxTree κ → Bounds Float
  | leaf b _ => b
  | node l r => l.box.union r.box

def size : BoxTree κ → Nat
  | leaf _ _ => 1
  | node l r => l.size + r.size + 1

/-! ### Growing -/

def sliceCount : Nat := 8

/-- Slices of equal width along an axis from `low` on. The density is the inverse of the width. -/
structure Slicing where
  axis : Axis
  low : Float
  density : Float

/-- The slices between the outermost centres of boxes. -/
def Slicing.between (boxes : List (Bounds Float)) : Slicing :=
  let spread : Bounds Float := boxes.foldl (fun s b => s.holding b.center) .hollow
  let i := Axis.widest (spread.high - spread.low)
  let low := spread.low.along i
  ⟨i, low, sliceCount.toFloat * (1 - 1e-5) / (spread.high.along i - low)⟩

/-- Which slice the centre of a box falls into. A centre that is no number falls into the first. -/
def Slicing.number (s : Slicing) (b : Bounds Float) : Nat :=
  (s.density * (b.center.along s.axis - s.low)).toUInt64.toNat

/-- Half of the area of a box. -/
def halfArea (b : Bounds Float) : Float :=
  let e := b.high - b.low
  e.x * (e.y + e.z) + e.y * e.z

/-- The box around a row of slices, each given by its items. -/
def around : List (List (Bounds Float)) → Bounds Float
  | [] => .hollow
  | s :: ss => ss.foldl (fun b t => b.union (slab t)) (slab s)
where
  slab (s : List (Bounds Float)) : Bounds Float := s.foldl Bounds.union .hollow

/-- What a cut after slice `i` costs. -/
def cutCost (slices : List (List (Bounds Float))) (i : Nat) : Float :=
  let side (ss : List (List (Bounds Float))) : Float :=
    halfArea (around ss) * ss.flatten.length.toFloat
  side (slices.take (i + 1)) + side (slices.drop (i + 1)).reverse

/-- The slice after which to cut: the first one of least cost. -/
def cut (slices : List (List (Bounds Float))) : Nat :=
  let step (best : Float × Nat) (i : Nat) : Float × Nat :=
    let c := cutCost slices i
    if c < best.1 then (c, i) else best
  ((List.range (sliceCount - 1)).foldl step (Scalar.largest, 0)).2

/-- Parts the items in two. Items that fall on one side of the cut are halved as they come. -/
def part (items : List (Bounds Float × κ)) : List (Bounds Float × κ) × List (Bounds Float × κ) :=
  let slicing := Slicing.between (items.map (·.1))
  let numbered := items.map fun t => (slicing.number t.1, t)
  let slice (i : Nat) : List (Bounds Float) :=
    (numbered.filter fun t => t.1 == i).map fun t => t.2.1
  let last := cut ((List.range sliceCount).map slice)
  let (low, high) := numbered.partition fun t => t.1 ≤ last
  if low.isEmpty || high.isEmpty then items.splitAt (items.length / 2)
  else (low.map (·.2), high.map (·.2))

/-- The tree of a list of items, if there are any. The fuel bounds its height. -/
def grow : Nat → List (Bounds Float × κ) → Option (BoxTree κ)
  | _, [] => none
  | _, [t] => some (leaf t.1 t.2)
  | 0, _ => none
  | fuel + 1, items => do
    let (low, high) := part items
    return node (← grow fuel low) (← grow fuel high)

/-- Two items keep their order. -/
def ofList? : List (Bounds Float × κ) → Option (BoxTree κ)
  | [s, t] => some (node (leaf s.1 s.2) (leaf t.1 t.2))
  | items => grow items.length items

/-! ### Searching -/

/-- The items below a tree that are not left out because a box above them fails the test. -/
def under (test : Bounds Float → Bool) : BoxTree κ → List κ
  | leaf _ k => [k]
  | node l r =>
    (if test l.box then l.under test else []) ++ if test r.box then r.under test else []

/-- The items that a test of boxes does not rule out. The two halves of the whole tree are always
looked into. -/
def candidates (test : Bounds Float → Bool) : BoxTree κ → List κ
  | leaf _ k => [k]
  | node l r => l.under test ++ r.under test

/-- A score and what it was reached with. -/
abbrev Scored (ρ : Type) := Float × ρ

variable {ρ : Type}

/-- Whether a score is lower than the best one so far. -/
def improves (best : Option (Scored ρ)) (score : Float) : Bool :=
  match best with
  | some b => score < b.1
  | none => score < Scalar.largest

/-- The best item after one more. -/
def consider (score : κ → Scored ρ) (best : Option (Scored ρ)) (k : κ) : Option (Scored ρ) :=
  let s := score k
  if improves best s.1 then some s else best

/-- Looks at a half of a tree: at its item, or puts it off if it has halves itself. -/
def visit (score : κ → Scored ρ) (best : Option (Scored ρ)) (half : Scored (BoxTree κ)) :
    Option (Scored ρ) × List (Scored (BoxTree κ)) :=
  if improves best half.1 then
    match half.2 with
    | leaf _ k => (consider score best k, [])
    | node _ _ => (best, [half])
  else (best, [])

/-- The best item of the trees that were put off. The half whose box has the lower score comes
first, and a tree is left out if its box has no lower score than the best item so far. -/
def bestOf (bound : Bounds Float → Float) (score : κ → Scored ρ) :
    Nat → List (Scored (BoxTree κ)) → Option (Scored ρ) → Option (Scored ρ)
  | fuel + 1, (s, node l r) :: rest, best =>
    if improves best s then
      let a := (bound l.box, l)
      let b := (bound r.box, r)
      let (first, second) := if b.1 < a.1 then (b, a) else (a, b)
      let (best, later) := visit score best first
      let (best, later') := visit score best second
      bestOf bound score fuel (later ++ later' ++ rest) best
    else bestOf bound score fuel rest best
  | fuel + 1, (_, leaf _ _) :: rest, best => bestOf bound score fuel rest best
  | _, _, best => best

/-- The item of the least score, the first one found of several. No item below a tree may have a
lower score than the bound of its box. -/
def best? (bound : Bounds Float → Float) (score : κ → Scored ρ) : BoxTree κ → Option ρ
  | leaf _ k => (consider score none k).map (·.2)
  | t@(node _ _) => (bestOf bound score t.size [(0, t)] none).map (·.2)

end BoxTree

end Clearance
