import Clearance.Number.Order
import Clearance.Scene.Object
import Clearance.Scene.Slab

/-! An index of objects sorted by the low `x` end of their boxes. Pairs with overlapping boxes are
found by sweeping along `x`: from each object the sweep goes on as long as the next object starts
before this one ends, and a visitor that answers `true` stops it. -/

namespace Clearance

/-- Names a registered object. -/
structure Handle where
  index : UInt32
  deriving DecidableEq

namespace Handle

def ofKey (k : Nat) : Handle := ⟨UInt32.ofNat k⟩

def key (h : Handle) : Nat := h.index.toNat

end Handle

/-- Looks at a pair with some state and tells whether to stop. -/
abbrev Visitor (τ : Type) := τ → Object → Object → τ × Bool

namespace Sweep

variable {τ : Type}

/-- Goes on with `next` unless the visitor has stopped. -/
def andThen (r : τ × Bool) (next : τ → τ × Bool) : τ × Bool := if r.2 then r else next r.1

/-- Whether the sweep from `o` has passed its end when it meets `p`. -/
def isPast (o p : Object) : Bool := decide (o.bounds.high.x < p.bounds.low.x)

/-- Pairs `o` with the objects after it. -/
def visitAfter (visit : Visitor τ) (o : Object) : List Object → τ → τ × Bool
  | [], t => (t, false)
  | p :: ps, t =>
    if isPast o p then (t, false)
    else if o.bounds.overlaps p.bounds then andThen (visit t o p) (visitAfter visit o ps)
    else visitAfter visit o ps t

/-- Pairs each object with those after it. -/
def visitPairs (visit : Visitor τ) : List Object → τ → τ × Bool
  | [], t => (t, false)
  | o :: os, t => andThen (visitAfter visit o os t) (visitPairs visit os)

/-- Pairs `o` with all objects that start before it ends, itself left out. -/
def visitPartners (visit : Visitor τ) (o : Object) : List Object → τ → τ × Bool
  | [], t => (t, false)
  | p :: ps, t =>
    if isPast o p then (t, false)
    else if o.serial ≠ p.serial && o.bounds.overlaps p.bounds then
      andThen (visit t o p) (visitPartners visit o ps)
    else visitPartners visit o ps t

/-- Visits the pairs of a list until the visitor stops. -/
def visitList (visit : Visitor τ) : List (Object × Object) → τ → τ × Bool
  | [], t => (t, false)
  | p :: ps, t => andThen (visit t p.1 p.2) (visitList visit ps)

end Sweep

structure SweepIndex where
  slab : Slab Object
  /-- The keys of the slab in sweep order. -/
  sorted : List Nat

namespace SweepIndex

variable {τ : Type}

def empty : SweepIndex := ⟨.empty, []⟩

/-- Whether the object under `k` starts no later than `x`. -/
def startsBy (s : Slab Object) (x : Float) (k : Nat) : Bool :=
  (s.get? k).all fun p => Number.totalLe p.bounds.low.x x

/-- Registers an object behind all that start no later. -/
def register (i : SweepIndex) (o : Object) : Handle × SweepIndex :=
  let (k, slab) := i.slab.insert o
  let before := startsBy slab o.bounds.low.x
  (Handle.ofKey k, ⟨slab, i.sorted.takeWhile before ++ k :: i.sorted.dropWhile before⟩)

/-- Removes the object that a handle names, if there is one. -/
def unregister (i : SweepIndex) (h : Handle) : Option Object × SweepIndex :=
  match i.slab.remove h.key with
  | (some o, slab) => (some o, ⟨slab, i.sorted.erase h.key⟩)
  | (none, _) => (none, i)

def get? (i : SweepIndex) (h : Handle) : Option Object := i.slab.get? h.key

def size (i : SweepIndex) : Nat := i.slab.size

def isEmpty (i : SweepIndex) : Bool := i.size = 0

/-- The registered objects with their handles, in sweep order. -/
def toList (i : SweepIndex) : List (Handle × Object) :=
  i.sorted.filterMap fun k => (i.slab.get? k).map fun o => (Handle.ofKey k, o)

/-- The registered objects in sweep order. -/
def objects (i : SweepIndex) : List Object := i.sorted.filterMap i.slab.get?

/-- Shows the visitor every pair of objects with overlapping boxes until it stops. -/
def visitPairs (i : SweepIndex) (visit : Visitor τ) (t : τ) : τ × Bool :=
  Sweep.visitPairs visit i.objects t

/-- Shows the visitor `o` with every other object whose box overlaps its own until it stops. -/
def visitPartners (i : SweepIndex) (o : Object) (visit : Visitor τ) (t : τ) : τ × Bool :=
  Sweep.visitPartners visit o i.objects t

/-- Writes down each pair and never stops. -/
def collector : Visitor (List (Object × Object)) := fun ps a b => (ps ++ [(a, b)], false)

/-- All pairs that a visitor can be shown. -/
def pairs (i : SweepIndex) : List (Object × Object) := (i.visitPairs collector []).1

/-- All pairs with `o` that a visitor can be shown. -/
def partners (i : SweepIndex) (o : Object) : List (Object × Object) :=
  (i.visitPartners o collector []).1

end SweepIndex

end Clearance
