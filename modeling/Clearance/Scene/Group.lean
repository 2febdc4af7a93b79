import Clearance.Scene.SweepIndex

/-! Groups of objects that enter and leave an index together, such as the parts of one robot link. A
group knows the handles its objects got and does not enter twice. -/

namespace Clearance

structure Group where
  objects : List Object
  handles : List Handle

namespace Group

def empty : Group := ⟨[], []⟩

/-- Adds an object, which is not registered with the others until they register again. -/
def push (g : Group) (o : Object) : Group := ⟨g.objects ++ [o], g.handles⟩

def size (g : Group) : Nat := g.objects.length

def isEmpty (g : Group) : Bool := g.objects.isEmpty

def isRegistered (g : Group) : Bool := !g.handles.isEmpty

/-- Registers the objects one after the other and lists their handles. -/
def registerAll : List Object → SweepIndex → List Handle × SweepIndex
  | [], i => ([], i)
  | o :: os, i =>
    let (h, i) := i.register o
    let (hs, i) := registerAll os i
    (h :: hs, i)

def unregisterAll (hs : List Handle) (i : SweepIndex) : SweepIndex :=
  hs.foldl (fun i h => (i.unregister h).2) i

/-- Registers all objects, unless the group is registered. -/
def register (g : Group) (i : SweepIndex) : Group × SweepIndex :=
  if g.isRegistered then (g, i)
  else
    let (hs, i) := registerAll g.objects i
    (⟨g.objects, hs⟩, i)

/-- Gives back every handle of the group. -/
def unregister (g : Group) (i : SweepIndex) : Group × SweepIndex :=
  (⟨g.objects, []⟩, unregisterAll g.handles i)

end Group

end Clearance
