import Clearance.Judgement.Query
import Clearance.Scene.Group

/-! Queries over an index of objects: all pairs in it, one object against it, a group against it.
The index is asked for pairs until the session is done. -/

namespace Clearance.Query

variable {σ : Type}

/-- Judges every pair of the index. -/
def searchAll (q : Query σ) (i : SweepIndex) (s : Session σ) : Session σ × Bool :=
  let s := if s.done then s else (i.visitPairs q.judge s).1
  (s, s.done)

/-- Judges an object with every other object of the index. -/
def searchObject (q : Query σ) (i : SweepIndex) (o : Object) (s : Session σ) : Session σ × Bool :=
  let s := if s.done then s else (i.visitPartners o q.judge s).1
  (s, s.done)

/-- Goes through objects until one of them leaves the session done. -/
def searchObjects (q : Query σ) (i : SweepIndex) : List Object → Session σ → Session σ
  | [], s => s
  | o :: os, s =>
    let (s, stop) := q.searchObject i o s
    if stop then s else searchObjects q i os s

/-- Judges every object of a group with the other objects of the index. -/
def searchGroup (q : Query σ) (i : SweepIndex) (g : Group) (s : Session σ) : Session σ × Bool :=
  let s := q.searchObjects i g.objects s
  (s, s.done)

end Clearance.Query
