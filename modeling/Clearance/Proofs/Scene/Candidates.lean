import Clearance.Scene.SweepIndex

/-! What an index shows to a visitor, as a plain list. From each object the sweep reaches the objects
up to the first that it has passed, and picks those that it may pair. The visitor decides only how
much of the list it sees: a visitor that never stops sees all of it, and any other sees it up to the
pair at which it stops. -/

namespace Clearance

namespace Sweep

variable {τ : Type}

/-! ### Rows of pairs -/

/-- The pairs of `o` with the objects that the sweep from `o` reaches and picks. -/
def reach (o : Object) (picks : Object → Bool) (ps : List Object) : List (Object × Object) :=
  ((ps.takeWhile (!isPast o ·)).filter picks).map (o, ·)

def pairsAfter (o : Object) (ps : List Object) : List (Object × Object) :=
  reach o (fun p => o.bounds.overlaps p.bounds) ps

def pairsOf : List Object → List (Object × Object)
  | [] => []
  | o :: os => pairsAfter o os ++ pairsOf os

def partnersOf (o : Object) (ps : List Object) : List (Object × Object) :=
  reach o (fun p => o.serial ≠ p.serial && o.bounds.overlaps p.bounds) ps

theorem reach_cons (o p : Object) (picks : Object → Bool) (ps : List Object) :
    reach o picks (p :: ps) =
      if isPast o p then [] else if picks p then (o, p) :: reach o picks ps
      else reach o picks ps := by
  unfold reach
  cases hpast : isPast o p with
  | true => simp [hpast]
  | false =>
    cases hpick : picks p with
    | true => simp [hpast, hpick]
    | false => simp [hpast, hpick]

/-! ### Visiting a row -/

@[simp] theorem visitList_nil (visit : Visitor τ) (t : τ) : visitList visit [] t = (t, false) := rfl

@[simp] theorem visitList_cons (visit : Visitor τ) (p : Object × Object) (ps : List (Object × Object))
    (t : τ) : visitList visit (p :: ps) t = andThen (visit t p.1 p.2) (visitList visit ps) := rfl

theorem andThen_assoc (r : τ × Bool) (f g : τ → τ × Bool) :
    andThen (andThen r f) g = andThen r fun t => andThen (f t) g := by
  unfold andThen
  cases h : r.2 with
  | true => simp [h]
  | false => simp

/-- A visitor that stops in the first row does not see the second. -/
theorem visitList_append (visit : Visitor τ) (ps qs : List (Object × Object)) (t : τ) :
    visitList visit (ps ++ qs) t = andThen (visitList visit ps t) (visitList visit qs) := by
  induction ps generalizing t with
  | nil => rfl
  | cons p ps ih =>
    have htail : visitList visit (ps ++ qs) = fun t => andThen (visitList visit ps t)
        (visitList visit qs) := funext ih
    rw [List.cons_append, visitList_cons, htail, visitList_cons, andThen_assoc]

theorem visitList_collector (ps acc : List (Object × Object)) :
    visitList SweepIndex.collector ps acc = (acc ++ ps, false) := by
  induction ps generalizing acc with
  | nil => simp
  | cons p ps ih =>
    rw [visitList_cons, andThen, SweepIndex.collector, if_neg Bool.false_ne_true, ih]
    simp

theorem visitAfter_eq (visit : Visitor τ) (o : Object) (ps : List Object) (t : τ) :
    visitAfter visit o ps t = visitList visit (pairsAfter o ps) t := by
  induction ps generalizing t with
  | nil => rfl
  | cons p ps ih =>
    rw [visitAfter, pairsAfter, reach_cons]
    split
    · rfl
    · split
      · rw [visitList_cons, funext ih, pairsAfter]
      · rw [ih, pairsAfter]

theorem visitPairs_eq (visit : Visitor τ) (os : List Object) (t : τ) :
    visitPairs visit os t = visitList visit (pairsOf os) t := by
  induction os generalizing t with
  | nil => rfl
  | cons o os ih => rw [visitPairs, pairsOf, visitList_append, visitAfter_eq, funext ih]

theorem visitPartners_eq (visit : Visitor τ) (o : Object) (ps : List Object) (t : τ) :
    visitPartners visit o ps t = visitList visit (partnersOf o ps) t := by
  induction ps generalizing t with
  | nil => rfl
  | cons p ps ih =>
    rw [visitPartners, partnersOf, reach_cons]
    split
    · rfl
    · split
      · rw [visitList_cons, funext ih, partnersOf]
      · rw [ih, partnersOf]

end Sweep

namespace SweepIndex

variable {τ : Type}

/-! ### The lists of an index -/

theorem pairs_eq (i : SweepIndex) : i.pairs = Sweep.pairsOf i.objects := by
  rw [pairs, visitPairs, Sweep.visitPairs_eq, Sweep.visitList_collector, List.nil_append]

theorem partners_eq (i : SweepIndex) (o : Object) :
    i.partners o = Sweep.partnersOf o i.objects := by
  rw [partners, visitPartners, Sweep.visitPartners_eq, Sweep.visitList_collector, List.nil_append]

/-- Any visitor goes down the list that one which never stops has written down. -/
theorem visitPairs_eq_visitList (i : SweepIndex) (visit : Visitor τ) (t : τ) :
    i.visitPairs visit t = Sweep.visitList visit i.pairs t := by
  rw [pairs_eq, visitPairs, Sweep.visitPairs_eq]

theorem visitPartners_eq_visitList (i : SweepIndex) (o : Object) (visit : Visitor τ) (t : τ) :
    i.visitPartners o visit t = Sweep.visitList visit (i.partners o) t := by
  rw [partners_eq, visitPartners, Sweep.visitPartners_eq]

end SweepIndex

end Clearance
