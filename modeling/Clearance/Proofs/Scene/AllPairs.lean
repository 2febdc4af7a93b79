import Clearance.Proofs.Number.Comparison
import Clearance.Proofs.Scene.Candidates
import Clearance.Proofs.Scene.History

/-! The sweep against the plain enumeration of all pairs. A sweep that leaves a row at the first
object it has passed loses no pair, since the objects after it start no earlier. The order that
sorts the objects also places zeros with a sign and values that are no number, while the sweep
compares as numbers do: all that is needed of the order is that no object starts before one that
stands before it. -/

namespace Clearance

namespace Sweep

variable {τ : Type}

/-! ### All pairs -/

/-- The objects behind the place `k` that pass a test. -/
def later (os : List Object) (k : Nat) (picks : Object → Bool) : List Object :=
  (os.zipIdx.filter fun y => k < y.2 && picks y.1).map Prod.fst

/-- The pairs of an object with a later one whose boxes overlap, in the order of their places. -/
def overlapping (os : List Object) : List (Object × Object) :=
  os.zipIdx.flatMap fun x => (later os x.2 fun p => x.1.bounds.overlaps p.bounds).map (x.1, ·)

theorem zipIdx_cons_eq (o : Object) (os : List Object) :
    (o :: os).zipIdx = (o, 0) :: os.zipIdx.map fun y => (y.1, y.2 + 1) := by
  rw [List.zipIdx_cons, Nat.zero_add, List.zipIdx_succ]

theorem later_cons_zero (o : Object) (os : List Object) (picks : Object → Bool) :
    later (o :: os) 0 picks = os.filter picks := by
  rw [later, zipIdx_cons_eq]
  conv_rhs => rw [← List.zipIdx_map_fst 0 os, List.filter_map]
  simp [List.filter_map, Function.comp_def]

theorem later_cons_succ (o : Object) (os : List Object) (k : Nat) (picks : Object → Bool) :
    later (o :: os) (k + 1) picks = later os k picks := by
  rw [later, zipIdx_cons_eq]
  simp [later, List.filter_map, Function.comp_def]

/-- The pairs of the first object come first. -/
theorem overlapping_cons (o : Object) (os : List Object) : overlapping (o :: os) =
    (os.filter fun p => o.bounds.overlaps p.bounds).map (o, ·) ++ overlapping os := by
  simp only [overlapping, zipIdx_cons_eq, List.flatMap_cons, List.flatMap_map, later_cons_zero,
    later_cons_succ]

/-- No object starts before one that stands before it. -/
def StartsInOrder (os : List Object) : Prop :=
  os.Pairwise fun o p => ¬ p.bounds.low.x < o.bounds.low.x

theorem not_overlaps_of_isPast {o p x : Object} (hp : isPast o p = true)
    (hx : ¬ x.bounds.low.x < p.bounds.low.x) : o.bounds.overlaps x.bounds = false := by
  refine Bool.eq_false_iff.mpr fun ho => hx ?_
  simp only [Bounds.overlaps, Bounds.below, Bool.and_eq_true] at ho
  exact Number.lt_of_le_of_lt (of_decide_eq_true ho.2.1.1) (of_decide_eq_true hp)

/-- An object that the sweep from `o` leaves out does not overlap `o`. -/
theorem reach_eq {o : Object} {picks : Object → Bool}
    (hpicks : ∀ p, picks p = true → o.bounds.overlaps p.bounds = true) {ps : List Object}
    (h : StartsInOrder ps) : reach o picks ps = (ps.filter picks).map (o, ·) := by
  induction ps with
  | nil => rfl
  | cons p ps ih =>
    have hlater := List.pairwise_cons.mp h
    rw [reach_cons]
    cases hpast : isPast o p with
    | true =>
      have hself : ¬ p.bounds.low.x < p.bounds.low.x := by simp [Number.lt_iff_rank]
      have hnone : (p :: ps).filter picks = [] := by
        refine List.filter_eq_nil_iff.mpr fun x hx hpick => ?_
        have hapart : o.bounds.overlaps x.bounds = false := by
          rcases List.mem_cons.mp hx with rfl | hx
          · exact not_overlaps_of_isPast hpast hself
          · exact not_overlaps_of_isPast hpast (hlater.1 x hx)
        exact Bool.false_ne_true (hapart.symm.trans (hpicks x hpick))
      rw [hnone]
      rfl
    | false =>
      rw [ih hlater.2, List.filter_cons]
      cases picks p <;> rfl

theorem pairsAfter_eq (o : Object) {ps : List Object} (h : StartsInOrder ps) :
    pairsAfter o ps = (ps.filter fun p => o.bounds.overlaps p.bounds).map (o, ·) :=
  reach_eq (fun _ => id) h

theorem pairsOf_eq_overlapping {os : List Object} (h : StartsInOrder os) :
    pairsOf os = overlapping os := by
  induction os with
  | nil => rfl
  | cons o os ih =>
    rw [pairsOf, overlapping_cons, pairsAfter_eq o h.of_cons, ih h.of_cons]

/-! ### What a visitor sees -/

/-- The state of a visitor that is shown all of a row. -/
def runAll (visit : Visitor τ) (ps : List (Object × Object)) (t : τ) : τ :=
  ps.foldl (fun t p => (visit t p.1 p.2).1) t

/-- The answers of a visitor that is shown all of a row. -/
def answers (visit : Visitor τ) : List (Object × Object) → τ → List Bool
  | [], _ => []
  | p :: ps, t => (visit t p.1 p.2).2 :: answers visit ps (visit t p.1 p.2).1

/-- The pairs up to the first to which the visitor answers `true`, that one included. -/
def shown (visit : Visitor τ) (ps : List (Object × Object)) (t : τ) : List (Object × Object) :=
  ps.take ((answers visit ps t).findIdx id + 1)

/-- The visitor with the list of the pairs that it was called on. -/
def recording (visit : Visitor τ) : Visitor (τ × List (Object × Object)) := fun s a b =>
  (((visit s.1 a b).1, s.2 ++ [(a, b)]), (visit s.1 a b).2)

theorem shown_cons (visit : Visitor τ) (p : Object × Object) (ps : List (Object × Object)) (t : τ) :
    shown visit (p :: ps) t =
      p :: if (visit t p.1 p.2).2 then [] else shown visit ps (visit t p.1 p.2).1 := by
  rw [shown, answers, List.findIdx_cons, List.take_succ_cons]
  cases (visit t p.1 p.2).2 <;> rfl

theorem visitList_eq_runAll (visit : Visitor τ) (ps : List (Object × Object)) (t : τ) :
    visitList visit ps t = (runAll visit (shown visit ps t) t, (answers visit ps t).any id) := by
  induction ps generalizing t with
  | nil => rfl
  | cons p ps ih =>
    rw [visitList_cons, andThen, shown_cons, answers, List.any_cons]
    cases hstop : (visit t p.1 p.2).2 with
    | true => exact Prod.ext rfl hstop
    | false => simp [runAll, ih]

theorem answers_recording (visit : Visitor τ) (ps seen : List (Object × Object)) (t : τ) :
    answers (recording visit) ps (t, seen) = answers visit ps t := by
  induction ps generalizing t seen with
  | nil => rfl
  | cons p ps ih => rw [answers, answers, recording, ih]

theorem runAll_recording (visit : Visitor τ) (ps seen : List (Object × Object)) (t : τ) :
    runAll (recording visit) ps (t, seen) = (runAll visit ps t, seen ++ ps) := by
  induction ps generalizing t seen with
  | nil => simp [runAll]
  | cons p ps ih =>
    have hstep : runAll (recording visit) (p :: ps) (t, seen) =
        runAll (recording visit) ps ((visit t p.1 p.2).1, seen ++ [p]) := rfl
    rw [hstep, ih, List.append_assoc]
    rfl

end Sweep

namespace SweepIndex

variable {τ : Type}

/-- The objects are sorted by where they start, in the order that has a place for every value. -/
theorem pairwise_objects_after (cs : List Change) : (after cs).objects.Pairwise fun p r =>
    Number.totalLe p.bounds.low.x r.bounds.low.x = true := by
  rw [objects_eq, (shows_after cs).registrations, arrange, List.pairwise_map]
  exact List.pairwise_mergeSort startsNoLater_trans startsNoLater_total _

theorem startsInOrder_after (cs : List Change) : Sweep.StartsInOrder (after cs).objects :=
  (pairwise_objects_after cs).imp Number.not_lt_of_totalLe

/-- After any history, a visitor is called on the overlapping pairs of the sorted objects, each once
and in the order of their places, up to the first to which it answers `true`. -/
theorem visitPairs_after (cs : List Change) (visit : Visitor τ) (t : τ) :
    let pairs := Sweep.overlapping (after cs).objects
    let seen := Sweep.shown visit pairs t
    let stopped := (Sweep.answers visit pairs t).any id
    (after cs).visitPairs visit t = (Sweep.runAll visit seen t, stopped) ∧
      (after cs).visitPairs (Sweep.recording visit) (t, []) =
        ((Sweep.runAll visit seen t, seen), stopped) := by
  have hpairs := Sweep.pairsOf_eq_overlapping (startsInOrder_after cs)
  constructor
  · rw [visitPairs, Sweep.visitPairs_eq, hpairs, Sweep.visitList_eq_runAll]
  · rw [visitPairs, Sweep.visitPairs_eq, hpairs, Sweep.visitList_eq_runAll, Sweep.shown,
      Sweep.answers_recording, Sweep.runAll_recording, List.nil_append]
    rfl

end SweepIndex

end Clearance
