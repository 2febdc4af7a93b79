import Clearance.Proofs.Scene.AllPairs

/-! One object against an index. The sweep that looks for the partners of an object starts at the
beginning of the row and leaves out the object itself; the sweep over all pairs starts at each
object in turn. They agree: the partners of an object are those that it has among all pairs once it is
registered, wherever ties and values that are no number put it in the row. -/

namespace Clearance

namespace Sweep

variable {τ : Type}

/-- The other object of a pair that `o` is in. -/
def partner? (o : Object) (x : Object × Object) : Option Object :=
  if x.1.serial = o.serial then some x.2
  else if x.2.serial = o.serial then some x.1
  else none

/-- A row in which `o` does not stand. -/
def Lacks (o : Object) (ps : List Object) : Prop := ∀ p ∈ ps, p.serial ≠ o.serial

instance (o : Object) (ps : List Object) : Decidable (Lacks o ps) :=
  inferInstanceAs (Decidable (∀ p ∈ ps, p.serial ≠ o.serial))

/-! ### The sweep from one object -/

theorem partnersOf_eq (o : Object) {ps : List Object} (h : StartsInOrder ps) : partnersOf o ps =
    (ps.filter fun p => p.serial ≠ o.serial && o.bounds.overlaps p.bounds).map (o, ·) := by
  have hserial : (fun p : Object => decide (o.serial ≠ p.serial) && o.bounds.overlaps p.bounds) =
      fun p => decide (p.serial ≠ o.serial) && o.bounds.overlaps p.bounds := by
    funext p
    simp only [ne_comm]
  rw [partnersOf, hserial]
  exact reach_eq (fun p hp => (Bool.and_eq_true_iff.mp hp).2) h

theorem visitList_recording (visit : Visitor τ) (ps : List (Object × Object)) (t : τ) :
    visitList (recording visit) ps (t, []) =
      ((runAll visit (shown visit ps t) t, shown visit ps t), (answers visit ps t).any id) := by
  rw [visitList_eq_runAll, shown, answers_recording, runAll_recording, List.nil_append]
  rfl

/-! ### The pairs of one object -/

theorem filterMap_partner?_self (o : Object) (ps : List Object) :
    (ps.map (o, ·)).filterMap (partner? o) = ps := by
  rw [List.filterMap_map]
  exact (List.filterMap_congr fun p _ => if_pos rfl).trans List.filterMap_some

/-- Pairs of another object with a row that lacks `o`. -/
theorem filterMap_partner?_of_lacks {o x : Object} (hx : x.serial ≠ o.serial) {ps : List Object}
    (h : Lacks o ps) : (ps.map (x, ·)).filterMap (partner? o) = [] := by
  rw [List.filterMap_map, List.filterMap_eq_nil_iff]
  intro p hp
  rw [Function.comp_apply, partner?, if_neg hx, if_neg (h p hp)]

theorem Lacks.filter {o : Object} {ps : List Object} (h : Lacks o ps) (picks : Object → Bool) :
    Lacks o (ps.filter picks) := fun p hp => h p (List.mem_of_mem_filter hp)

theorem partners_in_overlapping_of_lacks {o : Object} {ps : List Object} (h : Lacks o ps) :
    (overlapping ps).filterMap (partner? o) = [] := by
  induction ps with
  | nil => rfl
  | cons x ps ih =>
    have hcons := List.forall_mem_cons.mp h
    have hrest : Lacks o ps := hcons.2
    rw [overlapping_cons, List.filterMap_append, ih hrest,
      filterMap_partner?_of_lacks hcons.1 (hrest.filter _), List.append_nil]

/-- Wherever `o` stands among the others, its partners come up in the order of the row: those before
it each in a pair of their own, and then those after it in the pairs of `o`. -/
theorem partners_in_overlapping {o : Object} {before after : List Object}
    (hbefore : Lacks o before) (hafter : Lacks o after) :
    (overlapping (before ++ o :: after)).filterMap (partner? o) =
      (before ++ after).filter fun p => o.bounds.overlaps p.bounds := by
  induction before with
  | nil =>
    rw [List.nil_append, overlapping_cons, List.filterMap_append, filterMap_partner?_self,
      partners_in_overlapping_of_lacks hafter, List.append_nil, List.nil_append]
  | cons x before ih =>
    have hcons := List.forall_mem_cons.mp hbefore
    have hrest : Lacks o before := hcons.2
    have hpair : partner? o (x, o) = some x := by rw [partner?, if_neg hcons.1, if_pos rfl]
    rw [List.cons_append, overlapping_cons, List.filterMap_append, ih hrest, List.filter_append,
      List.map_append, List.filterMap_append, filterMap_partner?_of_lacks hcons.1 (hrest.filter _),
      List.nil_append, List.cons_append, List.filter_cons, List.filter_cons,
      Bounds.overlaps_comm x.bounds o.bounds]
    cases o.bounds.overlaps x.bounds with
    | true =>
      rw [if_pos rfl, if_pos rfl, List.map_cons, List.filterMap_cons, hpair,
        filterMap_partner?_of_lacks hcons.1 (hafter.filter _)]
      rfl
    | false =>
      rw [if_neg Bool.false_ne_true, if_neg Bool.false_ne_true,
        filterMap_partner?_of_lacks hcons.1 (hafter.filter _), List.nil_append]

end Sweep

namespace SweepIndex

variable {τ : Type}

/-- A new object is put somewhere among the others, which keep their order. -/
theorem exists_objects_register (cs : List Change) (o : Object) :
    ∃ before later, (after cs).objects = before ++ later ∧
      (after (cs ++ [.register o])).objects = before ++ o :: later := by
  have hplace : ∃ rs ss r, arrange (live cs) = rs ++ ss ∧ r.object = o ∧
      arrange (live (cs ++ [.register o])) = rs ++ r :: ss := by
    rw [live_append_singleton]
    exact ⟨_, _, _, (List.takeWhile_append_dropWhile ..).symm, rfl,
      StableOrder.mergeSort_append_singleton_while startsNoLater_trans startsNoLater_total ..⟩
  obtain ⟨rs, ss, r, hold, rfl, hnew⟩ := hplace
  refine ⟨rs.map Registration.object, ss.map Registration.object, ?_, ?_⟩
  · rw [objects_eq, (shows_after cs).registrations, hold, List.map_append]
  · rw [objects_eq, (shows_after _).registrations, hnew, List.map_append, List.map_cons]

/-- After any history, a visitor is called on an object and each registered one that is not the same
and has an overlapping box, sorted by where they start, up to the first pair to which it answers
`true`. If the object is not registered, these are the partners that it has among all pairs of the
index once it is. -/
theorem visitPartners_after (cs : List Change) (o : Object) (visit : Visitor τ) (t : τ) :
    let met := (after cs).objects.filter fun p =>
      p.serial ≠ o.serial && o.bounds.overlaps p.bounds
    let pairs := met.map (o, ·)
    let seen := Sweep.shown visit pairs t
    let stopped := (Sweep.answers visit pairs t).any id
    met.Pairwise (fun p r => Number.totalLe p.bounds.low.x r.bounds.low.x = true) ∧
      (after cs).partners o = pairs ∧
      (after cs).visitPartners o visit t = (Sweep.runAll visit seen t, stopped) ∧
      (after cs).visitPartners o (Sweep.recording visit) (t, []) =
        ((Sweep.runAll visit seen t, seen), stopped) ∧
      (Sweep.Lacks o (after cs).objects →
        met = (after cs).objects.filter (fun p => o.bounds.overlaps p.bounds) ∧
          (after (cs ++ [.register o])).pairs.filterMap (Sweep.partner? o) = met) := by
  intro met pairs seen stopped
  have hpairs : Sweep.partnersOf o (after cs).objects = pairs :=
    Sweep.partnersOf_eq o (startsInOrder_after cs)
  refine ⟨(pairwise_objects_after cs).filter _, ?_, ?_, ?_, fun hlacks => ?_⟩
  · rw [partners_eq, hpairs]
  · rw [visitPartners, Sweep.visitPartners_eq, hpairs, Sweep.visitList_eq_runAll]
  · rw [visitPartners, Sweep.visitPartners_eq, hpairs, Sweep.visitList_recording]
  · have hmet : met = (after cs).objects.filter (fun p => o.bounds.overlaps p.bounds) :=
      List.filter_congr fun p hp => by rw [decide_eq_true (hlacks p hp), Bool.true_and]
    refine ⟨hmet, ?_⟩
    obtain ⟨before, later, hold, hnew⟩ := exists_objects_register cs o
    rw [hold, Sweep.Lacks, List.forall_mem_append] at hlacks
    rw [pairs_eq, Sweep.pairsOf_eq_overlapping (startsInOrder_after _), hnew,
      Sweep.partners_in_overlapping hlacks.1 hlacks.2, hmet, hold]

/-- A ball of radius one around a point of the `x` axis. -/
def ballAt (serial : Nat) (id : BodyId) (x : Float) : Object :=
  .make serial (.worldObject id) ⟨.ball 1, .identity, .sphere⟩ (.shift ⟨x, 0, 0⟩)

/-- The spoon overlaps the cup and the bowl, and once it is registered it stands between them. -/
theorem partners_spoon :
    let cs : List Change := [.register (ballAt 0 "bowl" 1.5), .register (ballAt 1 "plate" 5),
      .register (ballAt 2 "cup" 0)]
    let spoon := ballAt 3 "spoon" 1
    Sweep.Lacks spoon (after cs).objects ∧
      ((after cs).partners spoon).map (·.2.serial) = [2, 0] ∧
      (after (cs ++ [.register spoon])).objects.map Object.serial = [2, 3, 0, 1] ∧
      ((after (cs ++ [.register spoon])).pairs.filterMap (Sweep.partner? spoon)).map Object.serial =
        [2, 0] := by
  intro cs spoon
  have hlacks : Sweep.Lacks spoon (after cs).objects := by decide +kernel
  have hserials : ((after cs).partners spoon).map (·.2.serial) = [2, 0] := by decide +kernel
  obtain ⟨-, hpartners, -, -, hpairs⟩ := visitPartners_after cs spoon collector []
  have hmet := hserials
  rw [hpartners, List.map_map] at hmet
  exact ⟨hlacks, hserials, by decide +kernel,
    (congrArg (List.map Object.serial) (hpairs hlacks).2).trans hmet⟩

end SweepIndex

end Clearance
