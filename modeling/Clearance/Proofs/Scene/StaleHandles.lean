import Clearance.Proofs.Scene.GuestBook

/-! What a group knows of its objects once they are in an index. It knows it from its handles alone.
Among moves that respect the groups this is enough; an index that is cleared under a group leaves it
with stale handles, which keep it from entering again and may come to name the objects of others. -/

namespace Clearance.Scene

variable {n : Nat}

/-- A group takes nothing out of the index but the guests that it brought, is registered only while
an object of it is in the index, and has one there when it has entered. -/
structure Truthful (s : Scene n) (book : List (Guest n)) (g : Fin n) : Prop where
  leave : ∀ e ∈ s.index.toList, e ∉ (s.move (.leave g)).index.toList →
    ∃ t ∈ Guest.of g book, e = (t.handle, t.object)
  registered : (s.groups g).isRegistered = true →
    ∃ o ∈ (s.groups g).objects, o ∈ s.index.objects
  enter : (s.groups g).objects ≠ [] →
    ∃ o ∈ (s.groups g).objects, o ∈ (s.move (.enter g)).index.objects

variable {s : Scene n} {book : List (Guest n)}

theorem Kept.exists_guest (h : s.Kept book) (g : Fin n) {e : Handle × Object}
    (he : e ∈ s.index.toList) (hgone : e ∉ (s.move (.leave g)).index.toList) :
    ∃ t ∈ Guest.of g book, e = (t.handle, t.object) := by
  rw [h.toList_leave, List.mem_filter, decide_eq_true_iff, not_and, not_not] at hgone
  have hheld := hgone he
  rw [h.toList, List.mem_map] at he
  obtain ⟨r, hr, rfl⟩ := he
  obtain ⟨t, ht, rfl⟩ := List.mem_map.mp ((SweepIndex.mem_arrange ..).mp hr)
  have hentry : t.registration.entry = (t.handle, t.object) :=
    Prod.ext (Handle.ofKey_key t.handle) rfl
  rw [hentry] at hheld ⊢
  have hhost := (h.handle_mem_iff g ht).mp hheld
  exact ⟨t, List.mem_filter.mpr ⟨ht, decide_eq_true hhost⟩, rfl⟩

theorem Kept.exists_of_isRegistered (h : s.Kept book) {g : Fin n}
    (hg : (s.groups g).isRegistered = true) :
    ∃ o ∈ (s.groups g).objects, o ∈ s.index.objects := by
  obtain ⟨t, ht⟩ := List.exists_mem_of_ne_nil _ ((h.isRegistered_iff g).mp hg)
  refine ⟨t.object, (h.hosts g).objects.subset (List.mem_map_of_mem ht), ?_⟩
  exact h.objects_perm.mem_iff.mpr (List.mem_map_of_mem (List.mem_filter.mp ht).1)

theorem Kept.exists_of_enter (h : s.Kept book) {g : Fin n} (hg : (s.groups g).objects ≠ []) :
    ∃ o ∈ (s.groups g).objects, o ∈ (s.move (.enter g)).index.objects := by
  cases hreg : (s.groups g).isRegistered with
  | true =>
    obtain ⟨o, ho, hindex⟩ := h.exists_of_isRegistered hreg
    exact ⟨o, ho, by simpa [move, Group.register, hreg] using hindex⟩
  | false =>
    obtain ⟨o, ho⟩ := List.exists_mem_of_ne_nil _ hg
    obtain ⟨more, hmore, hobjects⟩ := h.shows.exists_registerAll (s.groups g).objects
    have hindex : o ∈ (Group.registerAll (s.groups g).objects s.index).2.objects := by
      rw [hmore.objects_perm.mem_iff, List.map_append, hobjects]
      exact List.mem_append_right _ ho
    exact ⟨o, ho, by simpa [move, Group.register, hreg] using hindex⟩

/-- Among moves that respect the groups every group is truthful. -/
theorem truthful_of_reached (h : Reached s book) (g : Fin n) : s.Truthful book g :=
  have hk := kept_of_reached h
  ⟨fun _ => hk.exists_guest g, hk.exists_of_isRegistered, hk.exists_of_enter⟩

/-- A cup with a plate beside it is known to its group, and is all that the group would take. -/
theorem truthful_cupAndPlate :
    let cup := Object.ball 0 (.worldObject "cup")
    let plate := Object.ball 1 (.worldObject "plate")
    let s : Scene 1 := ((empty.move (.push 0 cup)).move (.enter 0)).move (.register plate)
    let book : List (Guest 1) := [⟨some 0, ⟨0⟩, cup⟩, ⟨none, ⟨1⟩, plate⟩]
    Reached s book ∧ s.Truthful book 0 ∧ ∃ o ∈ (s.groups 0).objects, o ∈ s.index.objects := by
  intro cup plate s book
  have hreached : Reached s book :=
    .move (.move (.move .start (m := .push 0 cup) trivial (by decide))
      (m := .enter 0) trivial (by decide)) (m := .register plate) trivial (by decide)
  have htruthful := truthful_of_reached hreached 0
  exact ⟨hreached, htruthful, htruthful.registered rfl⟩

/-- A group whose index is cleared takes itself for registered, and so does not enter again. When it
leaves at last, it takes away a plate that has got the handle of its cup. -/
theorem not_truthful_cleared :
    let cup := Object.ball 0 (.worldObject "cup")
    let plate := Object.ball 1 (.worldObject "plate")
    let cleared : Scene 1 := ((empty.move (.push 0 cup)).move (.enter 0)).move .clear
    let laid := cleared.move (.register plate)
    ((cleared.groups 0).isRegistered = true ∧ cleared.index.objects = [] ∧
        (cleared.move (.enter 0)).index.objects = [] ∧ ¬ cleared.Truthful [] 0) ∧
      laid.index.objects = [plate] ∧ (laid.move (.leave 0)).index.objects = [] ∧
        ¬ laid.Truthful [⟨none, ⟨0⟩, plate⟩] 0 := by
  intro cup plate cleared laid
  refine ⟨⟨rfl, rfl, rfl, fun h => ?_⟩, rfl, rfl, fun h => ?_⟩
  · obtain ⟨o, -, ho⟩ := h.registered rfl
    exact absurd ho List.not_mem_nil
  · have hlaid : (⟨0⟩, plate) ∈ laid.index.toList := List.mem_singleton_self _
    obtain ⟨t, ht, -⟩ := h.leave _ hlaid List.not_mem_nil
    exact absurd ht List.not_mem_nil

end Clearance.Scene
