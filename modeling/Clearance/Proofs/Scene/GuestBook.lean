import Mathlib.Data.List.FinRange
import Mathlib.Logic.Function.Basic
import Clearance.Proofs.Scene.History
import Clearance.Scene.Group

/-! Groups in one index. A guest book lists the objects in the index in the order in which they came,
each with its handle and with the group that brought it. As long as nobody gives back the handles of
a group behind its back, the handles that a group holds are those of the guests that it brought, and
the index shows just the guests. -/

namespace Clearance

/-- An index, and groups that enter and leave it. -/
structure Scene (n : Nat) where
  index : SweepIndex
  groups : Fin n → Group

/-- What can happen in a scene. A group is disbanded when all its objects are taken from it. -/
inductive Move (n : Nat) where
  | push (g : Fin n) (o : Object)
  | enter (g : Fin n)
  | leave (g : Fin n)
  | disband (g : Fin n)
  | register (o : Object)
  | unregister (h : Handle)
  | clear

/-- An object in an index, with its handle and the group that brought it, if one did. -/
structure Guest (n : Nat) where
  host : Option (Fin n)
  handle : Handle
  object : Object

namespace Guest

variable {n : Nat}

def registration (t : Guest n) : Registration := ⟨t.handle.key, t.object⟩

/-- The guests that a group brought. -/
def of (g : Fin n) (book : List (Guest n)) : List (Guest n) := book.filter (·.host = some g)

/-- The guests that a group brings when its objects get handles. -/
def bring (g : Fin n) (hs : List Handle) (os : List Object) : List (Guest n) :=
  (hs.zip os).map fun e => ⟨some g, e.1, e.2⟩

theorem of_append (g : Fin n) (book guests : List (Guest n)) :
    of g (book ++ guests) = of g book ++ of g guests := List.filter_append ..

theorem of_bring (g k : Fin n) (hs : List Handle) (os : List Object) :
    of k (bring g hs os) = if k = g then bring g hs os else [] := by
  split
  · rename_i hk
    exact List.filter_eq_self.mpr fun t ht => by
      obtain ⟨_, _, rfl⟩ := List.mem_map.mp ht
      simp [hk]
  · rename_i hk
    exact List.filter_eq_nil_iff.mpr fun t ht => by
      obtain ⟨_, _, rfl⟩ := List.mem_map.mp ht
      simpa [eq_comm] using hk

theorem handles_bring (g : Fin n) {hs : List Handle} {os : List Object}
    (h : hs.length = os.length) : (bring g hs os).map handle = hs := by
  rw [bring, List.map_map]
  exact List.map_fst_zip (Nat.le_of_eq h)

theorem objects_bring (g : Fin n) {hs : List Handle} {os : List Object}
    (h : hs.length = os.length) : (bring g hs os).map object = os := by
  rw [bring, List.map_map]
  exact List.map_snd_zip (Nat.le_of_eq h.symm)

end Guest

namespace Scene

variable {n : Nat}

def empty : Scene n := ⟨.empty, fun _ => .empty⟩

def move (s : Scene n) : Move n → Scene n
  | .push g o => ⟨s.index, Function.update s.groups g ((s.groups g).push o)⟩
  | .enter g =>
    let (group, index) := (s.groups g).register s.index
    ⟨index, Function.update s.groups g group⟩
  | .leave g =>
    let (group, index) := (s.groups g).unregister s.index
    ⟨index, Function.update s.groups g group⟩
  | .disband g => ⟨s.index, Function.update s.groups g .empty⟩
  | .register o => ⟨(s.index.register o).2, s.groups⟩
  | .unregister h => ⟨(s.index.unregister h).2, s.groups⟩
  | .clear => ⟨.empty, s.groups⟩

/-- What a move makes of the guest book. A group that enters brings the objects that it has then,
unless it has guests already, and takes all its guests with it when it leaves. -/
def note (s : Scene n) (book : List (Guest n)) : Move n → List (Guest n)
  | .enter g =>
    let os := (s.groups g).objects
    if (Guest.of g book).isEmpty then
      book ++ Guest.bring g (Group.registerAll os s.index).1 os
    else book
  | .leave g => book.filter (·.host ≠ some g)
  | .register o => book ++ [⟨none, (s.index.register o).1, o⟩]
  | .unregister h => book.filter (·.handle ≠ h)
  | .clear => []
  | .push _ _ | .disband _ => book

/-- The moves that respect the groups: an index is cleared while no group holds handles, a group is
disbanded while it holds none, and no handle that a group holds is given back for it. -/
def Admits (s : Scene n) : Move n → Prop
  | .disband g => (s.groups g).isRegistered = false
  | .unregister h => ∀ g, h ∉ (s.groups g).handles
  | .clear => ∀ g, (s.groups g).isRegistered = false
  | _ => True

/-- The scenes that such moves lead to, with their guest books. There are never more objects in the
index than handles to name them by. -/
inductive Reached : Scene n → List (Guest n) → Prop where
  | start : Reached empty []
  | move {s : Scene n} {book : List (Guest n)} {m : Move n} (before : Reached s book)
    (admits : s.Admits m) (fits : (s.move m).index.size ≤ UInt32.size) :
    Reached (s.move m) (s.note book m)

end Scene

theorem Handle.ofKey_key (h : Handle) : Handle.ofKey h.key = h :=
  Handle.key_inj (UInt32.toNat_ofNat_of_lt' h.index.toNat_lt)

theorem Handle.key_injective : Function.Injective Handle.key := fun _ _ => Handle.key_inj

/-! ### An index that groups enter -/

namespace SweepIndex

variable {i : SweepIndex} {rs : List Registration}

/-- Whatever keys they get, the objects of a group come behind those that are there. -/
theorem Shows.exists_registerAll (h : i.Shows rs) (os : List Object) :
    ∃ more, (Group.registerAll os i).2.Shows (rs ++ more) ∧
      more.map Registration.object = os := by
  induction os generalizing i rs with
  | nil => exact ⟨[], by simpa [Group.registerAll] using h, rfl⟩
  | cons o os ih =>
    obtain ⟨more, hmore, hobjects⟩ := ih (h.register o)
    rw [List.append_assoc, List.singleton_append] at hmore
    exact ⟨_, hmore, congrArg (o :: ·) hobjects⟩

theorem Shows.size_le_registerAll (h : i.Shows rs) (os : List Object) :
    i.size ≤ (Group.registerAll os i).2.size := by
  obtain ⟨more, hmore, -⟩ := h.exists_registerAll os
  rw [h.size, hmore.size, List.length_append]
  exact Nat.le_add_right ..

theorem Shows.objects_perm (h : i.Shows rs) : i.objects.Perm (rs.map Registration.object) := by
  rw [objects_eq, h.registrations]
  exact (List.mergeSort_perm rs Registration.startsNoLater).map Registration.object

theorem length_registerAll (os : List Object) (i : SweepIndex) :
    (Group.registerAll os i).1.length = os.length := by
  induction os generalizing i with
  | nil => rfl
  | cons o os ih => exact congrArg Nat.succ (ih _)

theorem Shows.registerAll (h : i.Shows rs) (os : List Object)
    (hslots : i.slab.slots.length ≤ UInt32.size)
    (hfits : (Group.registerAll os i).2.size ≤ UInt32.size) :
    (Group.registerAll os i).2.Shows
        (rs ++ ((Group.registerAll os i).1.zip os).map fun e => ⟨e.1.key, e.2⟩) ∧
      (Group.registerAll os i).2.slab.slots.length ≤ UInt32.size := by
  induction os generalizing i rs with
  | nil => exact ⟨by simpa [Group.registerAll] using h, hslots⟩
  | cons o os ih =>
    have hone := h.register o
    -- The objects to come only make the index larger, so it fits after the first one already.
    have hlen := h.length_slots_register hslots (Nat.le_trans (hone.size_le_registerAll os) hfits)
    rw [← h.key_register hlen] at hone
    have hrest := ih hone hlen hfits
    rwa [List.append_assoc, List.singleton_append] at hrest

theorem Shows.unregisterAll (h : i.Shows rs) (hs : List Handle) :
    (Group.unregisterAll hs i).Shows (rs.filter fun r => r.key ∉ hs.map Handle.key) ∧
      (Group.unregisterAll hs i).slab.slots.length = i.slab.slots.length := by
  induction hs generalizing i rs with
  | nil => exact ⟨by simpa [Group.unregisterAll] using h, rfl⟩
  | cons k hs ih =>
    have hrest := ih (h.unregister k)
    have hboth : (rs.filter fun r => r.key ∉ (k :: hs).map Handle.key) =
        (rs.filter (·.key ≠ k.key)).filter fun r => r.key ∉ hs.map Handle.key := by
      rw [List.filter_filter]
      exact List.filter_congr fun r _ => by simp [Bool.and_comm]
    rw [slots_unregister] at hrest
    rw [hboth]
    exact hrest

end SweepIndex

/-! ### One move -/

namespace Scene

variable {n : Nat}

/-- A group holds the handles of its guests, in the order in which it holds their objects. Objects
that it has got since are behind these. -/
structure Hosts (group : Group) (guests : List (Guest n)) : Prop where
  handles : group.handles = guests.map Guest.handle
  objects : guests.map Guest.object <+: group.objects

/-- The index shows the guests, and every group hosts those that it brought. -/
structure Kept (s : Scene n) (book : List (Guest n)) : Prop where
  shows : s.index.Shows (book.map Guest.registration)
  slots : s.index.slab.slots.length ≤ UInt32.size
  hosts : ∀ g, Hosts (s.groups g) (Guest.of g book)

theorem kept_empty : (empty : Scene n).Kept [] where
  shows := SweepIndex.shows_empty
  slots := Nat.zero_le _
  hosts _ := ⟨rfl, List.prefix_rfl⟩

variable {s : Scene n} {book : List (Guest n)}

/-- A move that changes one group leaves the guests of the others alone. -/
theorem Kept.update (h : s.Kept book) (g : Fin n) {index : SweepIndex} {group : Group}
    {next : List (Guest n)} (hshows : index.Shows (next.map Guest.registration))
    (hslots : index.slab.slots.length ≤ UInt32.size)
    (hothers : ∀ k, k ≠ g → Guest.of k next = Guest.of k book)
    (hgroup : Hosts group (Guest.of g next)) :
    Kept ⟨index, Function.update s.groups g group⟩ next := by
  refine ⟨hshows, hslots, fun k => ?_⟩
  by_cases hk : k = g
  · subst hk
    simpa using hgroup
  · simpa [hk, hothers k hk] using h.hosts k

theorem Kept.nodup (h : s.Kept book) : (book.map Guest.handle).Nodup := by
  have hkeys := h.shows.nodup
  rw [List.map_map] at hkeys
  exact List.Nodup.of_map Handle.key (by rwa [List.map_map])

theorem Kept.isRegistered_iff (h : s.Kept book) (g : Fin n) :
    (s.groups g).isRegistered = true ↔ Guest.of g book ≠ [] := by
  simp [Group.isRegistered, (h.hosts g).handles]

theorem Kept.of_eq_nil (h : s.Kept book) {g : Fin n} (hg : (s.groups g).isRegistered = false) :
    Guest.of g book = [] := by
  by_contra hne
  rw [(h.isRegistered_iff g).mpr hne] at hg
  cases hg

/-- A handle that a group holds is that of a guest which the group brought. -/
theorem Kept.handle_mem_iff (h : s.Kept book) (g : Fin n) {t : Guest n} (ht : t ∈ book) :
    t.handle ∈ (s.groups g).handles ↔ t.host = some g := by
  rw [(h.hosts g).handles, List.mem_map]
  constructor
  · rintro ⟨u, hu, he⟩
    obtain ⟨hu, hhost⟩ := List.mem_filter.mp hu
    rw [← List.inj_on_of_nodup_map h.nodup hu ht he]
    exact of_decide_eq_true hhost
  · exact fun hhost => ⟨t, List.mem_filter.mpr ⟨ht, decide_eq_true hhost⟩, rfl⟩

theorem Kept.push (h : s.Kept book) (g : Fin n) (o : Object) : (s.move (.push g o)).Kept book :=
  h.update g h.shows h.slots (fun _ _ => rfl)
    ⟨(h.hosts g).handles, (h.hosts g).objects.trans (List.prefix_append _ _)⟩

theorem Kept.disband (h : s.Kept book) {g : Fin n} (hg : (s.groups g).isRegistered = false) :
    (s.move (.disband g)).Kept book := by
  have hempty : Hosts .empty (Guest.of g book) := by
    rw [h.of_eq_nil hg]
    exact ⟨rfl, List.prefix_rfl⟩
  exact h.update g h.shows h.slots (fun _ _ => rfl) hempty

theorem Kept.register (h : s.Kept book) (o : Object)
    (hfits : (s.move (.register o)).index.size ≤ UInt32.size) :
    (s.move (.register o)).Kept (s.note book (.register o)) := by
  have hslots := h.shows.length_slots_register h.slots hfits
  have hshows := h.shows.register o
  have hof : ∀ g, Guest.of g (s.note book (.register o)) = Guest.of g book := fun g => by
    simp [Guest.of, note]
  refine ⟨?_, hslots, fun g => ?_⟩
  · rw [← h.shows.key_register hslots] at hshows
    rwa [note, List.map_append]
  · rw [hof]
    exact h.hosts g

theorem Kept.unregister (h : s.Kept book) {k : Handle} (hk : ∀ g, k ∉ (s.groups g).handles) :
    (s.move (.unregister k)).Kept (s.note book (.unregister k)) := by
  have hshows := h.shows.unregister k
  have hbook : (book.map Guest.registration).filter (·.key ≠ k.key) =
      (book.filter (·.handle ≠ k)).map Guest.registration := by
    rw [List.filter_map]
    congr 1
    exact List.filter_congr fun t _ => by simp [Guest.registration, Handle.key_injective.eq_iff]
  have hof : ∀ g, Guest.of g (s.note book (.unregister k)) = Guest.of g book := fun g => by
    rw [Guest.of, note, List.filter_filter]
    refine List.filter_congr fun t ht => ?_
    have hmem := h.handle_mem_iff g ht
    have hne : t.host = some g → t.handle ≠ k := fun hg he => hk g (he ▸ hmem.mpr hg)
    simpa using hne
  refine ⟨hbook ▸ hshows, (SweepIndex.slots_unregister ..).trans_le h.slots, fun g => ?_⟩
  rw [hof]
  exact h.hosts g

theorem Kept.leave (h : s.Kept book) (g : Fin n) :
    (s.move (.leave g)).Kept (s.note book (.leave g)) := by
  have hshows := h.shows.unregisterAll (s.groups g).handles
  have hbook : (book.map Guest.registration).filter
      (·.key ∉ (s.groups g).handles.map Handle.key) =
        (book.filter (·.host ≠ some g)).map Guest.registration := by
    rw [List.filter_map]
    congr 1
    -- Handles tell the guests apart, so the keys that go are those of the guests of this group alone.
    refine List.filter_congr fun t ht => ?_
    have hkey : t.handle.key ∈ (s.groups g).handles.map Handle.key ↔ t.host = some g :=
      (List.mem_map_of_injective Handle.key_injective).trans (h.handle_mem_iff g ht)
    exact decide_eq_decide.mpr (not_congr hkey)
  have hothers : ∀ k, k ≠ g → Guest.of k (s.note book (.leave g)) = Guest.of k book := by
    intro k hk
    rw [Guest.of, note, List.filter_filter]
    refine List.filter_congr fun t _ => ?_
    have hne : t.host = some k → t.host ≠ some g := fun hh he => hk (by simpa [hh] using he)
    simpa using hne
  have hnone : Guest.of g (s.note book (.leave g)) = [] := by
    rw [Guest.of, note, List.filter_filter]
    exact List.filter_eq_nil_iff.mpr fun t _ => by simp
  refine h.update g (hbook ▸ hshows.1) (hshows.2.trans_le h.slots) hothers ?_
  rw [hnone]
  exact ⟨rfl, List.nil_prefix⟩

theorem Kept.enter (h : s.Kept book) (g : Fin n)
    (hfits : (s.move (.enter g)).index.size ≤ UInt32.size) :
    (s.move (.enter g)).Kept (s.note book (.enter g)) := by
  cases hg : (s.groups g).isRegistered with
  | true =>
    have hguests := (h.isRegistered_iff g).mp hg
    have hmove : s.move (.enter g) = s := by simp [move, Group.register, hg]
    have hnote : s.note book (.enter g) = book := by simp [note, hguests]
    rw [hmove, hnote]
    exact h
  | false =>
    have hguests := h.of_eq_nil hg
    have hmove : s.move (.enter g) =
        ⟨(Group.registerAll (s.groups g).objects s.index).2, Function.update s.groups g
          ⟨(s.groups g).objects, (Group.registerAll (s.groups g).objects s.index).1⟩⟩ := by
      simp [move, Group.register, hg]
    have hnote : s.note book (.enter g) = book ++
        Guest.bring g (Group.registerAll (s.groups g).objects s.index).1 (s.groups g).objects := by
      simp [note, hguests]
    rw [hmove] at hfits ⊢
    rw [hnote]
    have hlen := SweepIndex.length_registerAll (s.groups g).objects s.index
    obtain ⟨hshows, hslots⟩ := h.shows.registerAll (s.groups g).objects h.slots hfits
    refine h.update g ?_ hslots (fun k hk => ?_) ?_
    · rw [List.map_append, Guest.bring, List.map_map]
      exact hshows
    · rw [Guest.of_append, Guest.of_bring, if_neg hk, List.append_nil]
    · rw [Guest.of_append, Guest.of_bring, if_pos rfl, hguests, List.nil_append]
      have hobjects := Guest.objects_bring g hlen
      exact ⟨(Guest.handles_bring g hlen).symm, ⟨[], by rw [List.append_nil, hobjects]⟩⟩

theorem Kept.clear (h : s.Kept book) (hg : ∀ g, (s.groups g).isRegistered = false) :
    (s.move .clear).Kept (s.note book .clear) where
  shows := SweepIndex.shows_empty
  slots := Nat.zero_le _
  hosts g := by
    have hold := h.hosts g
    rw [h.of_eq_nil (hg g)] at hold
    exact hold

/-! ### Scenes that are reached -/

theorem kept_of_reached (h : Reached s book) : s.Kept book := by
  induction h with
  | start => exact kept_empty
  | @move s book m _ admits fits ih =>
    cases m with
    | push g o => exact ih.push g o
    | enter g => exact ih.enter g fits
    | leave g => exact ih.leave g
    | disband g => exact ih.disband admits
    | register o => exact ih.register o fits
    | unregister k => exact ih.unregister admits
    | clear => exact ih.clear admits

/-- How an index and its groups stand beside the guest book. -/
structure Bookkept (s : Scene n) (book : List (Guest n)) : Prop where
  /-- The index shows just the guests, sorted by where they start and then by when they came. -/
  toList : s.index.toList =
    (SweepIndex.arrange (book.map Guest.registration)).map Registration.entry
  objects : s.index.objects.Perm (book.map Guest.object)
  /-- No handle is held twice, be it by one group or by two. -/
  nodup : ((List.finRange n).flatMap fun g => (s.groups g).handles).Nodup
  handles : ∀ g, (s.groups g).handles = (Guest.of g book).map Guest.handle
  /-- The handles of a group name its objects, in order. -/
  named : ∀ g (k : Nat) (h : Handle), (s.groups g).handles[k]? = some h →
    ∃ o, (s.groups g).objects[k]? = some o ∧ s.index.get? h = some o
  again : ∀ g, (s.groups g).isRegistered = true → s.move (.enter g) = s
  leave : ∀ g, ((s.move (.leave g)).groups g).isRegistered = false ∧
    (s.move (.leave g)).index.toList =
      s.index.toList.filter fun e => e.1 ∉ (s.groups g).handles

theorem Kept.toList (h : s.Kept book) : s.index.toList =
    (SweepIndex.arrange (book.map Guest.registration)).map Registration.entry := by
  rw [SweepIndex.toList_eq, h.shows.registrations]

theorem Kept.objects_perm (h : s.Kept book) : s.index.objects.Perm (book.map Guest.object) := by
  have hperm := h.shows.objects_perm
  rwa [List.map_map] at hperm

theorem Kept.nodup_handles (h : s.Kept book) :
    ((List.finRange n).flatMap fun g => (s.groups g).handles).Nodup := by
  rw [List.nodup_flatMap]
  refine ⟨fun g _ => ?_, (List.nodup_finRange n).imp fun {g k} hne => ?_⟩
  · rw [(h.hosts g).handles]
    exact h.nodup.sublist (List.filter_sublist.map _)
  · intro x (hg : x ∈ (s.groups g).handles) (hk : x ∈ (s.groups k).handles)
    have hx := hg
    rw [(h.hosts g).handles, List.mem_map] at hx
    obtain ⟨t, ht, rfl⟩ := hx
    have hmem := (List.mem_filter.mp ht).1
    have hhost := ((h.handle_mem_iff g hmem).mp hg).symm.trans ((h.handle_mem_iff k hmem).mp hk)
    exact hne (Option.some.inj hhost)

theorem Kept.get? (h : s.Kept book) {t : Guest n} (ht : t ∈ book) :
    s.index.get? t.handle = some t.object :=
  h.shows.get?_of_mem (List.mem_map_of_mem ht)

theorem Kept.named (h : s.Kept book) (g : Fin n) (k : Nat) (x : Handle)
    (hx : (s.groups g).handles[k]? = some x) :
    ∃ o, (s.groups g).objects[k]? = some o ∧ s.index.get? x = some o := by
  rw [(h.hosts g).handles, List.getElem?_map, Option.map_eq_some_iff] at hx
  obtain ⟨t, ht, rfl⟩ := hx
  obtain ⟨later, hlater⟩ := (h.hosts g).objects
  have hobject : ((Guest.of g book).map Guest.object)[k]? = some t.object := by
    rw [List.getElem?_map, ht]
    rfl
  refine ⟨t.object, ?_, h.get? (List.mem_filter.mp (List.mem_of_getElem? ht)).1⟩
  rw [← hlater, List.getElem?_append_left (List.getElem?_eq_some_iff.mp hobject).1, hobject]

/-- A group that leaves takes its own guests with it and moves no others. -/
theorem Kept.toList_leave (h : s.Kept book) (g : Fin n) : (s.move (.leave g)).index.toList =
    s.index.toList.filter fun e => e.1 ∉ (s.groups g).handles := by
  rw [(h.leave g).toList, h.toList, List.filter_map, SweepIndex.filter_arrange, note,
    List.filter_map]
  congr 3
  refine List.filter_congr fun t ht => ?_
  have hmem := h.handle_mem_iff g ht
  simp [Registration.entry, Guest.registration, Handle.ofKey_key, hmem]

/-- Whatever groups enter and leave an index and whatever else comes and goes beside them, the guest
book tells what the index shows and which handles each group holds. -/
theorem bookkept_of_reached (h : Reached s book) : s.Bookkept book := by
  have hk := kept_of_reached h
  exact {
    toList := hk.toList
    objects := hk.objects_perm
    nodup := hk.nodup_handles
    handles := fun g => (hk.hosts g).handles
    named := hk.named
    again := fun g hg => by simp [move, Group.register, hg]
    leave := fun g => ⟨by simp [move, Group.unregister, Group.isRegistered], hk.toList_leave g⟩ }

/-- A plate gets the handle that an arm has given back, and the hand that came between them stays
until its group leaves. -/
theorem bookkept_armAndHand :
    let arm := Object.ball 0 (.robotLink "arm")
    let hand := Object.ball 1 (.robotLink "hand")
    let plate := Object.ball 2 (.worldObject "plate")
    let s : Scene 2 := (((((empty.move (.push 0 arm)).move (.enter 0)).move (.push 1 hand)).move
      (.enter 1)).move (.leave 0)).move (.register plate)
    let book : List (Guest 2) := [⟨some 1, ⟨1⟩, hand⟩, ⟨none, ⟨0⟩, plate⟩]
    Reached s book ∧ s.index.objects.Perm [hand, plate] ∧ s.index.get? ⟨1⟩ = some hand ∧
      ((s.move (.leave 1)).groups 1).isRegistered = false := by
  intro arm hand plate s book
  have hreached : Reached s book :=
    .move (.move (.move (.move (.move (.move .start (m := .push 0 arm) trivial (by decide))
      (m := .enter 0) trivial (by decide)) (m := .push 1 hand) trivial (by decide))
      (m := .enter 1) trivial (by decide)) (m := .leave 0) trivial (by decide))
      (m := .register plate) trivial (by decide)
  have hbook := bookkept_of_reached hreached
  obtain ⟨o, ho, hget⟩ := hbook.named 1 0 ⟨1⟩ rfl
  cases ho
  exact ⟨hreached, hbook.objects, hget, (hbook.leave 1).1⟩

end Scene

end Clearance
