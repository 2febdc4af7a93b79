import Mathlib.Data.List.Basic
import Mathlib.Data.List.Induction
import Clearance.Proofs.Contact.Answers
import Clearance.Proofs.Scene.Slots
import Clearance.Proofs.Scene.StableOrder
import Clearance.Scene.SweepIndex

/-! Histories of an index. Whatever objects come and go, the keys in sweep order are the keys that
are taken, and the objects are those of the live registrations, sorted by where they start and then
by when they came. Objects that have left leave no trace, not even in keys that are used again. -/

namespace Clearance

/-- A change to an index. -/
inductive Change where
  | register (o : Object)
  | unregister (h : Handle)
  | clear

/-- Whether `o` starts no later along `x` than `p`. -/
def Object.startsNoLater (o p : Object) : Bool :=
  Number.totalLe o.bounds.low.x p.bounds.low.x

theorem Handle.key_inj {h k : Handle} (e : h.key = k.key) : h = k :=
  congrArg Handle.mk (UInt32.toNat_inj.mp e)

/-- An object in an index, with the key that it got. -/
structure Registration where
  key : Nat
  object : Object

namespace Registration

def entry (r : Registration) : Handle × Object := (Handle.ofKey r.key, r.object)

def startsNoLater (r s : Registration) : Bool := r.object.startsNoLater s.object

end Registration

namespace SweepIndex

def change (i : SweepIndex) : Change → SweepIndex
  | .register o => (i.register o).2
  | .unregister h => (i.unregister h).2
  | .clear => .empty

/-- The index after a row of changes. -/
def after (cs : List Change) : SweepIndex := cs.foldl change .empty

/-- What a change makes of the live registrations, which stand in the order in which they were
made. -/
def note (i : SweepIndex) (live : List Registration) : Change → List Registration
  | .register o => live ++ [⟨(i.slab.insert o).1, o⟩]
  | .unregister h => live.filter (·.key ≠ h.key)
  | .clear => []

/-- The live registrations after a row of changes. -/
def live (cs : List Change) : List Registration :=
  (cs.foldl (fun s c => (s.1.change c, s.1.note s.2 c)) (empty, [])).2

/-- The registrations that an index shows, in sweep order. -/
def registrations (i : SweepIndex) : List Registration :=
  i.sorted.filterMap fun k => (i.slab.get? k).map fun o => ⟨k, o⟩

def arrange (rs : List Registration) : List Registration :=
  rs.mergeSort Registration.startsNoLater

@[simp] theorem after_append_singleton (cs : List Change) (c : Change) :
    after (cs ++ [c]) = (after cs).change c := List.foldl_append

theorem live_append_singleton (cs : List Change) (c : Change) :
    live (cs ++ [c]) = (after cs).note (live cs) c := by
  have hfst : ∀ (cs : List Change) (s : SweepIndex × List Registration),
      (cs.foldl (fun s c => (s.1.change c, s.1.note s.2 c)) s).1 = cs.foldl change s.1 := by
    intro cs
    induction cs with
    | nil => exact fun _ => rfl
    | cons c cs ih => exact fun s => ih _
  rw [live, List.foldl_append, List.foldl_cons, List.foldl_nil, hfst]
  rfl

theorem toList_eq (i : SweepIndex) : i.toList = i.registrations.map Registration.entry := by
  rw [registrations, List.map_filterMap]
  simp [toList, Registration.entry, Function.comp_def]

theorem objects_eq (i : SweepIndex) : i.objects = i.registrations.map Registration.object := by
  rw [registrations, List.map_filterMap]
  simp [objects, Function.comp_def]

/-! ### Order -/

theorem startsNoLater_trans (r s t : Registration) (h : r.startsNoLater s = true)
    (k : s.startsNoLater t = true) : r.startsNoLater t = true := Number.totalLe_trans h k

theorem startsNoLater_total (r s : Registration) :
    (r.startsNoLater s || s.startsNoLater r) = true := by
  rw [Bool.or_eq_true]
  exact Number.totalLe_total ..

theorem mem_arrange (r : Registration) (rs : List Registration) : r ∈ arrange rs ↔ r ∈ rs :=
  List.mem_mergeSort

theorem filter_arrange (p : Registration → Bool) (rs : List Registration) :
    (arrange rs).filter p = arrange (rs.filter p) :=
  StableOrder.filter_mergeSort startsNoLater_trans startsNoLater_total p rs

/-! ### One change -/

/-- An index shows just the registrations of a row. -/
structure Shows (i : SweepIndex) (rs : List Registration) : Prop where
  tidy : i.slab.Tidy
  nodup : (rs.map Registration.key).Nodup
  get? : ∀ k o, i.slab.get? k = some o ↔ ⟨k, o⟩ ∈ rs
  sorted : i.sorted = (arrange rs).map Registration.key

theorem shows_empty : empty.Shows [] where
  tidy := Slab.tidy_empty
  nodup := by simp
  get? := by simp [empty]
  sorted := by simp [empty, arrange]

variable {i : SweepIndex} {rs : List Registration}

theorem Shows.get?_of_mem (h : i.Shows rs) {r : Registration} (hr : r ∈ rs) :
    i.slab.get? r.key = some r.object := (h.get? r.key r.object).mpr hr

theorem Shows.get?_of_mem_arrange (h : i.Shows rs) {r : Registration} (hr : r ∈ arrange rs) :
    i.slab.get? r.key = some r.object := h.get?_of_mem ((mem_arrange r rs).mp hr)

theorem Shows.nodup_sorted (h : i.Shows rs) : i.sorted.Nodup := by
  rw [h.sorted]
  exact ((List.mergeSort_perm rs _).map _).nodup_iff.mpr h.nodup

/-- A new key is that of no live registration. -/
theorem Shows.fst_insert_notMem (h : i.Shows rs) (o : Object) :
    (i.slab.insert o).1 ∉ rs.map Registration.key := by
  intro hm
  obtain ⟨r, hr, he⟩ := List.mem_map.mp hm
  have hget := h.get?_of_mem hr
  rw [he, h.tidy.get?_fst_insert o] at hget
  cases hget

/-- The walk that looks for the place of a new key compares registrations. -/
theorem Shows.startsBy_eq (h : i.Shows rs) (o : Object) {r : Registration} (hr : r ∈ rs) :
    startsBy (i.slab.insert o).2 o.bounds.low.x r.key =
      r.startsNoLater ⟨(i.slab.insert o).1, o⟩ := by
  have hne : r.key ≠ (i.slab.insert o).1 := fun he =>
    h.fst_insert_notMem o (he ▸ List.mem_map_of_mem hr)
  rw [startsBy, h.tidy.get?_insert, if_neg hne, h.get?_of_mem hr]
  rfl

theorem Shows.sorted_register (h : i.Shows rs) (o : Object) : (i.register o).2.sorted =
    (arrange (rs ++ [⟨(i.slab.insert o).1, o⟩])).map Registration.key := by
  have hwalk := StableOrder.while_congr fun r hr => h.startsBy_eq o ((mem_arrange r rs).mp hr)
  rw [arrange, StableOrder.mergeSort_append_singleton_while startsNoLater_trans
    startsNoLater_total, ← arrange, ← hwalk.1, ← hwalk.2]
  simp only [SweepIndex.register, h.sorted, List.takeWhile_map, List.dropWhile_map,
    List.map_append, List.map_cons, Function.comp_def]

theorem Shows.register (h : i.Shows rs) (o : Object) :
    (i.register o).2.Shows (rs ++ [⟨(i.slab.insert o).1, o⟩]) := by
  refine ⟨h.tidy.insert o, ?_, fun k p => ?_, h.sorted_register o⟩
  · rw [List.map_append, List.nodup_append]
    refine ⟨h.nodup, by simp, fun k hk l hl he => ?_⟩
    rw [List.map_singleton, List.mem_singleton] at hl
    exact h.fst_insert_notMem o (by rwa [he, hl] at hk)
  · rw [SweepIndex.register, h.tidy.get?_insert, List.mem_append, List.mem_singleton, ← h.get?]
    by_cases hk : k = (i.slab.insert o).1
    · rw [if_pos hk, hk, h.tidy.get?_fst_insert o]
      simp [eq_comm]
    · simp [hk]

theorem Shows.erase_sorted (h : i.Shows rs) (k : Nat) :
    i.sorted.erase k = (arrange (rs.filter (·.key ≠ k))).map Registration.key := by
  rw [h.nodup_sorted.erase_eq_filter, h.sorted, List.filter_map, filter_arrange]
  congr 2
  exact List.filter_congr fun r _ => Bool.eq_iff_iff.mpr (by simp)

theorem Shows.unregister (h : i.Shows rs) (k : Handle) :
    (i.unregister k).2.Shows (rs.filter (·.key ≠ k.key)) := by
  unfold SweepIndex.unregister
  cases hk : i.slab.get? k.key with
  | none =>
    have hall : rs.filter (·.key ≠ k.key) = rs := List.filter_eq_self.mpr fun r hr => by
      have hget := h.get?_of_mem hr
      refine decide_eq_true fun he => ?_
      rw [he, hk] at hget
      cases hget
    rw [Slab.remove_of_get?_eq_none hk, hall]
    exact h
  | some o =>
    have hremove : i.slab.remove k.key = (some o, (i.slab.remove k.key).2) := by
      simp [Slab.remove, hk]
    rw [hremove]
    refine ⟨h.tidy.remove k.key, h.nodup.sublist (List.filter_sublist.map _), fun l p => ?_,
      h.erase_sorted k.key⟩
    rw [Slab.get?_remove, List.mem_filter, ← h.get?]
    by_cases hl : l = k.key <;> simp [hl]

theorem shows_after (cs : List Change) : (after cs).Shows (live cs) := by
  induction cs using List.reverseRecOn with
  | nil => exact shows_empty
  | append_singleton cs c ih =>
    rw [after_append_singleton, live_append_singleton]
    cases c with
    | register o => exact ih.register o
    | unregister k => exact ih.unregister k
    | clear => exact shows_empty

/-! ### Reading an index -/

theorem fst_unregister (i : SweepIndex) (k : Handle) : (i.unregister k).1 = i.get? k := by
  unfold SweepIndex.unregister SweepIndex.get? Slab.remove
  cases i.slab.get? k.key <;> rfl

theorem unregister_of_get?_eq_none {k : Handle} (h : i.get? k = none) :
    i.unregister k = (none, i) := by
  rw [SweepIndex.unregister, Slab.remove_of_get?_eq_none h]

theorem Shows.mem_sorted (h : i.Shows rs) (k : Nat) :
    k ∈ i.sorted ↔ (i.slab.get? k).isSome = true := by
  rw [h.sorted, List.mem_map, Option.isSome_iff_exists]
  constructor
  · rintro ⟨r, hr, rfl⟩
    exact ⟨r.object, h.get?_of_mem_arrange hr⟩
  · rintro ⟨o, ho⟩
    exact ⟨⟨k, o⟩, (mem_arrange _ rs).mpr ((h.get? k o).mp ho), rfl⟩

theorem Shows.size_eq_length_sorted (h : i.Shows rs) : i.size = i.sorted.length :=
  Slab.size_eq_length h.nodup_sorted h.mem_sorted

theorem Shows.size (h : i.Shows rs) : i.size = rs.length := by
  rw [h.size_eq_length_sorted, h.sorted, List.length_map, arrange, List.length_mergeSort]

theorem Shows.registrations (h : i.Shows rs) : i.registrations = arrange rs := by
  rw [SweepIndex.registrations, h.sorted, List.filterMap_map]
  refine (List.filterMap_congr fun r hr => ?_).trans List.filterMap_some
  rw [Function.comp_apply, h.get?_of_mem_arrange hr]
  rfl

theorem Shows.partitioned (h : i.Shows rs) (x : Float) :
    i.sorted.Pairwise fun k l => startsBy i.slab x l = true → startsBy i.slab x k = true := by
  rw [h.sorted, List.pairwise_map]
  have hstart : ∀ r ∈ arrange rs,
      startsBy i.slab x r.key = Number.totalLe r.object.bounds.low.x x := fun r hr => by
    rw [startsBy, h.get?_of_mem_arrange hr]
    rfl
  refine (List.pairwise_mergeSort startsNoLater_trans startsNoLater_total rs).imp_of_mem ?_
  intro r s hr hs hle
  rw [hstart r hr, hstart s hs]
  exact Number.totalLe_trans hle

/-! ### Handles -/

theorem slab_unregister (i : SweepIndex) (k : Handle) :
    (i.unregister k).2.slab = (i.slab.remove k.key).2 := by
  unfold SweepIndex.unregister
  cases hk : i.slab.get? k.key <;> simp [Slab.remove, hk]

theorem slots_unregister (i : SweepIndex) (k : Handle) :
    (i.unregister k).2.slab.slots.length = i.slab.slots.length := by
  rw [slab_unregister, Slab.length_remove]

theorem Shows.length_slots_register {n : Nat} (h : i.Shows rs) {o : Object}
    (hold : i.slab.slots.length ≤ n) (hnew : (i.register o).2.size ≤ n) :
    (i.register o).2.slab.slots.length ≤ n := by
  rcases h.tidy.length_insert o with hlen | hlen
  · exact hlen ▸ hold
  · exact hlen ▸ hnew

/-- A handle tells its key as long as there are handles for all keys. -/
theorem Shows.key_register (h : i.Shows rs) {o : Object}
    (hlen : (i.register o).2.slab.slots.length ≤ UInt32.size) :
    (i.register o).1.key = (i.slab.insert o).1 :=
  UInt32.toNat_ofNat_of_lt' (Nat.lt_of_lt_of_le (h.tidy.fst_insert_lt o) hlen)

/-- No more keys are ever handed out than objects are registered at once. -/
theorem length_slots_after_le {n : Nat} {cs : List Change}
    (h : ∀ p, p <+: cs → (after p).size ≤ n) : (after cs).slab.slots.length ≤ n := by
  induction cs using List.reverseRecOn with
  | nil => exact Nat.zero_le n
  | append_singleton cs c ih =>
    have hold := ih fun p hp => h p (hp.trans (List.prefix_append cs [c]))
    have hnew := h _ (List.prefix_refl _)
    rw [after_append_singleton] at hnew ⊢
    cases c with
    | register o => exact (shows_after cs).length_slots_register hold hnew
    | unregister k => exact Nat.le_trans (Nat.le_of_eq (slots_unregister ..)) hold
    | clear => exact Nat.zero_le n

theorem key_register {cs : List Change} {o : Object}
    (h : ∀ p, p <+: cs ++ [.register o] → (after p).size ≤ UInt32.size) :
    ((after cs).register o).1.key = ((after cs).slab.insert o).1 := by
  have hlen := length_slots_after_le h
  rw [after_append_singleton] at hlen
  exact (shows_after cs).key_register hlen

/-- A registration outlives all changes but those that end it. -/
theorem mem_live_append {r : Registration} {cs between : List Change} (h : r ∈ live cs)
    (hkeep : ∀ c ∈ between, c ≠ .clear ∧ ∀ k : Handle, k.key = r.key → c ≠ .unregister k) :
    r ∈ live (cs ++ between) := by
  induction between using List.reverseRecOn with
  | nil => rwa [List.append_nil]
  | append_singleton between c ih =>
    have hmem := ih fun d hd => hkeep d (List.mem_append_left _ hd)
    obtain ⟨hclear, hunregister⟩ := hkeep c (by simp)
    rw [← List.append_assoc, live_append_singleton]
    cases c with
    | register o => exact List.mem_append_left _ hmem
    | unregister k =>
      exact List.mem_filter.mpr ⟨hmem, decide_eq_true fun he => hunregister k he.symm rfl⟩
    | clear => exact absurd rfl hclear

/-! ### Histories -/

theorem size_after (cs : List Change) : (after cs).size = (after cs).sorted.length :=
  (shows_after cs).size_eq_length_sorted

theorem length_live_le (cs : List Change) : (live cs).length ≤ cs.length := by
  induction cs using List.reverseRecOn with
  | nil => exact Nat.zero_le _
  | append_singleton cs c ih =>
    rw [live_append_singleton, List.length_append, List.length_singleton]
    cases c with
    | register o => simpa [note] using ih
    | unregister k => exact Nat.le_trans (List.length_filter_le ..) (Nat.le_succ_of_le ih)
    | clear => exact Nat.zero_le _

theorem size_after_le (cs : List Change) : (after cs).size ≤ cs.length := by
  rw [(shows_after cs).size]
  exact length_live_le cs

/-- How an index stands after a history: what it reads is what is live, and what it takes out is
what it reads. -/
structure Keeps (i : SweepIndex) (cs : List Change) : Prop where
  nodup : i.sorted.Nodup
  mem_sorted : ∀ k, k ∈ i.sorted ↔ (i.slab.get? k).isSome = true
  size : i.size = i.sorted.length
  /-- The keys in sweep order can be searched for the place of any new object by halving. -/
  partitioned : ∀ x, i.sorted.Pairwise fun k l =>
    startsBy i.slab x l = true → startsBy i.slab x k = true
  toList : i.toList = (arrange (live cs)).map Registration.entry
  /-- Keys do not show in the order of the objects. -/
  objects : i.objects = ((live cs).map Registration.object).mergeSort Object.startsNoLater
  get? : ∀ h o, i.get? h = some o ↔ ⟨h.key, o⟩ ∈ live cs
  unregister : ∀ h o, i.get? h = some o → (i.unregister h).1 = some o ∧
    (i.unregister h).2.registrations = i.registrations.filter (·.key ≠ h.key)
  unregister_none : ∀ h, i.get? h = none → i.unregister h = (none, i)

/-- After any history an index keeps the live registrations, stably sorted by where they start, and a
handle names its object until it is given back. A handle is a word of 32 bits, and so names its
object only if no more objects than there are such words were ever registered at once. -/
theorem keeps_after (cs : List Change) : (after cs).Keeps cs ∧
    ∀ o between, (∀ p, p <+: cs ++ [.register o] → (after p).size ≤ UInt32.size) →
      (∀ c ∈ between, c ≠ .clear ∧ c ≠ .unregister ((after cs).register o).1) →
      (after (cs ++ .register o :: between)).get? ((after cs).register o).1 = some o := by
  have hs := shows_after cs
  constructor
  · constructor
    case nodup => exact hs.nodup_sorted
    case mem_sorted => exact hs.mem_sorted
    case size => exact size_after cs
    case partitioned => exact hs.partitioned
    case toList => rw [toList_eq, hs.registrations]
    case objects =>
      rw [objects_eq, hs.registrations, arrange]
      exact List.map_mergeSort fun _ _ _ _ => rfl
    case get? => exact fun h o => hs.get? h.key o
    case unregister =>
      refine fun h o ho => ⟨(fst_unregister _ h).trans ho, ?_⟩
      rw [(hs.unregister h).registrations, hs.registrations, filter_arrange]
    case unregister_none => exact fun h => unregister_of_get?_eq_none
  · intro o between hcap hkeep
    have hkey := key_register hcap
    have hmem : ⟨((after cs).register o).1.key, o⟩ ∈ live (cs ++ [.register o]) := by
      rw [live_append_singleton, note, hkey]
      exact List.mem_append_right _ (List.mem_singleton_self _)
    have hlive := mem_live_append hmem fun c hc =>
      ⟨(hkeep c hc).1, fun k hk => Handle.key_inj hk ▸ (hkeep c hc).2⟩
    rw [List.append_assoc, List.singleton_append] at hlive
    exact ((shows_after _).get? _ o).mpr hlive

/-- A plate gets the key that a cup gave back, and keeps it while a fork comes and a bowl goes. -/
theorem get?_plate :
    let cup := Object.ball 0 (.worldObject "cup")
    let bowl := Object.ball 1 (.worldObject "bowl")
    let plate := Object.ball 2 (.worldObject "plate")
    let fork := Object.ball 3 (.worldObject "fork")
    let i := after [.register cup, .register bowl, .unregister ⟨0⟩, .register plate, .register fork,
      .unregister ⟨1⟩]
    i.get? ⟨0⟩ = some plate ∧ (i.unregister ⟨0⟩).1 = some plate ∧
      i.get? ⟨1⟩ = none ∧ i.unregister ⟨1⟩ = (none, i) := by
  intro cup bowl plate fork i
  let cs : List Change := [.register cup, .register bowl, .unregister ⟨0⟩]
  have hcap : ∀ p, p <+: cs ++ [.register plate] → (after p).size ≤ UInt32.size := fun p hp =>
    Nat.le_trans (size_after_le p) (Nat.le_trans hp.length_le (by decide))
  have hkeep : ∀ c ∈ [Change.register fork, .unregister ⟨1⟩],
      c ≠ .clear ∧ c ≠ .unregister ((after cs).register plate).1 := by
    simp [show ((after cs).register plate).1 = ⟨0⟩ from rfl]
  have hget : i.get? ⟨0⟩ = some plate := (keeps_after cs).2 plate _ hcap hkeep
  have hnone : i.get? ⟨1⟩ = none := rfl
  exact ⟨hget, ((keeps_after _).1.unregister _ _ hget).1, hnone,
    (keeps_after _).1.unregister_none _ hnone⟩

end SweepIndex

end Clearance
