import Mathlib.Data.List.Forall2
import Clearance.Json.Basic

/-! What the readers of single documents accept. A record has two layouts, an object that may hold
more and an array that may not, and its reader accepts exactly these. A list is read item by item, a
number from either of its forms, and a variant without content from either of its own. -/

namespace Clearance.Json

variable {α : Type}

/-! ### Lists -/

/-- A row of readings succeeds exactly when each of them does. -/
theorem mapM_eq_some_iff {β : Type} {f : α → Option β} {xs : List α} {ys : List β} :
    xs.mapM f = some ys ↔ List.Forall₂ (fun x y => f x = some y) xs ys := by
  induction xs generalizing ys with
  | nil => simp [eq_comm]
  | cons x xs ih =>
    simp only [List.mapM_cons, Option.bind_eq_bind, Option.pure_def, Option.bind_eq_some_iff,
      Option.some.injEq, ih, List.forall₂_cons_left_iff]
    constructor
    · rintro ⟨y, hy, ys', hys, rfl⟩
      exact ⟨y, ys', hy, hys, rfl⟩
    · rintro ⟨y, ys', hy, hys, rfl⟩
      exact ⟨y, hy, ys', hys, rfl⟩

theorem mapM_map_eq_some {read : Json → Option α} {write : α → Json} {xs : List α}
    (h : ∀ x ∈ xs, read (write x) = some x) : (xs.map write).mapM read = some xs := by
  rw [mapM_eq_some_iff, List.forall₂_map_left_iff, List.forall₂_same]
  exact h

theorem exists_mem_of_forall₂ {β : Type} {R : α → β → Prop} {xs : List α} {ys : List β}
    (h : List.Forall₂ R xs ys) {y : β} (hy : y ∈ ys) : ∃ x ∈ xs, R x y := by
  induction h with
  | nil => cases hy
  | cons hR _ ih =>
    rcases List.mem_cons.1 hy with rfl | hy
    · exact ⟨_, List.mem_cons_self .., hR⟩
    · obtain ⟨x, hx, hxy⟩ := ih hy
      exact ⟨x, List.mem_cons_of_mem _ hx, hxy⟩

/-- What is read item by item has every property that what the items are read as has. -/
theorem forall_mem_of_mapM {read : Json → Option α} {P : α → Prop} {xs : List Json} {ys : List α}
    (h : xs.mapM read = some ys) (hP : ∀ x y, read x = some y → P y) : ∀ y ∈ ys, P y := by
  intro y hy
  obtain ⟨x, _, hxy⟩ := exists_mem_of_forall₂ (mapM_eq_some_iff.1 h) hy
  exact hP x y hxy

/-- Where every item has one written form, so has the list. -/
theorem mapM_eq_some_iff_eq_map {read : Json → Option α} {write : α → Json}
    (h : ∀ x y, read x = some y ↔ x = write y) {xs : List Json} {ys : List α} :
    xs.mapM read = some ys ↔ xs = ys.map write := by
  simp only [mapM_eq_some_iff, h]
  rw [← List.forall₂_eq_eq_eq, List.forall₂_map_right_iff]

/-! ### Single values -/

@[simp] theorem text?_eq_some_iff {j : Json} {s : String} : j.text? = some s ↔ j = .text s := by
  cases j <;> simp [text?]

@[simp] theorem bool?_eq_some_iff {j : Json} {b : Bool} : j.bool? = some b ↔ j = .bool b := by
  cases j <;> simp [bool?]

@[simp] theorem array?_eq_some_iff {j : Json} {xs : List Json} :
    j.array? = some xs ↔ j = .array xs := by
  cases j <;> simp [array?]

@[simp] theorem object?_eq_some_iff {j : Json} {ms : List (String × Json)} :
    j.object? = some ms ↔ j = .object ms := by
  cases j <;> simp [object?]

theorem natBelow?_eq_some_iff {bound n : Nat} {j : Json} :
    j.natBelow? bound = some n ↔ j = .integer n ∧ n < bound := by
  cases j with
  | integer z =>
    simp only [natBelow?, integer.injEq]
    split
    · rename_i hz
      rw [Option.some.injEq]
      omega
    · rename_i hz
      simp only [reduceCtorEq, false_iff]
      omega
  | _ => simp [natBelow?]

theorem finite?_of_isFinite {x : Float} (h : x.isFinite = true) : finite? x = some x := if_pos h

theorem float?_ofFloat {x : Float} (h : x.isFinite = true) : (ofFloat x).float? = some x := by
  rw [ofFloat, if_pos h, float?, finite?_of_isFinite h]

/-- No document is read as a number that is not finite. -/
theorem isFinite_of_float? {j : Json} {x : Float} (h : j.float? = some x) : x.isFinite = true := by
  have hfinite : ∀ y, finite? y = some x → x.isFinite = true := by
    intro y hy
    unfold finite? at hy
    split at hy
    · rename_i hf
      rwa [← Option.some.inj hy]
    · cases hy
  cases j with
  | integer z => exact hfinite _ h
  | real y => exact hfinite _ h
  | _ => cases h

/-! ### Variants -/

theorem plainVariant?_eq_some_iff {j : Json} {s : String} :
    j.plainVariant? = some s ↔ j = .text s ∨ j = .object [(s, .null)] := by
  constructor
  · intro h
    unfold plainVariant? variant? at h
    split at h <;> cases h
    · rename_i hv
      split at hv <;> cases hv
      exact .inl rfl
    · rename_i hv
      split at hv <;> cases hv
      exact .inr rfl
  · rintro (rfl | rfl) <;> rfl

theorem variant?_eq_some_content_iff {j content : Json} {s : String} :
    j.variant? = some (s, some content) ↔ j = .object [(s, content)] := by
  constructor
  · intro h
    unfold variant? at h
    split at h <;> cases h
    rfl
  · rintro rfl
    rfl

/-! ### Records -/

/-- The documents of a record with these fields: an object with each of them once, in any order and
among any other members, and the array of them. -/
inductive Layout (fs : List (String × Json)) : Json → Prop
  | members {ms : List (String × Json)}
      (h : (ms.filter fun m => m.1 ∈ fs.map Prod.fst).Perm fs) : Layout fs (.object ms)
  | items : Layout fs (.array (fs.map Prod.snd))

/-- The fields themselves, as members in their order. -/
theorem Layout.fields (fs : List (String × Json)) : Layout fs (.object fs) := by
  refine .members (.of_eq ?_)
  rw [List.filter_eq_self]
  intro m hm
  simpa using ⟨m.2, hm⟩

theorem member?_eq_some_iff {ms : List (String × Json)} {name : String} {j : Json} :
    member? ms name = some j ↔ ms.filter (fun m => m.1 = name) = [(name, j)] := by
  unfold member?
  split
  · rename_i m hm
    have hname : m.1 = name := by
      have hmem : m ∈ ms.filter fun m => m.1 = name := by rw [hm]; exact List.mem_singleton_self m
      simpa using (List.mem_filter.1 hmem).2
    rw [hm, ← hname, Option.some.injEq, List.singleton_inj, Prod.ext_iff]
    simp
  · rename_i hm
    refine iff_of_false (by simp) fun h => hm _ h

/-- Of fields without a name twice, one goes with each name. -/
theorem filter_name_eq {fs : List (String × Json)} (hn : (fs.map Prod.fst).Nodup)
    {f : String × Json} (hf : f ∈ fs) : fs.filter (fun m => m.1 = f.1) = [f] := by
  induction fs with
  | nil => cases hf
  | cons g fs ih =>
    rw [List.map_cons, List.nodup_cons] at hn
    rcases List.mem_cons.1 hf with rfl | hf'
    · rw [List.filter_cons_of_pos (by simp), List.filter_eq_nil_iff.2]
      intro m hm he
      exact hn.1 (List.mem_map.2 ⟨m, hm, by simpa using he⟩)
    · have hne : g.1 ≠ f.1 := fun he => hn.1 (he ▸ List.mem_map_of_mem hf')
      rw [List.filter_cons_of_neg (by simpa using hne), ih hn.2 hf']

/-- The members named by a row of names, those of the first name before the rest. -/
theorem filter_names_cons_perm {name : String} {names : List String} (hn : name ∉ names)
    (ms : List (String × Json)) : (ms.filter fun m => m.1 ∈ name :: names).Perm
      (ms.filter (fun m => m.1 = name) ++ ms.filter fun m => m.1 ∈ names) := by
  have hfirst : (ms.filter fun m => m.1 ∈ name :: names).filter (fun m => m.1 = name) =
      ms.filter fun m => m.1 = name := by
    rw [List.filter_filter]
    congr 1
    funext m
    by_cases hm : m.1 = name <;> simp [hm]
  have hrest : (ms.filter fun m => m.1 ∈ name :: names).filter (fun m => !decide (m.1 = name)) =
      ms.filter fun m => m.1 ∈ names := by
    rw [List.filter_filter]
    congr 1
    funext m
    by_cases hm : m.1 = name <;> simp [hm, hn]
  rw [← hfirst, ← hrest]
  exact (List.filter_append_perm ..).symm

/-- The members that are fields are each there once, exactly if together they are the fields in some
order. -/
theorem forall_filter_name_iff_perm {fs ms : List (String × Json)} (hn : (fs.map Prod.fst).Nodup) :
    (∀ f ∈ fs, ms.filter (fun m => m.1 = f.1) = [f]) ↔
      (ms.filter fun m => m.1 ∈ fs.map Prod.fst).Perm fs := by
  constructor
  · intro h
    induction fs with
    | nil => simp
    | cons f fs ih =>
      rw [List.map_cons, List.nodup_cons] at hn
      have hsplit := filter_names_cons_perm hn.1 ms
      rw [h f (List.mem_cons_self ..)] at hsplit
      exact hsplit.trans ((ih hn.2 fun g hg => h g (List.mem_cons_of_mem _ hg)).cons f)
  · intro h f hf
    have hnamed : (ms.filter fun m => m.1 ∈ fs.map Prod.fst).filter (fun m => m.1 = f.1) =
        ms.filter fun m => m.1 = f.1 := by
      rw [List.filter_filter]
      congr 1
      funext m
      by_cases hm : m.1 = f.1
      · simp only [hm, decide_true, Bool.true_and, List.mem_map_of_mem hf]
      · simp [hm]
    have hperm := h.filter fun m => decide (m.1 = f.1)
    rw [hnamed, filter_name_eq hn hf] at hperm
    exact List.perm_singleton.1 hperm

/-- The reader of records accepts the layouts of the fields that it finds, and nothing else. -/
theorem fields?_eq_some_iff {fs : List (String × Json)} (hn : (fs.map Prod.fst).Nodup) {j : Json} :
    j.fields? (fs.map Prod.fst) = some (fs.map Prod.snd) ↔ Layout fs j := by
  cases j with
  | object ms =>
    rw [fields?, mapM_eq_some_iff, List.forall₂_map_left_iff, List.forall₂_map_right_iff,
      List.forall₂_same]
    simp only [member?_eq_some_iff]
    rw [forall_filter_name_iff_perm hn]
    exact ⟨.members, fun h => by cases h; assumption⟩
  | array xs =>
    simp only [fields?, List.length_map]
    constructor
    · intro h
      split at h
      · rw [Option.some.inj h]
        exact .items
      · cases h
    · intro h
      cases h
      rw [if_pos (List.length_map _)]
  | _ => exact iff_of_false (by simp [fields?]) (by rintro ⟨⟩)

theorem length_of_fields? {names : List String} {j : Json} {vs : List Json}
    (h : j.fields? names = some vs) : vs.length = names.length := by
  cases j with
  | object ms => exact (mapM_eq_some_iff.1 h).length_eq.symm
  | array xs =>
    simp only [fields?] at h
    split at h
    · rwa [← Option.some.inj h]
    · cases h
  | _ => cases h

/-- A reader that goes on with the fields accepts the layouts of the fields that it goes on with. -/
theorem fields?_bind_eq_some_iff {names : List String} (hn : names.Nodup)
    {read : List Json → Option α} {j : Json} {a : α} :
    (j.fields? names).bind read = some a ↔
      ∃ vs, vs.length = names.length ∧ Layout (names.zip vs) j ∧ read vs = some a := by
  have hzip : ∀ vs : List Json, vs.length = names.length →
      (j.fields? names = some vs ↔ Layout (names.zip vs) j) := by
    intro vs hl
    have hfst : (names.zip vs).map Prod.fst = names := List.map_fst_zip (Nat.le_of_eq hl.symm)
    have hsnd : (names.zip vs).map Prod.snd = vs := List.map_snd_zip (Nat.le_of_eq hl)
    have hiff : j.fields? ((names.zip vs).map Prod.fst) = some ((names.zip vs).map Prod.snd) ↔
        Layout (names.zip vs) j := fields?_eq_some_iff (by rwa [hfst])
    rwa [hfst, hsnd] at hiff
  rw [Option.bind_eq_some_iff]
  constructor
  · rintro ⟨vs, hvs, hread⟩
    have hl := length_of_fields? hvs
    exact ⟨vs, hl, (hzip vs hl).1 hvs, hread⟩
  · rintro ⟨vs, hl, hlayout, hread⟩
    exact ⟨vs, (hzip vs hl).2 hlayout, hread⟩

theorem exists_values_nil {P : List Json → Prop} :
    (∃ vs : List Json, vs.length = ([] : List String).length ∧ P vs) ↔ P [] := by
  simp

/-- Values for a row of names are a value for the first and values for the rest. -/
theorem exists_values_cons {name : String} {names : List String} {P : List Json → Prop} :
    (∃ vs : List Json, vs.length = (name :: names).length ∧ P vs) ↔
      ∃ v, ∃ vs : List Json, vs.length = names.length ∧ P (v :: vs) := by
  constructor
  · rintro ⟨_ | ⟨v, vs⟩, hl, h⟩
    · cases hl
    · exact ⟨v, vs, Nat.succ.inj hl, h⟩
  · rintro ⟨v, vs, hl, h⟩
    exact ⟨v :: vs, congrArg Nat.succ hl, h⟩

end Clearance.Json
