/-! Finite maps that keep their keys in the order in which these first came. An update keeps the
place of a key that is there and puts a new key at the end, so a reader sees the order of arrival.
-/

namespace Clearance

structure OrderedMap (κ α : Type) where
  entries : List (κ × α)
  nodup_keys : (entries.map Prod.fst).Nodup

namespace OrderedMap

variable {κ α : Type} [DecidableEq κ]

/-! ### Entry lists -/

/-- The value that goes with `k`. -/
def find (k : κ) : List (κ × α) → Option α
  | [] => none
  | (j, a) :: es => if j = k then some a else find k es

/-- Puts a new value in the place of the one that goes with `k`, or at the end. -/
def put (k : κ) (f : Option α → α) : List (κ × α) → List (κ × α)
  | [] => [(k, f none)]
  | (j, a) :: es => if j = k then (j, f (some a)) :: es else (j, a) :: put k f es

theorem keys_put (k : κ) (f : Option α → α) (es : List (κ × α)) :
    (put k f es).map Prod.fst =
      if k ∈ es.map Prod.fst then es.map Prod.fst else es.map Prod.fst ++ [k] := by
  induction es with
  | nil => simp [put]
  | cons e es ih =>
    obtain ⟨j, a⟩ := e
    by_cases h : j = k
    · simp [put, h]
    · have h' : ¬ k = j := fun e => h e.symm
      by_cases hm : k ∈ es.map Prod.fst <;> simp_all [put]

theorem nodup_put (k : κ) (f : Option α → α) {es : List (κ × α)}
    (h : (es.map Prod.fst).Nodup) : ((put k f es).map Prod.fst).Nodup := by
  rw [keys_put]
  split
  · exact h
  · rename_i hk
    refine List.nodup_append.2 ⟨h, by simp, ?_⟩
    intro a ha b hb hab
    rw [List.mem_singleton] at hb
    exact hk (hb ▸ hab ▸ ha)

theorem find_put (k l : κ) (f : Option α → α) (es : List (κ × α)) :
    find l (put k f es) = if k = l then some (f (find k es)) else find l es := by
  induction es with
  | nil => simp [put, find]
  | cons e es ih =>
    obtain ⟨j, a⟩ := e
    by_cases h : j = k
    · subst h; by_cases hl : j = l <;> simp [put, find, hl]
    · by_cases hl : j = l
      · subst hl
        have : ¬ k = j := fun e => h e.symm
        simp [put, find, h, this]
      · simp [put, find, h, hl, ih]

theorem find_filter (p : κ → Bool) (k : κ) (es : List (κ × α)) :
    find k (es.filter fun e => p e.1) = if p k then find k es else none := by
  induction es with
  | nil => simp [find]
  | cons e es ih =>
    obtain ⟨j, a⟩ := e
    by_cases hp : p j
    · by_cases h : j = k
      · subst h; simp [find, hp]
      · simp [find, hp, h, ih]
    · by_cases h : j = k
      · subst h; simp [hp, ih]
      · simp [find, hp, h, ih]

theorem find_isSome (k : κ) (es : List (κ × α)) :
    (find k es).isSome = true ↔ k ∈ es.map Prod.fst := by
  induction es with
  | nil => simp [find]
  | cons e es ih =>
    obtain ⟨j, a⟩ := e
    by_cases h : j = k
    · simp [find, h]
    · have h' : ¬ k = j := fun e => h e.symm
      simp only [find, h, if_false, ih, List.map_cons, List.mem_cons, h', false_or]

/-- With no key twice, what goes with a key is what stands beside it. -/
theorem find_eq_some_iff {k : κ} {a : α} {es : List (κ × α)} (h : (es.map Prod.fst).Nodup) :
    find k es = some a ↔ (k, a) ∈ es := by
  induction es with
  | nil => simp [find]
  | cons e es ih =>
    obtain ⟨j, b⟩ := e
    rw [List.map_cons, List.nodup_cons] at h
    by_cases hj : j = k
    · subst hj
      have hrest : (j, a) ∉ es := fun hm => h.1 (List.mem_map.mpr ⟨_, hm, rfl⟩)
      simp [find, hrest, eq_comm]
    · have hj' : ¬ k = j := fun e => hj e.symm
      simp [find, hj, hj', ih h.2]

theorem put_of_notMem {k : κ} {f : Option α → α} {es : List (κ × α)}
    (h : k ∉ es.map Prod.fst) : put k f es = es ++ [(k, f none)] := by
  induction es with
  | nil => rfl
  | cons e es ih =>
    rw [List.map_cons, List.mem_cons, not_or] at h
    rw [put, if_neg (Ne.symm h.1), ih h.2, List.cons_append]

/-! ### Maps -/

def empty : OrderedMap κ α := ⟨[], by simp⟩

instance : Inhabited (OrderedMap κ α) := ⟨empty⟩

omit [DecidableEq κ] in
@[ext] theorem ext {m n : OrderedMap κ α} (h : m.entries = n.entries) : m = n := by
  cases m; cases n; cases h; rfl

def keys (m : OrderedMap κ α) : List κ := m.entries.map Prod.fst

def values (m : OrderedMap κ α) : List α := m.entries.map Prod.snd

def size (m : OrderedMap κ α) : Nat := m.entries.length

def isEmpty (m : OrderedMap κ α) : Bool := m.entries.isEmpty

def get? (m : OrderedMap κ α) (k : κ) : Option α := find k m.entries

def contains (m : OrderedMap κ α) (k : κ) : Bool := (m.get? k).isSome

/-- Replaces the value of `k` by what `f` makes of it. -/
def update (m : OrderedMap κ α) (k : κ) (f : Option α → α) : OrderedMap κ α :=
  ⟨put k f m.entries, nodup_put k f m.nodup_keys⟩

def set (m : OrderedMap κ α) (k : κ) (a : α) : OrderedMap κ α := m.update k fun _ => a

/-- Keeps the entries whose key passes `p`. -/
def keep (m : OrderedMap κ α) (p : κ → Bool) : OrderedMap κ α :=
  ⟨m.entries.filter fun e => p e.1, m.nodup_keys.sublist (List.filter_sublist.map _)⟩

def erase (m : OrderedMap κ α) (k : κ) : OrderedMap κ α := m.keep fun j => j ≠ k

/-- Entries set one after the other: of two with one key the later value stands. -/
def ofList (es : List (κ × α)) : OrderedMap κ α := es.foldl (fun m e => m.set e.1 e.2) empty

@[simp] theorem get?_empty (k : κ) : (empty : OrderedMap κ α).get? k = none := rfl

theorem get?_update (m : OrderedMap κ α) (k l : κ) (f : Option α → α) :
    (m.update k f).get? l = if k = l then some (f (m.get? k)) else m.get? l :=
  find_put k l f m.entries

theorem get?_set (m : OrderedMap κ α) (k l : κ) (a : α) :
    (m.set k a).get? l = if k = l then some a else m.get? l :=
  get?_update m k l _

theorem get?_keep (m : OrderedMap κ α) (p : κ → Bool) (k : κ) :
    (m.keep p).get? k = if p k then m.get? k else none :=
  find_filter p k m.entries

theorem get?_erase (m : OrderedMap κ α) (k l : κ) :
    (m.erase k).get? l = if l = k then none else m.get? l := by
  by_cases h : l = k <;> simp [erase, get?_keep, h]

theorem get?_eq_some_iff (m : OrderedMap κ α) (k : κ) (a : α) :
    m.get? k = some a ↔ (k, a) ∈ m.entries :=
  find_eq_some_iff m.nodup_keys

theorem contains_iff (m : OrderedMap κ α) (k : κ) : m.contains k = true ↔ k ∈ m.keys :=
  find_isSome k m.entries

/-- A key that is there keeps its place and a new one comes last. -/
theorem keys_update (m : OrderedMap κ α) (k : κ) (f : Option α → α) :
    (m.update k f).keys = if k ∈ m.keys then m.keys else m.keys ++ [k] :=
  keys_put k f m.entries

omit [DecidableEq κ] in
theorem eq_empty_of_isEmpty {m : OrderedMap κ α} (h : m.isEmpty = true) : m = empty :=
  ext (List.isEmpty_iff.1 h)

/-! ### Maps from entries -/

theorem entries_foldl_set {es : List (κ × α)} (m : OrderedMap κ α)
    (h : ((m.entries ++ es).map Prod.fst).Nodup) :
    (es.foldl (fun m e => m.set e.1 e.2) m).entries = m.entries ++ es := by
  induction es generalizing m with
  | nil => rw [List.append_nil]; rfl
  | cons e es ih =>
    have hnew : e.1 ∉ m.entries.map Prod.fst := by
      rw [List.map_append, List.nodup_append] at h
      exact fun hm => h.2.2 _ hm _ (List.mem_cons_self ..) rfl
    have hset : (m.set e.1 e.2).entries = m.entries ++ [e] := put_of_notMem hnew
    rw [List.foldl_cons, ih, hset, List.append_assoc, List.singleton_append]
    rwa [hset, List.append_assoc, List.singleton_append]

/-- Entries without a key twice stay as they are. -/
theorem entries_ofList {es : List (κ × α)} (h : (es.map Prod.fst).Nodup) :
    (ofList es).entries = es := entries_foldl_set empty h

theorem ofList_entries (m : OrderedMap κ α) : ofList m.entries = m :=
  ext (entries_ofList m.nodup_keys)

/-- The order of entries does not show in look-ups. -/
theorem get?_ofList_of_perm {m : OrderedMap κ α} {es : List (κ × α)} (h : es.Perm m.entries)
    (k : κ) : (ofList es).get? k = m.get? k := by
  have hn : (es.map Prod.fst).Nodup := (h.map _).nodup_iff.2 m.nodup_keys
  ext a
  rw [get?_eq_some_iff, get?_eq_some_iff, entries_ofList hn, h.mem_iff]

theorem mem_of_get?_foldl_set {k : κ} {a : α} {es : List (κ × α)} {m : OrderedMap κ α}
    (h : (es.foldl (fun m e => m.set e.1 e.2) m).get? k = some a) :
    (k, a) ∈ es ∨ m.get? k = some a := by
  induction es generalizing m with
  | nil => exact .inr h
  | cons e es ih =>
    rcases ih h with hm | hm
    · exact .inl (List.mem_cons_of_mem _ hm)
    · rw [get?_set] at hm
      split at hm
      · rename_i hk
        rw [← hk, ← Option.some.inj hm]
        exact .inl (List.mem_cons_self ..)
      · exact .inr hm

/-- A value that a map of entries leads to is that of one of them. -/
theorem mem_of_get?_ofList {k : κ} {a : α} {es : List (κ × α)} (h : (ofList es).get? k = some a) :
    (k, a) ∈ es := by
  rcases mem_of_get?_foldl_set h with hm | hm
  · exact hm
  · cases hm

end OrderedMap

end Clearance
