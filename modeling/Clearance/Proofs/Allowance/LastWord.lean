import Mathlib.Data.List.Induction
import Mathlib.Data.Set.Card
import Clearance.Allowance.Matrix
import Clearance.Proofs.Body.Pairs

/-! Histories of a matrix. Whatever is set and erased, in whatever order the two bodies of a pair are
named, a matrix holds for each unordered pair what the last edit that concerns it has left. -/

namespace Clearance

/-- An edit of a matrix. A flag is set as `Allowance.ofBool` of it, a rule on contacts as
`Allowance.conditional` of it. -/
inductive Edit where
  | set (a b : BodyId) (p : Allowance)
  | setAll (a : BodyId) (others : List BodyId) (p : Allowance)
  | erase (a b : BodyId)
  | eraseBody (a : BodyId)
  | clear

/-- The entry that an edit leaves for an unordered pair, if the edit concerns the pair at all. -/
def Edit.leaves? (q : Sym2 BodyId) : Edit → Option (Option Allowance)
  | .set a b p => if q = s(a, b) then some (some p) else none
  | .setAll a others p => if ∃ b ∈ others, q = s(a, b) then some (some p) else none
  | .erase a b => if q = s(a, b) then some none else none
  | .eraseBody a => if a ∈ q then some none else none
  | .clear => some none

/-- The entry that the last edit to concern an unordered pair has left. -/
def lastWord (es : List Edit) (q : Sym2 BodyId) : Option Allowance :=
  (es.reverse.findSome? (Edit.leaves? q)).join

theorem lastWord_append_singleton (es : List Edit) (e : Edit) (q : Sym2 BodyId) :
    lastWord (es ++ [e]) q = (e.leaves? q).getD (lastWord es q) := by
  rw [lastWord, List.reverse_append, List.reverse_singleton, List.singleton_append,
    List.findSome?_cons]
  cases e.leaves? q <;> rfl

namespace AllowanceMatrix

def edit (m : AllowanceMatrix) : Edit → AllowanceMatrix
  | .set a b p => m.set a b p
  | .setAll a others p => m.setAll a others p
  | .erase a b => (m.erase a b).2
  | .eraseBody a => m.eraseBody a
  | .clear => .empty

/-- The matrix after a row of edits. -/
def after (es : List Edit) : AllowanceMatrix := es.foldl edit .empty

@[simp] theorem after_append_singleton (es : List Edit) (e : Edit) :
    after (es ++ [e]) = (after es).edit e := List.foldl_append

/-! ### One edit -/

theorem get?_setAll (m : AllowanceMatrix) (a : BodyId) (others : List BodyId) (p : Allowance)
    (c d : BodyId) : (m.setAll a others p).get? c d =
      if ∃ b ∈ others, s(c, d) = s(a, b) then some p else m.get? c d := by
  induction others generalizing m with
  | nil => simp [setAll]
  | cons b others ih =>
    have hstep : m.setAll a (b :: others) p = (m.set a b p).setAll a others p := rfl
    rw [hstep, ih, get?_set]
    simp only [BodyPair.make_eq_make_iff, List.exists_mem_cons_iff]
    by_cases hrest : ∃ b ∈ others, s(c, d) = s(a, b)
    · simp only [hrest, or_true, if_true]
    · simp only [hrest, or_false, if_false]
      exact if_congr eq_comm rfl rfl

/-- An edit leaves what it says to the pairs that it concerns, and all others alone. -/
theorem get?_edit (m : AllowanceMatrix) (e : Edit) (a b : BodyId) :
    (m.edit e).get? a b = (e.leaves? s(a, b)).getD (m.get? a b) := by
  cases e with
  | set c d p =>
    simp only [edit, get?_set, BodyPair.make_eq_make_iff, Edit.leaves?, @eq_comm _ s(a, b)]
    split <;> rfl
  | setAll c others p =>
    simp only [edit, get?_setAll, Edit.leaves?]
    split <;> rfl
  | erase c d =>
    simp only [edit, get?_erase, BodyPair.make_eq_make_iff, Edit.leaves?]
    split <;> rfl
  | eraseBody c =>
    simp only [edit, get?_eraseBody, Edit.leaves?, ← BodyPair.contains_make]
    cases (BodyPair.make a b).contains c <;> rfl
  | clear => rfl

/-- Every key is in order. -/
def IsOrdered (m : AllowanceMatrix) : Prop := ∀ k ∈ m.byPair.keys, k.first.le k.second = true

theorem IsOrdered.set {m : AllowanceMatrix} (h : m.IsOrdered) (a b : BodyId) (p : Allowance) :
    (m.set a b p).IsOrdered := by
  intro k hk
  rw [AllowanceMatrix.set, OrderedMap.set, OrderedMap.keys_update] at hk
  split at hk
  · exact h k hk
  · rcases List.mem_append.mp hk with hk | hk
    · exact h k hk
    · rw [List.mem_singleton.mp hk]
      exact BodyPair.first_le_second_make a b

theorem IsOrdered.keep {m : AllowanceMatrix} (h : m.IsOrdered) (p : BodyPair → Bool) :
    IsOrdered ⟨m.byPair.keep p⟩ := fun k hk =>
  h k ((List.filter_sublist.map Prod.fst).subset hk)

theorem IsOrdered.edit {m : AllowanceMatrix} (h : m.IsOrdered) (e : Edit) :
    (m.edit e).IsOrdered := by
  cases e with
  | set a b p => exact h.set a b p
  | setAll a others p =>
    change (others.foldl (fun m b => m.set a b p) m).IsOrdered
    induction others generalizing m with
    | nil => exact h
    | cons b others ih => exact ih (h.set a b p)
  | erase a b => exact h.keep _
  | eraseBody a => exact h.keep _
  | clear => exact fun k hk => absurd hk List.not_mem_nil

/-! ### Histories -/

theorem isOrdered_after (es : List Edit) : (after es).IsOrdered := by
  induction es using List.reverseRecOn with
  | nil => exact fun k hk => absurd hk List.not_mem_nil
  | append_singleton es e ih =>
    rw [after_append_singleton]
    exact ih.edit e

theorem get?_after (es : List Edit) (a b : BodyId) : (after es).get? a b = lastWord es s(a, b) := by
  induction es using List.reverseRecOn with
  | nil => rfl
  | append_singleton es e ih =>
    rw [after_append_singleton, get?_edit, ih, lastWord_append_singleton]

theorem mem_toList_after (es : List Edit) (k : BodyPair) (p : Allowance) :
    (k, p) ∈ (after es).toList ↔
      k.first.le k.second = true ∧ lastWord es s(k.first, k.second) = some p := by
  rw [toList, ← OrderedMap.get?_eq_some_iff, ← get?_after, get?]
  constructor
  · intro h
    have hkey : k ∈ (after es).byPair.keys := by
      rw [← OrderedMap.contains_iff, OrderedMap.contains, h]
      rfl
    have hle := isOrdered_after es k hkey
    exact ⟨hle, by rwa [BodyPair.make_first_second hle]⟩
  · rintro ⟨hle, h⟩
    rwa [BodyPair.make_first_second hle] at h

/-- The keys are told apart by their names alone. -/
theorem nodup_unordered_after (es : List Edit) :
    ((after es).byPair.keys.map BodyPair.unordered).Nodup := by
  refine List.Nodup.map_on (fun k hk l hl h => ?_) (after es).byPair.nodup_keys
  rw [← BodyPair.make_first_second (isOrdered_after es k hk),
    ← BodyPair.make_first_second (isOrdered_after es l hl)]
  exact (BodyPair.make_eq_make_iff ..).mpr h

theorem mem_unordered_after (es : List Edit) (q : Sym2 BodyId) :
    q ∈ (after es).byPair.keys.map BodyPair.unordered ↔ (lastWord es q).isSome = true := by
  induction q using Sym2.ind with
  | _ a b =>
    rw [← get?_after, get?, ← OrderedMap.contains, OrderedMap.contains_iff, List.mem_map]
    constructor
    · rintro ⟨k, hk, h⟩
      rw [← BodyPair.make_first_second (isOrdered_after es k hk)] at hk
      rwa [← (BodyPair.make_eq_make_iff ..).mpr h]
    · exact fun h => ⟨_, h, BodyPair.unordered_make a b⟩

/-- The size is the number of the unordered pairs with an entry. -/
theorem encard_after (es : List Edit) :
    {q | (lastWord es q).isSome = true}.encard = (after es).size := by
  have hset : {q | (lastWord es q).isSome = true} =
      ((after es).byPair.keys.map BodyPair.unordered).toFinset := by
    ext q
    simpa using (mem_unordered_after es q).symm
  rw [hset, Set.encard_coe_eq_coe_finsetCard,
    List.toFinset_card_of_nodup (nodup_unordered_after es), List.length_map]
  simp [OrderedMap.keys, size, OrderedMap.size]

/-- A matrix reads as a map over unordered pairs, whatever it is asked. -/
structure Reads (m : AllowanceMatrix) (entry : Sym2 BodyId → Option Allowance) : Prop where
  get? : ∀ a b, m.get? a b = entry s(a, b) ∧ m.get? b a = entry s(a, b)
  lookup : ∀ a b, m.lookup a b = (entry s(a, b)).getD .never
  hasEntry : ∀ a b, m.hasEntry a b = (entry s(a, b)).isSome
  erase : ∀ a b, (m.erase a b).1 = entry s(a, b)
  /-- An edit changes the pairs that it concerns and no others. -/
  edit : ∀ e a b, (m.edit e).get? a b = (e.leaves? s(a, b)).getD (entry s(a, b))
  size : {q | (entry q).isSome = true}.encard = m.size
  isEmpty : m.isEmpty = true ↔ ∀ q, entry q = none
  mem_toList : ∀ k p, (k, p) ∈ m.toList ↔
    k.first.le k.second = true ∧ entry s(k.first, k.second) = some p
  nodup_toList : (m.toList.map Prod.fst).Nodup

/-- After any history a matrix holds the last word on each unordered pair, and nothing else. -/
theorem reads_after (es : List Edit) : (after es).Reads (lastWord es) where
  get? a b := ⟨get?_after es a b, (get?_comm ..).trans (get?_after es a b)⟩
  lookup a b := by rw [lookup, get?_after]
  hasEntry a b := by rw [hasEntry, get?_after]
  erase a b := get?_after es a b
  edit e a b := by rw [get?_edit, get?_after]
  size := encard_after es
  isEmpty := by
    have hzero : (after es).isEmpty = true ↔ ((after es).size : ℕ∞) = 0 := by
      rw [Nat.cast_eq_zero]
      exact List.isEmpty_iff_length_eq_zero
    rw [hzero, ← encard_after, Set.encard_eq_zero, Set.eq_empty_iff_forall_notMem]
    simp
  mem_toList k p := mem_toList_after es k p
  nodup_toList := (after es).byPair.nodup_keys

end AllowanceMatrix

end Clearance
