/-! Stable sorting, one element at a time. In a sorted list the elements that come no later than a
given one stand first; a list with one more element at its end is sorted by putting that element
behind them; and elements may be left out before a list is sorted or after. -/

namespace Clearance.StableOrder

variable {α : Type}

theorem while_congr {p q : α → Bool} {l : List α} (h : ∀ a ∈ l, p a = q a) :
    l.takeWhile p = l.takeWhile q ∧ l.dropWhile p = l.dropWhile q := by
  induction l with
  | nil => exact ⟨rfl, rfl⟩
  | cons a l ih =>
    rw [List.forall_mem_cons] at h
    rw [List.takeWhile_cons, List.takeWhile_cons, List.dropWhile_cons, List.dropWhile_cons, h.1,
      (ih h.2).1, (ih h.2).2]
    exact ⟨rfl, rfl⟩

/-- A test that no element passes after one that fails picks the elements that stand first. -/
theorem while_eq_filter {p : α → Bool} {l : List α}
    (h : l.Pairwise fun a b => p b = true → p a = true) :
    l.takeWhile p = l.filter p ∧ l.dropWhile p = l.filter (!p ·) := by
  induction l with
  | nil => exact ⟨rfl, rfl⟩
  | cons a l ih =>
    rw [List.pairwise_cons] at h
    cases ha : p a with
    | true => simp [ha, ih h.2]
    | false =>
      have hnone : ∀ b ∈ l, p b = false := fun b hb =>
        Bool.eq_false_iff.mpr fun hp => by simp [h.1 b hb hp] at ha
      have hfilter : l.filter p = [] := List.filter_eq_nil_iff.mpr fun b hb => by simp [hnone b hb]
      have hrest : l.filter (!p ·) = l := List.filter_eq_self.mpr fun b hb => by simp [hnone b hb]
      simp [ha, hfilter, hrest]

section

variable {le : α → α → Bool} (trans : ∀ a b c, le a b = true → le b c = true → le a c = true)
  (total : ∀ a b, (le a b || le b a) = true)

include trans total

/-- Of the sorted elements, those that come later than `a` stand last. -/
theorem filter_append_filter (a : α) (l : List α) :
    (l.mergeSort le).filter (!le a ·) ++ (l.mergeSort le).filter (le a) = l.mergeSort le := by
  have hfirst : (l.mergeSort le).Pairwise fun b c => (!le a c) = true → (!le a b) = true := by
    refine (List.pairwise_mergeSort trans total l).imp fun {b c} hbc hac => ?_
    cases hab : le a b with
    | true => simp [trans _ _ _ hab hbc] at hac
    | false => rfl
  have h := List.takeWhile_append_dropWhile (p := (!le a ·)) (l := l.mergeSort le)
  rw [(while_eq_filter hfirst).1, (while_eq_filter hfirst).2] at h
  simpa only [Bool.not_not] using h

/-- The first element goes before all that come no earlier. -/
theorem mergeSort_cons_eq (a : α) (l : List α) : (a :: l).mergeSort le =
    (l.mergeSort le).filter (!le a ·) ++ a :: (l.mergeSort le).filter (le a) := by
  obtain ⟨l₁, l₂, hcons, hl, hbefore⟩ := List.mergeSort_cons trans total a l
  have hsorted := List.pairwise_mergeSort trans total (a :: l)
  rw [hcons, List.pairwise_append, List.pairwise_cons] at hsorted
  have hafter : ∀ b ∈ l₂, le a b = true := hsorted.2.1.1
  have h₁ : l₁.filter (le a) = [] := List.filter_eq_nil_iff.mpr fun b hb => by
    simpa using hbefore b hb
  have h₂ : l₂.filter (!le a ·) = [] := List.filter_eq_nil_iff.mpr fun b hb => by
    simp [hafter b hb]
  rw [hcons, hl, List.filter_append, List.filter_append, h₁, h₂, List.filter_eq_self.mpr hbefore,
    List.filter_eq_self.mpr hafter, List.append_nil, List.nil_append]

/-- Elements may be left out before a list is sorted or after. -/
theorem filter_mergeSort (p : α → Bool) (l : List α) :
    (l.mergeSort le).filter p = (l.filter p).mergeSort le := by
  induction l with
  | nil => simp
  | cons a l ih =>
    rw [mergeSort_cons_eq trans total, List.filter_append, List.filter_cons]
    cases ha : p a with
    | true =>
      rw [if_pos rfl, List.filter_cons_of_pos ha, mergeSort_cons_eq trans total, ← ih]
      simp only [List.filter_filter, Bool.and_comm]
    | false =>
      rw [if_neg Bool.false_ne_true, List.filter_cons_of_neg (by simp [ha]), ← ih,
        ← List.filter_append, filter_append_filter trans total]

/-- The last element goes behind all that come no later. -/
theorem mergeSort_append_singleton (l : List α) (e : α) : (l ++ [e]).mergeSort le =
    (l.mergeSort le).filter (le · e) ++ e :: (l.mergeSort le).filter (!le · e) := by
  induction l with
  | nil => simp
  | cons a l ih =>
    rw [List.cons_append, mergeSort_cons_eq trans total, ih, mergeSort_cons_eq trans total]
    cases hae : le a e with
    | true =>
      have hnone : (l.mergeSort le).filter (fun b => !le a b && !le b e) = [] := by
        refine List.filter_eq_nil_iff.mpr fun b _ hb => ?_
        have htotal := total b e
        grind
      simp [hae, List.filter_filter, hnone, Bool.and_comm]
    | false =>
      have hnone : (l.mergeSort le).filter (fun b => le a b && le b e) = [] := by
        refine List.filter_eq_nil_iff.mpr fun b _ hb => ?_
        grind
      simp [hae, List.filter_filter, hnone, Bool.and_comm]

/-- The last element is put in its place by one walk over the others. -/
theorem mergeSort_append_singleton_while (l : List α) (e : α) : (l ++ [e]).mergeSort le =
    (l.mergeSort le).takeWhile (le · e) ++ e :: (l.mergeSort le).dropWhile (le · e) := by
  have hfirst : (l.mergeSort le).Pairwise fun a b => le b e = true → le a e = true :=
    (List.pairwise_mergeSort trans total l).imp fun hab hbe => trans _ _ _ hab hbe
  rw [(while_eq_filter hfirst).1, (while_eq_filter hfirst).2, mergeSort_append_singleton trans total]

end

end Clearance.StableOrder
