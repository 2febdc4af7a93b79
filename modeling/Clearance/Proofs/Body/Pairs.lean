import Mathlib.Data.Sym.Sym2
import Clearance.Body.Pair

/-! Keys of unordered pairs. A key made from two names holds just these, the lesser one first, and so
there is one key in order for each unordered pair. -/

namespace Clearance.BodyPair

theorem first_le_second_make (a b : BodyId) : (make a b).first.le (make a b).second = true := by
  unfold make
  split
  · rename_i h
    simpa [BodyId.le] using String.lt_asymm h
  · rename_i h
    simpa [BodyId.le] using h

theorem make_eq_or (a b : BodyId) : make a b = ⟨a, b⟩ ∨ make a b = ⟨b, a⟩ := by
  unfold make
  split
  · exact .inr rfl
  · exact .inl rfl

/-- The names of a key without their order. -/
def unordered (p : BodyPair) : Sym2 BodyId := s(p.first, p.second)

theorem unordered_make (a b : BodyId) : (make a b).unordered = s(a, b) := by
  rcases make_eq_or a b with h | h <;> rw [h, unordered]
  exact Sym2.eq_swap

theorem make_eq_make_iff (a b c d : BodyId) : make a b = make c d ↔ s(a, b) = s(c, d) := by
  constructor
  · intro h
    rw [← unordered_make, h, unordered_make]
  · intro h
    rcases Sym2.eq_iff.mp h with ⟨rfl, rfl⟩ | ⟨rfl, rfl⟩
    · rfl
    · exact make_comm ..

theorem contains_make (a b c : BodyId) : (make a b).contains c = true ↔ c ∈ s(a, b) := by
  rw [← unordered_make, unordered, Sym2.mem_iff, contains, Bool.or_eq_true, decide_eq_true_iff,
    decide_eq_true_iff, eq_comm, @eq_comm _ (make a b).second]

/-- A key in order is the key of its names. -/
theorem make_first_second {p : BodyPair} (h : p.first.le p.second = true) :
    make p.first p.second = p := by
  have hle : ¬ p.second.name < p.first.name := by simpa [BodyId.le] using h
  rw [make, if_neg hle]

end Clearance.BodyPair
