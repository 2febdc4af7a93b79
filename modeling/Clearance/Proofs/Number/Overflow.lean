import Clearance.Proofs.Number.Arithmetic
import Clearance.Space.Scalar

/-! Where operations on doubles do not overflow. Sizes that are known to within a power of two are
enough for halves, roots and most quotients. A number times a quotient by its own square needs more:
the square of a number above one is beyond the next double, and that makes up for what rounding
may have added to the quotient. -/

namespace Clearance.Number

open Float.Model Float.Model.UnpackedFloat

/-! ### Sizes within powers of two -/

/-- The largest double is the last one below a power of two. -/
theorem largest_bounds : (2 : ℝ) ^ (1023 : ℤ) ≤ largest ∧ largest < 2 ^ (1024 : ℤ) := by
  have hunit : (0 : ℝ) < 2 ^ (971 : ℤ) := by positivity
  have hsplit : ∀ k : ℕ, (2 : ℝ) ^ ((k : ℤ) + 971) = (2 ^ k : ℕ) * 2 ^ (971 : ℤ) := by
    intro k
    rw [zpow_add₀ two_ne_zero, zpow_natCast]
    push_cast
    rfl
  rw [show (1023 : ℤ) = (52 : ℕ) + 971 by decide, show (1024 : ℤ) = (53 : ℕ) + 971 by decide,
    hsplit, hsplit, largest]
  constructor
  · gcongr
    exact_mod_cast (by decide : 2 ^ 52 ≤ 0x1FFFFFFFFFFFFF)
  · gcongr
    exact_mod_cast (by decide : 0x1FFFFFFFFFFFFF < 2 ^ 53)

theorem zpow_le_largest {e : ℤ} (he : e ≤ 1023) : 2 ^ e ≤ largest :=
  (zpow_le_zpow_right₀ one_le_two he).trans largest_bounds.1

section

variable {x y : Float}

theorem le_size_add (hx : IsPlus x) (hy : IsPlus y) (h : (x + y).isFinite = true) :
    size x ≤ size (x + y) ∧ size y ≤ size (x + y) :=
  ⟨(roundsTo_add hx hy).le_size h (isGrid_size x) (by linarith [size_nonneg y]),
    (roundsTo_add hx hy).le_size h (isGrid_size y) (by linarith [size_nonneg x])⟩

/-- The root of a number is not too small if the number is not. -/
theorem le_size_sqrt (hx : IsPlus x) (hle : 2 ^ (-104 : ℤ) ≤ size x) :
    x.sqrt.isFinite = true ∧ 2 ^ (-52 : ℤ) ≤ size x.sqrt := by
  have hround := roundsTo_sqrt hx
  have hfinite : x.sqrt.isFinite = true := by
    have hone : 1 ≤ largest := zpow_le_largest (e := 0) (by decide)
    refine hround.isFinite (Real.sqrt_le_iff.mpr ⟨isGrid_largest.nonneg, ?_⟩)
    nlinarith [size_le_largest x]
  refine ⟨hfinite, hround.le_size hfinite (isGrid_zpow (by decide)) ?_⟩
  refine Real.le_sqrt_of_sq_le ?_
  rw [← zpow_natCast, ← zpow_mul]
  exact hle

/-- A double has a finite square only if it is small enough. -/
theorem size_le_of_isFinite_mul_self (h : (x * x).isFinite = true) : size x ≤ 2 ^ (512 : ℤ) := by
  have hx := (isFinite_of_mul h).1
  by_contra hlarge
  have hlarge' : (2 : ℝ) ^ (512 : ℤ) ≤ size x := le_of_not_ge hlarge
  have hsquare : (2 : ℝ) ^ (1024 : ℤ) ≤ size x * size x := by
    rw [show (1024 : ℤ) = 512 + 512 by decide, zpow_add₀ two_ne_zero]
    exact mul_le_mul hlarge' hlarge' (by positivity) (size_nonneg x)
  have hgrid := (roundsTo_mul hx hx).le_size h (isGrid_zpow (by decide)) hsquare
  linarith [size_le_largest (x * x), largest_bounds.2]

/-- More than the square of `Scalar.epsilon`, in size. -/
theorem le_size_of_epsilon_lt (hx : IsPlus x) (h : Scalar.epsilon * Scalar.epsilon < x) :
    2 ^ (-104 : ℤ) ≤ size x := by
  have hlimit : rank (Scalar.epsilon * Scalar.epsilon : Float) = 919 * 0x10000000000000 := by
    decide +kernel
  obtain ⟨-, hnan, hlt⟩ := (lt_iff_rank ..).mp h
  have hrank := rank?_toModel x
  rw [hnan, if_neg Bool.false_ne_true] at hrank
  have hsign := hx.sign
  have hunpacked := isUnpacked x
  unfold size
  rcases eq_zero_or_finite hx.finite with ⟨s, hu⟩ | ⟨s, m, e, hm, hu⟩ <;>
    rw [show x.toModel.unpack = _ from hu] at hrank hsign hunpacked ⊢ <;>
    obtain rfl : s = .positive := hsign
  · have hzero : 0 = rank x := Option.some.inj hrank
    omega
  · have hfinite : finiteRank m e = rank x := Option.some.inj hrank
    obtain ⟨-, hbits, -, -, hhidden⟩ := hunpacked
    unfold finiteRank at hfinite
    have hm' : (2 : ℝ) ^ (52 : ℤ) ≤ m := by
      norm_num
      exact_mod_cast show 0x10000000000000 ≤ m by omega
    have he : (2 : ℝ) ^ (-156 : ℤ) ≤ 2 ^ e := zpow_le_zpow_right₀ one_le_two (by omega)
    calc (2 : ℝ) ^ (-104 : ℤ) = 2 ^ (52 : ℤ) * 2 ^ (-156 : ℤ) := by
          rw [← zpow_add₀ two_ne_zero]
          norm_num
      _ ≤ m * 2 ^ e := by gcongr

/-- A number over a length that is not too short. -/
theorem isFinite_div (hx : x.isFinite = true) (hle : size x ≤ 2 ^ (512 : ℤ))
    (hy : y.isFinite = true) (hlow : 2 ^ (-52 : ℤ) ≤ size y) : (x / y).isFinite = true := by
  have hpos : (0 : ℝ) < 2 ^ (-52 : ℤ) := by positivity
  refine (roundsTo_div hx hy (hpos.trans_le hlow).ne').isFinite ?_
  calc size x / size y ≤ 2 ^ (512 : ℤ) / 2 ^ (-52 : ℤ) := by gcongr
    _ = 2 ^ (564 : ℤ) := by
        rw [← zpow_sub₀ two_ne_zero]
        norm_num
    _ ≤ largest := zpow_le_largest (by decide)

theorem isFinite_half (h : x.isFinite = true) : (x / Scalar.two).isFinite = true := by
  have htwo : size (Scalar.two : Float) = 2 := by
    have hunpack : (Scalar.two : Float).toModel.unpack =
      .finite .positive 0x10000000000000 (-51) (by decide) := by rfl
    rw [size, hunpack, unpackedSize]
    norm_num
  refine (roundsTo_div h (by decide +kernel) (by rw [htwo]; norm_num)).isFinite ?_
  rw [htwo]
  linarith [size_le_largest x, size_nonneg x]

end

/-! ### A number times a quotient by its square -/

/-- The number after one is the least double above it. -/
theorem one_add_le {m : ℕ} {e : ℤ} (h : IsCanonical m e) (hone : (1 : ℝ) < m * 2 ^ e) :
    0x10000000000000 ≤ m ∧ 1 + 2 ^ (-52 : ℤ) ≤ (m : ℝ) * 2 ^ e := by
  have hlow : -53 < e := by
    by_contra hle
    have hunit : (2 : ℝ) ^ e ≤ 2 ^ (-53 : ℤ) := zpow_le_zpow_right₀ one_le_two (by omega)
    have hm : (m : ℝ) ≤ 2 ^ (53 : ℕ) := by exact_mod_cast h.lt.le
    have hsmall : (m : ℝ) * 2 ^ e ≤ 2 ^ (53 : ℕ) * 2 ^ (-53 : ℤ) := by gcongr
    norm_num at hsmall hone
    linarith
  have hm : 0x10000000000000 ≤ m := h.hidden.resolve_left (by omega)
  refine ⟨hm, ?_⟩
  by_cases he : e = -52
  · subst he
    have hm' : (0x10000000000000 : ℝ) + 1 ≤ m := by
      have hne : m ≠ 0x10000000000000 := by
        rintro rfl
        norm_num at hone
      exact_mod_cast show 0x10000000000000 + 1 ≤ m by omega
    calc (1 : ℝ) + 2 ^ (-52 : ℤ) = (0x10000000000000 + 1) * 2 ^ (-52 : ℤ) := by norm_num
      _ ≤ m * 2 ^ (-52 : ℤ) := by gcongr
  · have hunit : (2 : ℝ) ^ (-51 : ℤ) ≤ 2 ^ e := zpow_le_zpow_right₀ one_le_two (by omega)
    have hm' : (0x10000000000000 : ℝ) ≤ m := by exact_mod_cast hm
    calc (1 : ℝ) + 2 ^ (-52 : ℤ) ≤ 0x10000000000000 * 2 ^ (-51 : ℤ) := by norm_num
      _ ≤ m * 2 ^ e := by gcongr

/-- The square of a number above one is beyond the next number. -/
theorem next_le_mul_self {m : ℕ} {e : ℤ} (h : IsCanonical m e) (hone : (1 : ℝ) < m * 2 ^ e) :
    (m + 1 : ℕ) * 2 ^ e ≤ (m * 2 ^ e) * (m * 2 ^ e : ℝ) := by
  obtain ⟨hm, hstep⟩ := one_add_le h hone
  have hm' : (1 : ℝ) ≤ m * 2 ^ (-52 : ℤ) := by
    have hm' : (0x10000000000000 : ℝ) ≤ m := by exact_mod_cast hm
    norm_num
    linarith
  calc ((m + 1 : ℕ) : ℝ) * 2 ^ e = m * 2 ^ e + 1 * 2 ^ e := by push_cast; ring
    _ ≤ m * 2 ^ e + m * 2 ^ (-52 : ℤ) * 2 ^ e := by gcongr
    _ = m * 2 ^ e * (1 + 2 ^ (-52 : ℤ)) := by ring
    _ ≤ m * 2 ^ e * (m * 2 ^ e) := by gcongr

/-- What a number is short of the next one makes up for the error of a quotient. -/
theorem mul_div_le {m : ℕ} {e : ℤ} {d q : ℝ} (hm : m < 0x20000000000000) (hd : 0 ≤ d)
    (hq : (m + 1 : ℕ) * 2 ^ e ≤ q) : m * 2 ^ e * (d / q * (1 + 2 ^ (-53 : ℤ))) ≤ d := by
  have hnext : (m : ℝ) * (1 + 2 ^ (-53 : ℤ)) ≤ (m + 1 : ℕ) := by
    have hm' : (m : ℝ) ≤ 0x20000000000000 := by exact_mod_cast hm.le
    norm_num
    linarith
  calc m * 2 ^ e * (d / q * (1 + 2 ^ (-53 : ℤ)))
      ≤ m * 2 ^ e * (d / ((m + 1 : ℕ) * 2 ^ e) * (1 + 2 ^ (-53 : ℤ))) := by gcongr
    _ = d * ((m * (1 + 2 ^ (-53 : ℤ))) / (m + 1 : ℕ)) := by field_simp
    _ ≤ d * 1 := by
        gcongr
        exact (div_le_one (by positivity)).mpr hnext
    _ = d := mul_one d

/-- A number times a quotient by its square, or by more, does not overflow unless the quotient
does. -/
theorem isFinite_mul_div {c d q : Float} (hc : (c * c).isFinite = true) (hd : d.isFinite = true)
    (hq : IsPlus q) (hle : size (c * c) ≤ size q) (hpos : 0 < size q)
    (hquotient : (d / q).isFinite = true) : (c * (d / q)).isFinite = true := by
  have hfinite := (isFinite_of_mul hc).1
  refine (roundsTo_mul hfinite hquotient).isFinite ?_
  have hround := roundsTo_div hd hq.finite hpos.ne'
  rcases le_or_gt (size c) 1 with hone | hone
  · calc size c * size (d / q) ≤ 1 * size (d / q) := by
          gcongr
          exact size_nonneg _
      _ = size (d / q) := one_mul _
      _ ≤ largest := size_le_largest _
  · obtain ⟨m, e, hcanonical, hsize⟩ := (size_eq_zero_or c).resolve_left (by linarith)
    have hnext : ((m + 1 : ℕ) : ℝ) * 2 ^ e ≤ size q := by
      refine le_trans ((roundsTo_mul hfinite hfinite).le_size hc ?_ ?_) hle
      · exact ⟨m + 1, e, hcanonical.lt, hcanonical.low, rfl⟩
      · rw [hsize] at hone ⊢
        exact next_le_mul_self hcanonical hone
    rcases lt_or_ge (size d / size q) (2 ^ (-1022 : ℤ)) with htiny | hnormal
    · have hsmall := hround.size_le hquotient (isGrid_zpow (by decide)) htiny.le
      calc size c * size (d / q) ≤ 2 ^ (512 : ℤ) * 2 ^ (-1022 : ℤ) :=
            mul_le_mul (size_le_of_isFinite_mul_self hc) hsmall (size_nonneg _) (by positivity)
        _ = 2 ^ (-510 : ℤ) := by rw [← zpow_add₀ two_ne_zero]; norm_num
        _ ≤ largest := zpow_le_largest (by decide)
    · calc size c * size (d / q) ≤ m * 2 ^ e * (size d / size q * (1 + 2 ^ (-53 : ℤ))) := by
            rw [hsize]
            gcongr
            exact hround.size_le_mul hquotient hnormal
        _ ≤ size d := mul_div_le hcanonical.lt (size_nonneg d) hnext
        _ ≤ largest := size_le_largest d

end Clearance.Number
