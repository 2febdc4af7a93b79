import Clearance.Proofs.Number.Packing

/-! Rounding of doubles, told on the reals. The bits that guard a mantissa keep apart what is
nearest to it, so that an operation comes to the nearest whole number of units; and the unit is so
small that neither a double nor a power of two is ever passed over. -/

namespace Clearance.Number

open Float.Model Float.Model.UnpackedFloat

/-! ### Guard bits -/

/-- What a mantissa with its guard bits says about the number that it was cut from. -/
def Guards (em : ExtendedMantissa) (x : ℝ) : Prop :=
  match em.roundBit, em.stickyBit with
  | false, false => x = em.mantissa
  | false, true => em.mantissa < x ∧ x < em.mantissa + 1 / 2
  | true, false => x = em.mantissa + 1 / 2
  | true, true => em.mantissa + 1 / 2 < x ∧ x < em.mantissa + 1

theorem Guards.bounds {em : ExtendedMantissa} {x : ℝ} (h : Guards em x) :
    em.mantissa ≤ x ∧ x < em.mantissa + 1 := by
  obtain ⟨m, r, s⟩ := em
  cases r <;> cases s <;> simp only [Guards] at h <;> constructor <;> linarith

/-- The rounded mantissa is a nearest whole number. -/
theorem Guards.abs_sub_le {em : ExtendedMantissa} {x : ℝ} (h : Guards em x) :
    |em.roundedMantissa - x| ≤ 1 / 2 := by
  obtain ⟨m, r, s⟩ := em
  rw [abs_le]
  cases r <;> cases s <;> simp only [Guards] at h
  case true.false =>
    have heven : m % 2 = 0 ∨ m % 2 = 1 := by omega
    simp only [ExtendedMantissa.roundedMantissa, ExtendedMantissa.accuracy,
      Accuracy.roundToNearestEven]
    rcases heven with h' | h' <;> rw [h'] <;> push_cast <;> constructor <;> linarith
  all_goals
    simp only [ExtendedMantissa.roundedMantissa, ExtendedMantissa.accuracy,
      Accuracy.roundToNearestEven]
    push_cast
    constructor <;> linarith

theorem Guards.shiftRightOne {em : ExtendedMantissa} {x : ℝ} (h : Guards em x) :
    Guards em.shiftRightOne (x / 2) := by
  obtain ⟨m, r, s⟩ := em
  have hm : (m : ℝ) = 2 * (m / 2 : ℕ) + (m % 2 : ℕ) := by exact_mod_cast (Nat.div_add_mod m 2).symm
  -- the bit that is cut off becomes the round bit, and the old one joins the sticky bit
  obtain ⟨b, hround, hbit⟩ : ∃ b, (m % 2 != 0) = b ∧ ((m % 2 : ℕ) : ℝ) = b.toNat := by
    rcases Nat.mod_two_eq_zero_or_one m with hbit | hbit
    · exact ⟨false, by rw [hbit]; rfl, by rw [hbit, Bool.toNat_false]⟩
    · exact ⟨true, by rw [hbit]; rfl, by rw [hbit, Bool.toNat_true]⟩
  rw [hbit] at hm
  cases b <;> cases r <;> cases s <;>
    simp only [Guards, Bool.toNat_false, Bool.toNat_true, Nat.cast_zero, Nat.cast_one] at h hm <;>
    simp only [Guards, ExtendedMantissa.shiftRightOne, hround, Bool.or_self, Bool.or_true,
      Bool.or_false] <;>
    first | linarith | (constructor <;> linarith)

theorem Guards.shiftRight {em : ExtendedMantissa} {x : ℝ} (h : Guards em x) (n : ℕ) :
    Guards (em >>> n) (x / 2 ^ n) := by
  change Guards (n.repeat ExtendedMantissa.shiftRightOne em) _
  induction n with
  | zero => simpa [Nat.repeat] using h
  | succ n ih =>
    rw [Nat.repeat, pow_succ, ← div_div]
    exact ih.shiftRightOne

theorem guards_exact (m : ℕ) : Guards (.ofMantissaAndAccuracy m .exact) m := rfl

theorem guards_lt {m : ℕ} {x : ℝ} :
    Guards (.ofMantissaAndAccuracy m (.inexact .lt)) x ↔ m < x ∧ x < m + 1 / 2 := Iff.rfl

theorem guards_eq {m : ℕ} {x : ℝ} :
    Guards (.ofMantissaAndAccuracy m (.inexact .eq)) x ↔ x = m + 1 / 2 := Iff.rfl

theorem guards_gt {m : ℕ} {x : ℝ} :
    Guards (.ofMantissaAndAccuracy m (.inexact .gt)) x ↔ m + 1 / 2 < x ∧ x < m + 1 := Iff.rfl

/-! ### Cutting to the format -/

theorem targetExponent_eq (t : ℤ) : Format.binary64.targetExponent t = max (t - 53) (-1074) := rfl

/-- What a rounded mantissa that need not have all of its bits is made into. -/
def settle (s : Sign) (k : ℕ) (t : ℤ) : UnpackedFloat :=
  if k = 0x20000000000000 then .finite s 0x10000000000000 (t + 1) (by decide)
  else if h : k = 0 then .zero s
  else .finite s k t (Nat.pos_of_ne_zero h)

/-- A mantissa that rounding has made one bit too long loses a zero. -/
theorem shiftToTargetExponent_exact {k : ℕ} {t : ℤ} (hk : k ≤ 0x20000000000000)
    (ht : -1074 ≤ t) : shiftToTargetExponent .binary64 k t .exact =
      if k = 0x20000000000000 then (⟨0x10000000000000, false, false⟩, t + 1)
      else (⟨k, false, false⟩, t) := by
  split
  · rename_i hcarry
    have hlog : Nat.log2 0x20000000000000 = 53 := by decide +kernel
    have htarget : Format.binary64.targetExponent (totalExponent k t) = t + 1 := by
      rw [targetExponent_eq, totalExponent, hcarry, hlog]
      omega
    simp only [shiftToTargetExponent, htarget, shiftToExponent]
    rw [hcarry, show (t + 1 - t).toNat = 1 by omega]
    rfl
  · rename_i hcarry
    have hlog : k.log2 ≤ 52 := by
      by_cases h0 : k = 0
      · rw [h0]; decide
      · exact Nat.lt_succ_iff.mp ((Nat.log2_lt h0).mpr (by omega))
    have htarget : Format.binary64.targetExponent (totalExponent k t) ≤ t := by
      rw [targetExponent_eq, totalExponent]
      omega
    simp only [shiftToTargetExponent, shiftToExponent]
    rw [Int.toNat_of_nonpos (by omega)]
    exact congrArg _ (add_zero t)

/-- The number `k` of units `2 ^ t` is nearest to `r`, and the unit is as small as the format
allows. -/
structure IsNearest (r : ℝ) (k : ℕ) (t : ℤ) : Prop where
  low : -1074 ≤ t
  le : k ≤ 0x20000000000000
  near : |k - r / 2 ^ t| ≤ 1 / 2
  hidden : t = -1074 ∨ 0x10000000000000 ≤ r / 2 ^ t

theorem mantissa_ofMantissaAndAccuracy (m : ℕ) (acc : Accuracy) :
    (ExtendedMantissa.ofMantissaAndAccuracy m acc).mantissa = m := by
  rcases acc with _ | (_ | _ | _) <;> rfl

/-- Cut to 53 bits, a mantissa is below the next power of two. -/
theorem cut_lt {m n : ℕ} {x : ℝ} (hx : x < m + 1) (hn : m.log2 + 1 ≤ n + 53) :
    x / 2 ^ n < 0x20000000000000 := by
  have hpow : m + 1 ≤ 0x20000000000000 * 2 ^ n := calc
    m + 1 ≤ 2 ^ (m.log2 + 1) := Nat.lt_log2_self
    _ ≤ 2 ^ (n + 53) := Nat.pow_le_pow_right (by decide) hn
    _ = 0x20000000000000 * 2 ^ n := by rw [pow_add]; ring
  rw [div_lt_iff₀ (by positivity)]
  have hpow' : (m : ℝ) + 1 ≤ 0x20000000000000 * 2 ^ n := by exact_mod_cast hpow
  linarith

/-- Cut to 53 bits, a mantissa that was at least as long keeps all of them. -/
theorem le_cut {m n : ℕ} {x : ℝ} (hx : m ≤ x) (hn : n + 52 = m.log2) :
    0x10000000000000 ≤ x / 2 ^ n := by
  have hpos : m ≠ 0 := by
    rintro rfl
    simp at hn
  have hpow : 0x10000000000000 * 2 ^ n ≤ m := calc
    0x10000000000000 * 2 ^ n = 2 ^ (n + 52) := by rw [pow_add]; ring
    _ = 2 ^ m.log2 := by rw [hn]
    _ ≤ m := Nat.log2_self_le hpos
  rw [le_div_iff₀ (by positivity)]
  have hpow' : (0x10000000000000 * 2 ^ n : ℝ) ≤ m := by exact_mod_cast hpow
  linarith

/-- The mantissa is cut to a unit and rounded there. -/
theorem exists_roundWithAccuracy_eq_settle {m : ℕ} {e : ℤ} {acc : Accuracy} {x : ℝ}
    (hx : Guards (.ofMantissaAndAccuracy m acc) x)
    (he : e ≤ Format.binary64.targetExponent (totalExponent m e)) (s : Sign) :
    ∃ k t, roundWithAccuracy .binary64 s m e acc = settle s k t ∧ IsNearest (x * 2 ^ e) k t := by
  obtain ⟨n, hn⟩ := Int.eq_ofNat_of_zero_le (Int.sub_nonneg_of_le he)
  have htarget : Format.binary64.targetExponent (totalExponent m e) = e + n := by omega
  have hexponent := htarget
  rw [targetExponent_eq, totalExponent] at hexponent
  have hbounds := hx.bounds
  rw [mantissa_ofMantissaAndAccuracy] at hbounds
  have hunit : x * 2 ^ e / 2 ^ (e + n) = x / 2 ^ n := by
    rw [zpow_add₀ two_ne_zero, zpow_natCast]
    field_simp
  have hnear := (hx.shiftRight n).abs_sub_le
  generalize hk : (ExtendedMantissa.ofMantissaAndAccuracy m acc >>> n).roundedMantissa = k at hnear
  have hle : k ≤ 0x20000000000000 := by
    have hbelow := cut_lt (n := n) hbounds.2 (by omega)
    have hlt : (k : ℝ) < 0x20000000000000 + 1 := by linarith [(abs_le.mp hnear).2]
    have hlt' : k < 0x20000000000000 + 1 := by exact_mod_cast hlt
    omega
  have hlow : -1074 ≤ e + n := by omega
  refine ⟨k, e + n, ?_, hlow, hle, by rw [hunit]; exact hnear, ?_⟩
  · have hfirst : shiftToTargetExponent .binary64 m e acc =
        (ExtendedMantissa.ofMantissaAndAccuracy m acc >>> n, e + n) := by
      simp only [shiftToTargetExponent, shiftToExponent, htarget]
      rw [show (e + (n : ℤ) - e).toNat = n by omega]
    simp only [roundWithAccuracy, hfirst, hk, shiftToTargetExponent_exact hle hlow, settle]
    split <;> rfl
  · rw [hunit]
    exact or_iff_not_imp_left.mpr fun hcut => le_cut hbounds.1 (by omega)

/-! ### Sizes -/

/-- The size of an unpacked double; what is not finite has none. -/
noncomputable def unpackedSize : UnpackedFloat → ℝ
  | .finite _ m e _ => m * 2 ^ e
  | _ => 0

/-- Sizes that are never passed over: at most 53 bits of units that are not too small. -/
def IsGrid (g : ℝ) : Prop :=
  ∃ (k : ℕ) (e : ℤ), k ≤ 0x20000000000000 ∧ -1074 ≤ e ∧ g = k * 2 ^ e

/-- The size of the largest double. -/
noncomputable def largest : ℝ := (0x1FFFFFFFFFFFFF : ℕ) * 2 ^ (971 : ℤ)

theorem isGrid_largest : IsGrid largest := ⟨_, _, by decide, by decide, rfl⟩

theorem isGrid_zpow {e : ℤ} (he : -1074 ≤ e) : IsGrid (2 ^ e) :=
  ⟨1, e, by decide, he, by rw [Nat.cast_one, one_mul]⟩

theorem IsGrid.nonneg {g : ℝ} (h : IsGrid g) : 0 ≤ g := by
  obtain ⟨k, e, -, -, rfl⟩ := h
  positivity

theorem unpackedSize_nonneg (u : UnpackedFloat) : 0 ≤ unpackedSize u := by
  cases u <;> simp only [unpackedSize] <;> positivity

theorem unpackedSize_settle (s : Sign) (k : ℕ) (t : ℤ) :
    unpackedSize (settle s k t) = k * 2 ^ t := by
  unfold settle
  split
  · rename_i hcarry
    rw [hcarry, unpackedSize, zpow_add_one₀ two_ne_zero]
    push_cast
    ring
  · split
    · rename_i hzero
      rw [hzero, Nat.cast_zero, zero_mul]
      rfl
    · rfl

/-- What is packed to infinity is larger than the largest double. -/
theorem IsRounded.unpack_pack_cases {m : ℕ} {e : ℤ} (h : IsRounded m e) (s : Sign) :
    (Float.Model.pack (.finite s m e h.pos)).unpack = .finite s m e h.pos ∨
      (Float.Model.pack (.finite s m e h.pos)).unpack = .infinity s ∧
        largest < unpackedSize (.finite s m e h.pos) := by
  rw [h.unpack_pack s]
  split
  · rename_i hlarge
    refine .inr ⟨rfl, ?_⟩
    have hm : (0x10000000000000 : ℝ) ≤ m := by exact_mod_cast h.hidden.resolve_left (by omega)
    have he : (2 : ℝ) ^ (971 : ℤ) * 2 ≤ 2 ^ e := by
      rw [← zpow_add_one₀ two_ne_zero]
      exact zpow_le_zpow_right₀ one_le_two (by omega)
    have hunit : (0 : ℝ) < 2 ^ (971 : ℤ) := by positivity
    calc largest = 0x1FFFFFFFFFFFFF * 2 ^ (971 : ℤ) := by rw [largest, Nat.cast_ofNat]
      _ < 0x20000000000000 * 2 ^ (971 : ℤ) := by gcongr; norm_num
      _ = 0x10000000000000 * (2 ^ (971 : ℤ) * 2) := by ring
      _ ≤ m * 2 ^ e := by gcongr
  · exact .inl rfl

/-- Numbers of units on the grid: a number that is on it bounds the rounded number if it bounds the
number itself. -/
theorem exists_eq_natCast_or_le {g : ℝ} (hg : IsGrid g) {t : ℤ} (ht : -1074 ≤ t) :
    (∃ n : ℕ, g / 2 ^ t = n) ∨ -1074 < t ∧ g / 2 ^ t ≤ 0x10000000000000 := by
  obtain ⟨k, e, hk, he, rfl⟩ := hg
  have hunit : (k : ℝ) * 2 ^ e / 2 ^ t = k * 2 ^ (e - t) := by
    rw [zpow_sub₀ two_ne_zero, mul_div_assoc]
  rw [hunit]
  by_cases hle : t ≤ e
  · obtain ⟨n, hn⟩ := Int.eq_ofNat_of_zero_le (Int.sub_nonneg_of_le hle)
    exact .inl ⟨k * 2 ^ n, by rw [hn]; push_cast; rw [zpow_natCast]⟩
  · refine .inr ⟨by omega, ?_⟩
    have hhalf : (2 : ℝ) ^ (e - t) ≤ 2 ^ (-1 : ℤ) := zpow_le_zpow_right₀ one_le_two (by omega)
    have hk' : (k : ℝ) ≤ 0x20000000000000 := by exact_mod_cast hk
    calc (k : ℝ) * 2 ^ (e - t) ≤ 0x20000000000000 * 2 ^ (-1 : ℤ) := by gcongr
      _ = 0x10000000000000 := by norm_num

namespace IsNearest

variable {r : ℝ} {k : ℕ} {t : ℤ}

theorem natCast_le (h : IsNearest r k t) {n : ℕ} (hn : r / 2 ^ t ≤ n) : k ≤ n := by
  have hlt : (k : ℝ) < n + 1 := by linarith [(abs_le.mp h.near).2]
  exact Nat.lt_succ_iff.mp (by exact_mod_cast hlt)

theorem le_natCast (h : IsNearest r k t) {n : ℕ} (hn : n ≤ r / 2 ^ t) : n ≤ k := by
  have hlt : (n : ℝ) < k + 1 := by linarith [(abs_le.mp h.near).1]
  exact Nat.lt_succ_iff.mp (by exact_mod_cast hlt)

theorem le_of_hidden (h : IsNearest r k t) (ht : -1074 < t) : 0x10000000000000 ≤ k :=
  h.le_natCast (by exact_mod_cast h.hidden.resolve_left (by omega))

/-- Rounding does not go beyond the grid upwards. -/
theorem mul_le (h : IsNearest r k t) {g : ℝ} (hg : IsGrid g) (hr : r ≤ g) : k * 2 ^ t ≤ g := by
  have hunit : (0 : ℝ) < 2 ^ t := by positivity
  have hr' : r / 2 ^ t ≤ g / 2 ^ t := by gcongr
  rw [← le_div_iff₀ hunit]
  rcases exists_eq_natCast_or_le hg h.low with ⟨n, hn⟩ | ⟨ht, hsmall⟩
  · rw [hn] at hr' ⊢
    exact_mod_cast h.natCast_le hr'
  · have hhidden := h.hidden.resolve_left (by omega)
    have hk : k ≤ 0x10000000000000 := h.natCast_le (by push_cast; linarith)
    have hk' : (k : ℝ) ≤ 0x10000000000000 := by exact_mod_cast hk
    linarith

/-- Rounding does not go beyond the grid downwards. -/
theorem le_mul (h : IsNearest r k t) {g : ℝ} (hg : IsGrid g) (hr : g ≤ r) : g ≤ k * 2 ^ t := by
  have hunit : (0 : ℝ) < 2 ^ t := by positivity
  have hr' : g / 2 ^ t ≤ r / 2 ^ t := by gcongr
  rw [← div_le_iff₀ hunit]
  rcases exists_eq_natCast_or_le hg h.low with ⟨n, hn⟩ | ⟨ht, hsmall⟩
  · rw [hn] at hr' ⊢
    exact_mod_cast h.le_natCast hr'
  · have hk : (0x10000000000000 : ℝ) ≤ k := by exact_mod_cast h.le_of_hidden ht
    linarith

/-- The error of rounding, relative to what is rounded. -/
theorem mul_le_mul (h : IsNearest r k t) (hr : 2 ^ (-1022 : ℤ) ≤ r) :
    k * 2 ^ t ≤ r * (1 + 2 ^ (-53 : ℤ)) := by
  have hunit : (0 : ℝ) < 2 ^ t := by positivity
  have hhidden : 0x10000000000000 ≤ r / 2 ^ t := by
    rcases h.hidden with rfl | hhidden
    · rw [le_div_iff₀ (by positivity)]
      calc (0x10000000000000 : ℝ) * 2 ^ (-1074 : ℤ) = 2 ^ (52 : ℤ) * 2 ^ (-1074 : ℤ) := by norm_num
        _ = 2 ^ (-1022 : ℤ) := by rw [← zpow_add₀ two_ne_zero]; norm_num
        _ ≤ r := hr
    · exact hhidden
  have hk : k ≤ r / 2 ^ t * (1 + 2 ^ (-53 : ℤ)) := by
    have hnear := (abs_le.mp h.near).2
    norm_num at hhidden ⊢
    linarith
  calc k * 2 ^ t ≤ r / 2 ^ t * (1 + 2 ^ (-53 : ℤ)) * 2 ^ t := by gcongr
    _ = r * (1 + 2 ^ (-53 : ℤ)) := by field_simp

theorem isRounded (h : IsNearest r k t) (hk : k ≠ 0x20000000000000) (h0 : k ≠ 0) :
    IsRounded k t where
  pos := Nat.pos_of_ne_zero h0
  lt := Nat.lt_of_le_of_ne h.le hk
  low := h.low
  hidden := or_iff_not_imp_left.mpr fun ht => h.le_of_hidden (by have := h.low; omega)

/-- A rounded value is packed as it is, or it is larger than the largest double. -/
theorem unpack_pack_settle (h : IsNearest r k t) (s : Sign) :
    (Float.Model.pack (settle s k t)).unpack = settle s k t ∨
      (Float.Model.pack (settle s k t)).unpack = .infinity s ∧ largest < k * 2 ^ t := by
  have hsize := unpackedSize_settle s k t
  by_cases hk : k = 0x20000000000000
  · have hrounded : IsRounded 0x10000000000000 (t + 1) :=
      ⟨by decide, by decide, by have := h.low; omega, .inr (le_refl _)⟩
    have hsettle : settle s k t = .finite s 0x10000000000000 (t + 1) hrounded.pos := if_pos hk
    rw [← hsize, hsettle]
    exact hrounded.unpack_pack_cases s
  · by_cases h0 : k = 0
    · have hsettle : settle s k t = .zero s := (if_neg hk).trans (dif_pos h0)
      rw [hsettle]
      exact .inl (unpack_pack_zero s)
    · have hrounded := h.isRounded hk h0
      have hsettle : settle s k t = .finite s k t hrounded.pos := (if_neg hk).trans (dif_neg h0)
      rw [← hsize, hsettle]
      exact hrounded.unpack_pack_cases s

end IsNearest

end Clearance.Number
