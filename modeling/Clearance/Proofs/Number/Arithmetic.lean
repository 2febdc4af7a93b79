import Clearance.Proofs.Number.Rounding

/-! The size of what an operation on doubles comes to. Where the operands are finite, it is the
size of the exact result, rounded; it is finite if the exact result is no larger than the largest
double. Sums are treated where nothing cancels. -/

namespace Clearance.Number

open Float.Model Float.Model.UnpackedFloat

/-! ### Rounded doubles -/

noncomputable def size (x : Float) : ℝ := unpackedSize x.toModel.unpack

def signOf : UnpackedFloat → Sign
  | .finite s _ _ _ | .zero s | .infinity s => s
  | .notANumber => .positive

/-- A finite double that is not negative, and not the negative zero. -/
structure IsPlus (x : Float) : Prop where
  finite : x.isFinite = true
  sign : signOf x.toModel.unpack = .positive

/-- The double is a number of size `r`, rounded, with a sign. -/
def RoundsTo (s : Sign) (r : ℝ) (x : Float) : Prop :=
  ∃ k t, IsNearest r k t ∧ x.toModel.unpack = (Float.Model.pack (settle s k t)).unpack

theorem size_nonneg (x : Float) : 0 ≤ size x := unpackedSize_nonneg _

theorem isFinite_settle (s : Sign) (k : ℕ) (t : ℤ) : (settle s k t).isFinite = true := by
  unfold settle
  split
  · rfl
  · split <;> rfl

theorem signOf_settle (s : Sign) (k : ℕ) (t : ℤ) : signOf (settle s k t) = s := by
  unfold settle
  split
  · rfl
  · split <;> rfl

namespace RoundsTo

variable {s : Sign} {r : ℝ} {x : Float}

theorem isFinite (h : RoundsTo s r x) (hr : r ≤ largest) : x.isFinite = true := by
  obtain ⟨k, t, hk, hx⟩ := h
  rcases hk.unpack_pack_settle s with heq | ⟨-, hlarge⟩
  · rw [heq] at hx
    exact (congrArg UnpackedFloat.isFinite hx).trans (isFinite_settle s k t)
  · exact absurd (hk.mul_le isGrid_largest hr) (not_le.mpr hlarge)

theorem size_eq (h : RoundsTo s r x) (hx : x.isFinite = true) :
    ∃ k t, IsNearest r k t ∧ size x = k * 2 ^ t := by
  obtain ⟨k, t, hk, hu⟩ := h
  rcases hk.unpack_pack_settle s with heq | ⟨heq, -⟩
  · exact ⟨k, t, hk, by rw [size, hu, heq, unpackedSize_settle]⟩
  · change x.toModel.unpack.isFinite = true at hx
    rw [hu, heq] at hx
    exact absurd hx Bool.false_ne_true

theorem size_le (h : RoundsTo s r x) (hx : x.isFinite = true) {g : ℝ} (hg : IsGrid g)
    (hr : r ≤ g) : size x ≤ g := by
  obtain ⟨k, t, hk, hsize⟩ := h.size_eq hx
  exact hsize ▸ hk.mul_le hg hr

theorem le_size (h : RoundsTo s r x) (hx : x.isFinite = true) {g : ℝ} (hg : IsGrid g)
    (hr : g ≤ r) : g ≤ size x := by
  obtain ⟨k, t, hk, hsize⟩ := h.size_eq hx
  exact hsize ▸ hk.le_mul hg hr

theorem size_le_mul (h : RoundsTo s r x) (hx : x.isFinite = true) (hr : 2 ^ (-1022 : ℤ) ≤ r) :
    size x ≤ r * (1 + 2 ^ (-53 : ℤ)) := by
  obtain ⟨k, t, hk, hsize⟩ := h.size_eq hx
  exact hsize ▸ hk.mul_le_mul hr

theorem isPlus (h : RoundsTo .positive r x) (hx : x.isFinite = true) : IsPlus x where
  finite := hx
  sign := by
    obtain ⟨k, t, hk, hu⟩ := h
    rw [hu]
    rcases hk.unpack_pack_settle .positive with heq | ⟨heq, -⟩ <;> rw [heq]
    · exact signOf_settle ..
    · rfl

end RoundsTo

/-! ### Values as they are -/

theorem isNearest_zero : IsNearest 0 0 (-1074) where
  low := le_refl _
  le := by decide
  near := by norm_num
  hidden := .inl rfl

theorem isNearest_self {m : ℕ} {e : ℤ} (h : IsCanonical m e) : IsNearest (m * 2 ^ e) m e where
  low := h.low
  le := h.lt.le
  near := by
    rw [mul_div_cancel_right₀ _ (by positivity), sub_self, abs_zero]
    norm_num
  hidden := h.hidden.imp_right fun hm => by
    rw [mul_div_cancel_right₀ _ (by positivity)]
    exact_mod_cast hm

theorem settle_of_isCanonical {m : ℕ} {e : ℤ} (h : IsCanonical m e) (s : Sign) :
    settle s m e = .finite s m e h.pos :=
  (if_neg h.lt.ne).trans (dif_neg h.pos.ne')

theorem size_eq_zero_or (x : Float) :
    size x = 0 ∨ ∃ m e, IsCanonical m e ∧ size x = m * 2 ^ e := by
  have hx := isUnpacked x
  unfold size
  cases hu : x.toModel.unpack with
  | finite s m e hm =>
    rw [hu] at hx
    exact .inr ⟨m, e, hx, rfl⟩
  | _ => exact .inl rfl

theorem isGrid_size (x : Float) : IsGrid (size x) := by
  rcases size_eq_zero_or x with h0 | ⟨m, e, hm, hsize⟩
  · exact ⟨0, 0, by decide, by decide, by rw [h0, Nat.cast_zero, zero_mul]⟩
  · exact ⟨m, e, hm.lt.le, hm.low, hsize⟩

theorem size_le_largest (x : Float) : size x ≤ largest := by
  rcases size_eq_zero_or x with h0 | ⟨m, e, hcanonical, hsize⟩
  · rw [h0]
    exact isGrid_largest.nonneg
  · have hm : (m : ℝ) ≤ (0x1FFFFFFFFFFFFF : ℕ) := by
      exact_mod_cast Nat.le_of_lt_succ hcanonical.lt
    have he : (2 : ℝ) ^ e ≤ 2 ^ (971 : ℤ) := zpow_le_zpow_right₀ one_le_two hcanonical.high
    rw [hsize, largest]
    gcongr

/-! ### Products -/

/-- A mantissa of all its bits, or an exponent at the lower end, leaves nothing to shift in. -/
theorem le_targetExponent {m : ℕ} {e : ℤ} (h : 0x10000000000000 ≤ m ∨ e ≤ -1074) :
    e ≤ Format.binary64.targetExponent (totalExponent m e) := by
  rw [targetExponent_eq, totalExponent]
  rcases h with h | h
  · have hlog : 52 ≤ m.log2 := (Nat.le_log2 (by omega)).mpr h
    omega
  · omega

theorem IsCanonical.mul {m n : ℕ} {e f : ℤ} (h : IsCanonical m e) (k : IsCanonical n f) :
    0x10000000000000 ≤ m * n ∨ e + f ≤ -1074 := by
  have hm := h.pos
  have hn := k.pos
  rcases h.hidden with he | hm'
  · rcases k.hidden with hf | hn'
    · omega
    · exact .inl (hn'.trans (Nat.le_mul_of_pos_left n hm))
  · exact .inl (hm'.trans (Nat.le_mul_of_pos_right m hn))

theorem exists_mul_eq_settle {u v : UnpackedFloat} (hu : IsUnpacked u) (hv : IsUnpacked v)
    (fu : u.isFinite = true) (fv : v.isFinite = true) :
    ∃ k t, UnpackedFloat.mul .binary64 u v = settle (signOf u * signOf v) k t ∧
      IsNearest (unpackedSize u * unpackedSize v) k t := by
  rcases eq_zero_or_finite fu with ⟨s, rfl⟩ | ⟨s, m, e, hm, rfl⟩ <;>
    rcases eq_zero_or_finite fv with ⟨s', rfl⟩ | ⟨s', n, f, hn, rfl⟩
  case inr.inr =>
    obtain ⟨k, t, heq, hnear⟩ := exists_roundWithAccuracy_eq_settle (guards_exact (m * n))
      (le_targetExponent (hu.mul hv)) (s * s')
    refine ⟨k, t, heq, ?_⟩
    have hsize : ((m * n : ℕ) : ℝ) * 2 ^ (e + f) = m * 2 ^ e * (n * 2 ^ f) := by
      rw [zpow_add₀ two_ne_zero]
      push_cast
      ring
    exact hsize ▸ hnear
  all_goals exact ⟨0, -1074, rfl, by simpa [unpackedSize] using isNearest_zero⟩

/-! ### Quotients -/

theorem guards_accuracyOfFraction (m : ℕ) {n : ℕ} (hn : 0 < n) :
    Guards (.ofMantissaAndAccuracy (m / n) (accuracyOfFraction (m % n) n)) ((m : ℝ) / n) := by
  have hn' : (0 : ℝ) < n := by exact_mod_cast hn
  have hdiv : (m : ℝ) / n = (m / n : ℕ) + (m % n : ℕ) / n := by
    have hm : (m : ℝ) = n * (m / n : ℕ) + (m % n : ℕ) := by
      exact_mod_cast (Nat.div_add_mod m n).symm
    field_simp
    linarith
  have hlt : ((m % n : ℕ) : ℝ) / n < 1 := by
    rw [div_lt_one hn']
    exact_mod_cast Nat.mod_lt m hn
  rw [hdiv, accuracyOfFraction]
  by_cases h0 : m % n = 0
  · rw [if_pos h0, h0]
    simp [Guards, ExtendedMantissa.ofMantissaAndAccuracy]
  · have hpos : 0 < ((m % n : ℕ) : ℝ) / n :=
      div_pos (by exact_mod_cast Nat.pos_of_ne_zero h0) hn'
    rw [if_neg h0]
    rcases Nat.lt_trichotomy (2 * (m % n)) n with h | h | h
    · have hhalf : ((m % n : ℕ) : ℝ) / n < 1 / 2 := by
        rw [div_lt_iff₀ hn']
        have h' : (2 * (m % n : ℕ) : ℝ) < n := by exact_mod_cast h
        linarith
      rw [Nat.compare_eq_lt.mpr h]
      exact guards_lt.mpr ⟨by linarith, by linarith⟩
    · have hhalf : ((m % n : ℕ) : ℝ) / n = 1 / 2 := by
        rw [div_eq_iff hn'.ne']
        have h' : (2 * (m % n : ℕ) : ℝ) = n := by exact_mod_cast h
        linarith
      rw [Nat.compare_eq_eq.mpr h]
      exact guards_eq.mpr (by rw [hhalf])
    · have hhalf : 1 / 2 < ((m % n : ℕ) : ℝ) / n := by
        rw [lt_div_iff₀ hn']
        have h' : (n : ℝ) < 2 * (m % n : ℕ) := by exact_mod_cast h
        linarith
      rw [Nat.compare_eq_gt.mpr h]
      exact guards_gt.mpr ⟨by linarith, by linarith⟩

/-- Enough bits are shifted in for the quotient to have all of its own. -/
theorem le_div_shiftLeft {m n c : ℕ} (hm : 0 < m) (hn : 0 < n)
    (h : n.log2 + 53 ≤ m.log2 + c) : 0x10000000000000 ≤ (m <<< c) / n := by
  rw [Nat.le_div_iff_mul_le hn, Nat.shiftLeft_eq]
  calc 0x10000000000000 * n ≤ 2 ^ 52 * 2 ^ (n.log2 + 1) :=
        Nat.mul_le_mul_left _ Nat.lt_log2_self.le
    _ = 2 ^ (n.log2 + 53) := by rw [← pow_add]; ring_nf
    _ ≤ 2 ^ (m.log2 + c) := Nat.pow_le_pow_right (by decide) h
    _ = 2 ^ m.log2 * 2 ^ c := pow_add ..
    _ ≤ m * 2 ^ c := Nat.mul_le_mul_right _ (Nat.log2_self_le hm.ne')

theorem exists_div_eq_settle {u v : UnpackedFloat} (fu : u.isFinite = true)
    (fv : v.isFinite = true) (h0 : unpackedSize v ≠ 0) :
    ∃ k t, UnpackedFloat.div .binary64 u v = settle (signOf u / signOf v) k t ∧
      IsNearest (unpackedSize u / unpackedSize v) k t := by
  obtain ⟨s', rfl⟩ | ⟨s', n, f, hn, rfl⟩ := eq_zero_or_finite fv
  · exact absurd rfl h0
  obtain ⟨s, rfl⟩ | ⟨s, m, e, hm, rfl⟩ := eq_zero_or_finite fu
  · exact ⟨0, -1074, rfl, by simpa [unpackedSize] using isNearest_zero⟩
  generalize ht : min (e - f) (Format.binary64.targetExponent
    (totalExponent m e - totalExponent n f)) = t
  obtain ⟨c, hc⟩ := Int.eq_ofNat_of_zero_le (show 0 ≤ e - f - t by omega)
  have hcore : divCore .binary64 m e n f =
      ((m <<< c) / n, t, accuracyOfFraction ((m <<< c) % n) n) := by
    simp only [divCore, ht, hc, Int.toNat_natCast]
  have henough : 0x10000000000000 ≤ (m <<< c) / n ∨ t ≤ -1074 := by
    rw [targetExponent_eq, totalExponent, totalExponent] at ht
    exact or_iff_not_imp_right.mpr fun _ => le_div_shiftLeft hm hn (by omega)
  obtain ⟨k, t', heq, hnear⟩ := exists_roundWithAccuracy_eq_settle
    (guards_accuracyOfFraction (m <<< c) hn) (le_targetExponent henough) (s / s')
  refine ⟨k, t', by simp only [UnpackedFloat.div, hcore, signOf, heq], ?_⟩
  have hsize : ((m <<< c : ℕ) : ℝ) / n * 2 ^ t = m * 2 ^ e / (n * 2 ^ f) := by
    have hn' : (n : ℝ) ≠ 0 := by exact_mod_cast hn.ne'
    have he : (2 : ℝ) ^ e = 2 ^ c * 2 ^ t * 2 ^ f := by
      rw [← zpow_natCast, ← zpow_add₀ two_ne_zero, ← zpow_add₀ two_ne_zero]
      congr 1
      omega
    rw [Nat.shiftLeft_eq, he]
    push_cast
    field_simp
  exact hsize ▸ hnear

/-! ### Square roots -/

theorem guards_sqrt (m : ℕ) : Guards (.ofMantissaAndAccuracy (Nat.sqrt m)
    (if m - Nat.sqrt m * Nat.sqrt m = 0 then .exact
      else .inexact (if m - Nat.sqrt m * Nat.sqrt m ≤ Nat.sqrt m then .lt else .gt))) √m := by
  have hlow : Nat.sqrt m * Nat.sqrt m ≤ m := Nat.sqrt_le m
  have hhigh : m < (Nat.sqrt m + 1) * (Nat.sqrt m + 1) := Nat.lt_succ_sqrt m
  generalize Nat.sqrt m = k at *
  by_cases h0 : m - k * k = 0
  · have hm : m = k * k := by omega
    rw [if_pos h0, hm, Nat.cast_mul, Real.sqrt_mul_self (Nat.cast_nonneg k)]
    exact guards_exact k
  · have hbelow : (k : ℝ) < √m := by
      refine Real.lt_sqrt_of_sq_lt ?_
      have hlt : k * k < m := by omega
      rw [pow_two]
      exact_mod_cast hlt
    rw [if_neg h0]
    split
    · rename_i h
      refine guards_lt.mpr ⟨hbelow, (Real.sqrt_lt' (by positivity)).mpr ?_⟩
      have hle : (m : ℝ) ≤ k * k + k := by
        exact_mod_cast show m ≤ k * k + k by omega
      linarith [show ((k : ℝ) + 1 / 2) ^ 2 = k * k + k + 1 / 4 by ring]
    · rename_i h
      refine guards_gt.mpr ⟨Real.lt_sqrt_of_sq_lt ?_, (Real.sqrt_lt' (by positivity)).mpr ?_⟩
      · have hle : (k : ℝ) * k + k + 1 ≤ m := by
          exact_mod_cast show k * k + k + 1 ≤ m by omega
        linarith [show ((k : ℝ) + 1 / 2) ^ 2 = k * k + k + 1 / 4 by ring]
      · rw [pow_two]
        exact_mod_cast hhigh

/-- Enough bits are shifted in for the root to have all of its own. -/
theorem le_sqrt_shiftLeft {m c : ℕ} (hm : 0 < m) (h : 104 ≤ m.log2 + c) :
    0x10000000000000 ≤ Nat.sqrt (m <<< c) := by
  rw [Nat.le_sqrt, Nat.shiftLeft_eq]
  calc 0x10000000000000 * 0x10000000000000 = 2 ^ 104 := by norm_num
    _ ≤ 2 ^ (m.log2 + c) := Nat.pow_le_pow_right (by decide) h
    _ = 2 ^ m.log2 * 2 ^ c := pow_add ..
    _ ≤ m * 2 ^ c := Nat.mul_le_mul_right _ (Nat.log2_self_le hm.ne')

theorem exists_sqrt_eq_settle {u : UnpackedFloat} (fu : u.isFinite = true)
    (hu : signOf u = .positive) : ∃ k t, UnpackedFloat.sqrt .binary64 u = settle .positive k t ∧
      IsNearest √(unpackedSize u) k t := by
  obtain ⟨s, rfl⟩ | ⟨s, m, e, hm, rfl⟩ := eq_zero_or_finite fu <;> obtain rfl : s = .positive := hu
  · exact ⟨0, -1074, rfl, by simpa [unpackedSize] using isNearest_zero⟩
  generalize ht : min (e / 2) (Format.binary64.targetExponent ((totalExponent m e + 1) / 2)) = t
  obtain ⟨c, hc⟩ := Int.eq_ofNat_of_zero_le (show 0 ≤ e - 2 * t by omega)
  have henough : 0x10000000000000 ≤ Nat.sqrt (m <<< c) ∨ t ≤ -1074 := by
    rw [targetExponent_eq, totalExponent] at ht
    exact or_iff_not_imp_right.mpr fun _ => le_sqrt_shiftLeft hm (by omega)
  obtain ⟨k, t', heq, hnear⟩ := exists_roundWithAccuracy_eq_settle (guards_sqrt (m <<< c))
    (le_targetExponent henough) .positive
  refine ⟨k, t', ?_, ?_⟩
  · have hmin : min (e.ediv 2) (Format.binary64.targetExponent
        ((totalExponent m e + 1).ediv 2)) = t := ht
    simp only [UnpackedFloat.sqrt, sqrtCore, hmin, hc, Int.toNat_natCast]
    exact heq
  · have hsize : √((m <<< c : ℕ) : ℝ) * 2 ^ t = √(m * 2 ^ e) := by
      have he : (2 : ℝ) ^ e = 2 ^ c * (2 ^ t) ^ 2 := by
        rw [← zpow_natCast, ← zpow_natCast, ← zpow_mul, ← zpow_add₀ two_ne_zero]
        congr 1
        push_cast
        omega
      rw [Nat.shiftLeft_eq, he, ← mul_assoc, Real.sqrt_mul (by positivity),
        Real.sqrt_sq (by positivity)]
      push_cast
      rfl
    exact hsize ▸ hnear

/-! ### Sums -/

theorem log2_shiftLeft {m : ℕ} (hm : m ≠ 0) (c : ℕ) : (m <<< c).log2 = m.log2 + c := by
  have hpos : 0 < 2 ^ c := Nat.two_pow_pos c
  rw [Nat.shiftLeft_eq, Nat.log2_eq_iff (Nat.mul_ne_zero hm hpos.ne')]
  constructor
  · rw [pow_add]
    exact Nat.mul_le_mul_right _ (Nat.log2_self_le hm)
  · rw [show m.log2 + c + 1 = m.log2 + 1 + c by omega, pow_add]
    exact Nat.mul_lt_mul_of_pos_right Nat.lt_log2_self hpos

/-- Rounding a whole number of units, whether they are too small or too large for the format. -/
theorem exists_round_eq_settle {m : ℕ} (hm : 0 < m) (e : ℤ) (s : Sign) :
    ∃ k t, UnpackedFloat.round .binary64 s m e = settle s k t ∧ IsNearest (m * 2 ^ e) k t := by
  generalize ht : Format.binary64.targetExponent (totalExponent m e) = t
  generalize hc : (e - t).toNat = c
  have hexact : e - c ≤ Format.binary64.targetExponent (totalExponent (m <<< c) (e - c)) := by
    rw [targetExponent_eq, totalExponent] at ht ⊢
    rw [log2_shiftLeft hm.ne']
    push_cast
    omega
  obtain ⟨k, t', heq, hnear⟩ := exists_roundWithAccuracy_eq_settle (guards_exact (m <<< c)) hexact s
  refine ⟨k, t', by simp only [UnpackedFloat.round, ht, decreaseExponent, hc, heq], ?_⟩
  have hsize : ((m <<< c : ℕ) : ℝ) * 2 ^ (e - c) = m * 2 ^ e := by
    rw [Nat.shiftLeft_eq, zpow_sub₀ two_ne_zero, zpow_natCast]
    push_cast
    field_simp
  exact hsize ▸ hnear

theorem exists_add_finite_eq_settle {m n : ℕ} (hm : 0 < m) (hn : 0 < n) (e f : ℤ) :
    ∃ k t, UnpackedFloat.add .binary64 (.finite .positive m e hm) (.finite .positive n f hn) =
      settle .positive k t ∧ IsNearest (m * 2 ^ e + n * 2 ^ f) k t := by
  generalize hg : min e f = g
  obtain ⟨c, hc⟩ := Int.eq_ofNat_of_zero_le (show 0 ≤ e - g by omega)
  obtain ⟨d, hd⟩ := Int.eq_ofNat_of_zero_le (show 0 ≤ f - g by omega)
  have hpos : 0 < m <<< c + n <<< d := by
    rw [Nat.shiftLeft_eq]
    exact Nat.add_pos_left (Nat.mul_pos hm (Nat.two_pow_pos c)) _
  obtain ⟨k, t, heq, hnear⟩ := exists_round_eq_settle hpos g .positive
  refine ⟨k, t, ?_, ?_⟩
  · rw [← heq]
    simp only [UnpackedFloat.add, hg, decreaseExponent, hc, hd, Int.toNat_natCast, Sign.apply]
    rw [← Nat.cast_add, UnpackedFloat.normalize, Int.compare_eq_gt.mpr (by exact_mod_cast hpos)]
    rfl
  · have hunit : ∀ {e : ℤ} {c : ℕ}, e - g = c → (2 : ℝ) ^ e = 2 ^ c * 2 ^ g := by
      intro e c hc
      rw [← zpow_natCast, ← zpow_add₀ two_ne_zero]
      congr 1
      omega
    have hsize : ((m <<< c + n <<< d : ℕ) : ℝ) * 2 ^ g = m * 2 ^ e + n * 2 ^ f := by
      rw [Nat.shiftLeft_eq, Nat.shiftLeft_eq, hunit hc, hunit hd]
      push_cast
      ring
    exact hsize ▸ hnear

theorem exists_add_eq_settle {u v : UnpackedFloat} (hu : IsUnpacked u) (hv : IsUnpacked v)
    (fu : u.isFinite = true) (fv : v.isFinite = true) (pu : signOf u = .positive)
    (pv : signOf v = .positive) :
    ∃ k t, UnpackedFloat.add .binary64 u v = settle .positive k t ∧
      IsNearest (unpackedSize u + unpackedSize v) k t := by
  rcases eq_zero_or_finite fu with ⟨s, rfl⟩ | ⟨s, m, e, hm, rfl⟩ <;>
    obtain rfl : s = .positive := pu <;>
    rcases eq_zero_or_finite fv with ⟨s', rfl⟩ | ⟨s', n, f, hn, rfl⟩ <;>
    obtain rfl : s' = .positive := pv
  case inl.inl => exact ⟨0, -1074, rfl, by simpa [unpackedSize] using isNearest_zero⟩
  case inl.inr =>
    exact ⟨n, f, (settle_of_isCanonical hv .positive).symm,
      by simpa [unpackedSize] using isNearest_self hv⟩
  case inr.inl =>
    exact ⟨m, e, (settle_of_isCanonical hu .positive).symm,
      by simpa [unpackedSize] using isNearest_self hu⟩
  case inr.inr => exact exists_add_finite_eq_settle hm hn e f

/-! ### Operations on doubles -/

section

variable {x y : Float}

theorem roundsTo_mul (hx : x.isFinite = true) (hy : y.isFinite = true) :
    RoundsTo (signOf x.toModel.unpack * signOf y.toModel.unpack) (size x * size y) (x * y) := by
  obtain ⟨k, t, heq, hnear⟩ := exists_mul_eq_settle (isUnpacked x) (isUnpacked y) hx hy
  exact ⟨k, t, hnear, congrArg (fun u => (Float.Model.pack u).unpack) heq⟩

theorem roundsTo_div (hx : x.isFinite = true) (hy : y.isFinite = true) (h0 : size y ≠ 0) :
    RoundsTo (signOf x.toModel.unpack / signOf y.toModel.unpack) (size x / size y) (x / y) := by
  obtain ⟨k, t, heq, hnear⟩ := exists_div_eq_settle hx hy h0
  exact ⟨k, t, hnear, congrArg (fun u => (Float.Model.pack u).unpack) heq⟩

theorem roundsTo_add (hx : IsPlus x) (hy : IsPlus y) :
    RoundsTo .positive (size x + size y) (x + y) := by
  obtain ⟨k, t, heq, hnear⟩ :=
    exists_add_eq_settle (isUnpacked x) (isUnpacked y) hx.finite hy.finite hx.sign hy.sign
  exact ⟨k, t, hnear, congrArg (fun u => (Float.Model.pack u).unpack) heq⟩

theorem roundsTo_sqrt (hx : IsPlus x) : RoundsTo .positive √(size x) x.sqrt := by
  obtain ⟨k, t, heq, hnear⟩ := exists_sqrt_eq_settle hx.finite hx.sign
  exact ⟨k, t, hnear, congrArg (fun u => (Float.Model.pack u).unpack) heq⟩

/-- A square is not negative, and zero is not the negative one. -/
theorem isPlus_mul_self (h : (x * x).isFinite = true) : IsPlus (x * x) := by
  have hx := (isFinite_of_mul h).1
  have hround := roundsTo_mul hx hx
  have hsign : ∀ s : Sign, s * s = .positive := fun s => by cases s <;> rfl
  rw [hsign] at hround
  exact hround.isPlus h

theorem isFinite_neg (h : x.isFinite = true) : (-x).isFinite = true := by
  change (-x).toModel.unpack.isFinite = true
  change x.toModel.unpack.isFinite = true at h
  rw [unpack_neg]
  cases hx : x.toModel.unpack <;> rw [hx] at h <;> exact h

end

end Clearance.Number
