import Clearance.Proofs.Number.Comparison

/-! Doubles as packed bits of unpacked values. What is rounded survives packing, except that an
exponent too large for the format turns a value into infinity. -/

namespace Clearance.Number

open Float.Model Float.Model.UnpackedFloat

/-- A mantissa and an exponent as rounding leaves them: canonical, but for an exponent that may be
too large. -/
structure IsRounded (m : Nat) (e : Int) : Prop where
  pos : 0 < m
  lt : m < 0x20000000000000
  low : -1074 ≤ e
  hidden : e = -1074 ∨ 0x10000000000000 ≤ m

theorem unpack_pack_zero (s : Sign) : (Float.Model.pack (.zero s)).unpack = .zero s := by
  cases s <;> rfl

theorem unpack_pack_infinity (s : Sign) :
    (Float.Model.pack (.infinity s)).unpack = .infinity s := by
  cases s <;> rfl

theorem log2_add_one_eq_iff {m : Nat} (hpos : 0 < m) (hlt : m < 0x20000000000000) :
    m.log2 + 1 = Format.binary64.mantissaBits ↔ 0x10000000000000 ≤ m := by
  have hlow : 52 ≤ m.log2 ↔ 0x10000000000000 ≤ m := Nat.le_log2 hpos.ne'
  have hhigh : m.log2 < 53 := (Nat.log2_lt hpos.ne').mpr hlt
  have hbits : Format.binary64.mantissaBits = 53 := rfl
  omega

theorem unpack_packComponents_of_normal {b m : Nat} (hb : 0 < b) (hb' : b < 0x7FF)
    (hm : 0x10000000000000 ≤ m) (hm' : m < 0x20000000000000) (s : Sign) :
    UnpackedFloat.unpack .binary64 (packComponents .binary64 s (BitVec.ofNat 11 b)
      (BitVec.ofNat 52 m)) = .finite s m (b - 1075) (by omega) := by
  have hexponent : (BitVec.ofNat 11 b).toNat = b := by
    rw [BitVec.toNat_ofNat]
    omega
  have hfirst : BitVec.ofNat 11 b ≠ 0#11 := fun h => by
    rw [h] at hexponent
    exact hb.ne hexponent
  have hlast : BitVec.ofNat 11 b ≠ -1#11 := fun h => by
    rw [h] at hexponent
    exact hb'.ne' hexponent
  have hmantissa : (1#1 ++ BitVec.ofNat 52 m).toNat = m := by
    rw [BitVec.toNat_append, ← Nat.shiftLeft_add_eq_or_of_lt (BitVec.isLt _), BitVec.toNat_ofNat]
    change 0x10000000000000 + m % 0x10000000000000 = m
    omega
  have hbias : Format.binary64.exponentBias = 1023 := rfl
  simp only [UnpackedFloat.unpack, unpackExponent_packComponents, unpackMantissa_packComponents,
    unpackSign_packComponents, Sign.ofBitVec_toBitVec, hfirst, hlast, hexponent, hmantissa, hbias,
    ↓reduceIte]
  congr 1

theorem unpack_packComponents_of_subnormal {m : Nat} (hm : 0 < m) (hm' : m < 0x10000000000000)
    (s : Sign) : UnpackedFloat.unpack .binary64 (packComponents .binary64 s 0#11
      (BitVec.ofNat 52 m)) = .finite s m (-1074) hm := by
  have hmantissa : (BitVec.ofNat 52 m).toNat = m := by
    rw [BitVec.toNat_ofNat]
    omega
  have hpos : BitVec.ofNat 52 m ≠ 0#52 := fun h => by
    rw [h] at hmantissa
    exact hm.ne hmantissa
  have hlast : (0#11 : BitVec 11) ≠ -1#11 := by decide
  simp only [UnpackedFloat.unpack, unpackExponent_packComponents, unpackMantissa_packComponents,
    unpackSign_packComponents, Sign.ofBitVec_toBitVec, hpos, hlast, hmantissa, ↓reduceIte,
    ↓reduceDIte]
  congr 1

theorem IsRounded.unpack_pack {m : Nat} {e : Int} (h : IsRounded m e) (s : Sign) :
    (Float.Model.pack (.finite s m e h.pos)).unpack =
      if 971 < e then .infinity s else .finite s m e h.pos := by
  obtain ⟨hpos, hlt, hlow, hhidden⟩ := h
  have hbias : Format.binary64.exponentBias = 1023 := rfl
  have hmodel : ∀ u, (Float.Model.pack u).unpack =
    UnpackedFloat.unpack .binary64 (UnpackedFloat.pack .binary64 u) := fun _ => rfl
  rw [hmodel, UnpackedFloat.pack]
  simp only [hbias, log2_add_one_eq_iff hpos hlt]
  by_cases hover : 971 < e
  · rw [if_pos hover, if_pos (by omega)]
    exact unpack_pack_infinity s
  · rw [if_neg hover, if_neg (by omega)]
    by_cases hnormal : 0x10000000000000 ≤ m
    · rw [if_pos hnormal, unpack_packComponents_of_normal (by omega) (by omega) hnormal hlt]
      congr 1
      omega
    · rw [if_neg hnormal]
      obtain rfl := hhidden.resolve_right hnormal
      exact unpack_packComponents_of_subnormal hpos (by omega) s

/-- What bits can stand for is packed without loss. -/
theorem unpack_pack {u : UnpackedFloat} (h : IsUnpacked u) : (Float.Model.pack u).unpack = u := by
  cases u with
  | notANumber => rfl
  | infinity s => exact unpack_pack_infinity s
  | zero s => exact unpack_pack_zero s
  | finite s m e hm =>
    have hrounded : IsRounded m e := ⟨h.pos, h.lt, h.low, h.hidden⟩
    rw [hrounded.unpack_pack s, if_neg (Int.not_lt.mpr h.high)]

theorem isUnpacked (x : Float) : IsUnpacked x.toModel.unpack := (rank?_unpack x.toBits.toBitVec).1

theorem unpack_abs (x : Float) : x.abs.toModel.unpack = x.toModel.unpack.abs := by
  have hx := isUnpacked x
  refine unpack_pack ?_
  cases hu : x.toModel.unpack <;> rw [hu] at hx <;> exact hx

theorem unpack_neg (x : Float) : (-x).toModel.unpack = x.toModel.unpack.neg := by
  have hx := isUnpacked x
  refine unpack_pack ?_
  cases hu : x.toModel.unpack <;> rw [hu] at hx <;> exact hx

/-! ### Finite doubles -/

theorem eq_zero_or_finite {u : UnpackedFloat} (h : u.isFinite = true) :
    (∃ s, u = .zero s) ∨ ∃ s m e hm, u = .finite s m e hm := by
  cases u with
  | notANumber => exact absurd h Bool.false_ne_true
  | infinity s => exact absurd h Bool.false_ne_true
  | zero s => exact .inl ⟨s, rfl⟩
  | finite s m e hm => exact .inr ⟨s, m, e, hm, rfl⟩

/-- Packing makes nothing finite that is not. -/
theorem isFinite_of_isFinite_pack {u : UnpackedFloat}
    (h : (Float.Model.pack u).unpack.isFinite = true) : u.isFinite = true := by
  cases u with
  | notANumber => exact h
  | infinity s =>
    rw [unpack_pack_infinity] at h
    exact h
  | zero s => rfl
  | finite s m e hm => rfl

section

variable {u v : UnpackedFloat}

theorem isFinite_of_isFinite_add (h : (UnpackedFloat.add .binary64 u v).isFinite = true) :
    u.isFinite = true ∧ v.isFinite = true := by
  cases u <;> cases v <;> simp only [UnpackedFloat.add] at h <;> try split at h
  all_goals first | exact ⟨rfl, rfl⟩ | exact absurd h Bool.false_ne_true

theorem isFinite_of_isFinite_sub (h : (UnpackedFloat.sub .binary64 u v).isFinite = true) :
    u.isFinite = true ∧ v.isFinite = true := by
  cases u <;> cases v <;> simp only [UnpackedFloat.sub] at h <;> try split at h
  all_goals first | exact ⟨rfl, rfl⟩ | exact absurd h Bool.false_ne_true

theorem isFinite_of_isFinite_mul (h : (UnpackedFloat.mul .binary64 u v).isFinite = true) :
    u.isFinite = true ∧ v.isFinite = true := by
  cases u <;> cases v <;> simp only [UnpackedFloat.mul] at h
  all_goals first | exact ⟨rfl, rfl⟩ | exact absurd h Bool.false_ne_true

end

section

variable {x y : Float}

theorem isNaN_of_isFinite (h : x.isFinite = true) : x.isNaN = false := by
  change x.toModel.unpack.isNaN = false
  rcases eq_zero_or_finite h with ⟨s, hu⟩ | ⟨s, m, e, hm, hu⟩ <;>
    exact congrArg UnpackedFloat.isNaN hu

/-- What is finite is of lower rank than infinity. -/
theorem rank_lt_infinityRank (h : x.isFinite = true) : rank x < infinityRank := by
  have hx := isUnpacked x
  have hrank := rank?_toModel x
  rw [isNaN_of_isFinite h, if_neg Bool.false_ne_true] at hrank
  rcases eq_zero_or_finite h with ⟨s, hu⟩ | ⟨s, m, e, hm, hu⟩
  · have hzero : s.apply 0 = rank x := Option.some.inj ((congrArg rank? hu).symm.trans hrank)
    rw [← hzero]
    cases s <;> decide
  · have hfinite : s.apply (finiteRank m e) = rank x :=
      Option.some.inj ((congrArg rank? hu).symm.trans hrank)
    rw [show x.toModel.unpack = _ from hu] at hx
    have hbounds := hx.finiteRank_bounds
    rw [← hfinite]
    cases s <;> simp only [Sign.apply] <;> omega

theorem not_le_iff_lt (hx : x.isFinite = true) (hy : y.isFinite = true) : ¬ x ≤ y ↔ y < x := by
  rw [le_iff_rank, lt_iff_rank, isNaN_of_isFinite hx, isNaN_of_isFinite hy]
  simp

/-- What is at most finite in size is finite. -/
theorem isFinite_of_abs_le (h : x.abs ≤ y) (hy : y.isFinite = true) : x.isFinite = true := by
  obtain ⟨hnan, -, hle⟩ := (le_iff_rank ..).mp h
  have hlt := rank_lt_infinityRank hy
  have hrank := rank?_toModel x.abs
  rw [hnan, if_neg Bool.false_ne_true, unpack_abs] at hrank
  cases hu : x.toModel.unpack with
  | zero s => exact congrArg UnpackedFloat.isFinite hu
  | finite s m e hm => exact congrArg UnpackedFloat.isFinite hu
  | notANumber =>
    rw [hu] at hrank
    exact absurd hrank nofun
  | infinity s =>
    rw [hu] at hrank
    have hinfinity : infinityRank = rank x.abs := Option.some.inj hrank
    omega

theorem isFinite_of_add (h : (x + y).isFinite = true) : x.isFinite = true ∧ y.isFinite = true :=
  isFinite_of_isFinite_add (isFinite_of_isFinite_pack h)

theorem isFinite_of_sub (h : (x - y).isFinite = true) : x.isFinite = true ∧ y.isFinite = true :=
  isFinite_of_isFinite_sub (isFinite_of_isFinite_pack h)

theorem isFinite_of_mul (h : (x * y).isFinite = true) : x.isFinite = true ∧ y.isFinite = true :=
  isFinite_of_isFinite_mul (isFinite_of_isFinite_pack h)

end

end Clearance.Number
