import Mathlib
import Clearance.Number.Order

/-! Comparison of doubles, told from their bits. A double that is a number has a rank: its bits
without the sign bit, counted up from zero, or down from it if the double is negative. Comparison
is comparison of ranks, and so the order of all doubles can only refine it. -/

namespace Clearance.Number

open Float.Model Float.Model.UnpackedFloat

/-! ### Unpacked doubles -/

/-- A mantissa and an exponent that a finite double unpacks to. The hidden bit is there except at
the lowest exponent. -/
structure IsCanonical (m : Nat) (e : Int) : Prop where
  pos : 0 < m
  lt : m < 0x20000000000000
  low : -1074 ≤ e
  high : e ≤ 971
  hidden : e = -1074 ∨ 0x10000000000000 ≤ m

/-- The rank of a finite double without its sign. -/
def finiteRank (m : Nat) (e : Int) : Int := (e + 1074) * 0x10000000000000 + m

/-- The rank of the infinities without their signs. -/
def infinityRank : Int := 0x7FF0000000000000

/-- The rank of an unpacked double that is a number. -/
def rank? : UnpackedFloat → Option Int
  | .notANumber => none
  | .infinity s => some (s.apply infinityRank)
  | .zero s => some (s.apply 0)
  | .finite s m e _ => some (s.apply (finiteRank m e))

/-- What a double can unpack to. -/
def IsUnpacked : UnpackedFloat → Prop
  | .finite _ m e _ => IsCanonical m e
  | _ => True

theorem IsCanonical.finiteRank_bounds {m : Nat} {e : Int} (h : IsCanonical m e) :
    0 < finiteRank m e ∧ finiteRank m e < infinityRank := by
  obtain ⟨_, _, _, _, _⟩ := h
  unfold finiteRank infinityRank
  omega

/-- A greater exponent outweighs every mantissa. -/
theorem IsCanonical.compare_then {m n : Nat} {d e : Int} (h : IsCanonical m d)
    (k : IsCanonical n e) :
    (compare d e).then (compare m n) = compare (finiteRank m d) (finiteRank n e) := by
  obtain ⟨_, _, _, _, _⟩ := h
  obtain ⟨_, _, _, _, _⟩ := k
  unfold finiteRank
  rcases Int.lt_trichotomy d e with hlt | rfl | hgt
  · have hrank : (d + 1074) * 0x10000000000000 + (m : Int) < (e + 1074) * 0x10000000000000 + n := by
      omega
    rw [Std.compare_eq_lt.mpr hlt, Std.compare_eq_lt.mpr hrank]
    rfl
  · rw [Std.compare_self]
    simp [Int.compare_eq_ite_lt, Nat.compare_eq_ite_lt]
  · have hrank : (e + 1074) * 0x10000000000000 + (n : Int) < (d + 1074) * 0x10000000000000 + m := by
      omega
    rw [Std.compare_eq_gt.mpr hgt, Std.compare_eq_gt.mpr hrank]
    rfl

theorem compare_neg_neg (k l : Int) : compare (-k) (-l) = (compare k l).swap := by
  have hflip : compare (-k) (-l) = compare l k := by
    simp only [Int.compare_eq_ite_lt, Int.neg_lt_neg_iff]
  rw [hflip, Int.compare_swap]

/-- Of two numbers of which the second is larger in size, the sign of the second decides. -/
theorem compare_apply_of_lt (s t : Sign) {k l : Int} (hk : 0 ≤ k) (hkl : k < l) :
    compare (s.apply k) (t.apply l) = match t with
      | .positive => .lt
      | .negative => .gt := by
  cases t with
  | positive => exact Std.compare_eq_lt.mpr (by cases s <;> simp only [Sign.apply] <;> omega)
  | negative => exact Std.compare_eq_gt.mpr (by cases s <;> simp only [Sign.apply] <;> omega)

theorem compare_apply_of_gt (s t : Sign) {k l : Int} (hl : 0 ≤ l) (hlk : l < k) :
    compare (s.apply k) (t.apply l) = match s with
      | .positive => .gt
      | .negative => .lt := by
  rw [← Int.compare_swap, compare_apply_of_lt t s hl hlk]
  cases s <;> rfl

/-- Two doubles compare as their ranks do, and not at all if one of them has none. -/
theorem compare_rank? {u v : UnpackedFloat} (hu : IsUnpacked u) (hv : IsUnpacked v) :
    ((rank? u).bind fun k => (rank? v).map (compare k)) = u.compare v := by
  cases u with
  | notANumber => rfl
  | infinity s =>
    cases v with
    | notANumber => rfl
    | infinity t => cases s <;> cases t <;> rfl
    | zero t => cases s <;> cases t <;> rfl
    | finite t n e _ =>
      obtain ⟨hpos, hlt⟩ := hv.finiteRank_bounds
      have hcompare := compare_apply_of_gt s t (Int.le_of_lt hpos) hlt
      cases s <;> exact congrArg some hcompare
  | zero s =>
    cases v with
    | notANumber => rfl
    | infinity t => cases s <;> cases t <;> rfl
    | zero t => cases s <;> cases t <;> rfl
    | finite t n e _ =>
      have hcompare := compare_apply_of_lt s t (Int.le_refl 0) hv.finiteRank_bounds.1
      cases t <;> exact congrArg some hcompare
  | finite s m d _ =>
    obtain ⟨hpos, hlt⟩ := hu.finiteRank_bounds
    cases v with
    | notANumber => rfl
    | infinity t =>
      have hcompare := compare_apply_of_lt s t (Int.le_of_lt hpos) hlt
      cases s <;> cases t <;> exact congrArg some hcompare
    | zero t =>
      have hcompare := compare_apply_of_gt s t (Int.le_refl 0) hpos
      cases s <;> exact congrArg some hcompare
    | finite t n e _ =>
      have hn := hv.finiteRank_bounds.1
      have hsame := hu.compare_then hv
      cases s with
      | negative =>
        cases t with
        | negative => exact congrArg some (hsame ▸ compare_neg_neg ..)
        | positive => exact congrArg some (Std.compare_eq_lt.mpr (by simp only [Sign.apply]; omega))
      | positive =>
        cases t with
        | negative => exact congrArg some (Std.compare_eq_gt.mpr (by simp only [Sign.apply]; omega))
        | positive => exact congrArg some hsame.symm

/-! ### Bits -/

section

variable (b : BitVec 64)

theorem toNat_unpackMantissa :
    (@unpackMantissa .binary64 b).toNat = b.toNat % 0x10000000000000 := by
  simp [unpackMantissa]

theorem toNat_unpackExponent :
    (@unpackExponent .binary64 b).toNat = b.toNat / 0x10000000000000 % 0x800 := by
  simp [unpackExponent, Nat.shiftRight_eq_div_pow]

theorem toNat_hiddenBit_append : (1#1 ++ @unpackMantissa .binary64 b).toNat =
    0x10000000000000 + b.toNat % 0x10000000000000 := by
  rw [BitVec.toNat_append, ← Nat.shiftLeft_add_eq_or_of_lt (BitVec.isLt _), toNat_unpackMantissa]
  rfl

theorem ofBitVec_unpackSign : Sign.ofBitVec (@unpackSign .binary64 b) =
    if b.toNat < Binary.signBit then .positive else .negative := by
  have hsign : (@unpackSign .binary64 b).toNat = b.toNat / 0x8000000000000000 := by
    have hb := b.isLt
    simp [unpackSign, Nat.shiftRight_eq_div_pow]
    omega
  have hzero : @unpackSign .binary64 b = 0#1 ↔ b.toNat < Binary.signBit := by
    rw [← BitVec.toNat_inj, hsign]
    simp [Binary.signBit]
  simp only [Sign.ofBitVec, hzero]

/-- The rank stands in the bits: it is their number without the sign bit. -/
theorem rank?_unpack : IsUnpacked (UnpackedFloat.unpack .binary64 b) ∧
    ∀ k ∈ rank? (UnpackedFloat.unpack .binary64 b),
      k = (Sign.ofBitVec (@unpackSign .binary64 b)).apply (b.toNat % Binary.signBit : Nat) := by
  have hexponent := toNat_unpackExponent b
  have hmantissa := toNat_unpackMantissa b
  have hhidden := toNat_hiddenBit_append b
  have hbias : Format.binary64.exponentBias = 1023 := rfl
  have hcut : b.toNat % Binary.signBit =
      b.toNat / 0x10000000000000 % 0x800 * 0x10000000000000 + b.toNat % 0x10000000000000 := by
    unfold Binary.signBit
    omega
  generalize hs : Sign.ofBitVec (@unpackSign .binary64 b) = s
  simp only [UnpackedFloat.unpack, hbias, hs, hcut, ← hexponent, ← hmantissa]
  split
  · rename_i hlast
    split
    · rename_i hzero
      rw [hlast, hzero]
      exact ⟨trivial, by simp [rank?, infinityRank]⟩
    · exact ⟨trivial, by simp [rank?]⟩
  · rename_i hlast
    split
    · rename_i hfirst
      split
      · rename_i hzero
        rw [hfirst, hzero]
        exact ⟨trivial, by simp [rank?]⟩
      · rename_i hzero
        have hm : (@unpackMantissa .binary64 b).toNat ≠ 0 :=
          fun h => hzero (BitVec.eq_of_toNat_eq h)
        have he : (@unpackExponent .binary64 b).toNat = 0 := by rw [hfirst]; rfl
        refine ⟨⟨by omega, by omega, by omega, by omega, by omega⟩, ?_⟩
        rintro k ⟨⟩
        congr 1
        unfold finiteRank
        omega
    · rename_i hfirst
      have he : (@unpackExponent .binary64 b).toNat ≠ 0 :=
        fun h => hfirst (BitVec.eq_of_toNat_eq h)
      have he' : (@unpackExponent .binary64 b).toNat ≠ 0x7FF :=
        fun h => hlast (BitVec.eq_of_toNat_eq h)
      refine ⟨⟨by omega, by omega, by omega, by omega, by omega⟩, ?_⟩
      rintro k ⟨⟩
      congr 1
      unfold finiteRank
      omega

end

/-! ### Doubles -/

/-- The number of the bits without the sign bit, negated if the sign bit is set. -/
def rank (x : Float) : Int :=
  let b := x.toBits.toNat
  if b < Binary.signBit then b else -((b - Binary.signBit : Nat) : Int)

theorem rank_eq_apply (x : Float) :
    rank x = (Sign.ofBitVec (@unpackSign .binary64 x.toBits.toBitVec)).apply
      (x.toBits.toNat % Binary.signBit : Nat) := by
  have hb := x.toBits.toNat_lt
  rw [ofBitVec_unpackSign, UInt64.toNat_toBitVec, rank]
  by_cases hs : x.toBits.toNat < Binary.signBit
  · rw [if_pos hs, if_pos hs, Sign.apply, Nat.mod_eq_of_lt hs]
  · rw [if_neg hs, if_neg hs, Sign.apply, Nat.mod_eq_sub_mod (Nat.le_of_not_lt hs),
      Nat.mod_eq_of_lt (by unfold Binary.signBit at *; omega)]

theorem rank?_toModel (x : Float) :
    rank? x.toModel.unpack = if x.isNaN then none else some (rank x) := by
  have hbits : ∀ k ∈ rank? x.toModel.unpack, k = rank x := by
    rw [rank_eq_apply]
    exact (rank?_unpack x.toBits.toBitVec).2
  unfold Float.isNaN Float.Model.isNaN
  cases hu : x.toModel.unpack with
  | notANumber => rfl
  | infinity s => exact congrArg some (hbits _ (by rw [hu]; rfl))
  | zero s => exact congrArg some (hbits _ (by rw [hu]; rfl))
  | finite s m e h => exact congrArg some (hbits _ (by rw [hu]; rfl))

theorem compare_toModel (x y : Float) : x.toModel.unpack.compare y.toModel.unpack =
    if x.isNaN || y.isNaN then none else some (compare (rank x) (rank y)) := by
  have hx : IsUnpacked x.toModel.unpack := (rank?_unpack x.toBits.toBitVec).1
  have hy : IsUnpacked y.toModel.unpack := (rank?_unpack y.toBits.toBitVec).1
  rw [← compare_rank? hx hy, rank?_toModel, rank?_toModel]
  cases x.isNaN <;> cases y.isNaN <;> rfl

theorem lt_iff_rank (x y : Float) :
    x < y ↔ x.isNaN = false ∧ y.isNaN = false ∧ rank x < rank y := by
  have h : x < y ↔ (x.toModel.unpack.compare y.toModel.unpack == some .lt) = true := decide_eq_true_iff
  rw [h, compare_toModel]
  cases x.isNaN <;> cases y.isNaN <;> simp [Std.compare_eq_lt]

theorem le_iff_rank (x y : Float) :
    x ≤ y ↔ x.isNaN = false ∧ y.isNaN = false ∧ rank x ≤ rank y := by
  have h : x ≤ y ↔ (x.toModel.unpack.compare y.toModel.unpack).any (·.isLE) = true := decide_eq_true_iff
  rw [h, compare_toModel]
  cases x.isNaN <;> cases y.isNaN <;> simp [Std.isLE_compare]

theorem lt_of_le_of_lt {x y z : Float} (h : x ≤ y) (k : y < z) : x < z := by
  rw [le_iff_rank] at h
  rw [lt_iff_rank] at k ⊢
  exact ⟨h.1, k.2.1, by omega⟩

/-- The order of all doubles puts minus zero apart from zero, and all below it one further down. -/
theorem orderKey_eq (x : Float) :
    0 ≤ rank x ∧ orderKey x = rank x ∨ rank x ≤ 0 ∧ orderKey x = rank x - 1 := by
  unfold orderKey rank
  by_cases h : x.toBits.toNat < Binary.signBit
  · rw [if_pos h, if_pos h]
    exact .inl ⟨Int.natCast_nonneg _, rfl⟩
  · rw [if_neg h, if_neg h]
    exact .inr ⟨Int.neg_nonpos_of_nonneg (Int.natCast_nonneg _), rfl⟩

/-- A double that comes no later is not greater, whatever the two are. -/
theorem not_lt_of_totalLe {x y : Float} (h : totalLe x y = true) : ¬ y < x := by
  intro hlt
  have hrank := ((lt_iff_rank y x).mp hlt).2.2
  have hkey : orderKey x ≤ orderKey y := of_decide_eq_true h
  rcases orderKey_eq x with hx | hx <;> rcases orderKey_eq y with hy | hy <;> omega

end Clearance.Number
