import Mathlib.Algebra.Quaternion
import Mathlib.Analysis.SpecialFunctions.Trigonometric.Basic
import Clearance.Space.Pose

/-! Space over the real numbers, where no operation rounds and every number is finite. A quaternion
of length one turns a vector as the product of quaternions does, so turns compose and a rigid pose
is undone by its inverse. -/

namespace Clearance

noncomputable instance : Scalar ℝ where
  ofNat n := n
  sqrt := Real.sqrt
  abs x := |x|
  le a b := decide (a ≤ b)
  lt a b := decide (a < b)
  isFinite _ := true
  sinEighth := Real.sin (Real.pi / 4)
  cosEighth := Real.cos (Real.pi / 4)

namespace Scalar

@[simp] theorem ofNat_real (n : ℕ) : (ofNat n : ℝ) = n := rfl
@[simp] theorem zero_real : (zero : ℝ) = 0 := Nat.cast_zero
@[simp] theorem one_real : (one : ℝ) = 1 := Nat.cast_one
@[simp] theorem two_real : (two : ℝ) = 2 := rfl
@[simp] theorem sqrt_real (x : ℝ) : sqrt x = √x := rfl
@[simp] theorem le_real (x y : ℝ) : le x y = decide (x ≤ y) := rfl
@[simp] theorem lt_real (x y : ℝ) : lt x y = decide (x < y) := rfl
@[simp] theorem isFinite_real (x : ℝ) : isFinite x = true := rfl
theorem sinEighth_real : (sinEighth : ℝ) = Real.sin (Real.pi / 4) := rfl
theorem cosEighth_real : (cosEighth : ℝ) = Real.cos (Real.pi / 4) := rfl

end Scalar

namespace Vec3

variable {α : Type} [Scalar α]

theorem add_def (u v : Vec3 α) : u + v = ⟨u.x + v.x, u.y + v.y, u.z + v.z⟩ := rfl

theorem sub_def (u v : Vec3 α) : u - v = ⟨u.x - v.x, u.y - v.y, u.z - v.z⟩ := rfl

theorem neg_def (v : Vec3 α) : -v = ⟨-v.x, -v.y, -v.z⟩ := rfl

theorem scale_def (v : Vec3 α) (s : α) : v.scale s = ⟨v.x * s, v.y * s, v.z * s⟩ := rfl

theorem divBy_def (v : Vec3 α) (s : α) : v.divBy s = ⟨v.x / s, v.y / s, v.z / s⟩ := rfl

theorem normSq_eq (v : Vec3 ℝ) : v.normSq = v.x ^ 2 + v.y ^ 2 + v.z ^ 2 := by
  simp only [normSq, dot, sq]

theorem norm_eq (v : Vec3 ℝ) : v.norm = √(v.x ^ 2 + v.y ^ 2 + v.z ^ 2) :=
  congrArg Real.sqrt v.normSq_eq

theorem normSq_scale (v : Vec3 ℝ) (s : ℝ) : (v.scale s).normSq = v.normSq * s ^ 2 := by
  simp only [normSq_eq, scale_def]
  ring

theorem norm_scale (v : Vec3 ℝ) {s : ℝ} (hs : 0 ≤ s) : (v.scale s).norm = v.norm * s := by
  change √(v.scale s).normSq = √v.normSq * s
  rw [normSq_scale, Real.sqrt_mul' _ (sq_nonneg s), Real.sqrt_sq hs]

/-- A direction has length one. -/
theorem normSq_normalize {v : Vec3 ℝ} (hv : 0 < v.normSq) : v.normalize.normSq = 1 := by
  have hlength : v.norm ^ 2 = v.normSq := Real.sq_sqrt hv.le
  calc v.normalize.normSq = v.normSq / v.norm ^ 2 := by
        simp only [normalize, divBy_def, normSq_eq]
        ring
    _ = 1 := by rw [hlength, div_self hv.ne']

/-- The direction of a vector is kept by a positive factor. -/
theorem normalize_scale (v : Vec3 ℝ) {s : ℝ} (hs : 0 < s) :
    (v.scale s).normalize = v.normalize := by
  rw [normalize, norm_scale v hs.le]
  simp only [normalize, divBy_def, scale_def, mul_div_mul_right _ _ hs.ne']

end Vec3

/-! ### Quaternions -/

/-- The quaternions with real coordinates as a ring. -/
abbrev Hamilton := QuaternionAlgebra ℝ (-1) 0 (-1)

/-- A vector as a quaternion without a real part. -/
def Vec3.toHamilton (v : Vec3 ℝ) : Hamilton := ⟨0, v.x, v.y, v.z⟩

theorem Vec3.toHamilton_injective : Function.Injective Vec3.toHamilton := by
  intro u v h
  obtain ⟨x, y, z⟩ := u
  obtain ⟨x', y', z'⟩ := v
  cases h
  rfl

namespace Quaternion

def toHamilton (q : Quaternion ℝ) : Hamilton := ⟨q.w, q.x, q.y, q.z⟩

/-- Whether the quaternion has length one. -/
def IsTurn (q : Quaternion ℝ) : Prop := q.x ^ 2 + q.y ^ 2 + q.z ^ 2 + q.w ^ 2 = 1

theorem mul_def (p q : Quaternion ℝ) : p * q =
    ⟨p.w * q.x + p.x * q.w + p.y * q.z - p.z * q.y,
      p.w * q.y - p.x * q.z + p.y * q.w + p.z * q.x,
      p.w * q.z + p.x * q.y - p.y * q.x + p.z * q.w,
      p.w * q.w - p.x * q.x - p.y * q.y - p.z * q.z⟩ := rfl

theorem toHamilton_mul (p q : Quaternion ℝ) : (p * q).toHamilton = p.toHamilton * q.toHamilton := by
  simp only [mul_def, toHamilton, QuaternionAlgebra.mk_mul_mk, QuaternionAlgebra.mk.injEq]
  refine ⟨?_, ?_, ?_, ?_⟩ <;> ring

theorem toHamilton_conjugate (q : Quaternion ℝ) : q.conjugate.toHamilton = star q.toHamilton := by
  ext <;> simp [toHamilton, conjugate]

variable {p q : Quaternion ℝ}

theorem IsTurn.mul (hp : p.IsTurn) (hq : q.IsTurn) : (p * q).IsTurn := by
  simp only [IsTurn, mul_def] at hp hq ⊢
  linear_combination (q.x ^ 2 + q.y ^ 2 + q.z ^ 2 + q.w ^ 2) * hp + hq

theorem IsTurn.conjugate (h : q.IsTurn) : q.conjugate.IsTurn := by
  simpa [IsTurn, Quaternion.conjugate] using h

theorem IsTurn.star_mul_self (h : q.IsTurn) : star q.toHamilton * q.toHamilton = 1 := by
  simp only [IsTurn] at h
  ext <;> simp only [toHamilton, QuaternionAlgebra.star_mk, QuaternionAlgebra.mk_mul_mk,
    QuaternionAlgebra.re_one, QuaternionAlgebra.imI_one, QuaternionAlgebra.imJ_one,
    QuaternionAlgebra.imK_one]
  case re => linear_combination h
  all_goals ring

theorem isTurn_identity : (identity : Quaternion ℝ).IsTurn := by simp [IsTurn, identity]

theorem isTurn_quarterTurnX : (quarterTurnX : Quaternion ℝ).IsTurn := by
  have hcircle := Real.sin_sq_add_cos_sq (Real.pi / 4)
  simp only [IsTurn, quarterTurnX, Scalar.zero_real, Scalar.sinEighth_real, Scalar.cosEighth_real]
  linear_combination hcircle

/-- A quaternion of length one turns a vector by multiplication from both sides. -/
theorem IsTurn.toHamilton_rotate (h : q.IsTurn) (v : Vec3 ℝ) :
    (q.rotate v).toHamilton = q.toHamilton * v.toHamilton * star q.toHamilton := by
  simp only [IsTurn] at h
  simp only [toHamilton, Vec3.toHamilton, rotate, imaginary, Vec3.cross, Vec3.scale_def,
    Vec3.add_def, Scalar.two_real, QuaternionAlgebra.star_mk, QuaternionAlgebra.mk_mul_mk,
    QuaternionAlgebra.mk.injEq]
  -- Each coordinate of the product is that of the turned vector but for a multiple of the squared
  -- length of `q`, which is one.
  refine ⟨?_, ?_, ?_, ?_⟩
  · ring
  · linear_combination -v.x * h
  · linear_combination -v.y * h
  · linear_combination -v.z * h

theorem IsTurn.rotate_mul (hp : p.IsTurn) (hq : q.IsTurn) (v : Vec3 ℝ) :
    (p * q).rotate v = p.rotate (q.rotate v) := by
  refine Vec3.toHamilton_injective ?_
  rw [(hp.mul hq).toHamilton_rotate, hp.toHamilton_rotate, hq.toHamilton_rotate, toHamilton_mul,
    star_mul]
  simp only [mul_assoc]

theorem IsTurn.rotate_conjugate_rotate (h : q.IsTurn) (v : Vec3 ℝ) :
    q.conjugate.rotate (q.rotate v) = v := by
  refine Vec3.toHamilton_injective ?_
  rw [h.conjugate.toHamilton_rotate, h.toHamilton_rotate, toHamilton_conjugate, star_star]
  calc star q.toHamilton * (q.toHamilton * v.toHamilton * star q.toHamilton) * q.toHamilton
      = star q.toHamilton * q.toHamilton * v.toHamilton * (star q.toHamilton * q.toHamilton) := by
        simp only [mul_assoc]
    _ = v.toHamilton := by rw [h.star_mul_self, one_mul, mul_one]

theorem conjugate_conjugate (q : Quaternion ℝ) : q.conjugate.conjugate = q := by
  obtain ⟨x, y, z, w⟩ := q
  simp [conjugate]

theorem IsTurn.rotate_rotate_conjugate (h : q.IsTurn) (v : Vec3 ℝ) :
    q.rotate (q.conjugate.rotate v) = v := by
  simpa only [conjugate_conjugate] using h.conjugate.rotate_conjugate_rotate v

theorem rotate_add (q : Quaternion ℝ) (u v : Vec3 ℝ) :
    q.rotate (u + v) = q.rotate u + q.rotate v := by
  simp only [rotate, imaginary, Vec3.cross, Vec3.scale_def, Vec3.add_def, Vec3.mk.injEq]
  refine ⟨?_, ?_, ?_⟩ <;> ring

end Quaternion

/-! ### Poses -/

namespace Pose

/-- Whether the pose keeps lengths. -/
def IsRigid (p : Pose ℝ) : Prop := p.rotation.IsTurn

variable {p q : Pose ℝ}

theorem IsRigid.mul (hp : p.IsRigid) (hq : q.IsRigid) : (p * q).IsRigid :=
  Quaternion.IsTurn.mul hp hq

theorem IsRigid.mul_apply (hp : p.IsRigid) (hq : q.IsRigid) (v : Vec3 ℝ) :
    (p * q).apply v = p.apply (q.apply v) := by
  change (p.rotation * q.rotation).rotate v + (p.origin + p.rotation.rotate q.origin) =
    p.rotation.rotate (q.rotation.rotate v + q.origin) + p.origin
  rw [hp.rotate_mul hq, Quaternion.rotate_add]
  simp only [Vec3.add_def, Vec3.mk.injEq]
  refine ⟨?_, ?_, ?_⟩ <;> ring

theorem IsRigid.apply_inverse_apply (h : p.IsRigid) (v : Vec3 ℝ) :
    p.apply (p.inverse.apply v) = v := by
  change p.rotation.rotate (p.rotation.conjugate.rotate v + p.rotation.conjugate.rotate (-p.origin)) +
    p.origin = v
  rw [← Quaternion.rotate_add, h.rotate_rotate_conjugate]
  simp [Vec3.add_def, Vec3.neg_def]

theorem IsRigid.inverse_apply_apply (h : p.IsRigid) (v : Vec3 ℝ) :
    p.inverse.apply (p.apply v) = v := by
  change p.rotation.conjugate.rotate (p.rotation.rotate v + p.origin) +
    p.rotation.conjugate.rotate (-p.origin) = v
  rw [← Quaternion.rotate_add]
  have hback : p.rotation.rotate v + p.origin + -p.origin = p.rotation.rotate v := by
    simp [Vec3.add_def, Vec3.neg_def]
  rw [hback, h.rotate_conjugate_rotate]

/-- The inverse of two poses undoes the first one first. -/
theorem IsRigid.inverse_mul_apply (hp : p.IsRigid) (hq : q.IsRigid) (v : Vec3 ℝ) :
    (p * q).inverse.apply v = q.inverse.apply (p.inverse.apply v) := by
  have hthere : (p * q).apply (q.inverse.apply (p.inverse.apply v)) = v := by
    rw [hp.mul_apply hq, hq.apply_inverse_apply, hp.apply_inverse_apply]
  rw [← (hp.mul hq).inverse_apply_apply (q.inverse.apply (p.inverse.apply v)), hthere]

end Pose

end Clearance
