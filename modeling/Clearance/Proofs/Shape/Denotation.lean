import Clearance.Proofs.Space.Exact
import Clearance.Shape.Geometry

/-! Which points a shape takes up. A shape says it in its own frame, with full lengths, cylinders
along `z` and a plane that is solid below; a solid says it in another frame, with half lengths,
cylinders along `y` and unit normals. Over the real numbers the geometry that is built for a shape
takes up the points of the shape, in the frame of the shape and wherever that frame is placed. -/

namespace Clearance

/-! ### Points -/

/-- The points of a triangle. -/
def Facet.points (f : Facet ℝ) : Set (Vec3 ℝ) :=
  {p | ∃ u v w : ℝ, 0 ≤ u ∧ 0 ≤ v ∧ 0 ≤ w ∧ u + v + w = 1 ∧
    p = f.a.scale u + f.b.scale v + f.c.scale w}

/-- The points of a solid in its own frame. -/
def Solid.points : Solid ℝ → Set (Vec3 ℝ)
  | ball r => {p | p.x ^ 2 + p.y ^ 2 + p.z ^ 2 ≤ r ^ 2}
  | cuboid half => {p | |p.x| ≤ half.x ∧ |p.y| ≤ half.y ∧ |p.z| ≤ half.z}
  | cylinder halfHeight r => {p | p.x ^ 2 + p.z ^ 2 ≤ r ^ 2 ∧ |p.y| ≤ halfHeight}
  | halfSpace n => {p | n.x * p.x + n.y * p.y + n.z * p.z ≤ 0}
  | surface vs ts => {p | ∃ f ∈ facets vs ts, p ∈ f.points}

/-- The points of a shape in its own frame. A mesh is its surface, and a cone, which has no
geometry, has none. -/
def Shape.points : Shape ℝ → Set (Vec3 ℝ)
  | sphere r => {p | p.x ^ 2 + p.y ^ 2 + p.z ^ 2 ≤ r ^ 2}
  | box size => {p | |p.x| ≤ size.x / (2 : ℕ) ∧ |p.y| ≤ size.y / (2 : ℕ) ∧
    |p.z| ≤ size.z / (2 : ℕ)}
  | cylinder r length => {p | p.x ^ 2 + p.y ^ 2 ≤ r ^ 2 ∧ |p.z| ≤ length / (2 : ℕ)}
  | cone _ _ => ∅
  | plane n d => {p | n.x * p.x + n.y * p.y + n.z * p.z + d ≤ 0}
  | mesh vs ts => {p | ∃ f ∈ Solid.facets vs ts, p ∈ f.points}

/-! ### Offsets -/

namespace Pose

theorem identity_inverse_apply (v : Vec3 ℝ) : (identity : Pose ℝ).inverse.apply v = v := by
  simp [inverse, apply, identity, Quaternion.identity, Quaternion.conjugate, Quaternion.rotate,
    Quaternion.imaginary, Vec3.cross, Vec3.scale_def, Vec3.add_def, Vec3.neg_def, Vec3.zero]

theorem shift_inverse_apply (t v : Vec3 ℝ) : (shift t).inverse.apply v = v - t := by
  simp [inverse, apply, shift, Quaternion.identity, Quaternion.conjugate, Quaternion.rotate,
    Quaternion.imaginary, Vec3.cross, Vec3.scale_def, Vec3.add_def, Vec3.neg_def, Vec3.sub_def,
    sub_eq_add_neg]

/-- To turn the quarter turn back takes `z` to `y`. -/
theorem quarterTurnX_inverse_apply (v : Vec3 ℝ) :
    (turn Quaternion.quarterTurnX : Pose ℝ).inverse.apply v = ⟨v.x, v.z, -v.y⟩ := by
  have hhalf : √(2 : ℝ) / 2 * (√2 / 2) = 1 / 2 := by
    rw [div_mul_div_comm, Real.mul_self_sqrt zero_le_two]
    norm_num
  simp only [inverse, apply, turn, Quaternion.quarterTurnX, Quaternion.conjugate,
    Quaternion.rotate, Quaternion.imaginary, Vec3.cross, Vec3.scale_def, Vec3.add_def,
    Vec3.neg_def, Vec3.zero, Scalar.zero_real, Scalar.two_real, Scalar.sinEighth_real,
    Scalar.cosEighth_real, Real.sin_pi_div_four, Real.cos_pi_div_four, Vec3.mk.injEq]
  refine ⟨?_, ?_, ?_⟩
  · ring
  · linear_combination (2 * v.z - 2 * v.y) * hhalf
  · linear_combination (-2 * v.y - 2 * v.z) * hhalf

end Pose

/-! ### Standing for a shape -/

/-- Whether a geometry takes up the points of a shape, in the frame of the shape and wherever that
frame is placed. -/
structure Geometry.StandsFor (g : Geometry ℝ) (s : Shape ℝ) : Prop where
  rigid : g.offset.IsRigid
  frame : ∀ p, p ∈ s.points ↔ g.offset.inverse.apply p ∈ g.solid.points
  world : ∀ pose : Pose ℝ, pose.IsRigid → ∀ p,
    p ∈ pose.apply '' s.points ↔ (g.solidPose pose).inverse.apply p ∈ g.solid.points

/-- What holds in the frame of the shape holds wherever that frame is placed. -/
theorem Geometry.standsFor_of_frame {g : Geometry ℝ} {s : Shape ℝ} (hg : g.offset.IsRigid)
    (h : ∀ p, p ∈ s.points ↔ g.offset.inverse.apply p ∈ g.solid.points) : g.StandsFor s where
  rigid := hg
  frame := h
  world pose hpose p := by
    have hplaced : p ∈ pose.apply '' s.points ↔ pose.inverse.apply p ∈ s.points := by
      constructor
      · rintro ⟨q, hq, rfl⟩
        rwa [hpose.inverse_apply_apply]
      · exact fun hp => ⟨_, hp, hpose.apply_inverse_apply p⟩
    rw [hplaced, h, solidPose, hpose.inverse_mul_apply hg]

/-- A solid that is not offset stands for the shape that has its points. -/
theorem Geometry.standsFor_of_identity {g : Geometry ℝ} {s : Shape ℝ} (hg : g.offset = .identity)
    (h : s.points = g.solid.points) : g.StandsFor s := by
  refine standsFor_of_frame (hg ▸ Quaternion.isTurn_identity) fun p => ?_
  rw [hg, Pose.identity_inverse_apply, h]

namespace Shape

variable {g g' : Geometry ℝ}

theorem eq_of_ofDimensions {kind : ShapeKind} {dims : List ℝ}
    (h : (ofDimensions kind dims g).outcome = .ok g') : g = g' := by
  rw [ofDimensions] at h
  split at h
  · cases h
  · exact Except.ok.inj h

/-! ### Planes -/

theorem buildAsIs_plane {n : Vec3 ℝ} (h : (Scalar.epsilon * Scalar.epsilon : ℝ) < n.normSq)
    (d : ℝ) : (plane n d).buildAsIs.outcome =
      .ok ⟨.halfSpace n.normalize, .shift (n.scale (-d / n.normSq)), .plane⟩ := by
  have hgood : isDegeneratePlane n d = false := by simpa [isDegeneratePlane] using h
  simp [buildAsIs, hgood, Construction.ok]

theorem plane_of_buildAsIs {n : Vec3 ℝ} {d : ℝ} (h : (plane n d).buildAsIs.outcome = .ok g) :
    0 < n.normSq ∧
      g = ⟨.halfSpace n.normalize, .shift (n.scale (-d / n.normSq)), .plane⟩ := by
  by_cases hlong : (Scalar.epsilon * Scalar.epsilon : ℝ) < n.normSq
  · rw [buildAsIs_plane hlong] at h
    exact ⟨lt_of_le_of_lt (mul_self_nonneg _) hlong, (Except.ok.inj h).symm⟩
  · have hbad : isDegeneratePlane n d = true := by simpa [isDegeneratePlane] using hlong
    simp [buildAsIs, hbad, Construction.defect] at h

/-- A point lies below the unit normal, seen from the point of the plane next to the origin,
exactly if it lies below the plane. -/
theorem mem_halfSpace_normalize_iff {n : Vec3 ℝ} (hn : 0 < n.normSq) (d : ℝ) (p : Vec3 ℝ) :
    p - n.scale (-d / n.normSq) ∈ (Solid.halfSpace n.normalize).points ↔
      p ∈ (plane n d).points := by
  have hnorm : 0 < n.norm := Real.sqrt_pos.mpr hn
  have hfoot : -d / n.normSq * n.normSq = -d := div_mul_cancel₀ _ hn.ne'
  have hside : n.x / n.norm * (p.x - n.x * (-d / n.normSq)) +
      n.y / n.norm * (p.y - n.y * (-d / n.normSq)) +
      n.z / n.norm * (p.z - n.z * (-d / n.normSq)) =
        (n.x * p.x + n.y * p.y + n.z * p.z + d) / n.norm := by
    linear_combination (n.norm⁻¹ * (-d / n.normSq)) * n.normSq_eq - n.norm⁻¹ * hfoot
  change n.x / n.norm * (p.x - n.x * (-d / n.normSq)) +
      n.y / n.norm * (p.y - n.y * (-d / n.normSq)) +
      n.z / n.norm * (p.z - n.z * (-d / n.normSq)) ≤ 0 ↔
    n.x * p.x + n.y * p.y + n.z * p.z + d ≤ 0
  rw [hside, div_le_iff₀ hnorm, zero_mul]

/-- The point of a plane next to the origin is kept by a positive factor. -/
theorem foot_scale (n : Vec3 ℝ) (d : ℝ) {k : ℝ} (hk : 0 < k) :
    (n.scale k).scale (-(k * d) / (n.scale k).normSq) = n.scale (-d / n.normSq) := by
  have hquotient : k * (-(k * d) / (n.normSq * k ^ 2)) = -d / n.normSq := by
    field_simp
  rw [Vec3.normSq_scale]
  simp only [Vec3.scale_def, mul_assoc, hquotient]

/-- Planes that differ by a positive factor have one geometry. -/
theorem eq_of_buildAsIs_scaled {a b c d k : ℝ} (hk : 0 < k)
    (h : (plane ⟨a, b, c⟩ d).buildAsIs.outcome = .ok g)
    (h' : (plane ⟨k * a, k * b, k * c⟩ (k * d)).buildAsIs.outcome = .ok g') : g' = g := by
  have hnormal : (⟨k * a, k * b, k * c⟩ : Vec3 ℝ) = (⟨a, b, c⟩ : Vec3 ℝ).scale k := by
    simp only [Vec3.scale_def, mul_comm k]
  rw [hnormal] at h'
  obtain ⟨-, rfl⟩ := plane_of_buildAsIs h
  obtain ⟨-, rfl⟩ := plane_of_buildAsIs h'
  rw [Vec3.normalize_scale _ hk, foot_scale _ _ hk]

/-! ### Built geometries -/

theorem standsFor_buildAsIs {s : Shape ℝ} (h : s.buildAsIs.outcome = .ok g) : g.StandsFor s := by
  cases s with
  | sphere r =>
    obtain rfl := eq_of_ofDimensions h
    exact Geometry.standsFor_of_identity rfl rfl
  | box size =>
    obtain rfl := eq_of_ofDimensions h
    exact Geometry.standsFor_of_identity rfl rfl
  | cylinder r length =>
    obtain rfl := eq_of_ofDimensions h
    refine Geometry.standsFor_of_frame Quaternion.isTurn_quarterTurnX fun p => ?_
    rw [Pose.quarterTurnX_inverse_apply]
    change _ ↔ p.x ^ 2 + (-p.y) ^ 2 ≤ r ^ 2 ∧ |p.z| ≤ length / (2 : ℕ)
    rw [neg_sq]
    rfl
  | cone r length => cases h
  | plane n d =>
    obtain ⟨hn, rfl⟩ := plane_of_buildAsIs h
    refine Geometry.standsFor_of_frame Quaternion.isTurn_identity fun p => ?_
    rw [Pose.shift_inverse_apply]
    exact (mem_halfSpace_normalize_iff hn d p).symm
  | mesh vs ts =>
    simp only [buildAsIs] at h
    split at h
    · cases h
    · split at h
      · cases h
      · obtain rfl := Except.ok.inj h
        exact Geometry.standsFor_of_identity rfl rfl

/-- The geometry that is built for a shape takes up the points of the shape, wherever the shape is
placed, a plane gets a unit normal, and planes that differ by a positive factor have one geometry. -/
theorem buildAsIs_faithful :
    (∀ (s : Shape ℝ) (g : Geometry ℝ), s.buildAsIs.outcome = .ok g → g.StandsFor s) ∧
      (∀ (n u : Vec3 ℝ) (d : ℝ) (g : Geometry ℝ), (plane n d).buildAsIs.outcome = .ok g →
        g.solid = .halfSpace u → u.normSq = 1) ∧
      ∀ (a b c d k : ℝ) (g g' : Geometry ℝ), 0 < k →
        (plane ⟨a, b, c⟩ d).buildAsIs.outcome = .ok g →
          (plane ⟨k * a, k * b, k * c⟩ (k * d)).buildAsIs.outcome = .ok g' →
            g'.solid = g.solid ∧ g'.offset = g.offset := by
  refine ⟨fun s g h => standsFor_buildAsIs h, ?_, ?_⟩
  · intro n u d g h hu
    obtain ⟨hn, rfl⟩ := plane_of_buildAsIs h
    obtain rfl := Solid.halfSpace.inj hu
    exact Vec3.normSq_normalize hn
  · intro a b c d k g g' hk h h'
    obtain rfl := eq_of_buildAsIs_scaled hk h h'
    exact ⟨rfl, rfl⟩

/-- A cylinder that stands along `z`, and the plane `2 z = 1` with its triple. -/
theorem buildAsIs_faithful_cylinder_plane :
    let upright : Geometry ℝ := ⟨.cylinder (4 / 2) 1, .turn Quaternion.quarterTurnX, .cylinder⟩
    let level (n : Vec3 ℝ) (d : ℝ) : Geometry ℝ :=
      ⟨.halfSpace n.normalize, .shift (n.scale (-d / n.normSq)), .plane⟩
    let g := level ⟨0, 0, 2⟩ (-1)
    let g' := level ⟨3 * 0, 3 * 0, 3 * 2⟩ (3 * -1)
    ((cylinder 1 4).buildAsIs.outcome = .ok upright ∧ upright.StandsFor (cylinder 1 4)) ∧
      (0 : ℝ) < 3 ∧ (plane ⟨0, 0, 2⟩ (-1)).buildAsIs.outcome = .ok g ∧
        (plane ⟨3 * 0, 3 * 0, 3 * 2⟩ (3 * -1)).buildAsIs.outcome = .ok g' ∧
          (⟨0, 0, 2⟩ : Vec3 ℝ).normalize.normSq = 1 ∧
            g'.solid = g.solid ∧ g'.offset = g.offset := by
  intro upright level g g'
  obtain ⟨hstands, hunit, hfactor⟩ := buildAsIs_faithful
  have hupright : (cylinder 1 4).buildAsIs.outcome = .ok upright := by
    simp [buildAsIs, ofDimensions, badDimension?, isDimension, Construction.ok, upright]
  have hlevel : (plane ⟨0, 0, 2⟩ (-1)).buildAsIs.outcome = .ok g :=
    buildAsIs_plane (by norm_num [Scalar.epsilon, Vec3.normSq_eq]) _
  have htriple : (plane ⟨3 * 0, 3 * 0, 3 * 2⟩ (3 * -1)).buildAsIs.outcome = .ok g' :=
    buildAsIs_plane (by norm_num [Scalar.epsilon, Vec3.normSq_eq]) _
  exact ⟨⟨hupright, hstands _ _ hupright⟩, three_pos, hlevel, htriple,
    hunit _ _ _ _ hlevel rfl, hfactor 0 0 2 (-1) 3 _ _ three_pos hlevel htriple⟩

end Shape

end Clearance
