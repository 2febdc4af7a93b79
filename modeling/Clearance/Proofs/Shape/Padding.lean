import Clearance.Proofs.Space.Exact
import Clearance.Shape.Geometry

/-! How far shapes grow. Over the real numbers a scale of one without a margin keeps every shape. A
vertex of a mesh that is not too close to the mean of the vertices moves on its ray from there by
exactly what the scale and the margin ask for; one that is too close moves axis by axis, and at
least by the margin. -/

namespace Clearance

namespace Vec3

/-! ### Distances -/

noncomputable def dist (u v : Vec3 ℝ) : ℝ := √((u.x - v.x) ^ 2 + (u.y - v.y) ^ 2 + (u.z - v.z) ^ 2)

theorem norm_sub (u v : Vec3 ℝ) : (u - v).norm = dist u v := norm_eq _

theorem dist_add_left (u v : Vec3 ℝ) : dist (u + v) u = v.norm := by
  simp [dist, add_def, norm_eq]

theorem add_sub_cancel (u v : Vec3 ℝ) : u + (v - u) = v := by
  simp [add_def, sub_def]

theorem scale_one (v : Vec3 ℝ) : v.scale 1 = v := by
  simp [scale_def]

/-- The way along a diagonal is no longer than the ways along the axes. -/
theorem norm_le_abs_add (v : Vec3 ℝ) : v.norm ≤ |v.x| + |v.y| + |v.z| := by
  rw [norm_eq]
  refine Real.sqrt_le_iff.mpr ⟨by positivity, ?_⟩
  have hcross : 0 ≤ |v.x| * |v.y| + |v.x| * |v.z| + |v.y| * |v.z| := by positivity
  rw [← sq_abs v.x, ← sq_abs v.y, ← sq_abs v.z]
  linarith only [hcross, add_sq (|v.x| + |v.y|) |v.z|, add_sq |v.x| |v.y|,
    add_mul |v.x| |v.y| |v.z|]

end Vec3

namespace Mesh

/-! ### The mean -/

noncomputable def mean (vs : List (Vec3 ℝ)) : Vec3 ℝ where
  x := (vs.map (·.x)).sum / vs.length
  y := (vs.map (·.y)).sum / vs.length
  z := (vs.map (·.z)).sum / vs.length

theorem foldl_add (vs : List (Vec3 ℝ)) (u : Vec3 ℝ) : vs.foldl (· + ·) u =
    ⟨u.x + (vs.map (·.x)).sum, u.y + (vs.map (·.y)).sum, u.z + (vs.map (·.z)).sum⟩ := by
  induction vs generalizing u with
  | nil => simp
  | cons v vs ih =>
    rw [List.foldl_cons, ih]
    simp [Vec3.add_def, add_assoc]

theorem centroid_eq_mean (vs : List (Vec3 ℝ)) : centroid vs = mean vs := by
  simp [centroid, mean, foldl_add, Vec3.divBy_def, Vec3.zero]

/-! ### Moving a vertex -/

/-- What moving `v` to `v'` away from `c` by a scale and a margin has to do: beyond a millionth the
vertex is moved on its ray to the distance asked for, and otherwise out by the margin at least. -/
structure MovesOut (c : Vec3 ℝ) (factor margin : ℝ) (v v' : Vec3 ℝ) : Prop where
  ray : 1 / 10 ^ 6 < v.dist c → ∃ t, 0 ≤ t ∧ v' = c + (v - c).scale t
  far : 1 / 10 ^ 6 < v.dist c → v'.dist c = factor * v.dist c + margin
  near : v.dist c ≤ 1 / 10 ^ 6 → v.dist c + margin ≤ v'.dist c

theorem moveVertex_of_far {c v : Vec3 ℝ} (h : 1 / 10 ^ 6 < v.dist c) (factor margin : ℝ) :
    moveVertex c factor margin v = c + (v - c).scale (factor + margin / v.dist c) := by
  have hfar : (nearCentroid : ℝ) < (v - c).norm := by
    rw [Vec3.norm_sub]
    exact lt_of_eq_of_lt (by norm_num [nearCentroid]) h
  simp only [moveVertex, Scalar.lt_real, hfar, decide_true, ↓reduceIte, ← Vec3.norm_sub]

theorem moveVertex_of_near {c v : Vec3 ℝ} (h : v.dist c ≤ 1 / 10 ^ 6) (factor margin : ℝ) :
    moveVertex c factor margin v = c + (v - c).map (pushOut margin) := by
  have hnear : ¬ (nearCentroid : ℝ) < (v - c).norm := by
    rw [Vec3.norm_sub, not_lt]
    exact h.trans_eq (by norm_num [nearCentroid])
  simp only [moveVertex, Scalar.lt_real, hnear, decide_false, Bool.false_eq_true, ↓reduceIte]

theorem pushOut_eq (margin e : ℝ) :
    pushOut margin e = if 0 < e then e + margin else e - margin := by
  simp [pushOut]

theorem map_pushOut_zero (r : Vec3 ℝ) : r.map (pushOut 0) = r := by
  simp [Vec3.map, pushOut_eq]

theorem moveVertex_one_zero (c v : Vec3 ℝ) : moveVertex c 1 0 v = v := by
  rcases lt_or_ge (1 / 10 ^ 6) (v.dist c) with hfar | hnear
  · rw [moveVertex_of_far hfar, zero_div, add_zero, Vec3.scale_one, Vec3.add_sub_cancel]
  · rw [moveVertex_of_near hnear, map_pushOut_zero, Vec3.add_sub_cancel]

/-- A coordinate is pushed out by the whole margin, whatever its sign. -/
theorem sq_pushOut (margin e : ℝ) : pushOut margin e ^ 2 = (|e| + margin) ^ 2 := by
  rw [pushOut_eq]
  split
  case isTrue he => rw [abs_of_pos he]
  case isFalse he =>
    rw [abs_of_nonpos (not_lt.mp he)]
    ring

/-- A vector that is pushed out along every axis gains the margin at least. -/
theorem norm_add_le_norm_pushOut (r : Vec3 ℝ) {margin : ℝ} (hm : 0 ≤ margin) :
    r.norm + margin ≤ (r.map (pushOut margin)).norm := by
  -- The axes together gain as much as their lengths, which are no less than the length of `r`.
  have haxes : margin * r.norm ≤ margin * (|r.x| + |r.y| + |r.z|) :=
    mul_le_mul_of_nonneg_left r.norm_le_abs_add hm
  have hlength : r.norm ^ 2 = |r.x| ^ 2 + |r.y| ^ 2 + |r.z| ^ 2 := by
    rw [Vec3.norm_eq, Real.sq_sqrt (by positivity), sq_abs, sq_abs, sq_abs]
  rw [Vec3.norm_eq (r.map _)]
  refine Real.le_sqrt_of_sq_le ?_
  calc (r.norm + margin) ^ 2
      = r.norm ^ 2 + 2 * (margin * r.norm) + margin ^ 2 := by ring
    _ ≤ r.norm ^ 2 + 2 * (margin * (|r.x| + |r.y| + |r.z|)) + 3 * margin ^ 2 := by
      linarith only [haxes, sq_nonneg margin]
    _ = (|r.x| + margin) ^ 2 + (|r.y| + margin) ^ 2 + (|r.z| + margin) ^ 2 := by
      rw [hlength]
      ring
    _ = pushOut margin r.x ^ 2 + pushOut margin r.y ^ 2 + pushOut margin r.z ^ 2 := by
      simp only [sq_pushOut]

variable {factor margin : ℝ}

theorem movesOut_moveVertex (hf : 0 ≤ factor) (hm : 0 ≤ margin) (c v : Vec3 ℝ) :
    MovesOut c factor margin v (moveVertex c factor margin v) where
  ray h :=
    have hpos : 0 ≤ v.dist c := Real.sqrt_nonneg _
    ⟨_, add_nonneg hf (div_nonneg hm hpos), moveVertex_of_far h factor margin⟩
  far h := by
    have hpos : 0 < v.dist c := lt_trans (by norm_num) h
    have hfactor : 0 ≤ factor + margin / v.dist c := add_nonneg hf (div_nonneg hm hpos.le)
    rw [moveVertex_of_far h, Vec3.dist_add_left, Vec3.norm_scale _ hfactor, Vec3.norm_sub, mul_add,
      mul_div_cancel₀ _ hpos.ne', mul_comm]
  near h := by
    rw [moveVertex_of_near h, Vec3.dist_add_left, ← Vec3.norm_sub]
    exact norm_add_le_norm_pushOut _ hm

/-- A margin never takes a vertex closer to the centroid than the scale alone. -/
theorem dist_moveVertex_le (hf : 0 ≤ factor) (hm : 0 ≤ margin) (c v : Vec3 ℝ) :
    (moveVertex c factor 0 v).dist c ≤ (moveVertex c factor margin v).dist c := by
  have hscaled := movesOut_moveVertex hf le_rfl c v
  have hgrown := movesOut_moveVertex hf hm c v
  rcases lt_or_ge (1 / 10 ^ 6) (v.dist c) with hfar | hnear
  · rw [hscaled.far hfar, hgrown.far hfar]
    linarith
  · have hkept : moveVertex c factor 0 v = v := by
      rw [moveVertex_of_near hnear, map_pushOut_zero, Vec3.add_sub_cancel]
    rw [hkept]
    linarith [hgrown.near hnear]

end Mesh

namespace Shape

open Mesh

/-! ### Shapes -/

theorem scalePad_one_zero_eq (s : Shape ℝ) : s.scalePad 1 0 = s := by
  cases s with
  | mesh vs ts =>
    have hkept : moveVertex (centroid vs) 1 0 = id := funext (moveVertex_one_zero _)
    simp [scalePad, Mesh.scalePad, hkept]
  | plane n d => rfl
  | box size => simp [scalePad, Vec3.map]
  | _ => simp [scalePad]

theorem build_one_zero_eq (s : Shape ℝ) : s.build 1 0 = s.buildAsIs := by
  simp [build, adjusted, Scalar.near, Scalar.eq]

/-- A scale of one without a margin keeps every shape, so the geometry is the same whether or not
the shape is scaled first. A scale and a margin that are not negative keep the number, the order and
the triangles of the vertices of a mesh and move each of them out from the mean of all. -/
theorem scalePad_moves_out :
    (∀ s : Shape ℝ, s.scalePad 1 0 = s ∧ s.build 1 0 = s.buildAsIs ∧
      s.build 1 0 = (s.scalePad 1 0).buildAsIs) ∧
      ∀ (vs : List (Vec3 ℝ)) (ts : List Triangle) (factor margin : ℝ),
        vs ≠ [] → 0 ≤ factor → 0 ≤ margin →
          let moved (margin : ℝ) := moveVertex (mean vs) factor margin
          (mesh vs ts).scalePad factor margin = mesh (vs.map (moved margin)) ts ∧
            ∀ v ∈ vs, MovesOut (mean vs) factor margin v (moved margin v) ∧
              (moved 0 v).dist (mean vs) ≤ (moved margin v).dist (mean vs) := by
  refine ⟨fun s => ⟨s.scalePad_one_zero_eq, s.build_one_zero_eq, ?_⟩, ?_⟩
  · rw [build_one_zero_eq, scalePad_one_zero_eq]
  · intro vs ts factor margin _ hf hm moved
    refine ⟨?_, fun v _ => ⟨movesOut_moveVertex hf hm _ v, dist_moveVertex_le hf hm _ v⟩⟩
    simp only [scalePad, Mesh.scalePad, centroid_eq_mean, moved]

/-- Two vertices and the point between them, made twice as large and grown by a half. -/
theorem scalePad_moves_out_middle :
    let vs : List (Vec3 ℝ) := [⟨1, 1, 0⟩, ⟨3, 1, 0⟩, ⟨2, 1, 0⟩]
    let moved := moveVertex (mean vs) 2 (1 / 2)
    vs ≠ [] ∧ (0 : ℝ) ≤ 2 ∧ (0 : ℝ) ≤ 1 / 2 ∧ mean vs = ⟨2, 1, 0⟩ ∧
      (mesh vs [⟨0, 1, 2⟩]).scalePad 2 (1 / 2) = mesh (vs.map moved) [⟨0, 1, 2⟩] ∧
      (moved ⟨1, 1, 0⟩).dist ⟨2, 1, 0⟩ = 5 / 2 ∧ 1 / 2 ≤ (moved ⟨2, 1, 0⟩).dist ⟨2, 1, 0⟩ := by
  intro vs moved
  have hmean : mean vs = ⟨2, 1, 0⟩ := by norm_num [mean, vs]
  obtain ⟨hmesh, hvertices⟩ :=
    scalePad_moves_out.2 vs [⟨0, 1, 2⟩] 2 (1 / 2) (by simp [vs]) zero_le_two one_half_pos.le
  have hfar := (hvertices ⟨1, 1, 0⟩ (by simp [vs])).1.far
  have hnear := (hvertices ⟨2, 1, 0⟩ (by simp [vs])).1.near
  have hone : (⟨1, 1, 0⟩ : Vec3 ℝ).dist ⟨2, 1, 0⟩ = 1 := by norm_num [Vec3.dist]
  have hzero : (⟨2, 1, 0⟩ : Vec3 ℝ).dist ⟨2, 1, 0⟩ = 0 := by norm_num [Vec3.dist]
  rw [hmean, hone] at hfar
  rw [hmean, hzero] at hnear
  have hmoved : moved = moveVertex ⟨2, 1, 0⟩ 2 (1 / 2) := congrArg (moveVertex · 2 (1 / 2)) hmean
  refine ⟨by simp [vs], zero_le_two, one_half_pos.le, hmean, hmesh, ?_, ?_⟩
  · rw [hmoved, hfar (by norm_num)]
    norm_num
  · rw [hmoved]
    simpa using hnear (by norm_num)

end Shape

end Clearance
