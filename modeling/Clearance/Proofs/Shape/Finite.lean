import Clearance.Proofs.Number.Overflow
import Clearance.Proofs.Shape.Defects

/-! Which geometries hold numbers only. The checks of a shape see to it that dimensions and unit
normals are finite. They do not look at the vertices of a mesh, nor at the distance of a plane from
the origin, which may overflow where the normal is short and the offset long; a geometry that was
built is finite exactly if these are. -/

namespace Clearance

open Number

/-! ### Finite geometries -/

def Pose.IsFinite (p : Pose Float) : Prop :=
  p.origin.isFinite = true ∧ p.rotation.imaginary.isFinite = true ∧ p.rotation.w.isFinite = true

instance (p : Pose Float) : Decidable p.IsFinite := inferInstanceAs (Decidable (_ ∧ _ ∧ _))

/-- Whether a triangle of the mesh has only finite corners. -/
def Triangle.IsFinite (vs : List (Vec3 Float)) (t : Triangle) : Prop :=
  ∀ i ∈ t.toList, (vs[i.toNat]?).all Vec3.isFinite = true

instance (vs : List (Vec3 Float)) (t : Triangle) : Decidable (t.IsFinite vs) :=
  List.decidableBAll _ t.toList

/-- Whether all numbers that contacts are computed from are finite. -/
def Solid.IsFinite : Solid Float → Prop
  | ball r => r.isFinite = true
  | cuboid half => half.isFinite = true
  | cylinder halfHeight r => halfHeight.isFinite = true ∧ r.isFinite = true
  | halfSpace normal => normal.isFinite = true
  | surface vs ts => ∀ t ∈ ts, t.IsFinite vs

def Geometry.IsFinite (g : Geometry Float) : Prop := g.solid.IsFinite ∧ g.offset.IsFinite

/-- What the checks of a shape leave out: the signed distance of a plane from the origin, in units
of its normal, and the corners of a mesh. -/
def Shape.IsInReach : Shape Float → Prop
  | plane normal offset => (-offset / normal.normSq).isFinite = true
  | mesh vs ts => ∀ t ∈ ts, t.IsFinite vs
  | _ => True

instance : DecidablePred Shape.IsInReach
  | .plane .. => inferInstanceAs (Decidable (_ = _))
  | .mesh vs ts => inferInstanceAs (Decidable (∀ t ∈ ts, t.IsFinite vs))
  | .sphere _ | .box _ | .cylinder .. | .cone .. => inferInstanceAs (Decidable True)

theorem Vec3.isFinite_iff_forall_mem (v : Vec3 Float) : v.isFinite = true ↔
    ∀ c ∈ v.toList, c.isFinite = true := List.all_eq_true

/-! ### Planes -/

/-- A squared length that is finite is no less than any of the squares that it is made of. -/
theorem squares_of_normSq {n : Vec3 Float} (h : n.normSq.isFinite = true) : IsPlus n.normSq ∧
    ∀ c ∈ n.toList, (c * c).isFinite = true ∧ size (c * c) ≤ size n.normSq := by
  have hsum : (n.x * n.x + n.y * n.y + n.z * n.z).isFinite = true := h
  obtain ⟨hxy, hz⟩ := isFinite_of_add hsum
  obtain ⟨hx, hy⟩ := isFinite_of_add hxy
  have hplus := (roundsTo_add (isPlus_mul_self hx) (isPlus_mul_self hy)).isPlus hxy
  have hfirst := le_size_add (isPlus_mul_self hx) (isPlus_mul_self hy) hxy
  have hlast := le_size_add hplus (isPlus_mul_self hz) hsum
  refine ⟨(roundsTo_add hplus (isPlus_mul_self hz)).isPlus hsum, ?_⟩
  simp only [Vec3.toList, List.forall_mem_cons, List.not_mem_nil, false_imp_iff, implies_true,
    and_true]
  exact ⟨⟨hx, hfirst.1.trans hlast.1⟩, ⟨hy, hfirst.2.trans hlast.1⟩, hz, hlast.2⟩

theorem Vec3.forall_mem_toList_map {n : Vec3 Float} {f : Float → Float} {P : Float → Prop} :
    (∀ c ∈ (n.map f).toList, P c) ↔ ∀ c ∈ n.toList, P (f c) := by
  simp [Vec3.map, Vec3.toList]

namespace Shape

variable {n : Vec3 Float} {d : Float}

theorem le_size_normSq (h : IsPlane n d) : 2 ^ (-104 : ℤ) ≤ size n.normSq :=
  le_size_of_epsilon_lt (squares_of_normSq h.2.1).1 h.2.2

/-- The checks of a plane see to its unit normal. -/
theorem isFinite_normalize (h : IsPlane n d) : n.normalize.isFinite = true := by
  obtain ⟨hplus, hsquares⟩ := squares_of_normSq h.2.1
  obtain ⟨hnorm, hlow⟩ := le_size_sqrt hplus (le_size_normSq h)
  refine (Vec3.isFinite_iff_forall_mem _).mpr (Vec3.forall_mem_toList_map.mpr fun c hc => ?_)
  have hsquare := (hsquares c hc).1
  exact isFinite_div (isFinite_of_mul hsquare).1 (size_le_of_isFinite_mul_self hsquare) hnorm hlow

/-- The point of a plane next to the origin is finite if its distance, in units of the normal,
is. -/
theorem isFinite_foot_iff (h : IsPlane n d) :
    (n.scale (-d / n.normSq)).isFinite = true ↔ (-d / n.normSq).isFinite = true := by
  obtain ⟨hplus, hsquares⟩ := squares_of_normSq h.2.1
  have hpos : 0 < size n.normSq := lt_of_lt_of_le (by positivity) (le_size_normSq h)
  rw [Vec3.isFinite_iff_forall_mem, Vec3.scale, Vec3.forall_mem_toList_map]
  constructor
  · intro hall
    exact (isFinite_of_mul (hall n.x (List.mem_cons_self ..))).2
  · intro hquotient c hc
    obtain ⟨hsquare, hle⟩ := hsquares c hc
    exact isFinite_mul_div hsquare (isFinite_neg h.1) hplus hle hpos hquotient

/-! ### Built geometries -/

theorem ofDimensions_eq_ok {kind : ShapeKind} {xs : List Float} {g g' : Geometry Float}
    (h : (ofDimensions kind xs g).outcome = .ok g') : (∀ x ∈ xs, IsLength x) ∧ g = g' := by
  rw [ofDimensions_eq] at h
  cases hhead : (badLengths kind xs).head? with
  | some d =>
    rw [hhead] at h
    cases h
  | none =>
    rw [hhead] at h
    exact ⟨(badLengths_eq_nil_iff kind xs).mp (List.head?_eq_none_iff.mp hhead), Except.ok.inj h⟩

theorem isFinite_iff_of_buildAsIs {s : Shape Float} {g : Geometry Float}
    (h : s.buildAsIs.outcome = .ok g) : g.IsFinite ↔ s.IsInReach := by
  have hidentity : (Pose.identity : Pose Float).IsFinite := by decide +kernel
  have hturn : (Pose.turn Quaternion.quarterTurnX : Pose Float).IsFinite := by decide +kernel
  cases s with
  | sphere r =>
    obtain ⟨hdims, rfl⟩ := ofDimensions_eq_ok h
    exact iff_of_true ⟨(hdims r (List.mem_cons_self ..)).1, hidentity⟩ trivial
  | box size =>
    obtain ⟨hdims, rfl⟩ := ofDimensions_eq_ok h
    refine iff_of_true ⟨(Vec3.isFinite_iff_forall_mem _).mpr ?_, hidentity⟩ trivial
    exact Vec3.forall_mem_toList_map.mpr fun x hx => isFinite_half (hdims x hx).1
  | cylinder r l =>
    obtain ⟨hdims, rfl⟩ := ofDimensions_eq_ok h
    have hr := (hdims r (by simp)).1
    have hl := (hdims l (by simp)).1
    exact iff_of_true ⟨⟨isFinite_half hl, hr⟩, hturn⟩ trivial
  | cone r l => cases h
  | plane n d =>
    simp only [buildAsIs] at h
    split at h
    · cases h
    · rename_i hplane
      rw [isDegeneratePlane_iff, not_not] at hplane
      obtain rfl := Except.ok.inj h
      have hrest : (Quaternion.identity : Quaternion Float).imaginary.isFinite = true ∧
          (Quaternion.identity : Quaternion Float).w.isFinite = true := by decide +kernel
      rw [IsInReach, ← isFinite_foot_iff hplane]
      constructor
      · exact fun hg => hg.2.1
      · exact fun hfoot => ⟨isFinite_normalize hplane, hfoot, hrest⟩
  | mesh vs ts =>
    simp only [buildAsIs] at h
    split at h
    · cases h
    · split at h
      · cases h
      · obtain rfl := Except.ok.inj h
        exact ⟨And.left, fun hts => ⟨hts, hidentity⟩⟩

/-- A geometry that was built holds finite numbers only, but for the two that are not checked: the
foot of a plane that is out of reach, and corners of the mesh that were not finite or overflowed
when it was scaled. -/
theorem isFinite_iff_of_build {s : Shape Float} {factor margin : Float} {g : Geometry Float}
    (h : (s.build factor margin).outcome = .ok g) :
    g.IsFinite ↔ (s.requested factor margin).IsInReach := by
  rw [build_eq] at h
  exact isFinite_iff_of_buildAsIs h

/-- The plane half a unit above the origin. -/
def tableTop : Shape Float := .plane ⟨0, 0, 2⟩ (-1)

theorem isFinite_tableTop : ∃ g, (tableTop.build 1 0).outcome = .ok g ∧
    (tableTop.requested 1 0).IsInReach ∧ g.IsFinite := by
  obtain ⟨g, hbuilt⟩ : ∃ g, (tableTop.build 1 0).outcome = .ok g := by
    rw [build_eq]
    exact exists_outcome_eq_ok (by decide +kernel)
  have hreach : (tableTop.requested 1 0).IsInReach := by decide +kernel
  exact ⟨g, hbuilt, hreach, (isFinite_iff_of_build hbuilt).mpr hreach⟩

/-- A plane with a short normal and a long offset, so far away that its distance overflows. -/
def farPlane : Shape Float := .plane ⟨0, 0, 1e-10⟩ 1e300

def sail : Shape Float := .mesh [⟨1, 0, 0⟩, ⟨4, 0, 3⟩, ⟨0, 7, 0⟩] [⟨0, 1, 2⟩]

/-- Both are built: the plane from finite numbers, and the mesh with a scale that is no number. -/
theorem not_isFinite_built :
    (∃ g, (farPlane.build 1 0).outcome = .ok g ∧ ¬ g.IsFinite) ∧
      ∃ g, (sail.build (0 / 0) 0).outcome = .ok g ∧ ¬ g.IsFinite := by
  have hlost : ∀ {s : Shape Float}, s.IsSound → ¬ s.IsInReach →
      ∃ g, s.buildAsIs.outcome = .ok g ∧ ¬ g.IsFinite := by
    intro s hsound hfar
    obtain ⟨g, hbuilt⟩ := exists_outcome_eq_ok hsound
    exact ⟨g, hbuilt, fun hg => hfar ((isFinite_iff_of_buildAsIs hbuilt).mp hg)⟩
  rw [build_eq, build_eq]
  constructor
  · exact hlost (by decide +kernel) (by decide +kernel)
  · exact hlost (by decide +kernel) (by decide +kernel)

end Shape

end Clearance
