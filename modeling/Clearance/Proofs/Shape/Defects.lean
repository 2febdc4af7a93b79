import Clearance.Shape.Geometry
import Clearance.Proofs.Number.Packing

/-! What building a geometry checks. All defects of a shape are listed in reading order, whatever
the checks do; a shape is built exactly when it has none, and otherwise the first one is reported.
What is checked is the shape as it was scaled and padded, or the shape itself where the scale and
the padding are next to nothing. -/

namespace Clearance

open Number

/-! ### Nothing to scale -/

theorem rank_eq_of_eq {x y : Float} (h : Scalar.eq x y = true) : rank x = rank y := by
  simp only [Scalar.eq, Scalar.le, Bool.and_eq_true, decide_eq_true_eq, le_iff_rank] at h
  omega

/-- Next to one, or next to zero, in the sense of the difference alone. -/
theorem near_iff {x y : Float} (hy : Scalar.eq x y = true → (x - y).abs ≤ Scalar.epsilon) :
    Scalar.near x y Scalar.epsilon = true ↔ (x - y).abs ≤ Scalar.epsilon := by
  simp only [Scalar.near, Scalar.le, Bool.or_eq_true, Bool.and_eq_true, decide_eq_true_eq]
  constructor
  · rintro (heq | ⟨-, hle⟩)
    · exact hy heq
    · exact hle
  · intro hle
    have hfinite : (x - y).isFinite = true := isFinite_of_abs_le hle (by decide +kernel)
    exact .inr ⟨isFinite_of_sub hfinite, hle⟩

theorem near_one_iff (x : Float) :
    Scalar.near x Scalar.one Scalar.epsilon = true ↔ (x - 1).abs ≤ Scalar.epsilon := by
  refine near_iff fun h => ?_
  have hrank : rank x = 0x3FF0000000000000 := (rank_eq_of_eq h).trans (by decide +kernel)
  have hx : x = 1 := by
    refine Float.toBits_inj.mp (UInt64.toNat_inj.mp ?_)
    have hone : (1 : Float).toBits.toNat = 0x3FF0000000000000 := by decide +kernel
    simp only [rank] at hrank
    split at hrank <;> omega
  rw [hx]
  decide +kernel

/-- Either zero is next to zero. -/
theorem near_zero_iff (x : Float) :
    Scalar.near x Scalar.zero Scalar.epsilon = true ↔ (x - 0).abs ≤ Scalar.epsilon := by
  refine near_iff fun h => ?_
  have hrank : rank x = 0 := (rank_eq_of_eq h).trans (by decide +kernel)
  have hx : x = 0 ∨ x = -0 := by
    have hplus : (0 : Float).toBits.toNat = 0 := by decide +kernel
    have hminus : (-0 : Float).toBits.toNat = Binary.signBit := by decide +kernel
    simp only [rank] at hrank
    split at hrank
    · exact .inl (Float.toBits_inj.mp (UInt64.toNat_inj.mp (by omega)))
    · exact .inr (Float.toBits_inj.mp (UInt64.toNat_inj.mp (by omega)))
  rcases hx with rfl | rfl <;> decide +kernel

/-- Whether a triangle names only vertices among the first `n`. -/
def Triangle.IsWithin (n : Nat) (t : Triangle) : Prop := ∀ v ∈ t.toList, v.toNat < n

instance (n : Nat) (t : Triangle) : Decidable (t.IsWithin n) := List.decidableBAll _ t.toList

namespace Shape

/-! ### Defects -/

/-- Whether a number can be a length. -/
def IsLength (x : Float) : Prop := x.isFinite = true ∧ 0 ≤ x

instance (x : Float) : Decidable (IsLength x) := inferInstanceAs (Decidable (_ ∧ _))

/-- Whether a normal and an offset make a plane. -/
def IsPlane (normal : Vec3 Float) (offset : Float) : Prop :=
  offset.isFinite = true ∧ normal.normSq.isFinite = true ∧
    Scalar.epsilon * Scalar.epsilon < normal.normSq

instance (n : Vec3 Float) (d : Float) : Decidable (IsPlane n d) :=
  inferInstanceAs (Decidable (_ ∧ _ ∧ _))

/-- The numbers that cannot be lengths, as defects of a shape of a kind. -/
def badLengths (kind : ShapeKind) (xs : List Float) : List (ShapeDefect Float) :=
  (xs.filter fun x => ¬ IsLength x).map (.badDimension kind)

/-- The vertices of triangles beyond the first `n`, triangle after triangle, counted from `i`. -/
def strayVertices (n i : Nat) (ts : List Triangle) : List (ShapeDefect Float) :=
  (ts.zipIdx i).flatMap fun p =>
    (p.1.toList.filter fun v => n ≤ v.toNat).map (.vertexOutOfRange p.2 · n)

/-- All that is wrong with a shape, in reading order. -/
def defects : Shape Float → List (ShapeDefect Float)
  | sphere r => badLengths .sphere [r]
  | box s => badLengths .box [s.x, s.y, s.z]
  | cylinder r l => badLengths .cylinder [r, l]
  | cone _ _ => [.unsupported .cone]
  | plane n d => if IsPlane n d then [] else [.degeneratePlane n]
  | mesh vs ts => strayVertices vs.length 0 ts ++ if ts = [] then [.noTriangles] else []

/-- Whether a shape can be built. -/
def IsSound : Shape Float → Prop
  | sphere r => IsLength r
  | box s => IsLength s.x ∧ IsLength s.y ∧ IsLength s.z
  | cylinder r l => IsLength r ∧ IsLength l
  | cone _ _ => False
  | plane n d => IsPlane n d
  | mesh vs ts => ts ≠ [] ∧ ∀ t ∈ ts, t.IsWithin vs.length

instance : DecidablePred IsSound
  | sphere _ => inferInstanceAs (Decidable (IsLength _))
  | box _ => inferInstanceAs (Decidable (_ ∧ _ ∧ _))
  | cylinder .. => inferInstanceAs (Decidable (_ ∧ _))
  | cone .. => inferInstanceAs (Decidable False)
  | plane .. => inferInstanceAs (Decidable (IsPlane _ _))
  | mesh vs ts =>
    inferInstanceAs (Decidable (ts ≠ [] ∧ ∀ t ∈ ts, t.IsWithin vs.length))

theorem badLengths_eq_nil_iff (kind : ShapeKind) (xs : List Float) :
    badLengths kind xs = [] ↔ ∀ x ∈ xs, IsLength x := by
  simp [badLengths]

theorem strayVertices_cons (n i : Nat) (t : Triangle) (ts : List Triangle) :
    strayVertices n i (t :: ts) =
      (t.toList.filter fun v => n ≤ v.toNat).map (.vertexOutOfRange i · n) ++
        strayVertices n (i + 1) ts := by
  rw [strayVertices, List.zipIdx_cons, List.flatMap_cons, strayVertices]

theorem strayVertices_eq_nil_iff (n i : Nat) (ts : List Triangle) :
    strayVertices n i ts = [] ↔ ∀ t ∈ ts, t.IsWithin n := by
  induction ts generalizing i with
  | nil => simp [strayVertices]
  | cons t ts ih =>
    rw [strayVertices_cons, List.append_eq_nil_iff, ih]
    simp [Triangle.IsWithin]

/-- A shape without defects is one that can be built. -/
theorem defects_eq_nil_iff (s : Shape Float) : s.defects = [] ↔ s.IsSound := by
  cases s with
  | sphere r => simp [defects, IsSound, badLengths_eq_nil_iff]
  | box s => simp [defects, IsSound, badLengths_eq_nil_iff]
  | cylinder r l => simp [defects, IsSound, badLengths_eq_nil_iff]
  | cone r l => simp [defects, IsSound]
  | plane n d => simp [defects, IsSound]
  | mesh vs ts => simp [defects, IsSound, strayVertices_eq_nil_iff, and_comm]

/-! ### Checks -/

theorem isDimension_iff (x : Float) : isDimension x = true ↔ IsLength x := by
  simp only [isDimension, IsLength, Bool.and_eq_true]
  exact and_congr Iff.rfl decide_eq_true_iff

theorem isDegeneratePlane_iff (n : Vec3 Float) (d : Float) :
    isDegeneratePlane n d = true ↔ ¬ IsPlane n d := by
  have hsize : n.normSq.isFinite = true → (¬ n.normSq ≤ Scalar.epsilon * Scalar.epsilon ↔
      Scalar.epsilon * Scalar.epsilon < n.normSq) :=
    fun h => not_le_iff_lt h (by decide +kernel)
  have hcheck : isDegeneratePlane n d = true ↔ (n.normSq.isFinite = false ∨
      n.normSq ≤ Scalar.epsilon * Scalar.epsilon) ∨ d.isFinite = false := by
    simp only [isDegeneratePlane, Bool.or_eq_true, Bool.not_eq_true']
    exact or_congr (or_congr Iff.rfl decide_eq_true_iff) Iff.rfl
  rw [hcheck, IsPlane]
  cases hd : d.isFinite with
  | false => simp
  | true =>
    cases hn : n.normSq.isFinite with
    | false => simp
    | true => simp [← hsize hn]

/-- The check of the numbers one by one finds the first defect. -/
theorem ofDimensions_eq (kind : ShapeKind) (xs : List Float) (g : Geometry Float) :
    ofDimensions kind xs g = match (badLengths kind xs).head? with
      | some d => .defect d
      | none => .ok g := by
  have hfind : badDimension? xs = (xs.filter fun x => ¬ IsLength x).head? := by
    rw [List.head?_filter, badDimension?]
    congr 1
    funext x
    rw [Bool.eq_iff_iff, Bool.not_eq_true', decide_eq_true_iff, ← isDimension_iff,
      Bool.not_eq_true]
  rw [ofDimensions, hfind, badLengths, List.head?_map]
  cases (xs.filter fun x => ¬ IsLength x).head? <;> rfl

/-- The search through the triangles finds the first stray vertex of the first triangle that has
one. -/
theorem strayVertex?_eq_head? (n i : Nat) (ts : List Triangle) :
    (strayVertex? n i ts).map (fun p => ShapeDefect.vertexOutOfRange (α := Float) p.1 p.2 n) =
      (strayVertices n i ts).head? := by
  induction ts generalizing i with
  | nil => rfl
  | cons t ts ih =>
    rw [strayVertices_cons, List.head?_append, List.head?_map, List.head?_filter, ← ih,
      strayVertex?]
    cases t.toList.find? fun v => n ≤ v.toNat <;> rfl

/-! ### Building -/

theorem outcome_ofDimensions (kind : ShapeKind) (xs : List Float) {g : Geometry Float}
    (hg : g.kind = kind) : match (badLengths kind xs).head? with
      | some d => (ofDimensions kind xs g).outcome = .error d
      | none => ∃ g', g'.kind = kind ∧ (ofDimensions kind xs g).outcome = .ok g' := by
  rw [ofDimensions_eq]
  cases (badLengths kind xs).head? with
  | some d => rfl
  | none => exact ⟨g, hg, rfl⟩

theorem log_ofDimensions (kind : ShapeKind) (xs : List Float) (g : Geometry Float) :
    (ofDimensions kind xs g).log = [] := by
  rw [ofDimensions_eq]
  cases (badLengths kind xs).head? <;> rfl

/-- Building comes to the first defect, or to a geometry of the kind of the shape. -/
theorem outcome_buildAsIs (s : Shape Float) : match s.defects.head? with
    | some d => s.buildAsIs.outcome = .error d
    | none => ∃ g, g.kind = s.kind ∧ s.buildAsIs.outcome = .ok g := by
  cases s with
  | sphere r => exact outcome_ofDimensions _ _ rfl
  | box s => exact outcome_ofDimensions _ _ rfl
  | cylinder r l => exact outcome_ofDimensions _ _ rfl
  | cone r l => rfl
  | plane n d =>
    simp only [defects, buildAsIs, isDegeneratePlane_iff]
    by_cases h : IsPlane n d
    · rw [if_pos h, if_neg (not_not_intro h)]
      exact ⟨_, rfl, rfl⟩
    · rw [if_neg h, if_pos h]
      rfl
  | mesh vs ts =>
    have hstray := strayVertex?_eq_head? vs.length 0 ts
    simp only [defects, buildAsIs, List.head?_append, ← hstray]
    cases strayVertex? vs.length 0 ts with
    | some p => rfl
    | none =>
      cases ts with
      | nil => rfl
      | cons t ts => exact ⟨_, rfl, rfl⟩

theorem exists_outcome_eq_ok {s : Shape Float} (h : s.IsSound) :
    ∃ g, s.buildAsIs.outcome = .ok g := by
  have houtcome := s.outcome_buildAsIs
  rw [s.defects_eq_nil_iff.mpr h] at houtcome
  obtain ⟨g, -, hok⟩ := houtcome
  exact ⟨g, hok⟩

/-- Only a cone leaves a line in the log. -/
theorem log_buildAsIs (s : Shape Float) : s.buildAsIs.log =
    if s.kind = .cone then
      [⟨.error, "This shape type (Cone) is not supported for collision checking."⟩] else [] := by
  cases s with
  | sphere r => exact log_ofDimensions ..
  | box s => exact log_ofDimensions ..
  | cylinder r l => exact log_ofDimensions ..
  | cone r l => rfl
  | plane n d =>
    simp only [buildAsIs]
    split <;> rfl
  | mesh vs ts =>
    simp only [buildAsIs]
    split
    · rfl
    · split <;> rfl

/-- The shape that is checked: the shape as it is if the scale is next to one and the padding next
to zero, and else its copy, scaled and padded. -/
def requested (s : Shape Float) (factor margin : Float) : Shape Float :=
  if (factor - 1).abs ≤ Scalar.epsilon ∧ (margin - 0).abs ≤ Scalar.epsilon then s
  else s.scalePad factor margin

theorem adjusted_eq_requested (s : Shape Float) (factor margin : Float) :
    s.adjusted factor margin = s.requested factor margin := by
  simp only [adjusted, requested, Bool.and_eq_true, near_one_iff, near_zero_iff]

theorem build_eq (s : Shape Float) (factor margin : Float) :
    s.build factor margin = (s.requested factor margin).buildAsIs :=
  congrArg buildAsIs (s.adjusted_eq_requested factor margin)

/-- A shape is built exactly if, as requested, it is sound; otherwise its first defect in reading
order is the error. A cone is the only shape that leaves a line in the log. -/
theorem outcome_build (s : Shape Float) (factor margin : Float) :
    let requested := s.requested factor margin
    let built := s.build factor margin
    ((∃ g, built.outcome = .ok g) ↔ requested.IsSound) ∧
      (∀ g, built.outcome = .ok g → g.kind = s.kind) ∧
      (∀ d, built.outcome = .error d ↔ requested.defects.head? = some d) ∧
      built.log = if s.kind = .cone then
        [⟨.error, "This shape type (Cone) is not supported for collision checking."⟩] else [] := by
  intro requested built
  have hbuilt : built = requested.buildAsIs := s.build_eq factor margin
  have hkind : requested.kind = s.kind := by
    simp only [requested, Shape.requested]
    split
    · rfl
    · exact kind_scalePad ..
  have houtcome := requested.outcome_buildAsIs
  rw [hbuilt, log_buildAsIs, hkind, ← defects_eq_nil_iff, ← List.head?_eq_none_iff]
  cases hhead : requested.defects.head? with
  | some d =>
    rw [hhead] at houtcome
    simp [show requested.buildAsIs.outcome = .error d from houtcome]
  | none =>
    rw [hhead] at houtcome
    obtain ⟨g, hg, hok⟩ := houtcome
    simp [hok, hg, hkind]

end Shape

end Clearance
