import Mathlib.Data.List.Perm.Basic
import Clearance.Proofs.Wire.Reading

/-! Writing and reading back. What is written is read as the value it was written for, from every
layout of its record, unless the value has a number that is not finite; and what is read from any
document at all is read again from what it is written as. Findings with a bucket are not written. -/

namespace Clearance

open Json

/-! ### Values and their documents -/

/-- What is written for a good value is read as that value; and a value read from any document is
read again from what it is written as. -/
structure RoundTrip {α : Type} (write : α → Option Json) (read : Json → Option α)
    (good : α → Prop) : Prop where
  read_write : ∀ a, good a → (write a).bind read = some a
  rewrite : ∀ j a, read j = some a → (write a).bind read = some a

/-- For values written as records, every layout of the written fields will do. -/
structure RecordRoundTrip {α : Type} (write : α → Option Json) (read : Json → Option α)
    (good : α → Prop) : Prop extends RoundTrip write read good where
  layouts : ∀ a fs j, good a → write a = some (.object fs) → Layout fs j → read j = some a

section

variable {α : Type} {write : α → Option Json} {read : Json → Option α} {good : α → Prop}

/-- If only good values are read, it is enough that these are read back. -/
theorem RoundTrip.of_good (h : ∀ a, good a → (write a).bind read = some a)
    (hgood : ∀ j a, read j = some a → good a) : RoundTrip write read good where
  read_write := h
  rewrite j a hj := h a (hgood j a hj)

/-- The same for values that are always written. -/
theorem RoundTrip.of_total {toJson : α → Json} (h : ∀ a, good a → read (toJson a) = some a)
    (hgood : ∀ j a, read j = some a → good a) : RoundTrip (some ∘ toJson) read good :=
  .of_good h hgood

theorem RoundTrip.reread {toJson : α → Json} (h : RoundTrip (some ∘ toJson) read good) {j : Json}
    {a : α} (hj : read j = some a) : read (toJson a) = some a := h.rewrite j a hj

theorem RecordRoundTrip.of_layouts (h : ∀ a, good a → ∃ fs, write a = some (.object fs) ∧
      ∀ j, Layout fs j → read j = some a)
    (hgood : ∀ j a, read j = some a → good a) : RecordRoundTrip write read good where
  toRoundTrip := .of_good (fun a ha => by
    obtain ⟨fs, hfs, hread⟩ := h a ha
    rw [hfs]
    exact hread _ (Layout.fields fs)) hgood
  layouts a fs j ha hfs hj := by
    obtain ⟨gs, hgs, hread⟩ := h a ha
    rw [hgs, Option.some.injEq, object.injEq] at hfs
    exact hread j (hfs ▸ hj)

end

theorem BodyId.roundTrip : RoundTrip (some ∘ toJson) ofJson? fun _ => True :=
  .of_total (fun _ _ => ofJson?_eq_some_iff.2 rfl) fun _ _ _ => trivial

theorem Role.roundTrip : RoundTrip (some ∘ toJson) ofJson? fun _ => True :=
  .of_total (fun _ _ => ofJson?_eq_some_iff.2 (.inl rfl)) fun _ _ _ => trivial

theorem Body.roundTrip : RecordRoundTrip (some ∘ toJson) ofJson? fun _ => True :=
  .of_layouts (fun _ _ => ⟨_, rfl, fun _ hj =>
    ofJson?_eq_some_iff.2 ⟨_, hj, Role.ofJson?_eq_some_iff.2 (.inl rfl)⟩⟩) fun _ _ _ => trivial

theorem Attachment.roundTrip : RecordRoundTrip (some ∘ toJson) ofJson? fun _ => True :=
  .of_layouts (fun _ _ => ⟨_, rfl, fun _ hj => ofJson?_eq_some_iff.2 hj⟩) fun _ _ _ => trivial

theorem BodyPair.roundTrip : RoundTrip (some ∘ toJson) ofJson? fun _ => True :=
  .of_total (fun _ _ => ofJson?_eq_some_iff.2 rfl) fun _ _ _ => trivial

theorem Handle.roundTrip : RoundTrip (some ∘ toJson) ofJson? fun _ => True :=
  .of_total (fun _ _ => ofJson?_eq_some_iff.2 rfl) fun _ _ _ => trivial

theorem Request.roundTrip : RecordRoundTrip (some ∘ toJson) ofJson? fun _ => True :=
  .of_layouts (fun _ _ => ⟨_, rfl, fun _ hj => ofJson?_eq_some_iff.2 hj⟩) fun _ _ _ => trivial

theorem ShapeKind.roundTrip : RoundTrip (some ∘ toJson) ofJson? fun _ => True :=
  .of_total (fun _ _ => ofJson?_eq_some_iff.2 (.inl rfl)) fun _ _ _ => trivial

/-! ### Attachments -/

/-- What is written for an entry of a map of attachments. -/
theorem Attachments.forall₂_entries (es : List (BodyId × Attachment)) :
    List.Forall₂ (fun m e => m.1 = e.1.name ∧ Attachment.ofJson? m.2 = some e.2)
      (es.map fun e => (e.1.name, e.2.toJson)) es := by
  rw [List.forall₂_map_left_iff, List.forall₂_same]
  exact fun e _ => ⟨rfl, Attachment.roundTrip.read_write e.2 trivial⟩

theorem Attachments.ofJson?_of_layout {r : Attachments} {j : Json}
    (hj : Layout [("attached", .object (r.byBody.entries.map fun e => (e.1.name, e.2.toJson)))] j) :
    ofJson? j = some r := by
  obtain ⟨m⟩ := r
  refine ofJson?_eq_some_iff.2 ⟨_, m.entries, hj, forall₂_entries _, ?_⟩
  rw [OrderedMap.ofList_entries]

theorem Attachments.roundTrip : RecordRoundTrip (some ∘ toJson) ofJson? fun _ => True :=
  .of_layouts (fun _ _ => ⟨_, rfl, fun _ => ofJson?_of_layout⟩) fun _ _ _ => trivial

/-- The members of the map may come in any order: what is read answers all look-ups alike. -/
theorem Attachments.attached?_of_perm {r : Attachments} {ms : List (String × Json)}
    (hms : ms.Perm (r.byBody.entries.map fun e => (e.1.name, e.2.toJson))) {j : Json}
    (hj : Layout [("attached", .object ms)] j) :
    ∃ s, ofJson? j = some s ∧ ∀ body, s.attached? body = r.attached? body := by
  obtain ⟨es, hread, hes⟩ := List.perm_comp_forall₂ hms (forall₂_entries _)
  exact ⟨⟨.ofList es⟩, ofJson?_eq_some_iff.2 ⟨ms, es, hj, hread, rfl⟩,
    OrderedMap.get?_ofList_of_perm hes⟩

/-! ### Contacts, findings and shapes -/

theorem Vec3.ofJson?_toJson {v : Vec3 Float} (h : v.isFinite = true) :
    ofJson? v.toJson = some v := by
  obtain ⟨hx, hy, hz⟩ := isFinite_iff.1 h
  exact ofJson?_eq_some_iff.2
    ⟨_, _, _, rfl, float?_ofFloat hx, float?_ofFloat hy, float?_ofFloat hz⟩

theorem Contact.ofJson?_of_layout {c : Contact} (hc : c.isFinite = true) {j : Json}
    (hj : Layout [("pos", c.position.toJson), ("normal", c.normal.toJson),
      ("depth", .ofFloat c.depth), ("body_name_1", c.first.id.toJson),
      ("body_type_1", c.first.role.toJson), ("body_name_2", c.second.id.toJson),
      ("body_type_2", c.second.role.toJson)] j) : ofJson? j = some c := by
  simp only [isFinite, Bool.and_eq_true] at hc
  obtain ⟨⟨hp, hn⟩, hd⟩ := hc
  exact ofJson?_eq_some_iff.2 ⟨_, _, _, _, _, hj, Vec3.ofJson?_toJson hp, Vec3.ofJson?_toJson hn,
    float?_ofFloat hd, Role.ofJson?_eq_some_iff.2 (.inl rfl),
    Role.ofJson?_eq_some_iff.2 (.inl rfl)⟩

theorem Contact.roundTrip :
    RecordRoundTrip (some ∘ toJson) ofJson? fun c => c.isFinite = true :=
  .of_layouts (fun _ hc => ⟨_, rfl, fun _ => ofJson?_of_layout hc⟩) fun _ _ => isFinite_of_ofJson?

/-- Findings are written exactly while they have no bucket. -/
theorem Findings.toJson?_eq_none_iff {f : Findings} :
    f.toJson? = none ↔ f.buckets.isEmpty = false := by
  obtain ⟨collision, count, ⟨es, hn⟩⟩ := f
  cases es with
  | nil => exact iff_of_false (by rintro ⟨⟩) (by rintro ⟨⟩)
  | cons e es => exact iff_of_true rfl rfl

theorem Findings.roundTrip :
    RecordRoundTrip toJson? ofJson? fun f => f.buckets.isEmpty = true := by
  refine .of_layouts (fun f hf => ?_) fun j f hj => ?_
  · obtain ⟨collision, count, buckets⟩ := f
    obtain rfl := OrderedMap.eq_empty_of_isEmpty hf
    exact ⟨_, rfl, fun _ hj => ofJson?_eq_some_iff.2 ⟨rfl, hj⟩⟩
  · rw [(ofJson?_eq_some_iff.1 hj).1]
    rfl

theorem Shape.measureNames_kind (s : Shape Float) :
    measureNames s.kind = s.measures.map Prod.fst := by
  cases s <;> rfl

theorem Shape.ofMeasures?_measures {s : Shape Float} (h : s.isFinite = true) :
    ofMeasures? s.kind (s.measures.map Prod.snd) = some s := by
  cases s with
  | sphere r => simp [kind, measures, ofMeasures?, float?_ofFloat h]
  | box v => simp [kind, measures, ofMeasures?, Vec3.ofJson?_toJson h]
  | cylinder r l =>
    obtain ⟨hr, hl⟩ := Bool.and_eq_true_iff.1 h
    simp [kind, measures, ofMeasures?, float?_ofFloat hr, float?_ofFloat hl]
  | cone r l =>
    obtain ⟨hr, hl⟩ := Bool.and_eq_true_iff.1 h
    simp [kind, measures, ofMeasures?, float?_ofFloat hr, float?_ofFloat hl]
  | plane n d =>
    obtain ⟨hn, hd⟩ := Bool.and_eq_true_iff.1 h
    obtain ⟨hx, hy, hz⟩ := Vec3.isFinite_iff.1 hn
    simp [kind, measures, ofMeasures?, float?_ofFloat hx, float?_ofFloat hy, float?_ofFloat hz,
      float?_ofFloat hd]
  | mesh vs ts =>
    have hvs : (vs.map Vec3.toJson).mapM Vec3.ofJson? = some vs :=
      mapM_map_eq_some fun v hv => Vec3.ofJson?_toJson (List.all_eq_true.1 h v hv)
    have hts : (ts.map Triangle.toJson).mapM Triangle.ofJson? = some ts :=
      mapM_map_eq_some fun t _ => Triangle.ofJson?_eq_some_iff.2 rfl
    simp only [kind, measures, ofMeasures?, List.map_cons, List.map_nil, array?,
      Option.bind_eq_bind, Option.bind_some, hvs, hts, Option.pure_def]

/-- The content of a shape may have any layout of its measures. -/
theorem Shape.ofJson?_of_layout {s : Shape Float} (h : s.isFinite = true) {content : Json}
    (hj : Layout s.measures content) : ofJson? (.object [(s.kind.name, content)]) = some s := by
  refine ofJson?_eq_some_iff.2 ⟨content, s.measures.map Prod.snd, rfl, ?_, ?_,
    ofMeasures?_measures h⟩
  · rw [measureNames_kind, List.length_map, List.length_map]
  · rwa [measureNames_kind, List.zip_map', List.map_id']

theorem Shape.roundTrip : RoundTrip (some ∘ toJson) ofJson? fun s => s.isFinite = true :=
  .of_total (fun _ hs => ofJson?_of_layout hs (Layout.fields _)) fun _ _ => isFinite_of_ofJson?

/-! ### All documents -/

/-- Every type of document: names, records, variants, and the map of attachments in any order of its
members. Contacts and shapes have to be finite, and findings have to be without buckets; with a
bucket they are not written at all. -/
theorem roundTrip_documents :
    RoundTrip (some ∘ BodyId.toJson) BodyId.ofJson? (fun _ => True) ∧
    RoundTrip (some ∘ Role.toJson) Role.ofJson? (fun _ => True) ∧
    (∀ r : Role, Role.ofJson? (.object [(r.name, .null)]) = some r) ∧
    RecordRoundTrip (some ∘ Body.toJson) Body.ofJson? (fun _ => True) ∧
    RecordRoundTrip (some ∘ Attachment.toJson) Attachment.ofJson? (fun _ => True) ∧
    RecordRoundTrip (some ∘ Attachments.toJson) Attachments.ofJson? (fun _ => True) ∧
    (∀ (r : Attachments) ms j, ms.Perm (r.byBody.entries.map fun e => (e.1.name, e.2.toJson)) →
      Layout [("attached", .object ms)] j →
      ∃ s, Attachments.ofJson? j = some s ∧ ∀ body, s.attached? body = r.attached? body) ∧
    RecordRoundTrip (some ∘ Contact.toJson) Contact.ofJson? (fun c => c.isFinite = true) ∧
    RecordRoundTrip (some ∘ Request.toJson) Request.ofJson? (fun _ => True) ∧
    RoundTrip (some ∘ BodyPair.toJson) BodyPair.ofJson? (fun _ => True) ∧
    RoundTrip (some ∘ Handle.toJson) Handle.ofJson? (fun _ => True) ∧
    RoundTrip (some ∘ ShapeKind.toJson) ShapeKind.ofJson? (fun _ => True) ∧
    (∀ k : ShapeKind, ShapeKind.ofJson? (.object [(k.name, .null)]) = some k) ∧
    RoundTrip (some ∘ Shape.toJson) Shape.ofJson? (fun s => s.isFinite = true) ∧
    (∀ (s : Shape Float) content, s.isFinite = true → Layout s.measures content →
      Shape.ofJson? (.object [(s.kind.name, content)]) = some s) ∧
    RecordRoundTrip Findings.toJson? Findings.ofJson? (fun f => f.buckets.isEmpty = true) ∧
    ∀ f : Findings, f.toJson? = none ↔ f.buckets.isEmpty = false :=
  ⟨BodyId.roundTrip, Role.roundTrip, fun _ => Role.ofJson?_eq_some_iff.2 (.inr rfl),
    Body.roundTrip, Attachment.roundTrip, Attachments.roundTrip,
    fun _ _ _ h => Attachments.attached?_of_perm h, Contact.roundTrip, Request.roundTrip,
    BodyPair.roundTrip, Handle.roundTrip, ShapeKind.roundTrip,
    fun _ => ShapeKind.ofJson?_eq_some_iff.2 (.inr rfl), Shape.roundTrip,
    fun _ _ h => Shape.ofJson?_of_layout h, Findings.roundTrip,
    fun _ => Findings.toJson?_eq_none_iff⟩

/-- A contact as an array, with whole numbers and with a role that has a null. -/
def gripDocument : Json :=
  .array [.array [.integer 1, .real 0.5, .integer 0], .array [.integer 0, .integer 0, .integer 1],
    .integer 2, .text "hand", .object [("RobotLink", .null)], .text "cup", .text "RobotAttached"]

/-- The contact that it is read as. -/
def grip : Contact :=
  ⟨⟨Float.ofInt 1, 0.5, Float.ofInt 0⟩, ⟨Float.ofInt 0, Float.ofInt 0, Float.ofInt 1⟩,
    Float.ofInt 2, .robotLink "hand", .robotAttached "cup"⟩

/-- It is written as an object, with the numbers as doubles, and read again. -/
theorem roundTrip_grip : Contact.ofJson? gripDocument = some grip ∧
    Contact.ofJson? grip.toJson = some grip := by
  have hzero : (Json.integer 0).float? = some (Float.ofInt 0) := finite?_of_isFinite (by decide)
  have hone : (Json.integer 1).float? = some (Float.ofInt 1) := finite?_of_isFinite (by decide)
  have htwo : (Json.integer 2).float? = some (Float.ofInt 2) := finite?_of_isFinite (by decide)
  have hhalf : (Json.real 0.5).float? = some 0.5 := finite?_of_isFinite (by decide)
  have hread : Contact.ofJson? gripDocument = some grip :=
    Contact.ofJson?_eq_some_iff.2 ⟨_, _, _, _, _, .items,
      Vec3.ofJson?_eq_some_iff.2 ⟨_, _, _, rfl, hone, hhalf, hzero⟩,
      Vec3.ofJson?_eq_some_iff.2 ⟨_, _, _, rfl, hzero, hzero, hone⟩, htwo,
      Role.ofJson?_eq_some_iff.2 (.inr rfl), Role.ofJson?_eq_some_iff.2 (.inl rfl)⟩
  obtain ⟨_, _, _, _, _, _, _, hcontact, _⟩ := roundTrip_documents
  exact ⟨hread, hcontact.reread hread⟩

end Clearance
