import Clearance.Proofs.Json.Layout
import Clearance.Wire.Judgement

/-! What the readers of documents accept. Most values have one written form for each layout of their
record, and their readers accept that and nothing else; roles, kinds and numbers have two forms,
and no number is read that is not finite. A pair is never the name of a member, so findings are read
only from documents without buckets. -/

namespace Clearance

open Json

/-! ### Bodies -/

theorem BodyId.ofJson?_eq_some_iff {j : Json} {id : BodyId} :
    ofJson? j = some id ↔ j = id.toJson := by
  obtain ⟨name⟩ := id
  simp [ofJson?, toJson]

/-- Where each of a row of values is found by its name, no other name finds it. -/
theorem Json.find?_name_eq_some_iff {α : Type} {name : α → String} {all : List α}
    (hall : ∀ a, all.find? (fun b => name b = name a) = some a) {s : String} {a : α} :
    all.find? (fun b => name b = s) = some a ↔ s = name a := by
  constructor
  · intro h
    simpa [eq_comm] using List.find?_some h
  · rintro rfl
    exact hall a

theorem Role.ofName?_eq_some_iff {s : String} {r : Role} : ofName? s = some r ↔ s = r.name :=
  find?_name_eq_some_iff (by rintro (_ | _ | _ | _) <;> rfl)

theorem Role.ofJson?_eq_some_iff {j : Json} {r : Role} :
    ofJson? j = some r ↔ j = .text r.name ∨ j = .object [(r.name, .null)] := by
  simp only [ofJson?, Option.bind_eq_some_iff, ofName?_eq_some_iff, exists_eq_right,
    plainVariant?_eq_some_iff]

theorem Body.ofJson?_eq_some_iff {j : Json} {b : Body} : ofJson? j = some b ↔
    ∃ kind, Layout [("id", b.id.toJson), ("kind", kind)] j ∧ Role.ofJson? kind = some b.role := by
  obtain ⟨id, role⟩ := b
  simp only [ofJson?, Option.bind_eq_bind]
  rw [fields?_bind_eq_some_iff (by decide)]
  simp only [exists_values_cons, exists_values_nil, Option.bind_eq_some_iff, Option.pure_def,
    Option.some.injEq, BodyId.ofJson?_eq_some_iff, mk.injEq]
  constructor
  · rintro ⟨_, kind, hj, _, rfl, _, hkind, rfl, rfl⟩
    exact ⟨kind, hj, hkind⟩
  · rintro ⟨kind, hj, hkind⟩
    exact ⟨_, kind, hj, _, rfl, _, hkind, rfl, rfl⟩

/-! ### Attachments -/

theorem Attachment.ofJson?_eq_some_iff {j : Json} {t : Attachment} : ofJson? j = some t ↔
    Layout [("attach_link", t.link.toJson),
      ("touch_links", .array (t.touchLinks.map BodyId.toJson))] j := by
  obtain ⟨link, links⟩ := t
  simp only [ofJson?, Option.bind_eq_bind]
  rw [fields?_bind_eq_some_iff (by decide)]
  simp only [exists_values_cons, exists_values_nil, Option.bind_eq_some_iff, Option.pure_def,
    Option.some.injEq, BodyId.ofJson?_eq_some_iff, array?_eq_some_iff,
    mapM_eq_some_iff_eq_map fun _ _ => BodyId.ofJson?_eq_some_iff, mk.injEq]
  constructor
  · rintro ⟨_, _, hj, _, rfl, _, rfl, _, rfl, rfl, rfl⟩
    exact hj
  · intro hj
    exact ⟨_, _, hj, _, rfl, _, rfl, _, rfl, rfl, rfl⟩

/-- A map is read member by member. -/
theorem OrderedMap.ofJson?_eq_some_iff {κ α : Type} [DecidableEq κ] {key : Json → Option κ}
    {value : Json → Option α} {j : Json} {m : OrderedMap κ α} : ofJson? key value j = some m ↔
      ∃ ms es, j = .object ms ∧
        List.Forall₂ (fun m e => key (.text m.1) = some e.1 ∧ value m.2 = some e.2) ms es ∧
        m = .ofList es := by
  have hentry : ∀ (n : String × Json) (e : κ × α),
      (∃ k, key (.text n.1) = some k ∧ ∃ a, value n.2 = some a ∧ (k, a) = e) ↔
        key (.text n.1) = some e.1 ∧ value n.2 = some e.2 := by
    rintro n ⟨k, a⟩
    constructor
    · rintro ⟨_, hk, _, ha, ⟨⟩⟩
      exact ⟨hk, ha⟩
    · rintro ⟨hk, ha⟩
      exact ⟨_, hk, _, ha, rfl⟩
  simp only [ofJson?, Option.bind_eq_bind, Option.bind_eq_some_iff, object?_eq_some_iff,
    mapM_eq_some_iff, Option.pure_def, Option.some.injEq, hentry]
  constructor
  · rintro ⟨ms, rfl, es, hes, rfl⟩
    exact ⟨ms, es, rfl, hes, rfl⟩
  · rintro ⟨ms, es, rfl, hes, rfl⟩
    exact ⟨ms, rfl, es, hes, rfl⟩

theorem Attachments.ofJson?_eq_some_iff {j : Json} {r : Attachments} : ofJson? j = some r ↔
    ∃ ms es, Layout [("attached", .object ms)] j ∧
      List.Forall₂ (fun m e => m.1 = e.1.name ∧ Attachment.ofJson? m.2 = some e.2) ms es ∧
      r = ⟨.ofList es⟩ := by
  obtain ⟨byBody⟩ := r
  simp only [ofJson?, Option.bind_eq_bind]
  rw [fields?_bind_eq_some_iff (by decide)]
  simp only [exists_values_cons, exists_values_nil, Option.bind_eq_some_iff, Option.pure_def,
    Option.some.injEq, OrderedMap.ofJson?_eq_some_iff, BodyId.ofJson?_eq_some_iff, BodyId.toJson,
    text.injEq, mk.injEq]
  constructor
  · rintro ⟨_, hj, _, ⟨ms, es, rfl, hes, rfl⟩, rfl⟩
    exact ⟨ms, es, hj, hes, rfl⟩
  · rintro ⟨ms, es, hj, hes, rfl⟩
    exact ⟨_, hj, _, ⟨ms, es, rfl, hes, rfl⟩, rfl⟩

/-! ### Pairs, handles and requests -/

theorem BodyPair.ofJson?_eq_some_iff {j : Json} {p : BodyPair} :
    ofJson? j = some p ↔ j = p.toJson := by
  obtain ⟨a, b⟩ := p
  simp only [ofJson?, Option.bind_eq_bind, Option.bind_eq_some_iff, array?_eq_some_iff]
  constructor
  · rintro ⟨xs, rfl, h⟩
    split at h
    · simp only [Option.pure_def, Option.bind_eq_some_iff, BodyId.ofJson?_eq_some_iff,
        Option.some.injEq, mk.injEq] at h
      obtain ⟨_, rfl, _, rfl, rfl, rfl⟩ := h
      rfl
    · cases h
  · rintro rfl
    exact ⟨_, rfl, rfl⟩

theorem Json.halfWord?_eq_some_iff {j : Json} {w : UInt32} :
    (j.natBelow? UInt32.size).map UInt32.ofNat = some w ↔ j = .integer w.toNat := by
  simp only [Option.map_eq_some_iff, natBelow?_eq_some_iff]
  constructor
  · rintro ⟨n, ⟨rfl, hn⟩, rfl⟩
    rw [UInt32.toNat_ofNat_of_lt' hn]
  · rintro rfl
    exact ⟨w.toNat, ⟨rfl, w.toNat_lt_size⟩, UInt32.ofNat_toNat⟩

theorem Json.word?_eq_some_iff {j : Json} {w : UInt64} :
    j.word? = some w ↔ j = .integer w.toNat := by
  simp only [word?, Option.map_eq_some_iff, natBelow?_eq_some_iff]
  constructor
  · rintro ⟨n, ⟨rfl, hn⟩, rfl⟩
    rw [UInt64.toNat_ofNat_of_lt' hn]
  · rintro rfl
    exact ⟨w.toNat, ⟨rfl, w.toNat_lt_size⟩, UInt64.ofNat_toNat⟩

theorem Handle.ofJson?_eq_some_iff {j : Json} {h : Handle} : ofJson? j = some h ↔ j = h.toJson := by
  obtain ⟨i⟩ := h
  rw [toJson, key, ← halfWord?_eq_some_iff]
  simp only [ofJson?, ofKey, Option.map_eq_some_iff, mk.injEq]

theorem Request.ofJson?_eq_some_iff {j : Json} {r : Request} : ofJson? j = some r ↔
    Layout [("contacts", .bool r.contacts), ("max_contacts", .integer r.maxContacts.toNat),
      ("max_contacts_per_pair", .integer r.maxPerPair.toNat), ("verbose", .bool r.verbose)] j := by
  obtain ⟨contacts, maxContacts, maxPerPair, verbose⟩ := r
  simp only [ofJson?, Option.bind_eq_bind]
  rw [fields?_bind_eq_some_iff (by decide)]
  simp only [exists_values_cons, exists_values_nil, Option.bind_eq_some_iff, Option.pure_def,
    Option.some.injEq, bool?_eq_some_iff, word?_eq_some_iff, mk.injEq]
  constructor
  · rintro ⟨_, _, _, _, hj, _, rfl, _, rfl, _, rfl, _, rfl, rfl, rfl, rfl, rfl⟩
    exact hj
  · intro hj
    exact ⟨_, _, _, _, hj, _, rfl, _, rfl, _, rfl, _, rfl, rfl, rfl, rfl, rfl⟩

/-! ### Contacts and findings -/

theorem Vec3.ofJson?_eq_some_iff {j : Json} {v : Vec3 Float} : ofJson? j = some v ↔
    ∃ x y z, j = .array [x, y, z] ∧ x.float? = some v.x ∧ y.float? = some v.y ∧
      z.float? = some v.z := by
  obtain ⟨a, b, c⟩ := v
  simp only [ofJson?, Option.bind_eq_bind, Option.bind_eq_some_iff, array?_eq_some_iff]
  constructor
  · rintro ⟨xs, rfl, h⟩
    split at h
    · rename_i x y z
      simp only [Option.pure_def, Option.bind_eq_some_iff, Option.some.injEq, mk.injEq] at h
      obtain ⟨_, hx, _, hy, _, hz, rfl, rfl, rfl⟩ := h
      exact ⟨x, y, z, rfl, hx, hy, hz⟩
    · cases h
  · rintro ⟨x, y, z, rfl, hx, hy, hz⟩
    exact ⟨_, rfl, by simp [hx, hy, hz]⟩

theorem Vec3.isFinite_iff {v : Vec3 Float} : v.isFinite = true ↔
    v.x.isFinite = true ∧ v.y.isFinite = true ∧ v.z.isFinite = true := by
  simp only [isFinite, toList, List.all_cons, List.all_nil, Bool.and_true, Bool.and_eq_true]
  rfl

theorem Vec3.isFinite_of_ofJson? {j : Json} {v : Vec3 Float} (h : ofJson? j = some v) :
    v.isFinite = true := by
  obtain ⟨_, _, _, _, hx, hy, hz⟩ := ofJson?_eq_some_iff.1 h
  exact isFinite_iff.2 ⟨isFinite_of_float? hx, isFinite_of_float? hy, isFinite_of_float? hz⟩

theorem Contact.ofJson?_eq_some_iff {j : Json} {c : Contact} : ofJson? j = some c ↔
    ∃ pos normal depth type1 type2,
      Layout [("pos", pos), ("normal", normal), ("depth", depth),
        ("body_name_1", c.first.id.toJson), ("body_type_1", type1),
        ("body_name_2", c.second.id.toJson), ("body_type_2", type2)] j ∧
      Vec3.ofJson? pos = some c.position ∧ Vec3.ofJson? normal = some c.normal ∧
      depth.float? = some c.depth ∧ Role.ofJson? type1 = some c.first.role ∧
      Role.ofJson? type2 = some c.second.role := by
  obtain ⟨p, n, d, ⟨id1, role1⟩, ⟨id2, role2⟩⟩ := c
  simp only [ofJson?, Option.bind_eq_bind]
  rw [fields?_bind_eq_some_iff (by decide)]
  simp only [exists_values_cons, exists_values_nil, Option.bind_eq_some_iff, Option.pure_def,
    Option.some.injEq, BodyId.ofJson?_eq_some_iff, mk.injEq, Body.mk.injEq]
  constructor
  · rintro ⟨pos, normal, depth, _, type1, _, type2, hj, _, hp, _, hn, _, hd, _, rfl, _, h1, _, rfl,
      _, h2, rfl, rfl, rfl, ⟨rfl, rfl⟩, rfl, rfl⟩
    exact ⟨pos, normal, depth, type1, type2, hj, hp, hn, hd, h1, h2⟩
  · rintro ⟨pos, normal, depth, type1, type2, hj, hp, hn, hd, h1, h2⟩
    exact ⟨pos, normal, depth, _, type1, _, type2, hj, _, hp, _, hn, _, hd, _, rfl, _, h1, _, rfl,
      _, h2, rfl, rfl, rfl, ⟨rfl, rfl⟩, rfl, rfl⟩

/-- Whether all numbers of a contact are finite. -/
def Contact.isFinite (c : Contact) : Bool :=
  c.position.isFinite && c.normal.isFinite && c.depth.isFinite

theorem Contact.isFinite_of_ofJson? {j : Json} {c : Contact} (h : ofJson? j = some c) :
    c.isFinite = true := by
  obtain ⟨_, _, _, _, _, _, hp, hn, hd, _⟩ := ofJson?_eq_some_iff.1 h
  simp only [isFinite, Vec3.isFinite_of_ofJson? hp, Vec3.isFinite_of_ofJson? hn,
    isFinite_of_float? hd, Bool.and_self]

/-- No name of a member is a pair. -/
theorem BodyPair.ofJson?_text (s : String) : ofJson? (.text s) = none := rfl

theorem Findings.bucketsOfJson?_eq_some_iff {j : Json} {m : OrderedMap BodyPair (List Contact)} :
    OrderedMap.ofJson? BodyPair.ofJson? bucketOfJson? j = some m ↔ j = .object [] ∧ m = .empty := by
  rw [OrderedMap.ofJson?_eq_some_iff]
  constructor
  · rintro ⟨ms, es, rfl, hes, rfl⟩
    cases hes with
    | nil => exact ⟨rfl, rfl⟩
    | cons h _ => simp [BodyPair.ofJson?_text] at h
  · rintro ⟨rfl, rfl⟩
    exact ⟨[], [], rfl, .nil, rfl⟩

theorem Findings.ofJson?_eq_some_iff {j : Json} {f : Findings} : ofJson? j = some f ↔
    f.buckets = .empty ∧ Layout [("collision", .bool f.collision),
      ("contact_count", .integer f.contactCount.toNat), ("contacts", .object [])] j := by
  obtain ⟨collision, count, buckets⟩ := f
  simp only [ofJson?, Option.bind_eq_bind]
  rw [fields?_bind_eq_some_iff (by decide)]
  simp only [exists_values_cons, exists_values_nil, Option.bind_eq_some_iff, Option.pure_def,
    Option.some.injEq, bool?_eq_some_iff, word?_eq_some_iff, bucketsOfJson?_eq_some_iff, mk.injEq]
  constructor
  · rintro ⟨_, _, _, hj, _, rfl, _, rfl, _, ⟨rfl, rfl⟩, rfl, rfl, rfl⟩
    exact ⟨rfl, hj⟩
  · rintro ⟨rfl, hj⟩
    exact ⟨_, _, _, hj, _, rfl, _, rfl, _, ⟨rfl, rfl⟩, rfl, rfl, rfl⟩

/-! ### Shapes -/

theorem ShapeKind.ofName?_eq_some_iff {s : String} {k : ShapeKind} :
    ofName? s = some k ↔ s = k.name :=
  find?_name_eq_some_iff (by rintro (_ | _ | _ | _ | _ | _) <;> rfl)

theorem ShapeKind.ofJson?_eq_some_iff {j : Json} {k : ShapeKind} :
    ofJson? j = some k ↔ j = .text k.name ∨ j = .object [(k.name, .null)] := by
  simp only [ofJson?, Option.bind_eq_some_iff, ofName?_eq_some_iff, exists_eq_right,
    plainVariant?_eq_some_iff]

theorem Triangle.ofJson?_eq_some_iff {j : Json} {t : Triangle} :
    ofJson? j = some t ↔ j = t.toJson := by
  obtain ⟨a, b, c⟩ := t
  simp only [ofJson?, Option.bind_eq_bind, Option.bind_eq_some_iff, array?_eq_some_iff]
  constructor
  · rintro ⟨xs, rfl, h⟩
    split at h
    · simp only [Option.pure_def, Option.bind_eq_some_iff, halfWord?_eq_some_iff, Option.some.injEq,
        mk.injEq] at h
      obtain ⟨_, rfl, _, rfl, _, rfl, rfl, rfl, rfl⟩ := h
      rfl
    · cases h
  · rintro rfl
    refine ⟨_, rfl, ?_⟩
    simp only [toList, List.map_cons, List.map_nil, halfWord?_eq_some_iff.2 rfl]
    rfl

/-- Whether all measures of a shape are finite. -/
def Shape.isFinite : Shape Float → Bool
  | sphere r => r.isFinite
  | box s => s.isFinite
  | cylinder r l | cone r l => r.isFinite && l.isFinite
  | plane n d => n.isFinite && d.isFinite
  | mesh vs _ => vs.all Vec3.isFinite

/-- Measures of a kind make a shape of that kind, and a finite one. -/
theorem Shape.kind_and_isFinite_of_ofMeasures? {k : ShapeKind} {vs : List Json} {s : Shape Float}
    (h : ofMeasures? k vs = some s) : s.kind = k ∧ s.isFinite = true := by
  unfold ofMeasures? at h
  split at h <;> simp only [Option.bind_eq_bind, Option.bind_eq_some_iff, Option.pure_def,
    Option.some.injEq, reduceCtorEq] at h
  · obtain ⟨r, hr, rfl⟩ := h
    exact ⟨rfl, isFinite_of_float? hr⟩
  · obtain ⟨v, hv, rfl⟩ := h
    exact ⟨rfl, Vec3.isFinite_of_ofJson? hv⟩
  · obtain ⟨r, hr, l, hl, rfl⟩ := h
    exact ⟨rfl, Bool.and_eq_true_iff.2 ⟨isFinite_of_float? hr, isFinite_of_float? hl⟩⟩
  · obtain ⟨r, hr, l, hl, rfl⟩ := h
    exact ⟨rfl, Bool.and_eq_true_iff.2 ⟨isFinite_of_float? hr, isFinite_of_float? hl⟩⟩
  · obtain ⟨a, ha, b, hb, c, hc, d, hd, rfl⟩ := h
    have hn : Vec3.isFinite ⟨a, b, c⟩ = true :=
      Vec3.isFinite_iff.2 ⟨isFinite_of_float? ha, isFinite_of_float? hb, isFinite_of_float? hc⟩
    exact ⟨rfl, Bool.and_eq_true_iff.2 ⟨hn, isFinite_of_float? hd⟩⟩
  · obtain ⟨_, _, vs, hvs, _, _, _, _, rfl⟩ := h
    exact ⟨rfl, List.all_eq_true.2 (forall_mem_of_mapM hvs fun _ _ => Vec3.isFinite_of_ofJson?)⟩

/-- A shape is an object with one member, named for its kind, with a layout of its measures. -/
theorem Shape.ofJson?_eq_some_iff {j : Json} {s : Shape Float} : ofJson? j = some s ↔
    ∃ content vs, j = .object [(s.kind.name, content)] ∧
      vs.length = (measureNames s.kind).length ∧
      Layout ((measureNames s.kind).zip vs) content ∧ ofMeasures? s.kind vs = some s := by
  have hn : ∀ k, (measureNames k).Nodup := by
    intro k
    cases k <;> decide
  unfold ofJson?
  constructor
  · intro h
    simp only [Option.bind_eq_bind, Option.bind_eq_some_iff] at h
    obtain ⟨⟨name, content?⟩, hv, h⟩ := h
    cases content? with
    | none => cases h
    | some content =>
      simp only [Option.bind_eq_some_iff, ShapeKind.ofName?_eq_some_iff] at h
      obtain ⟨k, rfl, h⟩ := h
      rw [← Option.bind_eq_some_iff, fields?_bind_eq_some_iff (hn k)] at h
      obtain ⟨vs, hl, hlayout, hs⟩ := h
      obtain rfl := (kind_and_isFinite_of_ofMeasures? hs).1
      exact ⟨content, vs, variant?_eq_some_content_iff.1 hv, hl, hlayout, hs⟩
  · rintro ⟨content, vs, rfl, hl, hlayout, hs⟩
    simp only [variant?, Option.bind_eq_bind, Option.bind_some, ShapeKind.ofName?_eq_some_iff.2 rfl]
    exact (fields?_bind_eq_some_iff (hn _)).2 ⟨vs, hl, hlayout, hs⟩

theorem Shape.isFinite_of_ofJson? {j : Json} {s : Shape Float} (h : ofJson? j = some s) :
    s.isFinite = true := by
  obtain ⟨_, _, _, _, _, hs⟩ := ofJson?_eq_some_iff.1 h
  exact (kind_and_isFinite_of_ofMeasures? hs).2

end Clearance
