import Clearance.Proofs.Body.Pairs
import Clearance.Proofs.Judgement.Storage
import Clearance.Proofs.Wire.Reading

/-! What readers leave unchecked. Pairs are made with their names in order, touch links are listed
once, depths are cut at zero and contacts are counted as they are stored; but a document is taken as
it stands, so a value that is read keeps these invariants exactly when its document does. -/

namespace Clearance

open Json

/-! ### Layouts -/

/-- A document holds one value for each name. -/
theorem Json.Layout.unique {fs gs : List (String × Json)} {j : Json} (hf : Layout fs j)
    (hg : Layout gs j) (hnames : fs.map Prod.fst = gs.map Prod.fst)
    (hn : (gs.map Prod.fst).Nodup) : fs.map Prod.snd = gs.map Prod.snd := by
  have hfs := (fields?_eq_some_iff (hnames ▸ hn)).2 hf
  have hgs := (fields?_eq_some_iff hn).2 hg
  rw [hnames, hgs] at hfs
  exact (Option.some.inj hfs).symm

/-! ### Pairs -/

/-- A pair that may stand for its names: it holds them in order, is what either way to name it
makes, and leads to what is stored under either. -/
structure BodyPair.IsKey (p : BodyPair) : Prop where
  ordered : p.first.le p.second = true
  eq_make : ∀ a b, s(a, b) = p.unordered → make a b = p
  finds : ∀ a b, s(a, b) = p.unordered →
    ∀ (f : Findings) (c : Contact), c ∈ (f.record (.make a b) c).bucket p

theorem BodyPair.isKey_iff {p : BodyPair} : p.IsKey ↔ p.first.le p.second = true := by
  refine ⟨IsKey.ordered, fun h => ?_⟩
  have hmake : ∀ a b, s(a, b) = p.unordered → make a b = p := by
    intro a b hab
    rw [← make_first_second h, make_eq_make_iff]
    exact hab
  refine ⟨h, hmake, fun a b hab f c => ?_⟩
  rw [hmake a b hab, Findings.bucket_record, if_pos rfl]
  exact List.mem_append_right _ (List.mem_singleton_self c)

theorem BodyPair.isKey_iff_of_ofJson? {j : Json} {p : BodyPair} (h : ofJson? j = some p) :
    p.IsKey ↔ ∃ a b : BodyId, j = .array [a.toJson, b.toJson] ∧ a.le b = true := by
  obtain rfl := ofJson?_eq_some_iff.1 h
  rw [isKey_iff]
  constructor
  · exact fun hle => ⟨p.first, p.second, rfl, hle⟩
  · rintro ⟨a, b, hab, hle⟩
    have hp := ofJson?_eq_some_iff.2 (show toJson p = toJson ⟨a, b⟩ from hab)
    rw [h] at hp
    rwa [Option.some.inj hp]

/-! ### Touch links -/

theorem BodyId.toJson_injective : Function.Injective toJson := by
  rintro ⟨a⟩ ⟨b⟩ h
  rw [mk.injEq]
  exact text.inj h

theorem Attachment.nodup_iff_of_ofJson? {j : Json} {t : Attachment} (h : ofJson? j = some t) :
    t.touchLinks.Nodup ↔ ∃ link links,
      Layout [("attach_link", link), ("touch_links", .array links)] j ∧ links.Nodup := by
  have hj := ofJson?_eq_some_iff.1 h
  constructor
  · exact fun hn => ⟨_, _, hj, hn.map BodyId.toJson_injective⟩
  · rintro ⟨link, links, hlinks, hn⟩
    have hsame := hlinks.unique hj rfl (by simp)
    simp only [List.map_cons, List.map_nil, List.cons.injEq, array.injEq, and_true] at hsame
    rw [hsame.2] at hn
    exact hn.of_map _

/-- An attachment in a map is read from a member for its body, as it would be alone. -/
theorem Attachments.exists_member_of_attached? {j : Json} {r : Attachments}
    (h : ofJson? j = some r) {body : BodyId} {t : Attachment} (ht : r.attached? body = some t) :
    ∃ ms d, Layout [("attached", .object ms)] j ∧ (body.name, d) ∈ ms ∧
      Attachment.ofJson? d = some t := by
  obtain ⟨ms, es, hj, hes, rfl⟩ := ofJson?_eq_some_iff.1 h
  obtain ⟨⟨name, d⟩, hd, rfl, hread⟩ :=
    exists_mem_of_forall₂ hes (OrderedMap.mem_of_get?_ofList ht)
  exact ⟨ms, d, hj, hd, hread⟩

/-! ### Depths and counts -/

/-- A document that is read as a number from zero on. -/
def Json.IsNonneg (j : Json) : Prop := ∃ x, j.float? = some x ∧ 0 ≤ x

theorem Contact.depth_nonneg_iff_of_ofJson? {j : Json} {c : Contact} (h : ofJson? j = some c) :
    0 ≤ c.depth ↔ ∃ pos normal depth name1 type1 name2 type2,
      Layout [("pos", pos), ("normal", normal), ("depth", depth), ("body_name_1", name1),
        ("body_type_1", type1), ("body_name_2", name2), ("body_type_2", type2)] j ∧
      depth.IsNonneg := by
  obtain ⟨pos, normal, depth, type1, type2, hj, _, _, hd, _⟩ := ofJson?_eq_some_iff.1 h
  constructor
  · exact fun hle => ⟨_, _, depth, _, _, _, _, hj, c.depth, hd, hle⟩
  · rintro ⟨_, _, depth', _, _, _, _, hj', x, hx, hle⟩
    have hsame := hj'.unique hj rfl (by simp)
    simp only [List.map_cons, List.map_nil, List.cons.injEq, and_true] at hsame
    rw [hsame.2.2.1, hd] at hx
    rwa [Option.some.inj hx]

theorem Findings.total_empty {f : Findings} (h : f.buckets = .empty) : f.total = 0 := by
  rw [total, h]
  rfl

theorem Findings.counted_iff_of_ofJson? {j : Json} {f : Findings} (h : ofJson? j = some f) :
    f.contactCount.toNat = f.total ↔ ∃ collision contacts, Layout [("collision", collision),
      ("contact_count", .integer 0), ("contacts", contacts)] j := by
  obtain ⟨hempty, hj⟩ := ofJson?_eq_some_iff.1 h
  rw [total_empty hempty]
  constructor
  · intro hzero
    rw [hzero] at hj
    exact ⟨_, _, hj⟩
  · rintro ⟨_, _, hj'⟩
    have hsame := hj'.unique hj rfl (by simp)
    simp only [List.map_cons, List.map_nil, List.cons.injEq, integer.injEq, and_true] at hsame
    exact Int.ofNat.inj hsame.2.1.symm

/-! ### All invariants -/

/-- A pair that is read is a key exactly when the document has the names in order; touch links are
listed once, alone or in a map of attachments, exactly when the document lists them once; a depth is
at least zero exactly when it is written so; and the count is the number of contacts exactly when it
is written as zero, since findings are read without contacts. -/
theorem invariants_iff_of_ofJson? (j : Json) :
    (∀ p, BodyPair.ofJson? j = some p →
      (p.IsKey ↔ ∃ a b : BodyId, j = .array [a.toJson, b.toJson] ∧ a.le b = true)) ∧
    (∀ t, Attachment.ofJson? j = some t → (t.touchLinks.Nodup ↔ ∃ link links,
      Layout [("attach_link", link), ("touch_links", .array links)] j ∧ links.Nodup)) ∧
    (∀ r, Attachments.ofJson? j = some r → ∀ body t, r.attached? body = some t →
      ∃ ms d, Layout [("attached", .object ms)] j ∧ (body.name, d) ∈ ms ∧
        Attachment.ofJson? d = some t ∧ (t.touchLinks.Nodup ↔ ∃ link links,
          Layout [("attach_link", link), ("touch_links", .array links)] d ∧ links.Nodup)) ∧
    (∀ c, Contact.ofJson? j = some c →
      (0 ≤ c.depth ↔ ∃ pos normal depth name1 type1 name2 type2,
        Layout [("pos", pos), ("normal", normal), ("depth", depth), ("body_name_1", name1),
          ("body_type_1", type1), ("body_name_2", name2), ("body_type_2", type2)] j ∧
        depth.IsNonneg)) ∧
    ∀ f, Findings.ofJson? j = some f → (f.contactCount.toNat = f.total ↔
      ∃ collision contacts, Layout [("collision", collision), ("contact_count", .integer 0),
        ("contacts", contacts)] j) := by
  refine ⟨fun _ => BodyPair.isKey_iff_of_ofJson?, fun _ => Attachment.nodup_iff_of_ofJson?,
    fun _ h _ _ ht => ?_, fun _ => Contact.depth_nonneg_iff_of_ofJson?,
    fun _ => Findings.counted_iff_of_ofJson?⟩
  obtain ⟨ms, d, hj, hd, hread⟩ := Attachments.exists_member_of_attached? h ht
  exact ⟨ms, d, hj, hd, hread, Attachment.nodup_iff_of_ofJson? hread⟩

/-- The two ways to write down a pair of names. -/
theorem invariants_handAndWall :
    BodyPair.ofJson? (.array [.text "hand", .text "wall"]) = some ⟨"hand", "wall"⟩ ∧
      BodyPair.IsKey ⟨"hand", "wall"⟩ ∧
      BodyPair.ofJson? (.array [.text "wall", .text "hand"]) = some ⟨"wall", "hand"⟩ ∧
      ¬ BodyPair.IsKey ⟨"wall", "hand"⟩ := by
  have hkey := (invariants_iff_of_ofJson? (.array [.text "hand", .text "wall"])).1 _ rfl
  have hmixed := (invariants_iff_of_ofJson? (.array [.text "wall", .text "hand"])).1 _ rfl
  refine ⟨rfl, hkey.2 ⟨"hand", "wall", rfl, by decide +kernel⟩, rfl, fun h => ?_⟩
  obtain ⟨a, b, hab, hle⟩ := hmixed.1 h
  simp only [array.injEq, List.cons.injEq, BodyId.toJson, text.injEq, and_true] at hab
  rw [BodyId.le, ← hab.1, ← hab.2] at hle
  exact absurd hle (by decide +kernel)

/-! ### Documents that break them -/

/-- A touch link that is listed twice. -/
def doubledDocument : Json :=
  .object [("attach_link", .text "hand"), ("touch_links", .array [.text "finger", .text "finger"])]

/-- A contact with a depth below zero. -/
def raisedDocument : Json :=
  .array [.array [.integer 0, .integer 0, .integer 0], .array [.integer 0, .integer 0, .integer 1],
    .integer (-1), .text "hand", .text "RobotLink", .text "wall", .text "WorldObject"]

/-- A count of contacts that are not there. -/
def uncountedDocument : Json :=
  .object [("collision", .bool true), ("contact_count", .integer 3), ("contacts", .object [])]

theorem read_doubledDocument :
    Attachment.ofJson? doubledDocument = some ⟨"hand", ["finger", "finger"]⟩ :=
  Attachment.ofJson?_eq_some_iff.2 (Layout.fields _)

theorem read_doubledDocument_in_map :
    Attachments.ofJson? (.object [("attached", .object [("cup", doubledDocument)])]) =
      some ⟨.ofList [("cup", ⟨"hand", ["finger", "finger"]⟩)]⟩ :=
  Attachments.ofJson?_eq_some_iff.2
    ⟨_, _, Layout.fields _, .cons ⟨rfl, read_doubledDocument⟩ .nil, rfl⟩

theorem read_raisedDocument : Contact.ofJson? raisedDocument = some
    ⟨⟨Float.ofInt 0, Float.ofInt 0, Float.ofInt 0⟩, ⟨Float.ofInt 0, Float.ofInt 0, Float.ofInt 1⟩,
      Float.ofInt (-1), .robotLink "hand", .worldObject "wall"⟩ := by
  have hzero : (Json.integer 0).float? = some (Float.ofInt 0) := finite?_of_isFinite (by decide)
  have hone : (Json.integer 1).float? = some (Float.ofInt 1) := finite?_of_isFinite (by decide)
  have hbelow : (Json.integer (-1)).float? = some (Float.ofInt (-1)) :=
    finite?_of_isFinite (by decide)
  exact Contact.ofJson?_eq_some_iff.2 ⟨_, _, _, _, _, .items,
    Vec3.ofJson?_eq_some_iff.2 ⟨_, _, _, rfl, hzero, hzero, hzero⟩,
    Vec3.ofJson?_eq_some_iff.2 ⟨_, _, _, rfl, hzero, hzero, hone⟩, hbelow,
    Role.ofJson?_eq_some_iff.2 (.inl rfl), Role.ofJson?_eq_some_iff.2 (.inl rfl)⟩

theorem read_uncountedDocument :
    Findings.ofJson? uncountedDocument = some ⟨true, 3, .empty⟩ :=
  Findings.ofJson?_eq_some_iff.2 ⟨rfl, Layout.fields _⟩

/-- None of the invariants is checked. What is recorded for the names of a pair that is out of order
is not found under it. -/
theorem invariants_not_checked :
    (∃ p, BodyPair.ofJson? (.array [.text "wall", .text "hand"]) = some p ∧
      p.first.le p.second = false ∧ p ≠ .make p.first p.second ∧
      ∀ c, (Findings.empty.record (.make p.first p.second) c).bucket p = []) ∧
    (∃ t, Attachment.ofJson? doubledDocument = some t ∧ ¬ t.touchLinks.Nodup) ∧
    (∃ r t, Attachments.ofJson? (.object [("attached", .object [("cup", doubledDocument)])]) =
      some r ∧ r.attached? "cup" = some t ∧ ¬ t.touchLinks.Nodup) ∧
    (∃ c, Contact.ofJson? raisedDocument = some c ∧ ¬ 0 ≤ c.depth) ∧
    ∃ f, Findings.ofJson? uncountedDocument = some f ∧ f.contactCount.toNat ≠ f.total := by
  have hkey : BodyPair.make "wall" "hand" ≠ ⟨"wall", "hand"⟩ := by decide +kernel
  have hdoubled : ¬ (["finger", "finger"] : List BodyId).Nodup := by decide
  refine ⟨⟨⟨"wall", "hand"⟩, rfl, by decide +kernel, hkey.symm, fun c => ?_⟩,
    ⟨_, read_doubledDocument, hdoubled⟩, ⟨_, _, read_doubledDocument_in_map, rfl, hdoubled⟩,
    ⟨_, read_raisedDocument, by decide⟩, _, read_uncountedDocument, by decide +kernel⟩
  rw [Findings.bucket_record, if_neg hkey]
  rfl

end Clearance
