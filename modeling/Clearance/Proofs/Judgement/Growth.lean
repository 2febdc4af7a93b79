import Clearance.Proofs.Judgement.Calls
import Clearance.Proofs.Judgement.Ledger

/-! What a decision leaves alone. The findings may come from anywhere, with a count and buckets that
do not fit together, and the narrow phase may answer anything: a decision still only adds. What it
adds are contacts that the narrow phase has just given, at the end of the bucket of its pair, and it
counts each of them; a bucket that is new comes last. A row of decisions only adds, too: at its end
a bucket holds what it held at the start, and then what the decisions about its pair stored. -/

namespace Clearance

namespace Findings

/-! ### Buckets that grow -/

theorem get?_recordAll_of_ne {p r : BodyPair} (h : r ≠ p) (f : Findings) (cs : List Contact) :
    (f.recordAll p cs).buckets.get? r = f.buckets.get? r := by
  induction cs generalizing f with
  | nil => rfl
  | cons c cs ih =>
    rw [recordAll_cons, ih]
    exact (OrderedMap.get?_update ..).trans (if_neg (Ne.symm h))

/-- A key that is there keeps its place, and a new one comes last if there is anything to store. -/
theorem keys_recordAll_eq_ite (f : Findings) (p : BodyPair) (cs : List Contact) :
    (f.recordAll p cs).buckets.keys =
      if cs = [] ∨ p ∈ f.buckets.keys then f.buckets.keys else f.buckets.keys ++ [p] := by
  induction cs generalizing f with
  | nil => simp
  | cons c cs ih =>
    rw [recordAll_cons, ih, keys_record]
    by_cases hp : p ∈ f.buckets.keys <;> simp [hp]

/-- Later findings that have all of the earlier ones in its place, and a row of entries besides. -/
structure GrownBy (f g : Findings) (xs : List Entry) : Prop where
  keys : f.buckets.keys <+: g.buckets.keys
  mem_keys : ∀ p ∈ g.buckets.keys, p ∈ f.buckets.keys ∨ p ∈ xs.map Prod.fst
  bucket : ∀ p, g.bucket p = f.bucket p ++ Ledger.ofPair p xs
  count : g.contactCount.toNat = f.contactCount.toNat + xs.length
  collision : f.collision = true → g.collision = true
  found : xs ≠ [] → g.collision = true

theorem GrownBy.refl (f : Findings) : f.GrownBy f [] where
  keys := List.prefix_refl _
  mem_keys _ hp := .inl hp
  bucket _ := (List.append_nil _).symm
  count := rfl
  collision := id
  found h := absurd rfl h

theorem GrownBy.trans {f g h : Findings} {xs ys : List Entry} (hfg : f.GrownBy g xs)
    (hgh : g.GrownBy h ys) : f.GrownBy h (xs ++ ys) where
  keys := hfg.keys.trans hgh.keys
  mem_keys p hp := by
    rw [List.map_append, List.mem_append, ← or_assoc]
    exact (hgh.mem_keys p hp).imp_left (hfg.mem_keys p)
  bucket p := by rw [hgh.bucket, hfg.bucket, Ledger.ofPair_append, List.append_assoc]
  count := by rw [hgh.count, hfg.count, List.length_append, Nat.add_assoc]
  collision hc := hgh.collision (hfg.collision hc)
  found hne := by
    by_cases hys : ys = []
    · rw [hys, List.append_nil] at hne
      exact hgh.collision (hfg.found hne)
    · exact hgh.found hys

end Findings

namespace Query

variable {σ : Type} {q : Query σ}

/-! ### One decision -/

/-- The contacts that a decision stores: what the bucket of its pair has gained afterwards. -/
def gain (q : Query σ) (s : Session σ) (a b : Object) : List Contact :=
  ((q.judge s a b).1.findings.bucket (.make a.id b.id)).drop (s.findings.stored (.make a.id b.id))

/-- A decision about a pair adds `cs` to the findings, and nothing else. -/
structure Grows (q : Query σ) (s : Session σ) (a b : Object) (cs : List Contact) : Prop where
  others : ∀ p, p ≠ .make a.id b.id →
    (q.judge s a b).1.findings.buckets.get? p = s.findings.buckets.get? p
  bucket : (q.judge s a b).1.findings.bucket (.make a.id b.id) =
    s.findings.bucket (.make a.id b.id) ++ cs
  /-- There is a new bucket only if there is something to put in it. -/
  keys : (q.judge s a b).1.findings.buckets.keys =
    if cs = [] ∨ .make a.id b.id ∈ s.findings.buckets.keys then s.findings.buckets.keys
    else s.findings.buckets.keys ++ [.make a.id b.id]
  /-- What is added was put in an empty buffer by the one question of this decision. -/
  given : cs ≠ [] → ∃ p,
    callsOf (q.judge s a b).1.events = callsOf s.events ++ [.asked a b p 0] ∧
      cs.Sublist (q.narrow.ask s.memory a b p []).2.contacts
  rejected : ∀ allows, q.entryOf a.body b.body = some (.conditional allows) →
    ∀ c ∈ cs, allows c = false
  count : (q.judge s a b).1.findings.contactCount.toNat =
    s.findings.contactCount.toNat + cs.length
  collision : s.findings.collision = true → (q.judge s a b).1.findings.collision = true
  done : s.done = true → (q.judge s a b).1.done = true
  found : cs ≠ [] → (q.judge s a b).1.findings.collision = true

/-- A decision that leaves the findings as they are. -/
theorem grows_nil {s : Session σ} {a b : Object}
    (hf : (q.judge s a b).1.findings = s.findings) (hd : (q.judge s a b).1.done = s.done) :
    q.Grows s a b [] where
  others p _ := by rw [hf]
  bucket := by rw [hf, List.append_nil]
  keys := by rw [hf, if_pos (.inl rfl)]
  given h := absurd rfl h
  rejected _ _ c hc := absurd hc List.not_mem_nil
  count := by rw [hf]; rfl
  collision h := by rw [hf, h]
  done h := by rw [hd, h]
  found h := absurd rfl h

theorem sublist_offences (q : Query σ) (a b : Object) (r : Answer) :
    (q.offences a b r).Sublist r.contacts := by
  unfold offences
  split
  · exact List.filter_sublist
  · split
    · exact List.Sublist.refl _
    · exact List.nil_sublist _

/-- An offence is a collision, whether it is stored or not. -/
theorem isOffence_of_offences_ne_nil {a b : Object} {r : Answer} (h : q.offences a b r ≠ []) :
    q.isOffence a b r = true := by
  unfold offences at h
  unfold isOffence
  cases hd : q.deciderOf a.body b.body with
  | some allows =>
    rw [hd] at h
    obtain ⟨c, hc⟩ := List.exists_mem_of_ne_nil _ h
    rw [List.mem_filter] at hc
    exact List.any_eq_true.mpr ⟨c, hc⟩
  | none =>
    simp only [hd] at h
    by_cases hcount : 0 < r.count
    · exact decide_eq_true hcount
    · exact absurd (if_neg hcount) h

theorem grows_of_examined {s : Session σ} {a b : Object} (hd : s.done = false)
    (he : q.isExempt a.body b.body = false) (hx : q.Examined a b s (q.judge s a b).1) :
    q.Grows s a b ((q.offences a b (q.answerTo a b s)).take
      (q.budget (.make a.id b.id) s.findings)) := by
  have hbudget := (q.budget_le (.make a.id b.id) s.findings).2
  have hlen := (q.offences a b (q.answerTo a b s)).length_take_le
    (q.budget (.make a.id b.id) s.findings)
  constructor
  case others =>
    intro p hp
    rw [hx.findings, Findings.buckets_add, Findings.get?_recordAll_of_ne hp]
  case bucket =>
    rw [hx.findings, Findings.bucket, Findings.buckets_add, ← Findings.bucket,
      Findings.bucket_recordAll, if_pos rfl]
  case keys => rw [hx.findings, Findings.buckets_add, Findings.keys_recordAll_eq_ite]
  case given =>
    intro _
    exact ⟨_, callsOf_judge_of_not_exempt hd he,
      (List.take_sublist ..).trans (q.sublist_offences a b _)⟩
  case rejected =>
    intro allows hallows c hc
    have hdecider : q.deciderOf a.body b.body = some allows := by rw [deciderOf, hallows]; rfl
    have hoffence := List.mem_of_mem_take hc
    rw [offences, hdecider, List.mem_filter] at hoffence
    simpa using hoffence.2
  case count =>
    have hmax := q.request.maxContacts.toNat_lt_size
    have hcount := s.findings.contactCount.toNat_lt_size
    rw [hx.findings, Findings.contactCount_add, Findings.count_recordAll _ _ _ (by omega)]
  case collision =>
    intro h
    rw [hx.findings, Findings.collision_add, h, Bool.true_or]
  case done => exact fun h => absurd (hd.symm.trans h) (by simp)
  case found =>
    intro h
    have hoffence : q.isOffence a b (q.answerTo a b s) = true :=
      isOffence_of_offences_ne_nil fun hnil => h (by rw [hnil, List.take_nil])
    rw [hx.findings, Findings.collision_add, hoffence, Bool.or_true]

theorem exists_grows (q : Query σ) (s : Session σ) (a b : Object) : ∃ cs, q.Grows s a b cs := by
  rcases q.judge_cases s a b with ⟨_, ht⟩ | ⟨_, _, ht⟩ | ⟨hd, he, hx, _⟩
  · exact ⟨[], grows_nil (by rw [ht]) (by rw [ht])⟩
  · exact ⟨[], grows_nil (by rw [ht]; rfl) (by rw [ht]; rfl)⟩
  · exact ⟨_, grows_of_examined hd he hx⟩

theorem Grows.eq_gain {s : Session σ} {a b : Object} {cs : List Contact} (h : q.Grows s a b cs) :
    cs = q.gain s a b := by
  rw [gain, h.bucket, Findings.stored, List.drop_left]

theorem grows (q : Query σ) (s : Session σ) (a b : Object) : q.Grows s a b (q.gain s a b) := by
  obtain ⟨cs, h⟩ := q.exists_grows s a b
  exact h.eq_gain ▸ h

theorem gain_of_idle {s : Session σ} {a b : Object} (h : s.done = true ∨ q.Spares a.body b.body) :
    q.gain s a b = [] :=
  have hidle := (q.disciplined s a b).idle h
  (grows_nil hidle.1 hidle.2.1).eq_gain.symm

/-- A pair that is looked at stores what offends, up to its budget. -/
theorem gain_of_not_exempt {s : Session σ} {a b : Object} (hd : s.done = false)
    (he : q.isExempt a.body b.body = false) : q.gain s a b =
      (q.offences a b (q.answerTo a b s)).take (q.budget (.make a.id b.id) s.findings) :=
  (grows_of_examined hd he (q.examined_judge hd he).1).eq_gain.symm

/-! ### Rows of decisions -/

/-- What the decisions of a row store, one after the other. -/
def gains (q : Query σ) : List (Object × Object) → Session σ → List Entry
  | [], _ => []
  | p :: ps, s => (q.gain s p.1 p.2).map (Prod.mk (.make p.1.id p.2.id)) ++
      gains q ps (q.judge s p.1 p.2).1

theorem Grows.grownBy {s : Session σ} {a b : Object} {cs : List Contact} (h : q.Grows s a b cs) :
    s.findings.GrownBy (q.judge s a b).1.findings (cs.map (Prod.mk (.make a.id b.id))) where
  keys := by
    rw [h.keys]
    split
    · exact List.prefix_refl _
    · exact List.prefix_append ..
  mem_keys p hp := by
    rw [h.keys] at hp
    split at hp
    · exact .inl hp
    · rename_i hnew
      obtain ⟨c, hc⟩ := List.exists_mem_of_ne_nil cs fun hnil => hnew (.inl hnil)
      rw [List.mem_append, List.mem_singleton] at hp
      refine hp.imp_right fun hkey => List.mem_map.mpr ⟨_, List.mem_map_of_mem hc, hkey.symm⟩
  bucket p := by
    rw [Ledger.ofPair_map]
    by_cases hp : BodyPair.make a.id b.id = p
    · rw [if_pos hp, ← hp, h.bucket]
    · rw [if_neg hp, List.append_nil, Findings.bucket, h.others p (Ne.symm hp), Findings.bucket]
  count := by rw [h.count, List.length_map]
  collision := h.collision
  found hne := h.found fun hnil => hne (by rw [hnil, List.map_nil])

theorem grownBy_judgeAll (q : Query σ) (ps : List (Object × Object)) (s : Session σ) :
    s.findings.GrownBy (q.judgeAll ps s).findings (q.gains ps s) := by
  induction ps generalizing s with
  | nil => exact Findings.GrownBy.refl _
  | cons p ps ih => exact (q.grows s p.1 p.2).grownBy.trans (ih _)

/-- Every decision only adds to the findings, whatever they were and whatever the narrow phase
answers. Hence so does every row of decisions, and none of them takes back the end of a session. -/
theorem grows_judge (q : Query σ) :
    (∀ s a b, q.Grows s a b (q.gain s a b)) ∧
    ∀ ps s, s.findings.GrownBy (q.judgeAll ps s).findings (q.gains ps s) ∧
      (s.done = true → (q.judgeAll ps s).done = true) := by
  refine ⟨q.grows, fun ps s => ⟨q.grownBy_judgeAll ps s, fun hd => ?_⟩⟩
  rw [q.judgeAll_of_done ps hd, hd]

end Query

end Clearance
