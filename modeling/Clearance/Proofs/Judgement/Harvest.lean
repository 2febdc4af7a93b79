import Clearance.Proofs.Judgement.Ledger
import Clearance.Proofs.Judgement.Verdict

/-! What a query that wants contacts has stored at its end, in closed form. All offending contacts
of all pairs stand in one row in the order of the decisions; the row is thinned to the quota of each
pair and cut to the quota of the query, and the buckets are that row grouped by pairs. The three ways
to store contacts, the budgets between them and the early end of the run leave no other trace. -/

namespace Clearance.Query

open NarrowPhase Ledger

variable {σ : Type}

/-- The contacts of a pair that count against it. -/
def offending (q : Query σ) (found : List Contact) (a b : Body) : List Contact :=
  if q.isExempt a b then []
  else match q.deciderOf a b with
    | some allows => found.filter (!allows ·)
    | none => found

/-- The offending contacts of all pairs in the order of the decisions. -/
def offendingAll (q : Query σ) (contacts : Object → Object → List Contact)
    (ps : List (Object × Object)) : List Entry :=
  ps.flatMap fun p => (q.offending (contacts p.1 p.2) p.1.body p.2.body).map
    (Prod.mk (BodyPair.make p.1.id p.2.id))

/-- What a query stores of the offending contacts of all pairs. -/
def harvest (q : Query σ) (contacts : Object → Object → List Contact)
    (ps : List (Object × Object)) : List Entry :=
  (thin q.request.maxPerPair.toNat (q.offendingAll contacts ps)).take q.request.maxContacts.toNat

section

variable {q : Query σ} {contacts : Object → Object → List Contact}

theorem offendingAll_append_singleton (ps : List (Object × Object)) (a b : Object) :
    q.offendingAll contacts (ps ++ [(a, b)]) = q.offendingAll contacts ps ++
      (q.offending (contacts a b) a.body b.body).map (Prod.mk (BodyPair.make a.id b.id)) := by
  simp [offendingAll]

/-! ### One decision -/

theorem offending_of_exempt {a b : Body} (he : q.isExempt a b = true) (found : List Contact) :
    q.offending found a b = [] := by simp [offending, he]

/-- What the budget lets through does not depend on which question it was. -/
theorem take_offences (hn : q.narrow.Lists contacts) {a b : Object}
    (he : q.isExempt a.body b.body = false) (s : Session σ) :
    (q.offences a b (q.answerTo a b s)).take (q.budget (.make a.id b.id) s.findings) =
      (q.offending (contacts a b) a.body b.body).take (q.budget (.make a.id b.id) s.findings) := by
  unfold offences offending answerTo probeOf
  rw [he]
  cases q.deciderOf a.body b.body with
  | some allows => simp [(hn.all s.memory a b []).1]
  | none =>
    by_cases hw : q.budget (.make a.id b.id) s.findings = 0
    · simp [hw]
    · have hb := hn.budgeted s.memory a b _ [] (q.budget_lt_size (.make a.id b.id) s.findings)
      simp only [hw, ↓reduceIte, hb.1, hb.2, List.nil_append, Bool.false_eq_true]
      split
      · rw [List.take_take, Nat.min_self]
      · rename_i hz
        rw [List.length_eq_zero_iff.mp (Nat.eq_zero_of_not_pos hz), List.take_nil]

/-! ### Offending pairs -/

theorem offending_ne_nil_iff (found : List Contact) (a b : Body) :
    q.offending found a b ≠ [] ↔ q.Collides found a b := by
  unfold offending Collides
  cases q.isExempt a b with
  | true => simp
  | false =>
    cases q.deciderOf a b with
    | some allows => simp [List.filter_eq_nil_iff]
    | none => simp

theorem offendingAll_ne_nil_iff (ps : List (Object × Object)) :
    q.offendingAll contacts ps ≠ [] ↔
      ∃ p ∈ ps, q.Collides (contacts p.1 p.2) p.1.body p.2.body := by
  simp only [← offending_ne_nil_iff, offendingAll, ne_eq, List.flatMap_eq_nil_iff,
    List.map_eq_nil_iff, Classical.not_forall, exists_prop]

/-! ### One more pair in the harvest -/

/-- The budget of a pair is the room that the thinned and cut row leaves for it. -/
theorem take_budget (hc : q.request.contacts = true) {f : Findings} {xs : List Entry}
    (h : f.Holds (xs.take q.request.maxContacts.toNat)) (p : BodyPair) (cs : List Contact) :
    xs.take q.request.maxContacts.toNat ++ (cs.take (q.budget p f)).map (Prod.mk p) =
      (xs ++ (cs.take (q.request.maxPerPair.toNat - (ofPair p xs).length)).map (Prod.mk p)).take
        q.request.maxContacts.toNat := by
  rw [List.take_append, q.budget_of_wanted hc, h.count, Findings.stored, h.bucket]
  by_cases hfull : q.request.maxContacts.toNat ≤ xs.length
  · have hz : q.request.maxContacts.toNat - (xs.take q.request.maxContacts.toNat).length = 0 := by
      rw [List.length_take]; omega
    have hz' : q.request.maxContacts.toNat - xs.length = 0 := by omega
    rw [hz, hz', Nat.min_zero]
    simp
  · have hall : xs.take q.request.maxContacts.toNat = xs := List.take_of_length_le (by omega)
    rw [hall, ← List.map_take, List.take_take, Nat.min_comm]

/-- A pair adds to the harvest what its budget lets through of its offending contacts. -/
theorem harvest_append_singleton (hc : q.request.contacts = true) {ps : List (Object × Object)}
    {f : Findings} (h : f.Holds (q.harvest contacts ps)) (a b : Object) :
    q.harvest contacts (ps ++ [(a, b)]) = q.harvest contacts ps ++
      ((q.offending (contacts a b) a.body b.body).take (q.budget (.make a.id b.id) f)).map
        (Prod.mk (BodyPair.make a.id b.id)) := by
  rw [harvest, offendingAll_append_singleton, thin_append_map]
  exact (take_budget hc h _ _).symm

theorem length_harvest_le (q : Query σ) (contacts : Object → Object → List Contact)
    (ps : List (Object × Object)) :
    (q.harvest contacts ps).length ≤ q.request.maxContacts.toNat := by
  rw [harvest, List.length_take]
  omega

/-! ### A run of decisions -/

/-- What a run of decisions keeps: the findings hold the harvest of the pairs so far. -/
structure Harvested (q : Query σ) (contacts : Object → Object → List Contact)
    (ps : List (Object × Object)) (s : Session σ) : Prop where
  settled : q.IsSettled s
  holds : s.findings.Holds (q.harvest contacts ps)

theorem harvested_judge (hn : q.narrow.Lists contacts) (hc : q.request.contacts = true)
    (ps : List (Object × Object)) (s : Session σ) (a b : Object)
    (h : q.Harvested contacts ps s) :
    q.Harvested contacts (ps ++ [(a, b)]) (q.judge s a b).1 := by
  refine ⟨q.isSettled_judge h.settled a b, ?_⟩
  have hrow := harvest_append_singleton hc h.holds a b
  rcases q.judge_cases s a b with ⟨hd, ht⟩ | ⟨_, he, ht⟩ | ⟨_, he, hx, _⟩
  · -- the session is done only when the total is reached, so the pair has no budget
    have hfull := maxContacts_le_of_isSatisfied hc (h.settled hd)
    have hzero : q.budget (.make a.id b.id) s.findings = 0 := by
      have hle := (q.budget_le (.make a.id b.id) s.findings).2
      omega
    rw [ht, hrow, hzero, List.take_zero, List.map_nil, List.append_nil]
    exact h.holds
  · rw [ht, hrow, offending_of_exempt he, List.take_nil, List.map_nil, List.append_nil]
    exact h.holds
  · have hlen := q.length_harvest_le contacts (ps ++ [(a, b)])
    have hmax := q.request.maxContacts.toNat_lt_size
    rw [hrow, List.length_append, List.length_map] at hlen
    have hadd := h.holds.recordAll (.make a.id b.id) ((q.offending (contacts a b) a.body b.body).take
      (q.budget (.make a.id b.id) s.findings)) (by omega)
    rw [hrow, hx.findings, take_offences hn he]
    exact ⟨hadd.keys, hadd.bucket, hadd.count⟩

end

/-- From empty findings, a query ends with the grouping of its harvest: in the buckets, in their
order and in the count. -/
theorem buckets_judgeAll_eq_grouped (q : Query σ) {contacts : Object → Object → List Contact}
    (hn : q.narrow.Lists contacts) (hc : q.request.contacts = true) (ps : List (Object × Object))
    (memory : σ) :
    let f := (q.judgeAll ps { findings := .empty, memory }).findings
    f.buckets.entries = grouped (q.harvest contacts ps) ∧
      (∀ p, f.bucket p = ofPair p (q.harvest contacts ps)) ∧
      f.contactCount.toNat = (q.harvest contacts ps).length ∧
      (f.collision = true ↔ q.offendingAll contacts ps ≠ []) := by
  have start : q.Harvested contacts [] { findings := .empty, memory } :=
    ⟨q.isSettled_start .empty memory, by simpa [harvest, offendingAll, thin] using Findings.holds_empty⟩
  have h := q.judgeAll_invariant start (harvested_judge hn hc) ps
  refine ⟨h.holds.entries, h.holds.bucket, h.holds.count, ?_⟩
  rw [collision_judgeAll hn.tells ps (q.isSettled_start .empty memory), offendingAll_ne_nil_iff]
  simp [Findings.empty]

/-- Three contacts are wanted, and two of them for each pair. -/
def twoPerPair : Query Unit where
  request := .withContacts 3 2
  narrow := ScriptBook.narrowPhase ⟨[], { contacts := [{ depth := 1 }, { depth := 2 }, { depth := 3 }] }⟩

/-- A pair keeps its bucket when it comes back the other way round, and the last pair gets what is
left of the total. -/
theorem buckets_twoPerPair :
    let contacts := fun a b =>
      ({ contacts := [{ depth := 1 }, { depth := 2 }, { depth := 3 }] } : Script).contactsFor a b
    let hand := Object.ball 0 (.robotLink "hand")
    let wall := Object.ball 1 (.worldObject "wall")
    let shelf := Object.ball 2 (.worldObject "shelf")
    let f := (twoPerPair.judgeAll [(wall, hand), (hand, wall), (hand, shelf), (shelf, hand)]
      { findings := .empty, memory := () }).findings
    twoPerPair.narrow.Lists contacts ∧ twoPerPair.request.contacts = true ∧
      f.buckets.entries = [(⟨"hand", "wall"⟩, (contacts wall hand).take 2),
        (⟨"hand", "shelf"⟩, (contacts hand shelf).take 1)] ∧
      f.contactCount.toNat = 3 := by
  have hn : twoPerPair.narrow.Lists fun a b =>
      ({ contacts := [{ depth := 1 }, { depth := 2 }, { depth := 3 }] } : Script).contactsFor a b :=
    ScriptBook.lists_narrowPhase fun _ _ => ⟨rfl, rfl, rfl⟩
  have h := buckets_judgeAll_eq_grouped twoPerPair hn rfl
    [(Object.ball 1 (.worldObject "wall"), Object.ball 0 (.robotLink "hand")),
      (Object.ball 0 (.robotLink "hand"), Object.ball 1 (.worldObject "wall")),
      (Object.ball 0 (.robotLink "hand"), Object.ball 2 (.worldObject "shelf")),
      (Object.ball 2 (.worldObject "shelf"), Object.ball 0 (.robotLink "hand"))] ()
  exact ⟨hn, rfl, h.1.trans (by rfl), h.2.2.1.trans (by rfl)⟩

end Clearance.Query
