import Clearance.Proofs.Body.Pairs
import Clearance.Proofs.Judgement.Examination

/-! The quotas hold against any narrow phase. It may add what it likes, ignore the limit, say any
count, and change its mind from call to call: only what the budget lets through is stored, and only
for pairs that were decided and are not exempt. -/

namespace Clearance.Query

variable {σ : Type} {q : Query σ}

/-- What the findings of a query keep to after the decisions about `ps`. -/
structure WithinQuota (q : Query σ) (ps : List (Object × Object)) (f : Findings) : Prop where
  count_eq : f.contactCount.toNat = f.total
  count_le : f.contactCount ≤ q.request.maxContacts
  /-- No bucket is empty and none is longer than its quota. -/
  bucket : ∀ e ∈ f.buckets.entries, 1 ≤ e.2.length ∧ e.2.length ≤ q.request.maxPerPair.toNat
  ordered : ∀ k ∈ f.buckets.keys, k.first.le k.second = true
  decided : ∀ k ∈ f.buckets.keys, ∃ p ∈ ps, q.isExempt p.1.body p.2.body = false ∧
    (k = ⟨p.1.id, p.2.id⟩ ∨ k = ⟨p.2.id, p.1.id⟩)
  unwanted : q.request.contacts = false → f.buckets.entries = [] ∧ f.contactCount = 0

theorem withinQuota_empty (q : Query σ) : q.WithinQuota [] .empty := by
  constructor <;>
    simp [Findings.empty, Findings.total, OrderedMap.empty, OrderedMap.values, OrderedMap.keys]

/-- Decisions that store nothing. -/
theorem WithinQuota.append {ps : List (Object × Object)} {f : Findings} (h : q.WithinQuota ps f)
    (rs : List (Object × Object)) : q.WithinQuota (ps ++ rs) f where
  count_eq := h.count_eq
  count_le := h.count_le
  bucket := h.bucket
  ordered := h.ordered
  decided k hk := by
    obtain ⟨p, hp, hkey⟩ := h.decided k hk
    exact ⟨p, List.mem_append_left rs hp, hkey⟩
  unwanted := h.unwanted

/-- A row of contacts that both quotas have room for. -/
theorem WithinQuota.add {ps : List (Object × Object)} {f : Findings} (h : q.WithinQuota ps f)
    {a b : Object} (hab : (a, b) ∈ ps) (he : q.isExempt a.body b.body = false) {cs : List Contact}
    (hlen : cs.length ≤ q.budget (.make a.id b.id) f) (hit : Bool) :
    q.WithinQuota ps (f.add (.make a.id b.id) cs hit) := by
  obtain ⟨hpair, htotal⟩ := q.budget_le (.make a.id b.id) f
  have hle := UInt64.le_iff_toNat_le.mp h.count_le
  have hmax := q.request.maxContacts.toNat_lt_size
  have hcount := f.count_recordAll (.make a.id b.id) cs (by omega)
  constructor
  · rw [Findings.contactCount_add, hcount, Findings.total_add, h.count_eq]
  · rw [Findings.contactCount_add, UInt64.le_iff_toNat_le, hcount]
    omega
  · intro e hmem
    rcases f.mem_entries_recordAll hmem with hold | ⟨hcs, rfl⟩
    · exact h.bucket e hold
    · have hpos := List.length_pos_iff.mpr hcs
      rw [Findings.stored] at hpair
      rw [List.length_append]
      omega
  · intro k hk
    rw [Findings.buckets_add, Findings.mem_keys_recordAll] at hk
    rcases hk with hk | ⟨rfl, _⟩
    · exact h.ordered k hk
    · exact BodyPair.first_le_second_make ..
  · intro k hk
    rw [Findings.buckets_add, Findings.mem_keys_recordAll] at hk
    rcases hk with hk | ⟨rfl, _⟩
    · exact h.decided k hk
    · exact ⟨(a, b), hab, he, BodyPair.make_eq_or ..⟩
  · intro hc
    rw [q.budget_of_unwanted hc] at hlen
    rw [List.length_eq_zero_iff.mp (Nat.le_zero.mp hlen)]
    exact h.unwanted hc

theorem withinQuota_judge (ps : List (Object × Object)) (s : Session σ) (a b : Object)
    (h : q.WithinQuota ps s.findings) :
    q.WithinQuota (ps ++ [(a, b)]) (q.judge s a b).1.findings := by
  rcases q.judge_cases s a b with ⟨_, ht⟩ | ⟨_, _, ht⟩ | ⟨_, he, hx, _⟩
  · rw [ht]
    exact h.append _
  · rw [ht]
    exact h.append _
  · rw [hx.findings]
    refine (h.append [(a, b)]).add (by simp) he ?_ _
    rw [List.length_take]
    omega

/-- After any row of decisions, the findings of a query that started with none are within quota. -/
theorem withinQuota_judgeAll (q : Query σ) (ps : List (Object × Object)) (memory : σ) :
    q.WithinQuota ps (q.judgeAll ps { findings := .empty, memory }).findings :=
  q.judgeAll_invariant (P := fun ps s => q.WithinQuota ps s.findings) q.withinQuota_empty
    withinQuota_judge ps

end Clearance.Query
