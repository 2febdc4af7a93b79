import Mathlib.Logic.Function.Iterate
import Clearance.Proofs.Judgement.Examination

/-! What is left to store, counted down. A scan of contacts asks for the budget of its pair once and
takes one away for each contact that it stores. The scan is cut into turns, one for each contact; at
every turn the count is the budget that the findings of that turn would be given anew, so the scan
ends at the first contact that is not allowed and leaves nothing to store. -/

namespace Clearance

/-! ### Turns -/

/-- A scan in the middle of its work: the contacts it has yet to look at, how many of them it may
store, and what it has found and said. -/
structure Scan where
  rest : List Contact
  want : Nat
  findings : Findings
  events : List Event := []

namespace Scan

/-- Looks at one contact. One that is not allowed is a collision, is stored if anything is wanted,
and is the last one if nothing is wanted any more. -/
def turn (allows : Decider) (a b : BodyId) (p : BodyPair) : Scan → Scan
  | ⟨[], want, f, es⟩ => ⟨[], want, f, es⟩
  | ⟨c :: cs, want, f, es⟩ =>
    if allows c then ⟨cs, want, f, es ++ [.weighed c true]⟩
    else
      match want with
      | 0 =>
        ⟨[], 0, { f with collision := true },
          es ++ [.weighed c false, .remarked (.offenderNotStored a b)]⟩
      | want + 1 =>
        ⟨if want = 0 then [] else cs, want, { f.record p c with collision := true },
          es ++ [.weighed c false, .remarked (.offenderStored a b)]⟩

/-- What a scan comes to in the end. -/
def outcome (allows : Decider) (a b : BodyId) (p : BodyPair) (s : Scan) :
    Findings × List Event :=
  let (f, es) := Query.weigh allows a b p s.rest s.want s.findings
  (f, s.events ++ es)

variable (allows : Decider) (a b : BodyId) (p : BodyPair)

/-- The scan goes on from each turn as if it had started there. -/
theorem outcome_turn (s : Scan) :
    (s.turn allows a b p).outcome allows a b p = s.outcome allows a b p := by
  obtain ⟨rest, want, f, es⟩ := s
  cases rest with
  | nil => rfl
  | cons c cs =>
    cases h : allows c with
    | true => simp [turn, outcome, Query.weigh, h]
    | false =>
      rcases want with _ | _ | want <;> simp [turn, outcome, Query.weigh, h]

theorem outcome_turns (s : Scan) (k : Nat) :
    ((turn allows a b p)^[k] s).outcome allows a b p = s.outcome allows a b p := by
  induction k with
  | zero => rfl
  | succ k ih => rw [Function.iterate_succ_apply', outcome_turn, ih]

theorem length_rest_turn (s : Scan) :
    (s.turn allows a b p).rest.length ≤ s.rest.length - 1 := by
  obtain ⟨rest, want, f, es⟩ := s
  cases rest with
  | nil => exact Nat.le_refl _
  | cons c cs =>
    cases h : allows c with
    | true => simp [turn, h]
    | false =>
      rcases want with _ | _ | want <;> simp [turn, h]

/-- A scan is over after as many turns as it had contacts. -/
theorem rest_turns_eq_nil (s : Scan) : ((turn allows a b p)^[s.rest.length] s).rest = [] := by
  have hshort : ∀ k, ((turn allows a b p)^[k] s).rest.length ≤ s.rest.length - k := by
    intro k
    induction k with
    | zero => exact Nat.le_refl _
    | succ k ih =>
      rw [Function.iterate_succ_apply']
      have hturn := length_rest_turn allows a b p ((turn allows a b p)^[k] s)
      omega
  exact List.length_eq_zero_iff.mp (by have := hshort s.rest.length; omega)

/-- The turns together are the scan. -/
theorem outcome_eq (s : Scan) :
    let t := (turn allows a b p)^[s.rest.length] s
    s.outcome allows a b p = (t.findings, t.events) := by
  intro t
  have hrest : t.rest = [] := rest_turns_eq_nil allows a b p s
  rw [← outcome_turns allows a b p s s.rest.length]
  change t.outcome allows a b p = _
  rw [outcome, hrest]
  simp [Query.weigh]

end Scan

namespace Query

variable {σ : Type} (q : Query σ)

/-! ### The count and the budget -/

theorem budget_record {p : BodyPair} {f : Findings} (h : 0 < q.budget p f) (c : Contact) :
    q.budget p (f.record p c) = q.budget p f - 1 := by
  cases hc : q.request.contacts with
  | true =>
    simp only [budget, hc, ↓reduceIte] at h ⊢
    exact Findings.budget_record h c
  | false => rw [q.budget_of_unwanted hc, q.budget_of_unwanted hc]

variable (allows : Decider) (a b : BodyId) (p : BodyPair)

/-- A turn keeps the count at the budget, and ends the scan exactly if its contact is not allowed
and the budget is gone. -/
theorem turn_of_want_eq {s : Scan} (h : s.want = q.budget p s.findings) :
    let t := s.turn allows a b p
    t.want = q.budget p t.findings ∧ t.rest =
      if s.rest.head?.any (!allows ·) ∧ q.budget p t.findings = 0 then [] else s.rest.tail := by
  obtain ⟨rest, want, f, es⟩ := s
  change want = q.budget p f at h
  cases rest with
  | nil => simp [Scan.turn, h]
  | cons c cs =>
    cases hc : allows c with
    | true => simp [Scan.turn, hc, h]
    | false =>
      cases want with
      | zero =>
        have hzero : q.budget p { f with collision := true } = 0 := h.symm
        simp [Scan.turn, hc, hzero]
      | succ want =>
        have hleft : q.budget p { f.record p c with collision := true } = want := by
          change q.budget p (f.record p c) = want
          rw [q.budget_record (by omega)]
          omega
        simp [Scan.turn, hc, hleft]

theorem want_turns {s : Scan} (h : s.want = q.budget p s.findings) (k : Nat) :
    ((Scan.turn allows a b p)^[k] s).want =
      q.budget p ((Scan.turn allows a b p)^[k] s).findings := by
  induction k with
  | zero => exact h
  | succ k ih =>
    rw [Function.iterate_succ_apply']
    exact (q.turn_of_want_eq allows a b p ih).1

/-- The scan looks at one contact after the other, up to the first that is not allowed and after
which the budget is zero. -/
theorem rest_turns {s : Scan} (h : s.want = q.budget p s.findings) (k : Nat) :
    ((Scan.turn allows a b p)^[k] s).rest =
      if ∃ j < k, (s.rest[j]?).any (!allows ·) ∧
        q.budget p ((Scan.turn allows a b p)^[j + 1] s).findings = 0 then [] else s.rest.drop k := by
  induction k with
  | zero => simp
  | succ k ih =>
    have hturn := (q.turn_of_want_eq allows a b p (q.want_turns allows a b p h k)).2
    rw [← Function.iterate_succ_apply' (Scan.turn allows a b p), ih] at hturn
    -- Either the scan was over before this turn, or the turn decides whether it goes on.
    by_cases hstop : ∃ j < k, (s.rest[j]?).any (!allows ·) ∧
        q.budget p ((Scan.turn allows a b p)^[j + 1] s).findings = 0
    · rw [if_pos hstop] at hturn
      obtain ⟨j, hj, hlast⟩ := hstop
      have hover : ((Scan.turn allows a b p)^[k + 1] s).rest = [] := hturn.trans (by simp)
      rw [hover, if_pos ⟨j, by omega, hlast⟩]
    · rw [if_neg hstop, List.head?_drop, List.tail_drop] at hturn
      rw [hturn]
      refine if_congr ⟨fun hlast => ⟨k, by omega, hlast⟩, ?_⟩ rfl rfl
      rintro ⟨j, hj, hlast⟩
      rcases Nat.lt_succ_iff_lt_or_eq.mp hj with hlt | rfl
      · exact absurd ⟨j, hlt, hlast⟩ hstop
      · exact hlast

/-- The scan that judges a pair by a decider, before its first turn. -/
def scanOf (a b : Object) (s : Session σ) : Scan where
  rest := (q.ask a b .all s).2.contacts
  want := q.budget (.make a.id b.id) s.findings
  findings := s.findings

/-- The budget of a pair is the greatest number of contacts that both quotas have room for. When a
conditional pair is judged, the count of the scan is that budget at every turn, taken anew from the
findings of the turn, or zero if no contacts are wanted; so the scan ends at the first contact that
is not allowed and leaves no budget. The turns are those of the scan: the pair is judged by what
they find and say. -/
theorem countdown_judgeConditional (a b : Object) (s : Session σ) :
    let pair := BodyPair.make a.id b.id
    let scan := q.scanOf a b s
    let after (k : Nat) := (Scan.turn allows a.id b.id pair)^[k] scan
    let last := after scan.rest.length
    let (asked, answer) := q.ask a b .all s
    (∀ (f : Findings) (p : BodyPair) (maxPerPair maxContacts : UInt64) (n : Nat),
      n ≤ f.budget p maxPerPair maxContacts ↔ n = 0 ∨
        (f.stored p + n ≤ maxPerPair.toNat ∧ f.contactCount.toNat + n ≤ maxContacts.toNat)) ∧
      (∀ k, (after k).want = if q.request.contacts then
        (after k).findings.budget pair q.request.maxPerPair q.request.maxContacts else 0) ∧
      (∀ k, (after k).rest = if ∃ j < k, (scan.rest[j]?).any (!allows ·) ∧
        q.budget pair (after (j + 1)).findings = 0 then [] else scan.rest.drop k) ∧
      q.judgeConditional allows a b s = { asked with findings := last.findings }.record
        ((if 0 < answer.count then q.say [.toBeWeighed answer.count a.id b.id] else []) ++
          last.events) := by
  intro pair scan after last
  refine ⟨Findings.le_budget_iff, q.want_turns allows a.id b.id pair rfl,
    q.rest_turns allows a.id b.id pair rfl, ?_⟩
  have hweigh : weigh allows a.id b.id pair scan.rest scan.want scan.findings =
      (last.findings, last.events) := Scan.outcome_eq allows a.id b.id pair scan
  have hfindings := congrArg Prod.fst hweigh
  have hevents := congrArg Prod.snd hweigh
  rw [← show _ = last.findings from hfindings, ← show _ = last.events from hevents]
  rfl

end Query

end Clearance
