import Clearance.Proofs.Judgement.Standing
import Clearance.Proofs.Judgement.Storage

/-! All that judging a pair can do. A session that is done and an exempt pair change nothing but the
remarks. Any other pair is put to the narrow phase once, and whichever of the three questions it
was, the findings grow in one way: contacts that offend are stored up to the budget of the pair, and
an offence is a collision. -/

namespace Clearance.Query

variable {σ : Type}

/-! ### Weighing -/

/-- The scan stores the first `want` contacts that are not allowed. That it stops early shows only
in what it does not look at. -/
theorem findings_weigh (allows : Decider) (a b : BodyId) (p : BodyPair) (cs : List Contact)
    (want : Nat) (f : Findings) :
    (weigh allows a b p cs want f).1 =
      f.add p ((cs.filter (!allows ·)).take want) (cs.any (!allows ·)) := by
  induction cs generalizing want f with
  | nil => simp [weigh]
  | cons c cs ih =>
    cases h : allows c with
    | true => simpa [weigh, h] using ih want f
    | false =>
      match want with
      | 0 => simp [weigh, h, Findings.add]
      | 1 => simp [weigh, h, Findings.add]
      | want + 2 =>
        have hstep := ih (want + 1) { f.record p c with collision := true }
        rw [Findings.add_record] at hstep
        simpa [weigh, h] using hstep

/-! ### The budget -/

theorem budget_of_unwanted (q : Query σ) {p : BodyPair} {f : Findings}
    (h : q.request.contacts = false) : q.budget p f = 0 := by
  rw [budget, h, if_neg Bool.false_ne_true]

theorem budget_of_wanted (q : Query σ) {p : BodyPair} {f : Findings}
    (h : q.request.contacts = true) : q.budget p f =
      min (q.request.maxPerPair.toNat - f.stored p)
        (q.request.maxContacts.toNat - f.contactCount.toNat) := by
  rw [budget, if_pos h, Findings.budget_eq]

/-- The budget is within what is left of either quota. -/
theorem budget_le (q : Query σ) (p : BodyPair) (f : Findings) :
    q.budget p f ≤ q.request.maxPerPair.toNat - f.stored p ∧
      q.budget p f ≤ q.request.maxContacts.toNat - f.contactCount.toNat := by
  cases h : q.request.contacts with
  | true =>
    rw [q.budget_of_wanted h]
    omega
  | false =>
    rw [q.budget_of_unwanted h]
    omega

theorem budget_lt_size (q : Query σ) (p : BodyPair) (f : Findings) :
    q.budget p f < UInt64.size := by
  have hle := (q.budget_le p f).1
  have hmax := q.request.maxPerPair.toNat_lt_size
  omega

/-! ### The three questions -/

theorem findings_judgeConditional (q : Query σ) (allows : Decider) (a b : Object) (s : Session σ) :
    (q.judgeConditional allows a b s).findings = s.findings.add (.make a.id b.id)
      (((q.narrow.ask s.memory a b .all s.buffer).2.contacts.filter (!allows ·)).take
        (q.budget (.make a.id b.id) s.findings))
      ((q.narrow.ask s.memory a b .all s.buffer).2.contacts.any (!allows ·)) := by
  rw [← findings_weigh allows a.id b.id]
  rfl

theorem findings_judgeBudgeted (q : Query σ) (want : Nat) (a b : Object) (s : Session σ) :
    (q.judgeBudgeted want a b s).findings = s.findings.add (.make a.id b.id)
      ((if 0 < (q.narrow.ask s.memory a b (.budgeted want) s.buffer).2.count then
        (q.narrow.ask s.memory a b (.budgeted want) s.buffer).2.contacts else []).take want)
      (decide (0 < (q.narrow.ask s.memory a b (.budgeted want) s.buffer).2.count)) := by
  by_cases hc : 0 < (q.narrow.ask s.memory a b (.budgeted want) s.buffer).2.count
  · have hstep : (q.judgeBudgeted want a b s).findings =
        ({ s.findings with collision := true }).recordAll (.make a.id b.id)
          ((q.narrow.ask s.memory a b (.budgeted want) s.buffer).2.contacts.take want) := by
      simp only [judgeBudgeted]
      rw [if_pos (show 0 < (q.ask a b (.budgeted want) s).2.count from hc)]
      rfl
    rw [hstep, if_pos hc, decide_eq_true hc, Findings.recordAll_mark, Findings.add, Bool.or_true]
  · have hstep : (q.judgeBudgeted want a b s).findings = s.findings := by
      simp only [judgeBudgeted]
      rw [if_neg (show ¬ 0 < (q.ask a b (.budgeted want) s).2.count from hc)]
      rfl
    rw [hstep, if_neg hc, decide_eq_false hc, List.take_nil, Findings.add_nil_false]

theorem findings_judgePresence (q : Query σ) (a b : Object) (s : Session σ) :
    (q.judgePresence a b s).findings = s.findings.add (.make a.id b.id) []
      (decide (0 < (q.narrow.ask s.memory a b .presence s.buffer).2.count)) := by
  by_cases hc : 0 < (q.narrow.ask s.memory a b .presence s.buffer).2.count
  · have hstep : (q.judgePresence a b s).findings = { s.findings with collision := true } := by
      simp only [judgePresence]
      rw [if_pos (show 0 < (q.ask a b .presence s).2.count from hc)]
      rfl
    rw [hstep, decide_eq_true hc, Findings.add, Bool.or_true, Findings.recordAll_nil]
  · have hstep : (q.judgePresence a b s).findings = s.findings := by
      simp only [judgePresence]
      rw [if_neg (show ¬ 0 < (q.ask a b .presence s).2.count from hc)]
      rfl
    rw [hstep, decide_eq_false hc, Findings.add_nil_false]

theorem memory_judgeBudgeted (q : Query σ) (want : Nat) (a b : Object) (s : Session σ) :
    (q.judgeBudgeted want a b s).memory =
      (q.narrow.ask s.memory a b (.budgeted want) s.buffer).1 := by
  simp only [judgeBudgeted]
  split <;> rfl

theorem memory_judgePresence (q : Query σ) (a b : Object) (s : Session σ) :
    (q.judgePresence a b s).memory = (q.narrow.ask s.memory a b .presence s.buffer).1 := by
  simp only [judgePresence]
  split <;> rfl

/-! ### The question and its answer -/

/-- The probe for a pair that is not exempt. -/
def probeOf (q : Query σ) (a b : Object) (f : Findings) : Probe :=
  match q.deciderOf a.body b.body with
  | some _ => .all
  | none =>
    if q.budget (.make a.id b.id) f = 0 then .presence
    else .budgeted (q.budget (.make a.id b.id) f)

/-- The contacts of an answer that count against the pair. -/
def offences (q : Query σ) (a b : Object) (r : Answer) : List Contact :=
  match q.deciderOf a.body b.body with
  | some allows => r.contacts.filter (!allows ·)
  | none => if 0 < r.count then r.contacts else []

/-- Whether an answer makes the pair a collision. -/
def isOffence (q : Query σ) (a b : Object) (r : Answer) : Bool :=
  match q.deciderOf a.body b.body with
  | some allows => r.contacts.any (!allows ·)
  | none => 0 < r.count

/-- The answer that the narrow phase gives about a pair that is not exempt. -/
def answerTo (q : Query σ) (a b : Object) (s : Session σ) : Answer :=
  (q.narrow.ask s.memory a b (q.probeOf a b s.findings) []).2

/-- What a look at a pair makes of a session. -/
structure Examined (q : Query σ) (a b : Object) (s t : Session σ) : Prop where
  findings : t.findings = s.findings.add (.make a.id b.id)
    ((q.offences a b (q.answerTo a b s)).take (q.budget (.make a.id b.id) s.findings))
    (q.isOffence a b (q.answerTo a b s))
  memory : t.memory = (q.narrow.ask s.memory a b (q.probeOf a b s.findings) []).1

/-- The three questions differ in the probe and in what of the answer counts, and in nothing else. -/
theorem examined_inquire (q : Query σ) (a b : Object) {s : Session σ} (hs : s.buffer = []) :
    q.Examined a b s (q.inquire (q.deciderOf a.body b.body) a b s) := by
  cases h : q.deciderOf a.body b.body with
  | some allows =>
    have hp : q.probeOf a b s.findings = .all := by rw [probeOf, h]
    constructor
    · rw [inquire, findings_judgeConditional, answerTo, hp, hs]
      simp only [offences, isOffence, h]
    · rw [hp, ← hs]
      rfl
  | none =>
    cases hw : q.budget (.make a.id b.id) s.findings with
    | zero =>
      have hp : q.probeOf a b s.findings = .presence := by simp only [probeOf, h, hw, ↓reduceIte]
      constructor
      · simp only [inquire, hw, findings_judgePresence, answerTo, hp, hs, isOffence, h,
          List.take_zero]
      · simp only [inquire, hw, memory_judgePresence, hp, hs]
    | succ want =>
      have hp : q.probeOf a b s.findings = .budgeted (want + 1) := by
        simp only [probeOf, h, hw, Nat.add_one_ne_zero, ↓reduceIte]
      constructor
      · simp only [inquire, hw, findings_judgeBudgeted, answerTo, hp, hs, offences, isOffence, h]
      · simp only [inquire, hw, memory_judgeBudgeted, hp, hs]

/-- What earlier pairs left in the buffer does not show. -/
theorem examined_examine (q : Query σ) (a b : Object) (s : Session σ) :
    q.Examined a b s (q.examine (q.deciderOf a.body b.body) a b s) :=
  have hx := q.examined_inquire a b (s := s.clearBuffer) rfl
  ⟨hx.findings, hx.memory⟩

theorem done_inquire (q : Query σ) (d : Option Decider) (a b : Object) (s : Session σ) :
    (q.inquire d a b s).done = s.done := by
  unfold inquire
  split
  · rfl
  · split
    · simp only [judgePresence]
      split <;> rfl
    · simp only [judgeBudgeted]
      split <;> rfl

theorem done_examine (q : Query σ) (d : Option Decider) (a b : Object) (s : Session σ) :
    (q.examine d a b s).done = s.done := q.done_inquire d a b s.clearBuffer

/-! ### Decisions -/

theorem collision_of_isSatisfied {q : Query σ} {f : Findings} (h : q.isSatisfied f = true) :
    f.collision = true := by
  rw [isSatisfied, Bool.and_eq_true] at h
  exact h.1

/-- A query that wants contacts is satisfied only when it has them all. -/
theorem maxContacts_le_of_isSatisfied {q : Query σ} {f : Findings} (hc : q.request.contacts = true)
    (h : q.isSatisfied f = true) : q.request.maxContacts.toNat ≤ f.contactCount.toNat := by
  rw [isSatisfied, Bool.and_eq_true, hc] at h
  simpa [UInt64.le_iff_toNat_le] using h.2

@[simp] theorem findings_conclude (q : Query σ) (s : Session σ) :
    (q.conclude s).findings = s.findings := by
  unfold conclude
  split <;> rfl

@[simp] theorem memory_conclude (q : Query σ) (s : Session σ) :
    (q.conclude s).memory = s.memory := by
  unfold conclude
  split <;> rfl

theorem done_conclude (q : Query σ) {s : Session σ} (h : s.done = false) :
    (q.conclude s).done = q.isSatisfied s.findings := by
  unfold conclude
  split
  · rename_i hs; exact hs.symm
  · rename_i hs; simpa [h] using hs

theorem judge_of_exempt (q : Query σ) {s : Session σ} {a b : Object} (hd : s.done = false)
    (h : q.isExempt a.body b.body = true) :
    q.judge s a b = (s.record (q.say (q.policyRemarks a.body b.body)), false) := by
  simp [judge, hd, q.standing_of_exempt h]

theorem judge_of_not_exempt (q : Query σ) {s : Session σ} {a b : Object} (hd : s.done = false)
    (h : q.isExempt a.body b.body = false) :
    (q.judge s a b).1 = q.conclude (q.examine (q.deciderOf a.body b.body) a b
      (s.record (q.say (q.policyRemarks a.body b.body)))) := by
  simp only [judge, hd, q.standing_of_not_exempt h]
  cases q.deciderOf a.body b.body <;> rfl

/-- The answer of a decision tells whether the session is done. -/
theorem snd_judge (q : Query σ) (s : Session σ) (a b : Object) :
    (q.judge s a b).2 = (q.judge s a b).1.done := by
  cases hd : s.done with
  | true => rw [q.judge_of_done hd, hd]
  | false =>
    simp only [judge, hd]
    cases q.standing a.body b.body with
    | exempt => exact hd.symm
    | conditional allows => rfl
    | forbidden => rfl

theorem examined_judge (q : Query σ) {s : Session σ} {a b : Object} (hd : s.done = false)
    (he : q.isExempt a.body b.body = false) : q.Examined a b s (q.judge s a b).1 ∧
      (q.judge s a b).1.done = q.isSatisfied (q.judge s a b).1.findings := by
  rw [q.judge_of_not_exempt hd he]
  have hx := q.examined_examine a b (s.record (q.say (q.policyRemarks a.body b.body)))
  constructor
  · exact ⟨by rw [findings_conclude, hx.findings]; rfl, by rw [memory_conclude, hx.memory]; rfl⟩
  · rw [q.done_conclude (by rw [done_examine]; exact hd), findings_conclude]

/-- All that a decision can do to the findings, the memory and the end of a session. -/
theorem judge_cases (q : Query σ) (s : Session σ) (a b : Object) :
    (s.done = true ∧ (q.judge s a b).1 = s) ∨
    (s.done = false ∧ q.isExempt a.body b.body = true ∧
      (q.judge s a b).1 = s.record (q.say (q.policyRemarks a.body b.body))) ∨
    (s.done = false ∧ q.isExempt a.body b.body = false ∧ q.Examined a b s (q.judge s a b).1 ∧
      (q.judge s a b).1.done = q.isSatisfied (q.judge s a b).1.findings) := by
  cases hd : s.done with
  | true => exact .inl ⟨rfl, by rw [q.judge_of_done hd]⟩
  | false =>
    cases he : q.isExempt a.body b.body with
    | true => exact .inr (.inl ⟨rfl, rfl, by rw [q.judge_of_exempt hd he]⟩)
    | false => exact .inr (.inr ⟨rfl, rfl, q.examined_judge hd he⟩)

/-- A session that is done has nothing left to look for. -/
def IsSettled (q : Query σ) (s : Session σ) : Prop := s.done = true → q.isSatisfied s.findings = true

theorem isSettled_judge (q : Query σ) {s : Session σ} (hs : q.IsSettled s) (a b : Object) :
    q.IsSettled (q.judge s a b).1 := by
  rcases q.judge_cases s a b with ⟨_, ht⟩ | ⟨hd, _, ht⟩ | ⟨_, _, _, ht⟩
  · rw [ht]; exact hs
  · rw [ht]; exact fun h => absurd (hd.symm.trans h) (by simp)
  · exact fun h => ht ▸ h

theorem isSettled_start (q : Query σ) (findings : Findings) (memory : σ) :
    q.IsSettled { findings, memory } := fun h => absurd h (by simp)

/-- The session after a row of decisions and what each of them returns. -/
def judgeEach (q : Query σ) : List (Object × Object) → Session σ → Session σ × List Bool
  | [], s => (s, [])
  | p :: ps, s =>
    let (s, stop) := q.judge s p.1 p.2
    let (s, stops) := judgeEach q ps s
    (s, stop :: stops)

theorem fst_judgeEach (q : Query σ) (ps : List (Object × Object)) (s : Session σ) :
    (q.judgeEach ps s).1 = q.judgeAll ps s := by
  induction ps generalizing s with
  | nil => rfl
  | cons p ps ih => exact ih (q.judge s p.1 p.2).1

/-- What holds at the start and survives every decision holds after every row of them. -/
theorem judgeAll_invariant (q : Query σ) {s : Session σ}
    {P : List (Object × Object) → Session σ → Prop} (start : P [] s)
    (step : ∀ ps t a b, P ps t → P (ps ++ [(a, b)]) (q.judge t a b).1) (ps : List (Object × Object)) :
    P ps (q.judgeAll ps s) := by
  have run : ∀ rs qs t, P qs t → P (qs ++ rs) (q.judgeAll rs t) := by
    intro rs
    induction rs with
    | nil => intro qs t h; simpa using h
    | cons p rs ih =>
      intro qs t h
      simpa using ih _ _ (step qs t p.1 p.2 h)
  simpa using run ps [] s start

end Clearance.Query
