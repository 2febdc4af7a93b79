import Clearance.Proofs.Judgement.Examination

/-! Counts that stay within their words. A decision is written once more with every operation on a
count checked: a difference must not go below zero, a count must not pass the largest word, and no
contact may be stored once the total is reached. Whatever the findings hold, whatever the request,
the policies and the narrow phase are, no check fails and the decision is the same. -/

namespace Clearance

/-- What can go wrong with a count. -/
inductive CountFault where
  /-- More is taken away than there is. -/
  | belowZero
  /-- The largest word is counted up. -/
  | beyondWord
  /-- A contact is stored although the total is reached. -/
  | beyondTotal

namespace CountFault

/-! ### Checked words -/

def takeAway (a b : UInt64) : Except CountFault UInt64 :=
  if b ≤ a then .ok (a - b) else .error .belowZero

def countUp (a : UInt64) : Except CountFault UInt64 :=
  if a.toNat + 1 < UInt64.size then .ok (a + 1) else .error .beyondWord

@[simp] theorem ok_bind {α β : Type} (x : α) (f : α → Except CountFault β) :
    (Except.ok x >>= f) = f x := rfl

/-- No more than a word is a word. -/
theorem toNat_ofNat_of_le {n : Nat} {a : UInt64} (h : n ≤ a.toNat) :
    (UInt64.ofNat n).toNat = n := by
  have := a.toNat_lt_size
  exact UInt64.toNat_ofNat_of_lt' (by omega)

/-- A word that is not zero can be counted down. -/
theorem takeAway_one {a : UInt64} {n : Nat} (h : a.toNat = n + 1) :
    0 < a ∧ takeAway a 1 = .ok (a - 1) ∧ (a - 1).toNat = n := by
  have hpos : 0 < a := by
    rw [UInt64.lt_iff_toNat_lt, h]
    exact Nat.succ_pos n
  have hone : 1 ≤ a := by
    rw [UInt64.le_iff_toNat_le, h]
    exact Nat.succ_pos n
  refine ⟨hpos, if_pos hone, ?_⟩
  rw [UInt64.toNat_sub_of_le a 1 hone, h]
  rfl

end CountFault

open CountFault

/-! ### Checked findings -/

namespace Findings

/-- The budget of a pair as a word. Only the quota of the pair may be exceeded. -/
def budgetChecked (f : Findings) (p : BodyPair) (maxPerPair maxContacts : UInt64) :
    Except CountFault UInt64 :=
  if maxContacts ≤ f.contactCount then .ok 0
  else do
    let left ← takeAway maxContacts f.contactCount
    let leftOfPair := UInt64.ofNat (maxPerPair.toNat - f.stored p)
    return if leftOfPair ≤ left then leftOfPair else left

def recordChecked (f : Findings) (p : BodyPair) (c : Contact) (maxContacts : UInt64) :
    Except CountFault Findings :=
  if maxContacts ≤ f.contactCount then .error .beyondTotal
  else do
    let contactCount ← countUp f.contactCount
    return { f with contactCount, buckets := f.buckets.update p fun b => b.getD [] ++ [c] }

def recordAllChecked (f : Findings) (p : BodyPair) (cs : List Contact) (maxContacts : UInt64) :
    Except CountFault Findings :=
  cs.foldlM (fun f c => f.recordChecked p c maxContacts) f

theorem budgetChecked_eq (f : Findings) (p : BodyPair) (maxPerPair maxContacts : UInt64) :
    f.budgetChecked p maxPerPair maxContacts =
      .ok (UInt64.ofNat (f.budget p maxPerPair maxContacts)) := by
  unfold budgetChecked budget
  split
  · rfl
  · rename_i hroom
    have hle : f.contactCount ≤ maxContacts := by
      rw [UInt64.le_iff_toNat_le] at hroom ⊢
      omega
    have hpair := toNat_ofNat_of_le (Nat.sub_le maxPerPair.toNat (f.stored p))
    have hleft := UInt64.toNat_sub_of_le maxContacts f.contactCount hle
    simp only [takeAway, hle, ↓reduceIte, ok_bind, pure, Except.pure, UInt64.le_iff_toNat_le,
      hpair, hleft, Except.ok.injEq]
    split
    · rename_i h
      rw [Nat.min_eq_left h]
    · rename_i h
      refine UInt64.toNat_inj.mp ?_
      rw [Nat.min_eq_right (by omega), hleft, toNat_ofNat_of_le (Nat.sub_le ..)]

theorem recordChecked_eq {f : Findings} {maxContacts : UInt64}
    (h : f.contactCount.toNat < maxContacts.toNat) (p : BodyPair) (c : Contact) :
    f.recordChecked p c maxContacts = .ok (f.record p c) := by
  have hfull : ¬ maxContacts ≤ f.contactCount := by
    rw [UInt64.le_iff_toNat_le]
    omega
  have hword : f.contactCount.toNat + 1 < UInt64.size := by
    have := maxContacts.toNat_lt_size
    omega
  rw [recordChecked, if_neg hfull, countUp, if_pos hword]
  rfl

theorem recordAllChecked_eq {f : Findings} {maxContacts : UInt64} {cs : List Contact}
    (h : f.contactCount.toNat + cs.length ≤ maxContacts.toNat) (p : BodyPair) :
    f.recordAllChecked p cs maxContacts = .ok (f.recordAll p cs) := by
  induction cs generalizing f with
  | nil => rfl
  | cons c cs ih =>
    rw [List.length_cons] at h
    have hmax := maxContacts.toNat_lt_size
    have hcount := f.count_record p c (by omega)
    have hrest := ih (f := f.record p c) (by omega)
    rw [recordAllChecked, List.foldlM_cons, recordChecked_eq (by omega) p c]
    exact hrest

end Findings

namespace Query

variable {σ : Type} (q : Query σ)

/-! ### Checked decisions -/

/-- How many contacts the pair may store, as a word. -/
def wantChecked (p : BodyPair) (f : Findings) : Except CountFault UInt64 :=
  if q.request.contacts && decide (f.contactCount < q.request.maxContacts) then
    f.budgetChecked p q.request.maxPerPair q.request.maxContacts
  else .ok 0

/-- Looks at contacts one by one and counts down what may be stored. -/
def weighChecked (allows : Decider) (a b : BodyId) (p : BodyPair) :
    List Contact → UInt64 → Findings → Except CountFault (Findings × List Event)
  | [], _, f => .ok (f, [])
  | c :: cs, want, f =>
    if allows c then do
      let (f, es) ← weighChecked allows a b p cs want f
      return (f, .weighed c true :: es)
    else if 0 < want then do
      let want ← takeAway want 1
      let f ← f.recordChecked p c q.request.maxContacts
      let f := { f with collision := true }
      let (f, es) ← if want = 0 then .ok (f, []) else weighChecked allows a b p cs want f
      return (f, .weighed c false :: .remarked (.offenderStored a b) :: es)
    else
      .ok ({ f with collision := true }, [.weighed c false, .remarked (.offenderNotStored a b)])

def judgeConditionalChecked (allows : Decider) (a b : Object) (s : Session σ) :
    Except CountFault (Session σ) := do
  let pair := BodyPair.make a.id b.id
  let want ← q.wantChecked pair s.findings
  let (s, answer) := q.ask a b .all s
  let said := if 0 < answer.count then q.say [.toBeWeighed answer.count a.id b.id] else []
  let (findings, es) ← q.weighChecked allows a.id b.id pair answer.contacts want s.findings
  return { s with findings }.record (said ++ es)

def judgeBudgetedChecked (want : UInt64) (a b : Object) (s : Session σ) :
    Except CountFault (Session σ) :=
  let (s, answer) := q.ask a b (.budgeted want.toNat) s
  if 0 < answer.count then do
    let kept := answer.contacts.take want.toNat
    let findings ← { s.findings with collision := true }.recordAllChecked (.make a.id b.id) kept
      q.request.maxContacts
    return { s with findings }.record (q.say [.contactsFound answer.count a.id b.id kept.length])
  else .ok s

def inquireChecked (allows? : Option Decider) (a b : Object) (s : Session σ) :
    Except CountFault (Session σ) :=
  match allows? with
  | some allows => q.judgeConditionalChecked allows a b s
  | none => do
    let want ← q.wantChecked (.make a.id b.id) s.findings
    if 0 < want then q.judgeBudgetedChecked want a b s else .ok (q.judgePresence a b s)

def examineChecked (allows? : Option Decider) (a b : Object) (s : Session σ) :
    Except CountFault (Session σ) := do
  let s ← q.inquireChecked allows? a b s.clearBuffer
  return s.clearBuffer

/-- Judges a pair, with every operation on a count checked. -/
def judgeChecked (s : Session σ) (a b : Object) : Except CountFault (Session σ × Bool) :=
  if s.done then .ok (s, true)
  else
    let s := s.record (q.say (q.policyRemarks a.body b.body))
    match q.standing a.body b.body with
    | .exempt => .ok (s, false)
    | .conditional allows => do
      let s := q.conclude (← q.examineChecked (some allows) a b s)
      return (s, s.done)
    | .forbidden => do
      let s := q.conclude (← q.examineChecked none a b s)
      return (s, s.done)

/-! ### No check fails -/

theorem wantChecked_eq (p : BodyPair) (f : Findings) :
    q.wantChecked p f = .ok (UInt64.ofNat (q.budget p f)) := by
  cases hc : q.request.contacts with
  | false => rw [q.budget_of_unwanted hc, wantChecked, hc]; rfl
  | true =>
    rw [wantChecked, budget, hc]
    by_cases hroom : f.contactCount < q.request.maxContacts
    · simp [hroom, Findings.budgetChecked_eq]
    · have hfull : q.request.maxContacts ≤ f.contactCount := by
        rw [UInt64.lt_iff_toNat_lt] at hroom
        rw [UInt64.le_iff_toNat_le]
        omega
      simp [hroom, Findings.budget, hfull]

/-- The budget is a word, and the total has room for it. -/
theorem toNat_want (p : BodyPair) (f : Findings) :
    (UInt64.ofNat (q.budget p f)).toNat = q.budget p f :=
  UInt64.toNat_ofNat_of_lt' (q.budget_lt_size p f)

theorem weighChecked_eq (allows : Decider) (a b : BodyId) (p : BodyPair) (cs : List Contact)
    {want : UInt64} {f : Findings}
    (h : want.toNat = 0 ∨ f.contactCount.toNat + want.toNat ≤ q.request.maxContacts.toNat) :
    q.weighChecked allows a b p cs want f = .ok (weigh allows a b p cs want.toNat f) := by
  -- A stored contact is one less to store and one more in the count, so the sum in `h` is kept.
  induction cs generalizing want f with
  | nil => rfl
  | cons c cs ih =>
    rw [weighChecked]
    cases hc : allows c with
    | true => simp [weigh, hc, ih h, pure, Except.pure]
    | false =>
      cases hn : want.toNat with
      | zero =>
        have hzero : want = 0 := UInt64.toNat_inj.mp hn
        simp [weigh, hc, hzero]
      | succ n =>
        obtain ⟨hpos, htake, hleft⟩ := takeAway_one hn
        have hroom := h.resolve_left (by omega)
        have hmax := q.request.maxContacts.toNat_lt_size
        have hcount : ({ f.record p c with collision := true } : Findings).contactCount.toNat =
            f.contactCount.toNat + 1 := f.count_record p c (by omega)
        have hrecord : f.recordChecked p c q.request.maxContacts = .ok (f.record p c) :=
          Findings.recordChecked_eq (by omega) p c
        have hrest : q.weighChecked allows a b p cs (want - 1)
            { f.record p c with collision := true } =
            .ok (weigh allows a b p cs (want - 1).toNat { f.record p c with collision := true }) :=
          ih (.inr (by omega))
        rw [hleft] at hrest
        cases n with
        | zero =>
          have hlast : want - 1 = 0 := UInt64.toNat_inj.mp hleft
          simp [weigh, hc, hpos, htake, hrecord, hlast, pure, Except.pure]
        | succ n =>
          have hmore : want - 1 ≠ 0 := fun hz => by rw [hz] at hleft; cases hleft
          simp [weigh, hc, hpos, htake, hrecord, hmore, hrest, pure, Except.pure]

/-- Where a pair has a budget, the total has room for it. -/
theorem budget_eq_zero_or_le (p : BodyPair) (f : Findings) :
    q.budget p f = 0 ∨ f.contactCount.toNat + q.budget p f ≤ q.request.maxContacts.toNat := by
  have hle := (q.budget_le p f).2
  omega

theorem judgeConditionalChecked_eq (allows : Decider) (a b : Object) (s : Session σ) :
    q.judgeConditionalChecked allows a b s = .ok (q.judgeConditional allows a b s) := by
  have hwant := q.toNat_want (.make a.id b.id) s.findings
  have hroom := q.budget_eq_zero_or_le (.make a.id b.id) s.findings
  rw [← hwant] at hroom
  have hweigh := q.weighChecked_eq allows a.id b.id (.make a.id b.id)
    (q.ask a b .all s).2.contacts (f := (q.ask a b .all s).1.findings) hroom
  rw [hwant] at hweigh
  simp only [judgeConditionalChecked, wantChecked_eq, ok_bind, hweigh]
  rfl

theorem judgeBudgetedChecked_eq {want : UInt64} (a b : Object) {s : Session σ}
    (h : s.findings.contactCount.toNat + want.toNat ≤ q.request.maxContacts.toNat) :
    q.judgeBudgetedChecked want a b s = .ok (q.judgeBudgeted want.toNat a b s) := by
  have hkept := List.length_take_le want.toNat (q.ask a b (.budgeted want.toNat) s).2.contacts
  have hrecord := Findings.recordAllChecked_eq
    (f := { (q.ask a b (.budgeted want.toNat) s).1.findings with collision := true })
    (Nat.le_trans (Nat.add_le_add_left hkept _) h) (.make a.id b.id)
  simp only [judgeBudgetedChecked, judgeBudgeted, hrecord, ok_bind]
  split <;> rfl

theorem inquireChecked_eq (allows? : Option Decider) (a b : Object) (s : Session σ) :
    q.inquireChecked allows? a b s = .ok (q.inquire allows? a b s) := by
  cases allows? with
  | some allows => exact q.judgeConditionalChecked_eq allows a b s
  | none =>
    have hwant := q.toNat_want (.make a.id b.id) s.findings
    simp only [inquireChecked, wantChecked_eq, ok_bind, inquire, UInt64.lt_iff_toNat_lt, hwant]
    cases hb : q.budget (.make a.id b.id) s.findings with
    | zero => rfl
    | succ n =>
      have hroom := (q.budget_eq_zero_or_le (.make a.id b.id) s.findings).resolve_left (by omega)
      rw [hb] at hwant hroom
      rw [← hwant] at hroom
      rw [if_pos (show (0 : UInt64).toNat < n + 1 from Nat.succ_pos n),
        q.judgeBudgetedChecked_eq a b hroom, hwant]
      rfl

theorem examineChecked_eq (allows? : Option Decider) (a b : Object) (s : Session σ) :
    q.examineChecked allows? a b s = .ok (q.examine allows? a b s) := by
  rw [examineChecked, inquireChecked_eq]
  rfl

theorem count_judge_le (s : Session σ) (a b : Object) :
    (q.judge s a b).1.findings.contactCount.toNat ≤
      max s.findings.contactCount.toNat q.request.maxContacts.toNat := by
  rcases q.judge_cases s a b with ⟨_, ht⟩ | ⟨_, _, ht⟩ | ⟨_, _, hx, _⟩
  · rw [ht]
    exact Nat.le_max_left ..
  · rw [ht]
    exact Nat.le_max_left ..
  · have hroom := q.budget_eq_zero_or_le (.make a.id b.id) s.findings
    have hkept := List.length_take_le (q.budget (.make a.id b.id) s.findings)
      (q.offences a b (q.answerTo a b s))
    have hmax := q.request.maxContacts.toNat_lt_size
    have hcount := s.findings.contactCount.toNat_lt_size
    rw [hx.findings, Findings.contactCount_add, Findings.count_recordAll _ _ _ (by omega)]
    omega

/-- No operation on a count fails when a pair is judged: the checked decision is the decision, and
the count of contacts passes neither the total nor, if it was beyond the total, what it was. -/
theorem judgeChecked_eq (s : Session σ) (a b : Object) :
    q.judgeChecked s a b = .ok (q.judge s a b) ∧
      (q.judge s a b).1.findings.contactCount.toNat ≤
        max s.findings.contactCount.toNat q.request.maxContacts.toNat := by
  refine ⟨?_, q.count_judge_le s a b⟩
  simp only [judgeChecked, judge, examineChecked_eq, ok_bind]
  cases s.done with
  | true => rfl
  | false => cases q.standing a.body b.body <;> rfl

end Query

end Clearance
