import Clearance.Proofs.Contact.Answers
import Clearance.Proofs.Judgement.Chain
import Clearance.Proofs.Judgement.Quota

/-! The end of a session. A session ends exactly when its findings satisfy the query, and then no
pair has a budget and the collision is on record, so that a decision made all the same would find
nothing new. Hence a run may end early, or be cut in two sessions, and the findings are the same. -/

namespace Clearance

theorem Findings.add_nil_of_collision {f : Findings} (h : f.collision = true) (p : BodyPair)
    (hit : Bool) : f.add p [] hit = f := by
  obtain ⟨collision, contactCount, buckets⟩ := f
  cases h
  rfl

namespace Query

variable {σ : Type} {q : Query σ}

/-! ### Findings that satisfy a query -/

theorem isSatisfied_iff (q : Query σ) (f : Findings) : q.isSatisfied f = true ↔
    f.collision = true ∧
      (q.request.contacts = false ∨ q.request.maxContacts ≤ f.contactCount) := by
  rw [isSatisfied, Bool.and_eq_true, Bool.or_eq_true, Bool.not_eq_true', decide_eq_true_iff]

theorem budget_of_isSatisfied {f : Findings} (h : q.isSatisfied f = true) (p : BodyPair) :
    q.budget p f = 0 := by
  rcases ((q.isSatisfied_iff f).mp h).2 with hc | hfull
  · exact q.budget_of_unwanted hc
  · have hle := (q.budget_le p f).2
    rw [UInt64.le_iff_toNat_le] at hfull
    omega

/-! ### Decisions as a function of the findings -/

section

variable {answer : Object → Object → Probe → List Contact → Answer}

/-- The findings after a full decision of a pair, when the narrow phase answers by a function. -/
def decided (q : Query σ) (answer : Object → Object → Probe → List Contact → Answer)
    (f : Findings) (a b : Object) : Findings :=
  if q.isExempt a.body b.body then f
  else
    let r := answer a b (q.probeOf a b f) []
    f.add (.make a.id b.id) ((q.offences a b r).take (q.budget (.make a.id b.id) f))
      (q.isOffence a b r)

/-- Nothing is stored and the collision is known. -/
theorem decided_of_isSatisfied {f : Findings} (h : q.isSatisfied f = true) (a b : Object) :
    q.decided answer f a b = f := by
  unfold decided
  split
  · rfl
  · dsimp only
    rw [budget_of_isSatisfied h, List.take_zero,
      Findings.add_nil_of_collision (collision_of_isSatisfied h)]

/-- A decision about the findings is a full one, also where the session is done. -/
theorem findings_judge (ha : q.narrow.AnswersBy answer) {s : Session σ} (hs : q.IsSettled s)
    (a b : Object) : (q.judge s a b).1.findings = q.decided answer s.findings a b := by
  rcases q.judge_cases s a b with ⟨hd, ht⟩ | ⟨_, he, ht⟩ | ⟨_, he, hx, _⟩
  · rw [ht, decided_of_isSatisfied (hs hd)]
  · rw [ht, decided, if_pos he]
    rfl
  · rw [hx.findings, decided, he, answerTo, ha]
    rfl

theorem findings_judgeAll (ha : q.narrow.AnswersBy answer) (ps : List (Object × Object))
    {s : Session σ} (hs : q.IsSettled s) : (q.judgeAll ps s).findings =
      ps.foldl (fun f p => q.decided answer f p.1 p.2) s.findings := by
  induction ps generalizing s with
  | nil => rfl
  | cons p ps ih =>
    rw [judgeAll_cons, ih (q.isSettled_judge hs p.1 p.2), findings_judge ha hs, List.foldl_cons]

/-- A run that goes on in a new session ends with the findings of one run; and where a run has
ended, the full decision of any other pair leaves the findings as they are. -/
theorem findings_judgeAll_resumed (q : Query σ) (ha : q.narrow.AnswersBy answer)
    (ps rs : List (Object × Object)) (findings : Findings) (memory memory' : σ) :
    let s := q.judgeAll ps { findings, memory }
    (q.judgeAll rs { findings := s.findings, memory := memory' }).findings =
        (q.judgeAll (ps ++ rs) { findings, memory }).findings ∧
      (s.done = true → ∀ a b,
        (q.judge { s with done := false } a b).1.findings = s.findings) := by
  intro s
  have hstart := q.isSettled_start findings memory
  constructor
  · rw [findings_judgeAll ha rs (q.isSettled_start s.findings memory'),
      findings_judgeAll ha (ps ++ rs) hstart, List.foldl_append, ← findings_judgeAll ha ps hstart]
  · intro hd a b
    have hs : q.IsSettled s := q.judgeAll_invariant (P := fun _ t => q.IsSettled t) hstart
      (fun _ _ a b ht => q.isSettled_judge ht a b) ps
    rw [findings_judge ha fun h => absurd h (by simp)]
    exact decided_of_isSatisfied (hs hd) a b

end

/-- Adds three contacts whatever the probe is, and says that they are nine. -/
def overstatement : ScriptBook where
  pairs := []
  otherwise :=
    { contacts := [{ depth := 1 }, { depth := 2 }, { depth := 3 }]
      count? := some 9
      uncapped := true
      pushAlways := true }

/-- Two contacts are wanted, one for each pair. -/
def oneForEach : Query Unit where
  request := .withContacts 2 1
  narrow := overstatement.narrowPhase

/-- The first session has what it wants before its last pair, and a second one adds nothing. -/
theorem findings_oneForEach :
    let hand := Object.ball 0 (.robotLink "hand")
    let wall := Object.ball 1 (.worldObject "wall")
    let shelf := Object.ball 2 (.worldObject "shelf")
    let s := oneForEach.judgeAll [(hand, wall), (hand, shelf), (wall, shelf)]
      { findings := .empty, memory := () }
    oneForEach.narrow.AnswersBy
        (fun a b p held => (overstatement.find a.id b.id).answer a b p held) ∧
      s.done = true ∧
      (oneForEach.judgeAll [(shelf, wall)] { findings := s.findings, memory := () }).findings =
        (oneForEach.judgeAll [(hand, wall), (hand, shelf), (wall, shelf), (shelf, wall)]
          { findings := .empty, memory := () }).findings ∧
      (oneForEach.judge { s with done := false } wall shelf).1.findings = s.findings := by
  intro hand wall shelf s
  have ha := overstatement.answersBy_narrowPhase
  have hd : s.done = true := by decide +kernel
  have h := findings_judgeAll_resumed oneForEach ha [(hand, wall), (hand, shelf), (wall, shelf)]
    [(shelf, wall)] .empty () ()
  exact ⟨ha, hd, h.1, h.2 hd wall shelf⟩

/-! ### The end -/

theorem done_judge {s : Session σ} (hs : s.done = q.isSatisfied s.findings) (a b : Object) :
    (q.judge s a b).1.done = q.isSatisfied (q.judge s a b).1.findings := by
  rcases q.judge_cases s a b with ⟨_, ht⟩ | ⟨_, _, ht⟩ | ⟨_, _, _, ht⟩
  · rw [ht, hs]
  · rw [ht]
    exact hs
  · exact ht

/-- After any decisions from empty findings, the session is done exactly when the findings satisfy
the query. Each decision returns whether it is done; a session that is done stays as it is, memory
and events included; and if contacts are wanted, it has exactly as many as were wanted. -/
theorem done_judgeAll (q : Query σ) (ps : List (Object × Object)) (memory : σ) :
    let s := q.judgeAll ps { findings := .empty, memory }
    (s.done = true ↔ s.findings.collision = true ∧
      (q.request.contacts = false ∨ q.request.maxContacts ≤ s.findings.contactCount)) ∧
    (∀ a b, (q.judge s a b).2 = (q.judge s a b).1.done) ∧
    (s.done = true → ∀ rs, q.judgeAll rs s = s ∧
      ∀ a b, q.judge (q.judgeAll rs s) a b = (s, true)) ∧
    (q.request.contacts = true → s.done = true →
      s.findings.contactCount = q.request.maxContacts) := by
  intro s
  have hdone : s.done = q.isSatisfied s.findings :=
    q.judgeAll_invariant (P := fun _ t => t.done = q.isSatisfied t.findings) rfl
      (fun _ _ a b ht => done_judge ht a b) ps
  have hquota : q.WithinQuota ps s.findings :=
    q.judgeAll_invariant (P := fun ps t => q.WithinQuota ps t.findings) q.withinQuota_empty
      withinQuota_judge ps
  refine ⟨by rw [hdone, isSatisfied_iff], q.snd_judge s, fun hd rs => ?_, fun hc hd => ?_⟩
  · rw [q.judgeAll_of_done rs hd]
    exact ⟨rfl, q.judge_of_done hd⟩
  · have hfull := maxContacts_le_of_isSatisfied hc (hdone ▸ hd)
    exact UInt64.le_antisymm hquota.count_le (UInt64.le_iff_toNat_le.mpr hfull)

theorem done_oneForEach :
    let hand := Object.ball 0 (.robotLink "hand")
    let wall := Object.ball 1 (.worldObject "wall")
    let shelf := Object.ball 2 (.worldObject "shelf")
    let s := oneForEach.judgeAll [(hand, wall), (hand, shelf)]
      { findings := .empty, memory := () }
    s.done = true ∧ s.findings.contactCount = oneForEach.request.maxContacts ∧
      ∀ rs, oneForEach.judgeAll rs s = s := by
  intro hand wall shelf
  have hd : (oneForEach.judgeAll [(hand, wall), (hand, shelf)]
      { findings := .empty, memory := () }).done = true := by decide +kernel
  obtain ⟨-, -, hstays, hcount⟩ := done_judgeAll oneForEach [(hand, wall), (hand, shelf)] ()
  exact ⟨hd, hcount rfl hd, fun rs => (hstays hd rs).1⟩

end Query

end Clearance
