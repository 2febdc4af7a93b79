import Clearance.Proofs.Contact.Answers
import Clearance.Proofs.Judgement.Examination

/-! The verdict of a query. Which of the three questions a pair is put to depends on budgets that
change along the run, and the run may end before its last pair; neither shows in the verdict. There
is a collision exactly when some pair that is not exempt has contacts, and for a pair with a decider,
one that the decider does not allow. -/

namespace Clearance.Query

open NarrowPhase

variable {σ : Type}

/-- Whether a pair with these contacts is a collision by its policies. -/
def Collides (q : Query σ) (found : List Contact) (a b : Body) : Prop :=
  q.isExempt a b = false ∧
    match q.deciderOf a b with
    | some allows => ∃ c ∈ found, allows c = false
    | none => found ≠ []

section

variable {q : Query σ} {contacts : Object → Object → List Contact}

/-- Whatever the budget makes of the question, the answer tells whether the pair offends. -/
theorem isOffence_iff (hn : q.narrow.Tells contacts) {a b : Object}
    (he : q.isExempt a.body b.body = false) (s : Session σ) :
    q.isOffence a b (q.answerTo a b s) = true ↔ q.Collides (contacts a b) a.body b.body := by
  unfold Collides isOffence answerTo probeOf
  cases q.deciderOf a.body b.body with
  | some allows => simp [he, hn.all]
  | none =>
    by_cases hw : q.budget (.make a.id b.id) s.findings = 0
    · simpa [he, hw] using hn.presence s.memory a b
    · have hlt := q.budget_lt_size (.make a.id b.id) s.findings
      simpa [he, hw] using hn.budgeted s.memory a b _ (Nat.pos_of_ne_zero hw) hlt

theorem collision_judge_iff (hn : q.narrow.Tells contacts) {s : Session σ} (hs : q.IsSettled s)
    (a b : Object) :
    (q.judge s a b).1.findings.collision = true ↔ s.findings.collision = true ∨
      q.Collides (contacts a b) a.body b.body := by
  rcases q.judge_cases s a b with ⟨hd, ht⟩ | ⟨hd, he, ht⟩ | ⟨hd, he, ht, _⟩
  · -- a settled session has its collision already
    simp [ht, collision_of_isSatisfied (hs hd)]
  · simp [ht, Session.record, Collides, he]
  · rw [ht.findings, Findings.collision_add, Bool.or_eq_true, isOffence_iff hn he]

theorem collision_judgeAll (hn : q.narrow.Tells contacts) (ps : List (Object × Object))
    {s : Session σ} (hs : q.IsSettled s) :
    (q.judgeAll ps s).findings.collision = true ↔ s.findings.collision = true ∨
      ∃ p ∈ ps, q.Collides (contacts p.1 p.2) p.1.body p.2.body := by
  induction ps generalizing s with
  | nil => simp
  | cons p ps ih =>
    rw [judgeAll_cons, ih (q.isSettled_judge hs p.1 p.2), collision_judge_iff hn hs, or_assoc]
    simp only [List.mem_cons, exists_eq_or_imp]

end

/-- A query that starts without a collision ends with one exactly when some pair collides. -/
theorem collision_judgeAll_iff (q : Query σ)
    {answer : Object → Object → Probe → List Contact → Answer} (ha : q.narrow.AnswersBy answer)
    (hp : AgreesOnPresence answer) (ps : List (Object × Object)) (findings : Findings) (memory : σ)
    (hf : findings.collision = false) :
    (q.judgeAll ps { findings, memory }).findings.collision = true ↔
      ∃ p ∈ ps, q.Collides (answer p.1 p.2 .all []).contacts p.1.body p.2.body := by
  rw [collision_judgeAll (ha.tells hp) ps (q.isSettled_start findings memory)]
  simp [hf]

/-- A hand that holds a cup and may touch a table lightly. All other contacts are as the script has
them for every pair. -/
def handOverTable : Query Unit where
  request := .withContacts 1 1
  narrow := ScriptBook.narrowPhase ⟨[], { contacts := [{ depth := 0.005 }, { depth := 0.02 }] }⟩
  matrix := some (.set .empty "hand" "table" (.conditional fun c => decide (c.depth < 0.01)))
  attachments := some (Attachments.empty.attach "cup" (.make "hand" ["hand"])).2

theorem lists_handOverTable : handOverTable.narrow.Lists fun a b =>
    ({ contacts := [{ depth := 0.005 }, { depth := 0.02 }] } : Script).contactsFor a b :=
  ScriptBook.lists_narrowPhase fun _ _ => ⟨rfl, rfl, rfl⟩

/-- Nothing more may be stored and the cup is exempt, but the second contact with the table is too
deep. -/
theorem collision_handOverTable :
    (⟨false, 7, .empty⟩ : Findings).collision = false ∧
    (handOverTable.judgeAll
      [(.ball 1 (.robotAttached "cup"), Object.ball 0 (.robotLink "hand")),
        (Object.ball 0 (.robotLink "hand"), Object.ball 2 (.worldObject "table"))]
      { findings := ⟨false, 7, .empty⟩, memory := () }).findings.collision = true := by
  have ha := ScriptBook.answersBy_narrowPhase
    ⟨[], { contacts := [{ depth := 0.005 }, { depth := 0.02 }] }⟩
  refine ⟨rfl, (collision_judgeAll_iff handOverTable ha (lists_handOverTable.tells.agreesOnPresence ha ())
    _ _ () rfl).2 ⟨_, .tail _ (.head _), by decide, ?_⟩⟩
  exact ⟨_, .tail _ (.head _), by decide⟩

end Clearance.Query
