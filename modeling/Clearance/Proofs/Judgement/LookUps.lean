import Clearance.Proofs.Contact.Answers
import Clearance.Proofs.Judgement.Examination

/-! What a query reads of its policies. It goes to the entries of the matrix and to the attachments
themselves, and either table may be missing; but all that it takes from them are look-ups. An entry
that says never is as good as none, and a missing table as good as an empty one, so policies that
answer every look-up alike cannot be told apart by any row of decisions. -/

namespace Clearance.Query

variable {σ : Type}

/-! ### Look-ups -/

/-- What the matrix says about a pair. A missing matrix says what an empty one does. -/
def lookup (q : Query σ) (a b : BodyId) : Allowance := (q.matrix.getD .empty).lookup a b

/-- Whether the attachments let a link touch a body. Missing ones let none. -/
def letsTouch (q : Query σ) (link body : BodyId) : Bool :=
  (q.attachments.getD .empty).mayTouch link body

theorem getD_entryOf (q : Query σ) (a b : Body) :
    (q.entryOf a b).getD .never = q.lookup a.id b.id := by
  unfold entryOf lookup
  cases q.matrix <;> rfl

theorem touchException?_eq (q : Query σ) (a b : Body) :
    q.touchException? a b = (Body.linkAndAttached a b).filter fun p => q.letsTouch p.1 p.2 := by
  unfold touchException? letsTouch
  cases q.attachments with
  | none => cases Body.linkAndAttached a b <;> rfl
  | some r => cases Body.linkAndAttached a b <;> rfl

/-- No entry and an entry that says never lead to the same standing. -/
theorem standing_eq_lookup (q : Query σ) (a b : Body) : q.standing a b =
    if (q.touchException? a b).isSome then .exempt
    else match q.lookup a.id b.id with
      | .always => .exempt
      | .conditional d => .conditional d
      | .never => .forbidden := by
  rw [standing, ← getD_entryOf]
  rcases q.entryOf a b with _ | _ | _ | d <;> rfl

/-- Neither of them is worth a remark. -/
theorem policyRemarks_eq_lookup (q : Query σ) (a b : Body) : q.policyRemarks a b =
    (match q.lookup a.id b.id with
      | .always => [Remark.alwaysAllowed a.id b.id]
      | .conditional _ => [.conditionallyAllowed a.id b.id]
      | .never => []) ++
    (match q.touchException? a b with
      | some (link, attached) => [Remark.touchAllowed link attached]
      | none => []) := by
  rw [policyRemarks, ← getD_entryOf]
  rcases q.entryOf a b with _ | _ | _ | d <;> rfl

/-! ### Queries that cannot be told apart -/

/-- One request and one narrow phase, under policies that answer every look-up alike. -/
structure SameLookUps (q r : Query σ) : Prop where
  request : q.request = r.request
  narrow : q.narrow = r.narrow
  lookup : ∀ a b, q.lookup a b = r.lookup a b
  letsTouch : ∀ link body, q.letsTouch link body = r.letsTouch link body

section

variable {q r : Query σ}

theorem SameLookUps.touchException? (h : q.SameLookUps r) (a b : Body) :
    q.touchException? a b = r.touchException? a b := by
  simp only [touchException?_eq, h.letsTouch]

theorem SameLookUps.standing (h : q.SameLookUps r) (a b : Body) :
    q.standing a b = r.standing a b := by
  rw [standing_eq_lookup, standing_eq_lookup, h.touchException?, h.lookup]

theorem SameLookUps.policyRemarks (h : q.SameLookUps r) (a b : Body) :
    q.policyRemarks a b = r.policyRemarks a b := by
  rw [policyRemarks_eq_lookup, policyRemarks_eq_lookup, h.touchException?, h.lookup]

/-- Once a pair has its standing, the policies are not looked at again. -/
theorem examine_congr (hr : q.request = r.request) (hn : q.narrow = r.narrow)
    (d : Option Decider) (a b : Object) (s : Session σ) :
    q.examine d a b s = r.examine d a b s := by
  obtain ⟨_, _, _, _⟩ := q
  obtain ⟨_, _, _, _⟩ := r
  cases hr
  cases hn
  rfl

theorem conclude_congr (hr : q.request = r.request) (s : Session σ) :
    q.conclude s = r.conclude s := by
  unfold conclude isSatisfied say
  rw [hr]

theorem SameLookUps.judge (h : q.SameLookUps r) (s : Session σ) (a b : Object) :
    q.judge s a b = r.judge s a b := by
  have hsay : q.say (q.policyRemarks a.body b.body) = r.say (r.policyRemarks a.body b.body) := by
    rw [say, say, h.request, h.policyRemarks]
  simp only [Query.judge, hsay, h.standing, examine_congr h.request h.narrow,
    conclude_congr h.request]

/-- Decisions under policies that answer every look-up alike return the same and leave the same
session: findings, memory, end and events, and with these the calls and the log. -/
theorem judgeEach_eq_of_sameLookUps (h : q.SameLookUps r) (ps : List (Object × Object))
    (s : Session σ) : q.judgeEach ps s = r.judgeEach ps s := by
  induction ps generalizing s with
  | nil => rfl
  | cons p ps ih => simp only [judgeEach, h.judge, ih]

end

/-- Allows what is less than a centimetre deep. -/
def shallow : Decider := fun c => decide (c.depth < 0.01)

/-- Everything is spelled out: an entry that says never, an entry that replaces another, and a cup
without touch links. -/
def spelledOut : Query Unit where
  request := { Request.withContacts 3 2 with verbose := true }
  narrow := ScriptBook.narrowPhase ⟨[], { contacts := [{ depth := 0.005 }, { depth := 0.02 }] }⟩
  matrix := some (((AllowanceMatrix.empty.set "hand" "wall" .never).set "table" "hand" .always).set
    "table" "hand" (.conditional shallow))
  attachments := some (Attachments.empty.attach "cup" (.make "hand" [])).2

/-- The same with one entry, the other way round, and nothing attached. -/
def leftOut : Query Unit where
  request := spelledOut.request
  narrow := spelledOut.narrow
  matrix := some (AllowanceMatrix.empty.set "hand" "table" (.conditional shallow))

theorem sameLookUps_spelledOut : spelledOut.SameLookUps leftOut where
  request := rfl
  narrow := rfl
  lookup a b := by
    have htable : BodyPair.make "table" "hand" = .make "hand" "table" := BodyPair.make_comm ..
    simp only [lookup, spelledOut, leftOut, Option.getD_some, AllowanceMatrix.lookup,
      AllowanceMatrix.get?_set, AllowanceMatrix.get?_empty, htable]
    split
    · rfl
    · split <;> rfl
  letsTouch link body := by
    simp only [letsTouch, spelledOut, leftOut, Option.getD_some, Option.getD_none,
      Attachments.mayTouch, Attachments.attached?_attach, Attachments.attached?_empty]
    split <;> rfl

theorem judgeEach_spelledOut :
    let hand := Object.ball 0 (.robotLink "hand")
    let cup := Object.ball 1 (.robotAttached "cup")
    let wall := Object.ball 2 (.worldObject "wall")
    let table := Object.ball 3 (.worldObject "table")
    let ps := [(hand, wall), (hand, cup), (table, hand)]
    spelledOut.SameLookUps leftOut ∧
      (spelledOut.entryOf hand.body wall.body).isSome = true ∧
      (leftOut.entryOf hand.body wall.body).isSome = false ∧
      spelledOut.judgeEach ps { findings := .empty, memory := () } =
        leftOut.judgeEach ps { findings := .empty, memory := () } := by
  intro hand cup wall table ps
  exact ⟨sameLookUps_spelledOut, by decide +kernel, by decide +kernel,
    judgeEach_eq_of_sameLookUps sameLookUps_spelledOut ps _⟩

end Clearance.Query
