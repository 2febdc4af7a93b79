import Clearance.Judgement.Query

/-! Exempt pairs, told from the entries of the matrix and the touch links alone. The order in which
a query looks at its policies does not matter: a pair is exempt when either of them exempts it, and
only a pair that neither exempts is given to a decider. -/

namespace Clearance.Query

variable {σ : Type}

/-- Whether `body` is attached and `link` is one of its touch links. -/
def mayTouch (q : Query σ) (link body : BodyId) : Bool := q.attachments.any (·.mayTouch link body)

/-- Whether one body is a robot link, and the other an attached body that it may touch. -/
def isTouchPair (q : Query σ) (a b : Body) : Bool :=
  (a.role = .robotLink && b.role = .robotAttached && q.mayTouch a.id b.id) ||
    (a.role = .robotAttached && b.role = .robotLink && q.mayTouch b.id a.id)

/-- Whether no contact of the pair counts. -/
def isExempt (q : Query σ) (a b : Body) : Bool :=
  (q.entryOf a b).any Allowance.isAlways || q.isTouchPair a b

/-- The decider of a conditional entry. -/
def deciderOf (q : Query σ) (a b : Body) : Option Decider :=
  (q.entryOf a b).bind Allowance.decider?

/-! ### Both ways to name a pair -/

theorem entryOf_comm (q : Query σ) (a b : Body) : q.entryOf a b = q.entryOf b a := by
  unfold entryOf
  simp only [AllowanceMatrix.get?_comm _ a.id b.id]

theorem isTouchPair_comm (q : Query σ) (a b : Body) : q.isTouchPair a b = q.isTouchPair b a := by
  simp only [isTouchPair, Bool.or_comm, Bool.and_comm]

theorem isExempt_comm (q : Query σ) (a b : Body) : q.isExempt a b = q.isExempt b a := by
  rw [isExempt, isExempt, q.entryOf_comm, q.isTouchPair_comm]

theorem deciderOf_comm (q : Query σ) (a b : Body) : q.deciderOf a b = q.deciderOf b a := by
  rw [deciderOf, deciderOf, q.entryOf_comm]

/-! ### The standing of a pair -/

theorem isSome_touchException? (q : Query σ) (a b : Body) :
    (q.touchException? a b).isSome = q.isTouchPair a b := by
  obtain ⟨a, ra⟩ := a
  obtain ⟨b, rb⟩ := b
  cases h : q.attachments with
  | none => simp [touchException?, isTouchPair, mayTouch, h]
  | some r =>
    cases ra <;> cases rb <;>
      simp [touchException?, isTouchPair, mayTouch, h, Body.linkAndAttached] <;> split <;> simp_all

theorem standing_eq (q : Query σ) (a b : Body) :
    q.standing a b = if q.isExempt a b then .exempt
      else match q.deciderOf a b with
        | some d => .conditional d
        | none => .forbidden := by
  have ht := q.isSome_touchException? a b
  cases htp : q.isTouchPair a b with
  | true => simp [standing, isExempt, ht, htp]
  | false =>
    rcases he : q.entryOf a b with _ | _ | _ | d <;>
      simp [standing, isExempt, deciderOf, ht, htp, he, Allowance.isAlways, Allowance.decider?]

theorem standing_of_exempt (q : Query σ) {a b : Body} (h : q.isExempt a b = true) :
    q.standing a b = .exempt := by
  rw [standing_eq, if_pos h]

theorem standing_of_not_exempt (q : Query σ) {a b : Body} (h : q.isExempt a b = false) :
    q.standing a b = match q.deciderOf a b with
      | some d => .conditional d
      | none => .forbidden := by
  rw [standing_eq, h]
  rfl

end Clearance.Query
