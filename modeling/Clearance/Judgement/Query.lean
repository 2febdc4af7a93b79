import Clearance.Body.Attachment
import Clearance.Allowance.Matrix
import Clearance.Judgement.Findings
import Clearance.Judgement.Event
import Clearance.Judgement.Request

/-! Judging one pair of objects. The policies come first: a pair may be exempt, or have its contacts
weighed one by one by a decider, or be forbidden to touch. A pair that is not exempt is put to the
narrow phase once, for all contacts if they are weighed, for as many as may be stored, or for the
presence of one. The session is done when a collision is found and no contact may be stored. -/

namespace Clearance

/-- What a session reads: the request, the policies and the narrow phase. -/
structure Query (σ : Type) where
  request : Request
  narrow : NarrowPhase σ
  matrix : Option AllowanceMatrix := none
  attachments : Option Attachments := none

/-- What a session changes. -/
structure Session (σ : Type) where
  findings : Findings
  /-- The memory of the narrow phase. -/
  memory : σ
  done : Bool := false
  events : List Event := []
  /-- Where the narrow phase puts the contacts of a pair. -/
  buffer : List Contact := []

/-- What the policies say about a pair. -/
inductive Standing where
  | exempt
  | conditional (allows : Decider)
  | forbidden

namespace Session

variable {σ : Type}

def record (s : Session σ) (es : List Event) : Session σ := { s with events := s.events ++ es }

def clearBuffer (s : Session σ) : Session σ := { s with buffer := [] }

end Session

namespace Query

variable {σ : Type}

/-! ### Policies -/

def entryOf (q : Query σ) (a b : Body) : Option Allowance := q.matrix.bind (·.get? a.id b.id)

/-- The link and the attached body of the pair, if the link is one that the body may touch. -/
def touchException? (q : Query σ) (a b : Body) : Option (BodyId × BodyId) :=
  match q.attachments, Body.linkAndAttached a b with
  | some r, some (link, attached) =>
    if r.mayTouch link attached then some (link, attached) else none
  | _, _ => none

/-- A touch link exempts a pair whatever its entry is. -/
def standing (q : Query σ) (a b : Body) : Standing :=
  if (q.touchException? a b).isSome then .exempt
  else
    match q.entryOf a b with
    | some .always => .exempt
    | some (.conditional d) => .conditional d
    | _ => .forbidden

/-- Remarks are made only if the request wants them. -/
def say (q : Query σ) (rs : List Remark) : List Event :=
  if q.request.verbose then rs.map .remarked else []

def policyRemarks (q : Query σ) (a b : Body) : List Remark :=
  let onEntry := match q.entryOf a b with
    | some .always => [Remark.alwaysAllowed a.id b.id]
    | some (.conditional _) => [.conditionallyAllowed a.id b.id]
    | _ => []
  let onTouch := match q.touchException? a b with
    | some (link, attached) => [Remark.touchAllowed link attached]
    | none => []
  onEntry ++ onTouch

/-! ### Contacts -/

/-- How many contacts the pair may store. -/
def budget (q : Query σ) (p : BodyPair) (f : Findings) : Nat :=
  if q.request.contacts then f.budget p q.request.maxPerPair q.request.maxContacts else 0

/-- Puts a probe to the narrow phase, which adds to what is in the buffer. -/
def ask (q : Query σ) (a b : Object) (p : Probe) (s : Session σ) : Session σ × Answer :=
  let (memory, answer) := q.narrow.ask s.memory a b p s.buffer
  ({ s with memory, buffer := answer.contacts }.record
    (.asked a b p s.buffer.length :: answer.refusals.map .refused), answer)

/-- Looks at contacts one by one. A contact that is not allowed is a collision and is stored while
`want` lasts; the scan ends when nothing more may be stored. -/
def weigh (allows : Decider) (a b : BodyId) (p : BodyPair) :
    List Contact → Nat → Findings → Findings × List Event
  | [], _, f => (f, [])
  | c :: cs, want, f =>
    if allows c then
      let (f', es) := weigh allows a b p cs want f
      (f', .weighed c true :: es)
    else
      match want with
      | 0 =>
        ({ f with collision := true }, [.weighed c false, .remarked (.offenderNotStored a b)])
      | 1 =>
        ({ f.record p c with collision := true },
          [.weighed c false, .remarked (.offenderStored a b)])
      | want + 1 =>
        let (f', es) := weigh allows a b p cs want { f.record p c with collision := true }
        (f', .weighed c false :: .remarked (.offenderStored a b) :: es)

/-- Asks for all contacts of a pair and weighs them. -/
def judgeConditional (q : Query σ) (allows : Decider) (a b : Object) (s : Session σ) : Session σ :=
  let pair := BodyPair.make a.id b.id
  let want := q.budget pair s.findings
  let (s, answer) := q.ask a b .all s
  let said := if 0 < answer.count then q.say [.toBeWeighed answer.count a.id b.id] else []
  let (findings, es) := weigh allows a.id b.id pair answer.contacts want s.findings
  { s with findings }.record (said ++ es)

/-- Asks for `want` contacts and stores no more of the answer than that. -/
def judgeBudgeted (q : Query σ) (want : Nat) (a b : Object) (s : Session σ) : Session σ :=
  let (s, answer) := q.ask a b (.budgeted want) s
  if 0 < answer.count then
    let kept := answer.contacts.take want
    let findings := { s.findings with collision := true }.recordAll (.make a.id b.id) kept
    { s with findings }.record (q.say [.contactsFound answer.count a.id b.id kept.length])
  else s

/-- Asks whether there is a contact. -/
def judgePresence (q : Query σ) (a b : Object) (s : Session σ) : Session σ :=
  let (s, answer) := q.ask a b .presence s
  if 0 < answer.count then
    { s with findings := { s.findings with collision := true } }.record
      (q.say [.contactFound a.id b.id])
  else s

/-! ### Decisions -/

/-- Whether findings leave nothing to look for. -/
def isSatisfied (q : Query σ) (f : Findings) : Bool :=
  f.collision && (!q.request.contacts || q.request.maxContacts ≤ f.contactCount)

/-- Ends the session if nothing is left to look for. -/
def conclude (q : Query σ) (s : Session σ) : Session σ :=
  if q.isSatisfied s.findings then
    { s with done := true }.record (q.say [.complete s.findings.contactCount])
  else s

/-- Puts the one question about a pair that fits its policies and its budget. -/
def inquire (q : Query σ) (allows? : Option Decider) (a b : Object) (s : Session σ) : Session σ :=
  match allows? with
  | some allows => q.judgeConditional allows a b s
  | none =>
    match q.budget (.make a.id b.id) s.findings with
    | 0 => q.judgePresence a b s
    | want => q.judgeBudgeted want a b s

/-- The decision about a pair that is not exempt. The buffer is emptied of what earlier pairs left in
it, and again of what is not stored. -/
def examine (q : Query σ) (allows? : Option Decider) (a b : Object) (s : Session σ) : Session σ :=
  (q.inquire allows? a b s.clearBuffer).clearBuffer

/-- Judges a pair and tells whether the session is done. -/
def judge (q : Query σ) (s : Session σ) (a b : Object) : Session σ × Bool :=
  if s.done then (s, true)
  else
    let s := s.record (q.say (q.policyRemarks a.body b.body))
    match q.standing a.body b.body with
    | .exempt => (s, false)
    | .conditional allows =>
      let s := q.conclude (q.examine (some allows) a b s)
      (s, s.done)
    | .forbidden =>
      let s := q.conclude (q.examine none a b s)
      (s, s.done)

/-- Judges pairs one after the other. -/
def judgeAll (q : Query σ) (ps : List (Object × Object)) (s : Session σ) : Session σ :=
  ps.foldl (fun s p => (q.judge s p.1 p.2).1) s

@[simp] theorem judgeAll_nil (q : Query σ) (s : Session σ) : q.judgeAll [] s = s := rfl

@[simp] theorem judgeAll_cons (q : Query σ) (p : Object × Object) (ps : List (Object × Object))
    (s : Session σ) : q.judgeAll (p :: ps) s = q.judgeAll ps (q.judge s p.1 p.2).1 := rfl

theorem judgeAll_append (q : Query σ) (ps qs : List (Object × Object)) (s : Session σ) :
    q.judgeAll (ps ++ qs) s = q.judgeAll qs (q.judgeAll ps s) := List.foldl_append

theorem judge_of_done (q : Query σ) {s : Session σ} (h : s.done = true) (a b : Object) :
    q.judge s a b = (s, true) := by simp [judge, h]

end Query

end Clearance
