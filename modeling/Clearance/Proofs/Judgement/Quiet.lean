import Clearance.Proofs.Judgement.Calls

/-! Explanations do not interfere. A query that is asked to explain itself makes its remarks in the
same places where it changes the session; without them, the session is that of the query which keeps
quiet, down to the questions, the verdicts of deciders, the refusals and the remarks for debugging,
which are made in either case. This holds for decisions and searches in any order. -/

namespace Clearance

variable {σ : Type}

/-- An explanation: a remark at the level of information. -/
def Event.isInfo : Event → Bool
  | remarked r => r.level = .info
  | _ => false

/-- The session without its explanations. -/
def Session.hushed (s : Session σ) : Session σ :=
  { s with events := s.events.filter (!·.isInfo) }

/-! ### The log -/

theorem logOf_filter (es : List Event) :
    logOf (es.filter (!·.isInfo)) = (logOf es).filter (·.level ≠ .info) := by
  induction es with
  | nil => rfl
  | cons e es ih =>
    cases e with
    | asked => exact ih
    | weighed => exact ih
    | refused r => exact congrArg (r.line :: ·) ih
    | remarked r =>
      by_cases hr : r.level = .info
      · simpa [logOf, Event.isInfo, Event.logLine?, Remark.line, hr] using ih
      · simpa [logOf, Event.isInfo, Event.logLine?, Remark.line, hr] using ih

theorem callsOf_filter (es : List Event) : callsOf (es.filter (!·.isInfo)) = callsOf es := by
  have hcall : ∀ e : Event, (e.isCall && !e.isInfo) = e.isCall := by
    intro e
    cases e <;> rfl
  simp only [callsOf, List.filter_filter, hcall]

theorem Session.hushed_record (s : Session σ) (es : List Event) :
    (s.record es).hushed = s.hushed.record (es.filter (!·.isInfo)) := by
  simp only [Session.hushed, Session.record, List.filter_append]

namespace Query

/-- The same query, asked to explain itself or not. -/
def withVerbose (q : Query σ) (verbose : Bool) : Query σ :=
  { q with request := { q.request with verbose } }

variable {q : Query σ}

/-! ### What is said -/

theorem say_quiet (rs : List Remark) : (q.withVerbose false).say rs = [] := rfl

theorem filter_say {rs : List Remark} (h : ∀ r ∈ rs, r.level = .info) :
    (q.say rs).filter (!·.isInfo) = [] := by
  unfold say
  split
  · refine List.filter_eq_nil_iff.mpr fun e he => ?_
    obtain ⟨r, hr, rfl⟩ := List.mem_map.mp he
    simp [Event.isInfo, h r hr]
  · rfl

theorem level_policyRemarks (a b : Body) : ∀ r ∈ q.policyRemarks a b, r.level = .info := by
  unfold policyRemarks
  rcases q.entryOf a b with _ | _ | _ | d <;> cases q.touchException? a b <;> simp [Remark.level]

/-- Of what a scan reports, nothing is an explanation. -/
theorem filter_weigh (allows : Decider) (a b : BodyId) (p : BodyPair) (cs : List Contact)
    (want : Nat) (f : Findings) :
    (weigh allows a b p cs want f).2.filter (!·.isInfo) = (weigh allows a b p cs want f).2 := by
  induction cs generalizing want f with
  | nil => rfl
  | cons c cs ih =>
    cases h : allows c with
    | true => simpa [weigh, h, Event.isInfo] using ih want f
    | false =>
      rcases want with _ | _ | want
      · simp [weigh, h, Event.isInfo, Remark.level]
      · simp [weigh, h, Event.isInfo, Remark.level]
      · simpa [weigh, h, Event.isInfo, Remark.level] using
          ih (want + 1) { f.record p c with collision := true }

/-! ### The three questions -/

theorem ask_quiet (a b : Object) (p : Probe) (s : Session σ) :
    (q.withVerbose false).ask a b p s.hushed = ((q.ask a b p s).1.hushed, (q.ask a b p s).2) := by
  have hkept : (Event.asked a b p s.buffer.length ::
      (q.narrow.ask s.memory a b p s.buffer).2.refusals.map .refused).filter (!·.isInfo) =
      .asked a b p s.buffer.length ::
        (q.narrow.ask s.memory a b p s.buffer).2.refusals.map .refused := by
    simp [Event.isInfo]
  simp only [ask, Session.hushed_record, hkept]
  rfl

theorem hushed_judgeConditional (allows : Decider) (a b : Object) (s : Session σ) :
    (q.judgeConditional allows a b s).hushed =
      (q.withVerbose false).judgeConditional allows a b s.hushed := by
  have hsaid : (if 0 < (q.ask a b .all s).2.count
      then q.say [.toBeWeighed (q.ask a b .all s).2.count a.id b.id] else []).filter (!·.isInfo) =
      [] := by
    split
    · exact filter_say (by simp [Remark.level])
    · rfl
  simp only [judgeConditional, ask_quiet]
  rw [Session.hushed_record, List.filter_append, hsaid, filter_weigh, say_quiet, ite_self]
  rfl

theorem hushed_judgeBudgeted (want : Nat) (a b : Object) (s : Session σ) :
    (q.judgeBudgeted want a b s).hushed =
      (q.withVerbose false).judgeBudgeted want a b s.hushed := by
  simp only [judgeBudgeted, ask_quiet]
  split
  · rw [Session.hushed_record, filter_say (by simp [Remark.level]), say_quiet]
    rfl
  · rfl

theorem hushed_judgePresence (a b : Object) (s : Session σ) :
    (q.judgePresence a b s).hushed = (q.withVerbose false).judgePresence a b s.hushed := by
  simp only [judgePresence, ask_quiet]
  split
  · rw [Session.hushed_record, filter_say (by simp [Remark.level]), say_quiet]
    rfl
  · rfl

theorem hushed_examine (d : Option Decider) (a b : Object) (s : Session σ) :
    (q.examine d a b s).hushed = (q.withVerbose false).examine d a b s.hushed := by
  have hinquire : (q.inquire d a b s.clearBuffer).hushed =
      (q.withVerbose false).inquire d a b s.clearBuffer.hushed := by
    cases d with
    | some allows => exact hushed_judgeConditional allows a b s.clearBuffer
    | none =>
      have hbudget : (q.withVerbose false).budget (.make a.id b.id) s.clearBuffer.hushed.findings =
          q.budget (.make a.id b.id) s.clearBuffer.findings := rfl
      simp only [inquire, hbudget]
      split
      · exact hushed_judgePresence a b s.clearBuffer
      · exact hushed_judgeBudgeted _ a b s.clearBuffer
  exact congrArg Session.clearBuffer hinquire

theorem hushed_conclude (s : Session σ) :
    (q.conclude s).hushed = (q.withVerbose false).conclude s.hushed := by
  by_cases hs : q.isSatisfied s.findings = true
  · rw [conclude, conclude, if_pos hs,
      if_pos (show (q.withVerbose false).isSatisfied s.hushed.findings = true from hs),
      Session.hushed_record, filter_say (by simp [Remark.level])]
    rfl
  · rw [conclude, conclude, if_neg hs,
      if_neg (show ¬ (q.withVerbose false).isSatisfied s.hushed.findings = true from hs)]

/-! ### Decisions and searches -/

/-- A decision without its explanations is the decision of the query that keeps quiet. -/
theorem hushed_judge (s : Session σ) (a b : Object) :
    (q.judge s a b).1.hushed = ((q.withVerbose false).judge s.hushed a b).1 := by
  have hstart : (s.record (q.say (q.policyRemarks a.body b.body))).hushed =
      s.hushed.record ((q.withVerbose false).say (q.policyRemarks a.body b.body)) := by
    rw [Session.hushed_record, filter_say (level_policyRemarks a.body b.body), say_quiet]
  cases hd : s.done with
  | true => rw [q.judge_of_done hd, (q.withVerbose false).judge_of_done (s := s.hushed) hd]
  | false =>
    cases he : q.isExempt a.body b.body with
    | true =>
      rw [q.judge_of_exempt hd he, (q.withVerbose false).judge_of_exempt (s := s.hushed) hd he]
      exact hstart
    | false =>
      rw [q.judge_of_not_exempt hd he,
        (q.withVerbose false).judge_of_not_exempt (s := s.hushed) hd he, hushed_conclude,
        hushed_examine, hstart]
      rfl

theorem snd_judge_quiet (s : Session σ) (a b : Object) :
    (q.judge s a b).2 = ((q.withVerbose false).judge s.hushed a b).2 := by
  rw [snd_judge, snd_judge, ← hushed_judge]
  rfl

theorem hushed_judgeAll (ps : List (Object × Object)) (s : Session σ) :
    (q.judgeAll ps s).hushed = (q.withVerbose false).judgeAll ps s.hushed := by
  induction ps generalizing s with
  | nil => rfl
  | cons p ps ih => rw [judgeAll_cons, judgeAll_cons, ih, hushed_judge]

end Query

/-- What can be done with a session: a decision about one pair, or a search. -/
inductive Act where
  | judge (a b : Object)
  | search (c : Search)

namespace Query

variable {q : Query σ}

def act (q : Query σ) : Act → Session σ → Session σ × Bool
  | .judge a b, s => q.judge s a b
  | .search c, s => q.search c s

/-- The session after a row of acts and what each of them returns. -/
def actEach (q : Query σ) : List Act → Session σ → Session σ × List Bool
  | [], s => (s, [])
  | c :: cs, s =>
    let (s, stop) := q.act c s
    let (s, stops) := actEach q cs s
    (s, stop :: stops)

theorem act_quiet (c : Act) (s : Session σ) :
    (q.withVerbose false).act c s.hushed = ((q.act c s).1.hushed, (q.act c s).2) := by
  cases c with
  | judge a b => exact Prod.ext (hushed_judge s a b).symm (snd_judge_quiet s a b).symm
  | search c =>
    simp only [act, search_eq, ← hushed_judgeAll]
    rfl

theorem actEach_quiet (cs : List Act) (s : Session σ) : (q.withVerbose false).actEach cs s.hushed =
    ((q.actEach cs s).1.hushed, (q.actEach cs s).2) := by
  induction cs generalizing s with
  | nil => rfl
  | cons c cs ih => simp only [actEach, act_quiet, ih]

/-- Two runs of decisions and searches that differ only in whether the query explains itself return
the same, ask the same and end with the same session but for the explanations. The log of the one,
without the lines at the level of information, is the log of the other, which has no such line. -/
theorem actEach_withVerbose (q : Query σ) (cs : List Act) (findings : Findings) (memory : σ)
    (done : Bool) (buffer : List Contact) :
    let s : Session σ := { findings, memory, done, buffer }
    let loud := (q.withVerbose true).actEach cs s
    let quiet := (q.withVerbose false).actEach cs s
    quiet.2 = loud.2 ∧ quiet.1 = loud.1.hushed ∧
      quiet.1.findings = loud.1.findings ∧ quiet.1.done = loud.1.done ∧
      callsOf quiet.1.events = callsOf loud.1.events ∧
      logOf quiet.1.events = (logOf loud.1.events).filter (·.level ≠ .info) ∧
      ∀ l ∈ logOf quiet.1.events, l.level ≠ .info := by
  intro s loud quiet
  have hquiet : quiet = (loud.1.hushed, loud.2) := actEach_quiet (q := q.withVerbose true) cs s
  have hlog : logOf quiet.1.events = (logOf loud.1.events).filter (·.level ≠ .info) := by
    rw [hquiet]
    exact logOf_filter loud.1.events
  rw [hquiet] at hlog ⊢
  refine ⟨rfl, rfl, rfl, rfl, callsOf_filter loud.1.events, hlog, fun l hl => ?_⟩
  rw [hlog, List.mem_filter] at hl
  exact of_decide_eq_true hl.2

end Query

end Clearance
