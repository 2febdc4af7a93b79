import Clearance.Proofs.Judgement.Remarks

/-! The log tells the truth about what is stored. A decision under a decider writes one line for
each contact that it stores; a contact that is rejected where the pair has no budget gets one line
that says so, and no decision writes both. What is said to be stored beforehand is what is stored,
and the end of a session is written down once, as the last line of the decision that ends it. -/

namespace Clearance.Query

variable {σ : Type} {q : Query σ}

/-! ### One decision -/

/-- The events that a decision adds. -/
def added (q : Query σ) (s : Session σ) (a b : Object) : List Event :=
  (q.judge s a b).1.events.drop s.events.length

/-- The lines that a decision writes. -/
def lines (q : Query σ) (s : Session σ) (a b : Object) : List LogLine := logOf (q.added s a b)

/-- Decisions only write at the end. -/
theorem events_judge (s : Session σ) (a b : Object) :
    (q.judge s a b).1.events = s.events ++ q.added s a b := by
  have hs : s = Session.after s.events { s with events := [] } := by
    simp only [Session.after, List.append_nil]
  have hafter := judge_after (q := q) s.events { s with events := [] } a b
  rw [← hs] at hafter
  rw [added, hafter]
  simp only [Session.after, List.drop_left]

theorem added_eq {s : Session σ} {a b : Object} {es : List Event}
    (h : (q.judge s a b).1.events = s.events ++ es) : q.added s a b = es := by
  rw [added, h, List.drop_left]

theorem added_of_done {s : Session σ} (hd : s.done = true) (a b : Object) : q.added s a b = [] :=
  added_eq (by rw [q.judge_of_done hd, List.append_nil])

theorem added_of_exempt {s : Session σ} {a b : Object} (hd : s.done = false)
    (he : q.isExempt a.body b.body = true) :
    q.added s a b = q.say (q.policyRemarks a.body b.body) :=
  added_eq (by rw [q.judge_of_exempt hd he]; rfl)

/-- The end of the session is written down last. -/
theorem exists_added_of_not_exempt {s : Session σ} {a b : Object} (hd : s.done = false)
    (he : q.isExempt a.body b.body = false) : ∃ es,
      remarksOf es = remarksOf (q.say (q.policyRemarks a.body b.body)) ++ q.comments a b s ∧
      es.any Event.isRejection = q.rejects a b s ∧
      q.added s a b = es ++ if (q.judge s a b).1.done then
        q.say [.complete (q.judge s a b).1.findings.contactCount] else [] := by
  let fresh : Session σ := { s with events := q.say (q.policyRemarks a.body b.body) }
  let t := q.examine (q.deciderOf a.body b.body) a b fresh
  have hjudge : (q.judge s a b).1 = q.conclude (t.after s.events) := by
    rw [q.judge_of_not_exempt hd he]
    exact congrArg q.conclude (examine_after s.events _ a b fresh)
  have hdone : (q.judge s a b).1.done = q.isSatisfied t.findings := by
    rw [hjudge]
    exact q.done_conclude ((q.done_examine _ a b fresh).trans hd)
  have hfindings : (q.judge s a b).1.findings = t.findings := by
    rw [hjudge, findings_conclude]
    rfl
  refine ⟨t.events, remarksOf_examine a b fresh, ?_, added_eq ?_⟩
  · rw [any_isRejection_examine, any_isRejection_say]
    rfl
  · rw [hdone, hfindings, hjudge, conclude_after, ← List.append_assoc]
    unfold conclude
    split
    · exact (List.append_assoc ..).symm
    · exact (List.append_nil _).symm

/-- What a decision writes down about contacts and about the end of the session. -/
structure Reports (q : Query σ) (s : Session σ) (a b : Object) : Prop where
  /-- What counts as stored is what the bucket of the pair gains. -/
  counted : (q.judge s a b).1.findings.contactCount.toNat =
    s.findings.contactCount.toNat + (q.gain s a b).length
  /-- One line for each contact that is stored under a decider, and none for any other pair. -/
  stored : (q.lines s a b).filter (·.tells .stored) =
    List.replicate (if (q.deciderOf a.body b.body).isSome then (q.gain s a b).length else 0)
      (Remark.offenderStored a.id b.id).line
  /-- One line if a contact is rejected and there was no budget. -/
  notStored : (q.lines s a b).filter (·.tells .notStored) =
    if q.budget (.make a.id b.id) s.findings = 0 ∧ (q.added s a b).any Event.isRejection
    then [(Remark.offenderNotStored a.id b.id).line] else []
  apart : (q.lines s a b).any (·.tells .stored) = false ∨
    (q.lines s a b).any (·.tells .notStored) = false
  /-- The number that is announced is the number that is stored. -/
  planned : (q.lines s a b).filter (·.tells .planned) =
    if q.request.verbose ∧ (q.added s a b).any Event.isBudgeted ∧ 0 < (q.answerTo a b s).count
    then [(Remark.contactsFound (q.answerTo a b s).count a.id b.id (q.gain s a b).length).line]
    else []
  /-- The end of the session is written down by the decision that ends it. -/
  complete : (q.lines s a b).filter (·.tells .complete) =
    if q.request.verbose ∧ s.done = false ∧ (q.judge s a b).1.done
    then [(Remark.complete (q.judge s a b).1.findings.contactCount).line] else []
  last : q.request.verbose → s.done = false → (q.judge s a b).1.done →
    (q.lines s a b).getLast? =
      some (Remark.complete (q.judge s a b).1.findings.contactCount).line

theorem filter_lines (s : Session σ) (a b : Object) (n : News) :
    (q.lines s a b).filter (·.tells n) =
      ((remarksOf (q.added s a b)).filter (·.news? == some n)).map Remark.line :=
  filter_tells_logOf _ n

/-- A decision that tells nothing of storage, stores nothing and ends nothing. -/
theorem reports_of_silent {s : Session σ} {a b : Object}
    (hlines : ∀ n, (q.lines s a b).filter (·.tells n) = [])
    (hgain : q.gain s a b = [])
    (hrejects : (q.added s a b).any Event.isRejection = false)
    (hasks : (q.added s a b).any Event.isBudgeted = false)
    (hdone : (q.judge s a b).1.done = s.done) : q.Reports s a b where
  counted := (q.grows s a b).count
  stored := by rw [hlines, hgain, List.length_nil, ite_self, List.replicate_zero]
  notStored := by rw [hlines, hrejects, if_neg (fun h => Bool.false_ne_true h.2)]
  apart := .inl (List.any_eq_false.mpr (List.filter_eq_nil_iff.mp (hlines _)))
  planned := by rw [hlines, hasks, if_neg (fun h => Bool.false_ne_true h.2.1)]
  complete := by
    rw [hlines, hdone, if_neg]
    rintro ⟨-, hopen, hend⟩
    exact Bool.false_ne_true (hopen.symm.trans hend)
  last _ hopen hend := by
    rw [hdone, hopen] at hend
    exact absurd hend Bool.false_ne_true

theorem reports_of_done {s : Session σ} (hd : s.done = true) (a b : Object) : q.Reports s a b := by
  have hnone : q.added s a b = [] := added_of_done hd a b
  refine reports_of_silent (fun n => ?_) (gain_of_idle (.inl hd)) ?_ ?_ ?_
  · rw [filter_lines, hnone]
    rfl
  · rw [hnone]
    rfl
  · rw [hnone]
    rfl
  · rw [q.judge_of_done hd]

theorem reports_of_exempt {s : Session σ} {a b : Object} (hd : s.done = false)
    (he : q.isExempt a.body b.body = true) : q.Reports s a b := by
  have hadded := added_of_exempt hd he
  refine reports_of_silent (fun n => ?_)
    (gain_of_idle (.inr ((q.isExempt_iff_spares ..).mp he))) ?_ ?_ ?_
  · rw [filter_lines, hadded, filter_news_policyRemarks]
    rfl
  · rw [hadded, any_isRejection_say]
  · rw [hadded, ← any_isBudgeted_callsOf, callsOf_say]
    rfl
  · rw [q.judge_of_exempt hd he]
    rfl

theorem any_isBudgeted_added {s : Session σ} {a b : Object} (hd : s.done = false)
    (he : q.isExempt a.body b.body = false) : (q.added s a b).any Event.isBudgeted =
      ((q.deciderOf a.body b.body).isNone && q.budget (.make a.id b.id) s.findings != 0) := by
  have hcalls := callsOf_judge_of_not_exempt hd he
  rw [events_judge, callsOf_append] at hcalls
  rw [← any_isBudgeted_callsOf, List.append_cancel_left hcalls, probeOf]
  cases q.deciderOf a.body b.body with
  | some allows => rfl
  | none =>
    by_cases hw : q.budget (.make a.id b.id) s.findings = 0 <;>
      simp [hw, Event.isBudgeted, Probe.presence, Probe.budgeted]

/-- The remark on the end of a session, where a decision ends it. -/
def closing (q : Query σ) (s : Session σ) (a b : Object) : List Remark :=
  if q.request.verbose ∧ (q.judge s a b).1.done
  then [.complete (q.judge s a b).1.findings.contactCount] else []

theorem filter_lines_of_not_exempt {s : Session σ} {a b : Object} (hd : s.done = false)
    (he : q.isExempt a.body b.body = false) (n : News) : (q.lines s a b).filter (·.tells n) =
      ((q.comments a b s).filter (·.news? == some n) ++
        if n = .complete then q.closing s a b else []).map Remark.line := by
  obtain ⟨es, hremarks, -, hadded⟩ := exists_added_of_not_exempt hd he
  have hclosing : remarksOf (if (q.judge s a b).1.done then
      q.say [.complete (q.judge s a b).1.findings.contactCount] else []) = q.closing s a b := by
    unfold closing
    cases (q.judge s a b).1.done <;> simp [remarksOf_say]
  have hfilter : (q.closing s a b).filter (·.news? == some n) =
      if n = .complete then q.closing s a b else [] := by
    unfold closing
    split <;> cases n <;> rfl
  rw [filter_lines, hadded, remarksOf_append, hremarks, hclosing, List.filter_append,
    List.filter_append, filter_news_policyRemarks, List.nil_append, hfilter]

theorem filter_lines_of_ne_complete {s : Session σ} {a b : Object} (hd : s.done = false)
    (he : q.isExempt a.body b.body = false) {n : News} (hn : n ≠ .complete) :
    (q.lines s a b).filter (·.tells n) =
      ((q.comments a b s).filter (·.news? == some n)).map Remark.line := by
  rw [filter_lines_of_not_exempt hd he, if_neg hn, List.append_nil]

theorem any_isRejection_added {s : Session σ} {a b : Object} (hd : s.done = false)
    (he : q.isExempt a.body b.body = false) :
    (q.added s a b).any Event.isRejection = q.rejects a b s := by
  obtain ⟨es, -, hrejects, hadded⟩ := exists_added_of_not_exempt hd he
  rw [hadded, List.any_append, hrejects]
  split
  · rw [any_isRejection_say, Bool.or_false]
  · exact Bool.or_false _

/-- With a budget nothing goes unstored without notice, and without one nothing is stored. -/
theorem apart_of_not_exempt {s : Session σ} {a b : Object} (hd : s.done = false)
    (he : q.isExempt a.body b.body = false) : (q.lines s a b).any (·.tells .stored) = false ∨
      (q.lines s a b).any (·.tells .notStored) = false := by
  by_cases hw : q.budget (.make a.id b.id) s.findings = 0
  · refine .inl (List.any_eq_false.mpr (List.filter_eq_nil_iff.mp ?_))
    rw [filter_lines_of_ne_complete hd he (by decide), filter_stored_comments, hw, List.take_zero,
      List.length_nil, ite_self]
    rfl
  · refine .inr (List.any_eq_false.mpr (List.filter_eq_nil_iff.mp ?_))
    rw [filter_lines_of_ne_complete hd he (by decide), filter_notStored_comments,
      if_neg fun h => hw h.1]
    rfl

theorem planned_of_not_exempt {s : Session σ} {a b : Object} (hd : s.done = false)
    (he : q.isExempt a.body b.body = false) : (q.lines s a b).filter (·.tells .planned) =
      if q.request.verbose ∧ (q.added s a b).any Event.isBudgeted ∧ 0 < (q.answerTo a b s).count
      then [(Remark.contactsFound (q.answerTo a b s).count a.id b.id (q.gain s a b).length).line]
      else [] := by
  rw [filter_lines_of_ne_complete hd he (by decide), filter_planned_comments,
    any_isBudgeted_added hd he, gain_of_not_exempt hd he]
  cases hdec : q.deciderOf a.body b.body with
  | some allows => simp
  | none =>
    by_cases hw : q.budget (.make a.id b.id) s.findings = 0
    · simp [hw]
    · by_cases hc : 0 < (q.answerTo a b s).count <;> cases hv : q.request.verbose <;>
        simp [hw, hc, hv, sayIf, offences, hdec]

theorem last_of_not_exempt {s : Session σ} {a b : Object} (hd : s.done = false)
    (he : q.isExempt a.body b.body = false) (hv : q.request.verbose = true)
    (hend : (q.judge s a b).1.done = true) : (q.lines s a b).getLast? =
      some (Remark.complete (q.judge s a b).1.findings.contactCount).line := by
  obtain ⟨es, -, -, hadded⟩ := exists_added_of_not_exempt hd he
  rw [lines, hadded, if_pos hend, logOf_append, say, if_pos hv]
  exact List.getLast?_concat

theorem reports_of_not_exempt {s : Session σ} {a b : Object} (hd : s.done = false)
    (he : q.isExempt a.body b.body = false) : q.Reports s a b where
  counted := (q.grows s a b).count
  stored := by
    rw [filter_lines_of_ne_complete hd he (by decide), filter_stored_comments,
      gain_of_not_exempt hd he, List.map_replicate]
  notStored := by
    rw [filter_lines_of_ne_complete hd he (by decide), filter_notStored_comments,
      any_isRejection_added hd he]
    split <;> rfl
  apart := apart_of_not_exempt hd he
  planned := planned_of_not_exempt hd he
  complete := by
    rw [filter_lines_of_not_exempt hd he, filter_complete_comments, if_pos rfl, closing]
    by_cases h : q.request.verbose ∧ (q.judge s a b).1.done
    · rw [if_pos h, if_pos ⟨h.1, hd, h.2⟩]
      rfl
    · rw [if_neg h, if_neg fun h' => h ⟨h'.1, h'.2.2⟩]
      rfl
  last hv _ hend := last_of_not_exempt hd he hv hend

theorem reports (q : Query σ) (s : Session σ) (a b : Object) : q.Reports s a b := by
  cases hd : s.done with
  | true => exact reports_of_done hd a b
  | false =>
    cases he : q.isExempt a.body b.body with
    | true => exact reports_of_exempt hd he
    | false => exact reports_of_not_exempt hd he

/-! ### Rows of decisions -/

/-- What the decisions of a row write, one after the other. -/
def linesOf (q : Query σ) : List (Object × Object) → Session σ → List LogLine
  | [], _ => []
  | p :: ps, s => q.lines s p.1 p.2 ++ linesOf q ps (q.judge s p.1 p.2).1

theorem logOf_judgeAll (ps : List (Object × Object)) (s : Session σ) :
    logOf (q.judgeAll ps s).events = logOf s.events ++ q.linesOf ps s := by
  induction ps generalizing s with
  | nil => exact (List.append_nil _).symm
  | cons p ps ih =>
    rw [judgeAll_cons, ih, events_judge, logOf_append, List.append_assoc]
    rfl

/-- The end of a session is written down at most once, and with the final number. -/
theorem filter_complete_linesOf (ps : List (Object × Object)) {s : Session σ}
    (hopen : s.done = false) : (q.linesOf ps s).filter (·.tells .complete) =
      if q.request.verbose ∧ (q.judgeAll ps s).done
      then [(Remark.complete (q.judgeAll ps s).findings.contactCount).line] else [] := by
  induction ps generalizing s with
  | nil =>
    rw [judgeAll_nil, hopen, if_neg fun h => Bool.false_ne_true h.2]
    rfl
  | cons p ps ih =>
    have hfirst := (q.reports s p.1 p.2).complete
    rw [linesOf, List.filter_append, hfirst, judgeAll_cons]
    cases hend : (q.judge s p.1 p.2).1.done with
    | false =>
      rw [ih hend, if_neg fun h => Bool.false_ne_true h.2.2]
      rfl
    | true =>
      have hrest : q.linesOf ps (q.judge s p.1 p.2).1 = [] := by
        have hlog := logOf_judgeAll (q := q) ps (q.judge s p.1 p.2).1
        rw [q.judgeAll_of_done ps hend] at hlog
        exact List.self_eq_append_right.mp hlog
      rw [hrest, q.judgeAll_of_done ps hend, hend]
      simp only [hopen, true_and, List.filter_nil, List.append_nil]

/-- The log is true to what is stored. Every decision reports what it does, whatever was found
before it and whatever the narrow phase answers. The log of a row of decisions is what each of them
writes; the end of the session is in it if there was one, and once. -/
theorem reports_judge (q : Query σ) :
    (∀ s a b, q.Reports s a b) ∧
    ∀ ps findings memory,
      let s := q.judgeAll ps { findings, memory }
      logOf s.events = q.linesOf ps { findings, memory } ∧
        (logOf s.events).filter (·.tells .complete) =
          if q.request.verbose ∧ s.done then [(Remark.complete s.findings.contactCount).line]
          else [] := by
  refine ⟨q.reports, fun ps findings memory => ?_⟩
  have hlog : logOf (q.judgeAll ps { findings, memory }).events =
      q.linesOf ps { findings, memory } := (logOf_judgeAll ps _).trans (List.nil_append _)
  exact ⟨hlog, by rw [hlog, filter_complete_linesOf ps rfl]⟩

end Clearance.Query
