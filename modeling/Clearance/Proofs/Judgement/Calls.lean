import Clearance.Proofs.Judgement.Chain
import Clearance.Proofs.Judgement.Verdict

/-! When a decision asks the narrow phase, and what. A session that is done and an exempt pair ask
nothing; any other pair is put to the narrow phase once, with the probe that its policies and its
budget call for, and with nothing in the buffer. So exempt pairs may be put into a row of decisions
or taken out of it, and only remarks on policies come and go with them. -/

namespace Clearance

variable {σ : Type}

/-! ### Events -/

/-- The same session with earlier events. -/
def Session.after (es : List Event) (s : Session σ) : Session σ :=
  { s with events := es ++ s.events }

/-- A remark on what the policies say about a pair. -/
def Event.isOnPolicy : Event → Bool
  | remarked (.alwaysAllowed _ _) | remarked (.conditionallyAllowed _ _)
  | remarked (.touchAllowed _ _) => true
  | _ => false

/-- The session without its remarks on policies. -/
def Session.plain (s : Session σ) : Session σ :=
  { s with events := s.events.filter (!·.isOnPolicy) }

theorem Session.record_after (es fs : List Event) (s : Session σ) :
    (s.after es).record fs = (s.record fs).after es := by
  simp only [Session.after, Session.record, List.append_assoc]

theorem Session.plain_after (es : List Event) (s : Session σ) :
    (s.after es).plain = s.plain.after (es.filter (!·.isOnPolicy)) := by
  simp only [Session.after, Session.plain, List.filter_append]

theorem callsOf_map_eq_nil {α : Type} {f : α → Event} (h : ∀ x, (f x).isCall = false)
    (xs : List α) : callsOf (xs.map f) = [] := by
  rw [callsOf, List.filter_eq_nil_iff]
  intro e he
  obtain ⟨x, _, rfl⟩ := List.mem_map.1 he
  simp [h x]

/-- Remarks on policies are no calls. -/
theorem callsOf_plain (s : Session σ) : callsOf s.plain.events = callsOf s.events := by
  have hcall : ∀ e : Event, (e.isCall && !e.isOnPolicy) = e.isCall := by
    intro e
    cases e <;> rfl
  simp only [callsOf, Session.plain, List.filter_filter, hcall]

/-- Whether `link` is a robot link and `body` an attached body that may touch it. -/
def Attachments.Excepts (r : Attachments) (link body : Body) : Prop :=
  link.role = .robotLink ∧ body.role = .robotAttached ∧
    ∃ t, r.attached? body.id = some t ∧ link.id ∈ t.touchLinks

namespace Query

variable {q : Query σ}

theorem callsOf_say (rs : List Remark) : callsOf (q.say rs) = [] := by
  unfold say
  split
  · exact callsOf_map_eq_nil (fun _ => rfl) rs
  · rfl

theorem filter_say_policyRemarks (a b : Body) :
    (q.say (q.policyRemarks a b)).filter (!·.isOnPolicy) = [] := by
  unfold say
  split
  · unfold policyRemarks
    rcases q.entryOf a b with _ | _ | _ | d <;> cases q.touchException? a b <;> rfl
  · rfl

/-! ### Earlier events -/

theorem judgeConditional_after (es : List Event) (allows : Decider) (a b : Object) (s : Session σ) :
    q.judgeConditional allows a b (s.after es) = (q.judgeConditional allows a b s).after es := by
  simp only [judgeConditional, ask, Session.after, Session.record, List.append_assoc]
  rfl

theorem judgeBudgeted_after (es : List Event) (want : Nat) (a b : Object) (s : Session σ) :
    q.judgeBudgeted want a b (s.after es) = (q.judgeBudgeted want a b s).after es := by
  by_cases hc : 0 < (q.narrow.ask s.memory a b (.budgeted want) s.buffer).2.count
  · simp only [judgeBudgeted, ask, Session.after, Session.record, if_pos hc, List.append_assoc]
  · simp only [judgeBudgeted, ask, Session.after, Session.record, if_neg hc, List.append_assoc]

theorem judgePresence_after (es : List Event) (a b : Object) (s : Session σ) :
    q.judgePresence a b (s.after es) = (q.judgePresence a b s).after es := by
  by_cases hc : 0 < (q.narrow.ask s.memory a b .presence s.buffer).2.count
  · simp only [judgePresence, ask, Session.after, Session.record, if_pos hc, List.append_assoc]
  · simp only [judgePresence, ask, Session.after, Session.record, if_neg hc, List.append_assoc]

theorem examine_after (es : List Event) (d : Option Decider) (a b : Object) (s : Session σ) :
    q.examine d a b (s.after es) = (q.examine d a b s).after es := by
  have hclear : (s.after es).clearBuffer = s.clearBuffer.after es := rfl
  have hinquire : q.inquire d a b (s.clearBuffer.after es) =
      (q.inquire d a b s.clearBuffer).after es := by
    cases d with
    | some allows => exact judgeConditional_after es allows a b s.clearBuffer
    | none =>
      cases hw : q.budget (.make a.id b.id) s.findings with
      | zero => simpa only [inquire, Session.after, Session.clearBuffer, hw] using
          judgePresence_after es a b s.clearBuffer
      | succ want => simpa only [inquire, Session.after, Session.clearBuffer, hw] using
          judgeBudgeted_after es (want + 1) a b s.clearBuffer
  rw [examine, hclear, hinquire]
  rfl

theorem conclude_after (es : List Event) (s : Session σ) :
    q.conclude (s.after es) = (q.conclude s).after es := by
  by_cases hs : q.isSatisfied s.findings = true
  · simp only [conclude, Session.after, Session.record, if_pos hs, List.append_assoc]
  · have hs' : ¬ q.isSatisfied (s.after es).findings = true := hs
    rw [conclude, conclude, if_neg hs, if_neg hs']

/-- Decisions write events and do not look at them. -/
theorem judge_after (es : List Event) (s : Session σ) (a b : Object) :
    q.judge (s.after es) a b = ((q.judge s a b).1.after es, (q.judge s a b).2) := by
  cases hd : s.done with
  | true => rw [q.judge_of_done hd, q.judge_of_done (s := s.after es) hd]
  | false =>
    simp only [judge, show (s.after es).done = false from hd, hd, Session.record_after]
    cases q.standing a.body b.body with
    | exempt => rfl
    | conditional allows => simp only [examine_after, conclude_after]; rfl
    | forbidden => simp only [examine_after, conclude_after]; rfl

theorem judgeAll_after (es : List Event) (ps : List (Object × Object)) (s : Session σ) :
    q.judgeAll ps (s.after es) = (q.judgeAll ps s).after es := by
  induction ps generalizing s with
  | nil => rfl
  | cons p ps ih => rw [judgeAll_cons, judgeAll_cons, judge_after, ih]

/-- What a session is apart from its remarks on policies does not depend on them. -/
theorem plain_judgeAll_congr (ps : List (Object × Object)) {s t : Session σ}
    (h : s.plain = t.plain) : (q.judgeAll ps s).plain = (q.judgeAll ps t).plain := by
  have hfresh : ∀ u : Session σ, u = Session.after u.events { u with events := [] } := by
    intro u
    simp only [Session.after, List.append_nil]
  have hst : ({ s with events := [] } : Session σ) = { t with events := [] } := by
    simp only [Session.plain, Session.mk.injEq] at h
    simp only [h]
  have hes : s.events.filter (!·.isOnPolicy) = t.events.filter (!·.isOnPolicy) :=
    congrArg Session.events h
  rw [hfresh s, hfresh t, judgeAll_after, judgeAll_after, Session.plain_after, Session.plain_after,
    hst, hes]

/-! ### Calls -/

theorem callsOf_weigh (allows : Decider) (a b : BodyId) (p : BodyPair) (cs : List Contact)
    (want : Nat) (f : Findings) : callsOf (weigh allows a b p cs want f).2 = [] := by
  induction cs generalizing want f with
  | nil => rfl
  | cons c cs ih =>
    cases h : allows c with
    | true => simpa [weigh, h, callsOf, Event.isCall] using ih want f
    | false =>
      rcases want with _ | _ | want
      · simp [weigh, h, callsOf, Event.isCall]
      · simp [weigh, h, callsOf, Event.isCall]
      · simpa [weigh, h, callsOf, Event.isCall] using
          ih (want + 1) { f.record p c with collision := true }

theorem callsOf_ask (a b : Object) (p : Probe) (s : Session σ) :
    callsOf (q.ask a b p s).1.events = callsOf s.events ++ [.asked a b p s.buffer.length] := by
  have hrefused : callsOf ((q.narrow.ask s.memory a b p s.buffer).2.refusals.map .refused) = [] :=
    callsOf_map_eq_nil (fun _ => rfl) _
  simp only [callsOf] at hrefused
  simp only [ask, Session.record, callsOf, List.filter_append, List.filter_cons, Event.isCall,
    ↓reduceIte, hrefused]

theorem callsOf_judgeConditional (allows : Decider) (a b : Object) (s : Session σ) :
    callsOf (q.judgeConditional allows a b s).events =
      callsOf s.events ++ [.asked a b .all s.buffer.length] := by
  rw [← q.callsOf_ask]
  simp only [judgeConditional, Session.record, callsOf_append, callsOf_weigh]
  split
  · simp only [callsOf_say, List.append_nil]
  · simp only [callsOf, List.filter_nil, List.append_nil]

theorem callsOf_judgeBudgeted (want : Nat) (a b : Object) (s : Session σ) :
    callsOf (q.judgeBudgeted want a b s).events =
      callsOf s.events ++ [.asked a b (.budgeted want) s.buffer.length] := by
  rw [← q.callsOf_ask]
  simp only [judgeBudgeted]
  split
  · simp only [Session.record, callsOf_append, callsOf_say, List.append_nil]
  · rfl

theorem callsOf_judgePresence (a b : Object) (s : Session σ) :
    callsOf (q.judgePresence a b s).events =
      callsOf s.events ++ [.asked a b .presence s.buffer.length] := by
  rw [← q.callsOf_ask]
  simp only [judgePresence]
  split
  · simp only [Session.record, callsOf_append, callsOf_say, List.append_nil]
  · rfl

/-- Whichever question is put, it is put once and with the probe that fits. -/
theorem callsOf_inquire (a b : Object) (s : Session σ) :
    callsOf (q.inquire (q.deciderOf a.body b.body) a b s).events =
      callsOf s.events ++ [.asked a b (q.probeOf a b s.findings) s.buffer.length] := by
  cases hd : q.deciderOf a.body b.body with
  | some allows => rw [inquire, callsOf_judgeConditional, probeOf, hd]
  | none =>
    cases hw : q.budget (.make a.id b.id) s.findings with
    | zero => simp only [inquire, probeOf, hd, hw, callsOf_judgePresence, ↓reduceIte]
    | succ want =>
      simp only [inquire, probeOf, hd, hw, callsOf_judgeBudgeted, Nat.add_one_ne_zero, ↓reduceIte]

theorem callsOf_conclude (s : Session σ) :
    callsOf (q.conclude s).events = callsOf s.events := by
  unfold conclude
  split
  · simp only [Session.record, callsOf_append, callsOf_say, List.append_nil]
  · rfl

/-! ### Pairs that are spared -/

/-- Whether the pair is not to be looked at: the entry in either order says always, or one body may
touch the other. -/
def Spares (q : Query σ) (a b : Body) : Prop :=
  (∃ m, q.matrix = some m ∧ (m.get? a.id b.id = some .always ∨ m.get? b.id a.id = some .always)) ∨
    ∃ r, q.attachments = some r ∧ (r.Excepts a b ∨ r.Excepts b a)

theorem any_isAlways_entryOf_iff (q : Query σ) (a b : Body) :
    (q.entryOf a b).any Allowance.isAlways = true ↔ ∃ m, q.matrix = some m ∧
      (m.get? a.id b.id = some .always ∨ m.get? b.id a.id = some .always) := by
  unfold entryOf
  cases q.matrix with
  | none => simp
  | some m =>
    simp only [Option.bind_some, Option.some.injEq, exists_eq_left', m.get?_comm b.id a.id, or_self]
    rcases m.get? a.id b.id with _ | _ | _ | d <;> simp [Allowance.isAlways]

theorem mayTouch_iff (q : Query σ) (link body : BodyId) :
    q.mayTouch link body = true ↔ ∃ r, q.attachments = some r ∧
      ∃ t, r.attached? body = some t ∧ link ∈ t.touchLinks := by
  simp only [mayTouch, Option.any_eq_true, Attachments.mayTouch, Attachment.touches,
    List.contains_iff_mem]

theorem isTouchPair_iff (q : Query σ) (a b : Body) :
    q.isTouchPair a b = true ↔ ∃ r, q.attachments = some r ∧ (r.Excepts a b ∨ r.Excepts b a) := by
  simp only [isTouchPair, Bool.or_eq_true, Bool.and_eq_true, decide_eq_true_eq, mayTouch_iff,
    Attachments.Excepts]
  constructor
  · rintro (⟨⟨ha, hb⟩, r, hr, ht⟩ | ⟨⟨ha, hb⟩, r, hr, ht⟩)
    · exact ⟨r, hr, .inl ⟨ha, hb, ht⟩⟩
    · exact ⟨r, hr, .inr ⟨hb, ha, ht⟩⟩
  · rintro ⟨r, hr, ⟨ha, hb, ht⟩ | ⟨hb, ha, ht⟩⟩
    · exact .inl ⟨⟨ha, hb⟩, r, hr, ht⟩
    · exact .inr ⟨⟨ha, hb⟩, r, hr, ht⟩

theorem isExempt_iff_spares (q : Query σ) (a b : Body) :
    q.isExempt a b = true ↔ q.Spares a b := by
  rw [isExempt, Bool.or_eq_true, any_isAlways_entryOf_iff, isTouchPair_iff, Spares]

instance (q : Query σ) (a b : Body) : Decidable (q.Spares a b) :=
  decidable_of_iff _ (q.isExempt_iff_spares a b)

theorem isExempt_eq_false_of_not_spares {a b : Body} (h : ¬ q.Spares a b) :
    q.isExempt a b = false := by
  rw [← isExempt_iff_spares] at h
  exact eq_false_of_ne_true h

/-! ### One decision -/

/-- What a decision about a pair owes the narrow phase and the session. -/
structure Disciplined (q : Query σ) (s : Session σ) (a b : Object) : Prop where
  /-- A session that is done, or a pair that is spared: nothing is asked. -/
  idle : s.done = true ∨ q.Spares a.body b.body →
    (q.judge s a b).1.findings = s.findings ∧ (q.judge s a b).1.done = s.done ∧
      (q.judge s a b).1.memory = s.memory ∧
      callsOf (q.judge s a b).1.events = callsOf s.events ∧ (q.judge s a b).2 = s.done
  /-- Otherwise one question is put, on an empty buffer. -/
  asks : s.done = false → ¬ q.Spares a.body b.body →
    (q.judge s a b).1.memory = (q.narrow.ask s.memory a b (q.probeOf a b s.findings) []).1 ∧
      callsOf (q.judge s a b).1.events =
        callsOf s.events ++ [.asked a b (q.probeOf a b s.findings) 0]

theorem callsOf_judge_of_not_exempt {s : Session σ} {a b : Object} (hd : s.done = false)
    (he : q.isExempt a.body b.body = false) : callsOf (q.judge s a b).1.events =
      callsOf s.events ++ [.asked a b (q.probeOf a b s.findings) 0] := by
  rw [q.judge_of_not_exempt hd he, callsOf_conclude, examine]
  simp only [Session.clearBuffer, callsOf_inquire, Session.record, callsOf_append, callsOf_say,
    List.append_nil, List.length_nil]

theorem disciplined (q : Query σ) (s : Session σ) (a b : Object) : q.Disciplined s a b where
  idle h := by
    cases hd : s.done with
    | true => rw [q.judge_of_done hd]; exact ⟨rfl, hd, rfl, rfl, rfl⟩
    | false =>
      have he : q.isExempt a.body b.body = true :=
        (q.isExempt_iff_spares ..).2 (h.resolve_left (by simp [hd]))
      rw [q.judge_of_exempt hd he]
      refine ⟨rfl, hd, rfl, ?_, rfl⟩
      simp only [Session.record, callsOf_append, callsOf_say, List.append_nil]
  asks hd h := by
    have he := isExempt_eq_false_of_not_spares h
    rcases q.judge_cases s a b with ⟨ht, _⟩ | ⟨_, ht, _⟩ | ⟨_, _, ht, _⟩
    · simp [hd] at ht
    · simp [he] at ht
    · exact ⟨ht.memory, callsOf_judge_of_not_exempt hd he⟩

/-! ### Rows of decisions -/

/-- The pairs of a row that are not spared. -/
def unspared (q : Query σ) (ps : List (Object × Object)) : List (Object × Object) :=
  ps.filter fun p => ¬ q.Spares p.1.body p.2.body

theorem plain_judge_of_spares {s : Session σ} {a b : Object} (h : q.Spares a.body b.body) :
    (q.judge s a b).1.plain = s.plain := by
  cases hd : s.done with
  | true => rw [q.judge_of_done hd]
  | false =>
    rw [q.judge_of_exempt hd ((q.isExempt_iff_spares ..).2 h)]
    simp only [Session.plain, Session.record, List.filter_append, filter_say_policyRemarks,
      List.append_nil]

theorem plain_judgeAll_unspared (q : Query σ) (ps : List (Object × Object)) (s : Session σ) :
    (q.judgeAll (q.unspared ps) s).plain = (q.judgeAll ps s).plain := by
  induction ps generalizing s with
  | nil => rfl
  | cons p ps ih =>
    by_cases h : q.Spares p.1.body p.2.body
    · have hskip : q.unspared (p :: ps) = q.unspared ps := by simp [unspared, h]
      rw [hskip, ih, judgeAll_cons]
      exact plain_judgeAll_congr ps (plain_judge_of_spares h).symm
    · have hkeep : q.unspared (p :: ps) = p :: q.unspared ps := by simp [unspared, h]
      rw [hkeep, judgeAll_cons, judgeAll_cons, ih]

/-- Every decision keeps the discipline; and rows that differ only in pairs that are spared,
wherever these stand, ask the same questions and leave the same session but for remarks on
policies. -/
theorem disciplined_judge (q : Query σ) :
    (∀ s a b, q.Disciplined s a b) ∧
    ∀ ps rs s, q.unspared ps = q.unspared rs →
      (q.judgeAll ps s).plain = (q.judgeAll rs s).plain ∧
        callsOf (q.judgeAll ps s).events = callsOf (q.judgeAll rs s).events := by
  refine ⟨q.disciplined, fun ps rs s h => ?_⟩
  have hplain : (q.judgeAll ps s).plain = (q.judgeAll rs s).plain := by
    rw [← q.plain_judgeAll_unspared ps, h, q.plain_judgeAll_unspared rs]
  refine ⟨hplain, ?_⟩
  rw [← callsOf_plain (q.judgeAll ps s), hplain, callsOf_plain]

/-- The hand is asked about the table and not about the cup, whatever is left in the buffer and
however often the cup comes up. -/
theorem disciplined_handOverTable :
    let hand := Object.ball 0 (.robotLink "hand")
    let cup := Object.ball 1 (.robotAttached "cup")
    let table := Object.ball 2 (.worldObject "table")
    let left := Contact.make .zero .unitZ 0.02 cup.body table.body
    let s : Session Unit := { findings := .empty, memory := (), buffer := [left] }
    let ps := [(cup, hand), (hand, table), (hand, cup)]
    handOverTable.Spares cup.body hand.body ∧ ¬ handOverTable.Spares hand.body table.body ∧
      callsOf (handOverTable.judge s cup hand).1.events = [] ∧
      callsOf (handOverTable.judge s hand table).1.events = [.asked hand table .all 0] ∧
      handOverTable.unspared ps = handOverTable.unspared [(hand, table)] ∧
      (handOverTable.judgeAll ps s).plain = (handOverTable.judgeAll [(hand, table)] s).plain ∧
      callsOf (handOverTable.judgeAll ps s).events = [.asked hand table .all 0] := by
  intro hand cup table left s ps
  have hspared : handOverTable.Spares cup.body hand.body := by decide +kernel
  have hspared' : handOverTable.Spares hand.body cup.body := by decide +kernel
  have hlooked : ¬ handOverTable.Spares hand.body table.body := by decide +kernel
  have hrows : handOverTable.unspared ps = handOverTable.unspared [(hand, table)] := by
    simp [unspared, ps, hspared, hspared', hlooked]
  have hall : handOverTable.probeOf hand table s.findings = .all := by decide +kernel
  have hone := (((disciplined_judge handOverTable).1 s hand table).asks rfl hlooked).2
  have hrun := (disciplined_judge handOverTable).2 ps [(hand, table)] s hrows
  rw [hall] at hone
  refine ⟨hspared, hlooked, ?_, hone, hrows, hrun.1, hrun.2.trans hone⟩
  exact (((disciplined_judge handOverTable).1 s cup hand).idle (.inr hspared)).2.2.2.1

end Query

end Clearance
