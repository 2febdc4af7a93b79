import Clearance.Proofs.Judgement.Growth

/-! What a decision remarks on, and how a remark is known in the log. Lines are told apart by their
level and by a phrase at their end or at their beginning, so that no name of a body can be taken for
one. The remarks of a decision follow from the answer of the narrow phase and the budget: a scan
remarks on each contact that it stores, or on the first one that it rejects if it may store none. -/

namespace Clearance

variable {σ : Type}

/-! ### Lines -/

/-- What a line of the log can say about the contacts that are stored. -/
inductive News where
  | stored | notStored | planned | complete
  deriving DecidableEq

/-- Whether a line says one of these. -/
def LogLine.tells (l : LogLine) : News → Bool
  | .stored => l.level == .debug && "Contact was stored.".toList.isSuffixOf l.text.toList
  | .notStored => l.level == .debug && "Contact was not stored.".toList.isSuffixOf l.text.toList
  | .planned => l.level == .info && "contacts will be stored.".toList.isSuffixOf l.text.toList
  | .complete => l.level == .info &&
      "Collision checking is considered complete".toList.isPrefixOf l.text.toList

namespace Remark

/-- What a remark says about the contacts that are stored. -/
def news? : Remark → Option News
  | offenderStored _ _ => some .stored
  | offenderNotStored _ _ => some .notStored
  | contactsFound _ _ _ _ => some .planned
  | complete _ => some .complete
  | _ => none

/-- The fixed words that the text of a remark begins with. -/
def opening : Remark → String
  | alwaysAllowed _ _ | conditionallyAllowed _ _ => "Collision between '"
  | touchAllowed _ _ => "Robot link '"
  | offenderStored _ _ | offenderNotStored _ _ => "Found unacceptable contact between '"
  | toBeWeighed _ _ _ | contactsFound _ _ _ _ => "Found "
  | contactFound _ _ => "Found a contact between '"
  | complete _ => "Collision checking is considered complete "

/-- The fixed words that the text of a remark ends with. -/
def ending : Remark → String
  | alwaysAllowed _ _ => "' is always allowed. No contacts are computed."
  | conditionallyAllowed _ _ => "' is conditionally allowed."
  | touchAllowed _ _ => "No contacts are computed."
  | toBeWeighed _ _ _ => "These contacts will be evaluated to check if they are accepted or not."
  | offenderStored _ _ => "'. Contact was stored."
  | offenderNotStored _ _ => "'. Contact was not stored."
  | contactsFound _ _ _ _ => " contacts will be stored."
  | contactFound _ _ => "Contact information is not stored."
  | complete _ => " contacts are stored)."

theorem exists_text_eq_opening_append (r : Remark) : ∃ t, r.text = r.opening ++ t := by
  cases r <;> unfold text <;> simp only [String.append_assoc] <;> exact ⟨_, rfl⟩

theorem exists_text_eq_append_ending (r : Remark) : ∃ t, r.text = t ++ r.ending := by
  cases r <;> unfold text <;> simp only [← String.append_assoc] <;> exact ⟨_, rfl⟩

/-- A phrase that is not longer than the opening, or differs from it, is looked for there. -/
theorem isPrefixOf_text {p : String} (r : Remark)
    (h : r.opening.toList <+: p.toList → p.toList <+: r.opening.toList) :
    p.toList.isPrefixOf r.text.toList = p.toList.isPrefixOf r.opening.toList := by
  obtain ⟨t, ht⟩ := r.exists_text_eq_opening_append
  rw [Bool.eq_iff_iff, List.isPrefixOf_iff_prefix, List.isPrefixOf_iff_prefix, ht,
    String.toList_append]
  constructor
  · intro hp
    rcases List.prefix_or_prefix_of_prefix hp (List.prefix_append _ t.toList) with hp | hp
    · exact hp
    · exact h hp
  · exact fun hp => hp.trans (List.prefix_append ..)

theorem isSuffixOf_text {p : String} (r : Remark)
    (h : r.ending.toList <:+ p.toList → p.toList <:+ r.ending.toList) :
    p.toList.isSuffixOf r.text.toList = p.toList.isSuffixOf r.ending.toList := by
  obtain ⟨t, ht⟩ := r.exists_text_eq_append_ending
  rw [Bool.eq_iff_iff, List.isSuffixOf_iff_suffix, List.isSuffixOf_iff_suffix, ht,
    String.toList_append]
  constructor
  · intro hp
    rcases List.suffix_or_suffix_of_suffix hp (List.suffix_append t.toList _) with hp | hp
    · exact hp
    · exact h hp
  · exact fun hp => hp.trans (List.suffix_append ..)

/-- The line of a remark says what the remark is about, whatever the names in it. -/
theorem tells_line (r : Remark) (n : News) : r.line.tells n = (r.news? == some n) := by
  cases n <;> simp only [LogLine.tells, line]
  case stored | notStored | planned =>
    rw [isSuffixOf_text r (by cases r <;> dsimp only [ending] <;> decide)]
    cases r <;> dsimp only [ending, level, news?] <;> decide
  case complete =>
    rw [isPrefixOf_text r (by cases r <;> dsimp only [opening] <;> decide)]
    cases r <;> dsimp only [opening, level, news?] <;> decide

end Remark

/-- What a narrow phase refuses is not about storage. -/
theorem Refusal.tells_line (r : Refusal) (n : News) : r.line.tells n = false := by
  cases n <;> rfl

/-! ### Remarks in a row of events -/

def Event.remark? : Event → Option Remark
  | remarked r => some r
  | _ => none

/-- The remarks in a row of events. -/
def remarksOf (es : List Event) : List Remark := es.filterMap Event.remark?

@[simp] theorem remarksOf_nil : remarksOf [] = [] := rfl

@[simp] theorem remarksOf_append (es fs : List Event) :
    remarksOf (es ++ fs) = remarksOf es ++ remarksOf fs := List.filterMap_append

@[simp] theorem remarksOf_cons_remarked (r : Remark) (es : List Event) :
    remarksOf (.remarked r :: es) = r :: remarksOf es := rfl

@[simp] theorem remarksOf_cons_weighed (c : Contact) (allowed : Bool) (es : List Event) :
    remarksOf (.weighed c allowed :: es) = remarksOf es := rfl

@[simp] theorem remarksOf_cons_asked (a b : Object) (p : Probe) (held : Nat) (es : List Event) :
    remarksOf (.asked a b p held :: es) = remarksOf es := rfl

@[simp] theorem remarksOf_map_refused (rs : List Refusal) :
    remarksOf (rs.map .refused) = [] := by
  induction rs with
  | nil => rfl
  | cons r rs ih => exact ih

/-- The lines that are about storage come from remarks. -/
theorem filter_tells_logOf (es : List Event) (n : News) : (logOf es).filter (·.tells n) =
    ((remarksOf es).filter (·.news? == some n)).map Remark.line := by
  induction es with
  | nil => rfl
  | cons e es ih =>
    cases e with
    | asked => exact ih
    | weighed => exact ih
    | refused r => exact (List.filter_cons_of_neg (by simp [r.tells_line n])).trans ih
    | remarked r =>
      have hline : logOf (.remarked r :: es) = r.line :: logOf es := rfl
      rw [hline, remarksOf_cons_remarked, List.filter_cons, List.filter_cons, ih, r.tells_line n]
      split <;> rfl

/-! ### Rejections and budgeted questions -/

/-- A decider looked at a contact and rejected it. -/
def Event.isRejection : Event → Bool
  | weighed _ false => true
  | _ => false

/-- The narrow phase was asked for contacts, but not for all of them. -/
def Event.isBudgeted : Event → Bool
  | asked _ _ p _ => p.enableContact && !p.exhaustive
  | _ => false

theorem any_isBudgeted_callsOf (es : List Event) :
    (callsOf es).any Event.isBudgeted = es.any Event.isBudgeted := by
  rw [callsOf, List.any_filter]
  congr 1
  funext e
  cases e <;> rfl

namespace Query

variable {q : Query σ}

theorem any_isRejection_say (rs : List Remark) : (q.say rs).any Event.isRejection = false := by
  unfold say
  split
  · exact List.any_map.trans (List.any_eq_false.mpr fun _ _ => Bool.false_ne_true)
  · rfl

theorem remarksOf_say (rs : List Remark) :
    remarksOf (q.say rs) = if q.request.verbose then rs else [] := by
  unfold say
  split
  · exact (List.filterMap_map ..).trans (List.filterMap_some ..)
  · rfl

/-! ### The scan -/

/-- What a scan remarks on: the contacts that it stores, or the first one that it rejects if it may
store none. -/
def scanned (allows : Decider) (a b : BodyId) (cs : List Contact) (want : Nat) : List Remark :=
  if want = 0 then (if cs.any (!allows ·) then [.offenderNotStored a b] else [])
  else List.replicate ((cs.filter (!allows ·)).take want).length (.offenderStored a b)

theorem remarksOf_weigh (allows : Decider) (a b : BodyId) (p : BodyPair) (cs : List Contact)
    (want : Nat) (f : Findings) :
    remarksOf (weigh allows a b p cs want f).2 = scanned allows a b cs want := by
  unfold scanned
  induction cs generalizing want f with
  | nil => simp [weigh]
  | cons c cs ih =>
    cases h : allows c with
    | true => simpa [weigh, h] using ih want f
    | false =>
      rcases want with _ | _ | want
      · simp [weigh, h]
      · simp [weigh, h]
      · have hstep := ih (want + 1) { f.record p c with collision := true }
        rw [if_neg (Nat.add_one_ne_zero want)] at hstep
        simp [weigh, h, hstep, List.replicate_succ]

/-- A scan rejects a contact if there is one to reject. -/
theorem any_isRejection_weigh (allows : Decider) (a b : BodyId) (p : BodyPair)
    (cs : List Contact) (want : Nat) (f : Findings) :
    (weigh allows a b p cs want f).2.any Event.isRejection = cs.any (!allows ·) := by
  induction cs generalizing want f with
  | nil => rfl
  | cons c cs ih =>
    cases h : allows c with
    | true => simpa [weigh, h, Event.isRejection] using ih want f
    | false => rcases want with _ | _ | want <;> simp [weigh, h, Event.isRejection]

/-! ### The three questions -/

theorem events_judgeConditional (allows : Decider) (a b : Object) (s : Session σ) :
    let r := (q.ask a b .all s).2
    (q.judgeConditional allows a b s).events = (q.ask a b .all s).1.events ++
      ((if 0 < r.count then q.say [.toBeWeighed r.count a.id b.id] else []) ++
        (weigh allows a.id b.id (.make a.id b.id) r.contacts
          (q.budget (.make a.id b.id) s.findings) s.findings).2) := rfl

theorem events_judgeBudgeted (want : Nat) (a b : Object) (s : Session σ) :
    let r := (q.ask a b (.budgeted want) s).2
    (q.judgeBudgeted want a b s).events = (q.ask a b (.budgeted want) s).1.events ++
      if 0 < r.count then
        q.say [.contactsFound r.count a.id b.id (r.contacts.take want).length] else [] := by
  simp only [judgeBudgeted]
  split
  · rfl
  · rw [List.append_nil]

theorem events_judgePresence (a b : Object) (s : Session σ) :
    let r := (q.ask a b .presence s).2
    (q.judgePresence a b s).events = (q.ask a b .presence s).1.events ++
      if 0 < r.count then q.say [.contactFound a.id b.id] else [] := by
  simp only [judgePresence]
  split
  · rfl
  · rw [List.append_nil]

theorem remarksOf_ask (a b : Object) (p : Probe) (s : Session σ) :
    remarksOf (q.ask a b p s).1.events = remarksOf s.events := by
  simp [ask, Session.record]

theorem any_isRejection_ask (a b : Object) (p : Probe) (s : Session σ) :
    (q.ask a b p s).1.events.any Event.isRejection = s.events.any Event.isRejection := by
  simp [ask, Session.record, Event.isRejection]

/-- A remark on contacts, made if there are any and the query explains itself. -/
def sayIf (q : Query σ) (r : Answer) (c : Remark) : List Remark :=
  if q.request.verbose && 0 < r.count then [c] else []

theorem remarksOf_ite_say (r : Answer) (c : Remark) :
    remarksOf (if 0 < r.count then q.say [c] else []) = q.sayIf r c := by
  unfold sayIf
  by_cases hc : 0 < r.count <;> cases hv : q.request.verbose <;> simp [hc, remarksOf_say, hv]

theorem any_isRejection_ite_say (r : Answer) (c : Remark) :
    (if 0 < r.count then q.say [c] else []).any Event.isRejection = false := by
  split
  · exact any_isRejection_say _
  · rfl

/-- All remarks on the question about a pair and its answer. -/
def comments (q : Query σ) (a b : Object) (s : Session σ) : List Remark :=
  let r := q.answerTo a b s
  let want := q.budget (.make a.id b.id) s.findings
  match q.deciderOf a.body b.body with
  | some allows => q.sayIf r (.toBeWeighed r.count a.id b.id) ++
      scanned allows a.id b.id r.contacts want
  | none =>
    if want = 0 then q.sayIf r (.contactFound a.id b.id)
    else q.sayIf r (.contactsFound r.count a.id b.id (r.contacts.take want).length)

/-- Whether a decider looks at the answer about a pair and rejects a contact. -/
def rejects (q : Query σ) (a b : Object) (s : Session σ) : Bool :=
  (q.deciderOf a.body b.body).any fun allows => (q.answerTo a b s).contacts.any (!allows ·)

theorem remarksOf_examine (a b : Object) (s : Session σ) :
    remarksOf (q.examine (q.deciderOf a.body b.body) a b s).events =
      remarksOf s.events ++ q.comments a b s := by
  have hstart : ∀ p, remarksOf (q.ask a b p s.clearBuffer).1.events = remarksOf s.events :=
    fun p => remarksOf_ask a b p s.clearBuffer
  unfold comments answerTo probeOf examine
  cases hd : q.deciderOf a.body b.body with
  | some allows =>
    simp only [inquire, Session.clearBuffer, events_judgeConditional]
    rw [remarksOf_append, remarksOf_append, remarksOf_ite_say, remarksOf_weigh]
    exact congrArg (· ++ _) (hstart .all)
  | none =>
    cases hw : q.budget (.make a.id b.id) s.findings with
    | zero =>
      simp only [inquire, Session.clearBuffer, hw, events_judgePresence, ↓reduceIte]
      rw [remarksOf_append, remarksOf_ite_say]
      exact congrArg (· ++ _) (hstart .presence)
    | succ want =>
      simp only [inquire, Session.clearBuffer, hw, events_judgeBudgeted, Nat.add_one_ne_zero,
        ↓reduceIte]
      rw [remarksOf_append, remarksOf_ite_say]
      exact congrArg (· ++ _) (hstart (.budgeted (want + 1)))

theorem any_isRejection_examine (a b : Object) (s : Session σ) :
    (q.examine (q.deciderOf a.body b.body) a b s).events.any Event.isRejection =
      (s.events.any Event.isRejection || q.rejects a b s) := by
  have hstart : ∀ p, (q.ask a b p s.clearBuffer).1.events.any Event.isRejection =
      s.events.any Event.isRejection := fun p => any_isRejection_ask a b p s.clearBuffer
  unfold rejects answerTo probeOf examine
  cases hd : q.deciderOf a.body b.body with
  | some allows =>
    simp only [inquire, Session.clearBuffer, events_judgeConditional]
    rw [List.any_append, List.any_append, any_isRejection_ite_say, any_isRejection_weigh,
      Bool.false_or]
    exact congrArg (· || _) (hstart .all)
  | none =>
    cases hw : q.budget (.make a.id b.id) s.findings with
    | zero =>
      simp only [inquire, Session.clearBuffer, hw, events_judgePresence]
      rw [List.any_append, any_isRejection_ite_say]
      exact congrArg (· || _) (hstart .presence)
    | succ want =>
      simp only [inquire, Session.clearBuffer, hw, events_judgeBudgeted]
      rw [List.any_append, any_isRejection_ite_say]
      exact congrArg (· || _) (hstart (.budgeted (want + 1)))

/-! ### What the remarks of a decision are about -/

theorem filter_news_policyRemarks (a b : Body) (n : News) :
    (remarksOf (q.say (q.policyRemarks a b))).filter (·.news? == some n) = [] := by
  rw [remarksOf_say]
  split
  · unfold policyRemarks
    rcases q.entryOf a b with _ | _ | _ | d <;> cases q.touchException? a b <;> rfl
  · rfl

theorem filter_news_sayIf (r : Answer) (c : Remark) (n : News) :
    (q.sayIf r c).filter (·.news? == some n) = if c.news? == some n then q.sayIf r c else [] := by
  unfold sayIf
  split
  · rw [List.filter_cons, List.filter_nil]
  · exact (ite_self _).symm

theorem filter_news_scanned (allows : Decider) (a b : BodyId) (cs : List Contact) (want : Nat)
    (n : News) : (scanned allows a b cs want).filter (·.news? == some n) =
      if n = (if want = 0 then .notStored else .stored) then scanned allows a b cs want
      else [] := by
  unfold scanned
  by_cases hw : want = 0
  · simp only [hw, ↓reduceIte]
    cases n <;> split <;> rfl
  · simp only [hw, ↓reduceIte]
    rw [List.filter_replicate]
    cases n <;> rfl

/-- Under a decider a question is remarked on as its answer is scanned; without one, only what is
asked for with a budget is announced. -/
theorem filter_news_comments (a b : Object) (s : Session σ) (n : News) :
    (q.comments a b s).filter (·.news? == some n) =
      let r := q.answerTo a b s
      let want := q.budget (.make a.id b.id) s.findings
      match q.deciderOf a.body b.body with
      | some allows =>
        if n = (if want = 0 then .notStored else .stored)
        then scanned allows a.id b.id r.contacts want else []
      | none =>
        if n = .planned ∧ want ≠ 0
        then q.sayIf r (.contactsFound r.count a.id b.id (r.contacts.take want).length)
        else [] := by
  unfold comments
  cases q.deciderOf a.body b.body with
  | some allows =>
    simp only [List.filter_append, filter_news_sayIf, filter_news_scanned]
    exact List.nil_append _
  | none =>
    by_cases hw : q.budget (.make a.id b.id) s.findings = 0
    · simp only [hw, ↓reduceIte, filter_news_sayIf, ne_eq, not_true_eq_false, and_false]
      rfl
    · simp only [hw, ↓reduceIte, filter_news_sayIf, ne_eq, not_false_eq_true, and_true]
      cases n <;> rfl

theorem filter_stored_comments (a b : Object) (s : Session σ) :
    (q.comments a b s).filter (·.news? == some .stored) =
      List.replicate (if (q.deciderOf a.body b.body).isSome
        then ((q.offences a b (q.answerTo a b s)).take
          (q.budget (.make a.id b.id) s.findings)).length else 0)
        (.offenderStored a.id b.id) := by
  rw [filter_news_comments, offences]
  cases q.deciderOf a.body b.body with
  | some allows => by_cases hw : q.budget (.make a.id b.id) s.findings = 0 <;> simp [hw, scanned]
  | none => rfl

theorem filter_notStored_comments (a b : Object) (s : Session σ) :
    (q.comments a b s).filter (·.news? == some .notStored) =
      if q.budget (.make a.id b.id) s.findings = 0 ∧ q.rejects a b s
      then [.offenderNotStored a.id b.id] else [] := by
  rw [filter_news_comments, rejects]
  cases q.deciderOf a.body b.body with
  | some allows => by_cases hw : q.budget (.make a.id b.id) s.findings = 0 <;> simp [hw, scanned]
  | none => simp

theorem filter_planned_comments (a b : Object) (s : Session σ) :
    (q.comments a b s).filter (·.news? == some .planned) =
      if (q.deciderOf a.body b.body).isNone ∧ q.budget (.make a.id b.id) s.findings ≠ 0
      then q.sayIf (q.answerTo a b s) (.contactsFound (q.answerTo a b s).count a.id b.id
        ((q.answerTo a b s).contacts.take (q.budget (.make a.id b.id) s.findings)).length)
      else [] := by
  rw [filter_news_comments]
  cases q.deciderOf a.body b.body with
  | some allows => by_cases hw : q.budget (.make a.id b.id) s.findings = 0 <;> simp [hw]
  | none => simp

theorem filter_complete_comments (a b : Object) (s : Session σ) :
    (q.comments a b s).filter (·.news? == some .complete) = [] := by
  rw [filter_news_comments]
  cases q.deciderOf a.body b.body with
  | some allows => by_cases hw : q.budget (.make a.id b.id) s.findings = 0 <;> simp [hw]
  | none => simp

end Query

end Clearance
