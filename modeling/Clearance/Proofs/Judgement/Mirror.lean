import Clearance.Proofs.Contact.Answers
import Clearance.Proofs.Judgement.Growth

/-! Decisions do not tell the two ways round from each other. If the narrow phase finds the same
contacts either way, only turned, and no decider looks at which body comes first, then some of the
pairs in a row can be handed over the other way round, and all that comes of it is that the contacts
which these decisions store are turned as well. The narrow phase may have a memory; what is asked of
it is that it answers alike from memories that are alike. -/

namespace Clearance

variable {σ : Type}

/-! ### Turned questions -/

/-- From memories that are alike come the same answers, with turned contacts if the pair is turned,
and memories that are alike again. Only an empty buffer matters, since decisions ask on no other. -/
structure NarrowPhase.Mirrors (n : NarrowPhase σ) (alike : σ → σ → Prop) : Prop where
  refl : ∀ m, alike m m
  same : ∀ {m m'}, alike m m' → ∀ a b p,
    alike (n.ask m a b p []).1 (n.ask m' a b p []).1 ∧
      (n.ask m' a b p []).2.count = (n.ask m a b p []).2.count ∧
      (n.ask m' a b p []).2.contacts = (n.ask m a b p []).2.contacts
  turned : ∀ {m m'}, alike m m' → ∀ a b p,
    alike (n.ask m a b p []).1 (n.ask m' b a p []).1 ∧
      (n.ask m' b a p []).2.count = (n.ask m a b p []).2.count ∧
      (n.ask m' b a p []).2.contacts = (n.ask m a b p []).2.contacts.map Contact.flip

/-- Where the memory does not show, all memories are alike. -/
theorem NarrowPhase.AnswersBy.mirrors {n : NarrowPhase σ}
    {answer : Object → Object → Probe → List Contact → Answer} (ha : n.AnswersBy answer)
    (h : ∀ a b p, (answer b a p []).count = (answer a b p []).count ∧
      (answer b a p []).contacts = (answer a b p []).contacts.map Contact.flip) :
    n.Mirrors fun _ _ => True where
  refl _ := trivial
  same _ a b p := by
    rw [ha, ha]
    exact ⟨trivial, rfl, rfl⟩
  turned _ a b p := by
    rw [ha, ha]
    exact ⟨trivial, h a b p⟩

/-- To turn a contact twice is to leave it, if that holds of its normal. -/
theorem Contact.flip_flip {c : Contact} (h : -(-c.normal) = c.normal) : c.flip.flip = c := by
  rw [flip, flip, h]

/-- The contacts of one pair of bodies, as they are seen from the side that asks. -/
def Answer.eitherWay (x y : BodyId) (cs : List Contact) (a b : Object) (p : Probe) : Answer :=
  if a.id = x ∧ b.id = y then { contacts := p.cut cs, count := (p.cut cs).length }
  else if a.id = y ∧ b.id = x then
    { contacts := (p.cut cs).map Contact.flip, count := (p.cut cs).length }
  else { contacts := [], count := 0 }

def NarrowPhase.eitherWay (x y : BodyId) (cs : List Contact) : NarrowPhase Unit :=
  .pure fun a b p _ => .eitherWay x y cs a b p

theorem NarrowPhase.mirrors_eitherWay {x y : BodyId} {cs : List Contact} (hxy : x ≠ y)
    (hcs : ∀ c ∈ cs, c.flip.flip = c) : (eitherWay x y cs).Mirrors fun _ _ => True := by
  have ha : (eitherWay x y cs).AnswersBy fun a b p _ => .eitherWay x y cs a b p :=
    fun _ _ _ _ _ => rfl
  refine ha.mirrors fun a b p => ?_
  have htwice : ((p.cut cs).map Contact.flip).map Contact.flip = p.cut cs := by
    have hsub : ∀ c ∈ p.cut cs, c ∈ cs := by
      unfold Probe.cut
      split
      · exact fun _ => id
      · exact fun _ => List.mem_of_mem_take
    rw [List.map_map]
    exact (List.map_congr_left fun c hc => hcs c (hsub c hc)).trans (List.map_id _)
  unfold Answer.eitherWay
  by_cases hab : a.id = x ∧ b.id = y
  · simp only [hab, hxy, hxy.symm, and_self, ↓reduceIte]
  · by_cases hba : a.id = y ∧ b.id = x
    · simp only [hba, hxy, hxy.symm, and_self, ↓reduceIte, htwice]
    · rw [if_neg hab, if_neg hba, if_neg (fun h => hba h.symm), if_neg (fun h => hab h.symm)]
      exact ⟨rfl, rfl⟩

/-- Two objects to decide about, and whether they are handed over the other way round. -/
structure Turn where
  first : Object
  second : Object
  swapped : Bool

namespace Turn

def straight (t : Turn) : Object × Object := (t.first, t.second)

def turned (t : Turn) : Object × Object :=
  if t.swapped then (t.second, t.first) else (t.first, t.second)

def pair (t : Turn) : BodyPair := .make t.first.id t.second.id

/-- A contact as it is seen where the turn has effect. -/
def view (t : Turn) (c : Contact) : Contact := if t.swapped then c.flip else c

theorem make_straight (t : Turn) : BodyPair.make t.straight.1.id t.straight.2.id = t.pair := rfl

theorem make_turned (t : Turn) : BodyPair.make t.turned.1.id t.turned.2.id = t.pair := by
  unfold turned
  split
  · exact BodyPair.make_comm ..
  · rfl

end Turn

theorem NarrowPhase.Mirrors.ask {n : NarrowPhase σ} {alike : σ → σ → Prop} (h : n.Mirrors alike)
    {m m' : σ} (hm : alike m m') (t : Turn) (p : Probe) :
    alike (n.ask m t.first t.second p []).1 (n.ask m' t.turned.1 t.turned.2 p []).1 ∧
      (n.ask m' t.turned.1 t.turned.2 p []).2.count = (n.ask m t.first t.second p []).2.count ∧
      (n.ask m' t.turned.1 t.turned.2 p []).2.contacts =
        (n.ask m t.first t.second p []).2.contacts.map t.view := by
  obtain ⟨a, b, swapped⟩ := t
  cases swapped with
  | false =>
    have hview : Turn.view ⟨a, b, false⟩ = id := rfl
    rw [hview, List.map_id]
    exact h.same hm a b p
  | true => exact h.turned hm a b p

/-! ### Sessions that are alike -/

/-- The probes of the questions in a row of events. -/
def probesOf (es : List Event) : List Probe :=
  (callsOf es).filterMap fun
    | .asked _ _ p _ => some p
    | _ => none

/-- Findings that agree in everything but the contacts themselves. -/
structure Findings.Alike (f g : Findings) : Prop where
  collision : g.collision = f.collision
  contactCount : g.contactCount = f.contactCount
  keys : g.buckets.keys = f.buckets.keys
  stored : ∀ p, g.stored p = f.stored p

/-- Sessions that have come to the same from pairs handed over either way round. -/
structure Session.Alike (alike : σ → σ → Prop) (s s' : Session σ) : Prop where
  memory : alike s.memory s'.memory
  findings : s.findings.Alike s'.findings
  done : s'.done = s.done
  probes : probesOf s'.events = probesOf s.events

namespace Findings

theorem Alike.refl (f : Findings) : f.Alike f := ⟨rfl, rfl, rfl, fun _ => rfl⟩

theorem Alike.record {f g : Findings} (h : f.Alike g) (p : BodyPair) (c d : Contact) :
    (f.record p c).Alike (g.record p d) where
  collision := h.collision
  contactCount := congrArg (· + 1) h.contactCount
  keys := by rw [keys_record, keys_record, h.keys]
  stored r := by
    have hr := h.stored r
    have hp := h.stored p
    unfold Findings.stored at hr hp ⊢
    rw [bucket_record, bucket_record]
    split
    · rw [List.length_append, List.length_append, hp]
      rfl
    · exact hr

theorem Alike.recordAll {f g : Findings} (h : f.Alike g) (p : BodyPair) (view : Contact → Contact)
    (cs : List Contact) : (f.recordAll p cs).Alike (g.recordAll p (cs.map view)) := by
  induction cs generalizing f g with
  | nil => exact h
  | cons c cs ih => exact ih (h.record p c (view c))

theorem Alike.add {f g : Findings} (h : f.Alike g) (p : BodyPair) (view : Contact → Contact)
    (cs : List Contact) (hit : Bool) : (f.add p cs hit).Alike (g.add p (cs.map view) hit) :=
  have hall := h.recordAll p view cs
  ⟨by rw [collision_add, collision_add, h.collision], hall.contactCount, hall.keys, hall.stored⟩

end Findings

namespace Query

variable {q : Query σ} {alike : σ → σ → Prop}

/-- Neither the narrow phase nor a decider tells the two ways round from each other. -/
structure IsMirrored (q : Query σ) (alike : σ → σ → Prop) : Prop where
  narrow : q.narrow.Mirrors alike
  decider : ∀ a b allows, q.deciderOf a b = some allows → ∀ c, allows c.flip = allows c

theorem isExempt_turned (q : Query σ) (t : Turn) :
    q.isExempt t.turned.1.body t.turned.2.body = q.isExempt t.first.body t.second.body := by
  unfold Turn.turned
  split
  · exact q.isExempt_comm ..
  · rfl

theorem spares_turned (q : Query σ) (t : Turn) :
    q.Spares t.turned.1.body t.turned.2.body ↔ q.Spares t.first.body t.second.body := by
  rw [← isExempt_iff_spares, q.isExempt_turned, isExempt_iff_spares]

theorem deciderOf_turned (q : Query σ) (t : Turn) :
    q.deciderOf t.turned.1.body t.turned.2.body = q.deciderOf t.first.body t.second.body := by
  unfold Turn.turned
  split
  · exact q.deciderOf_comm ..
  · rfl

theorem budget_congr (q : Query σ) {f g : Findings} (h : f.Alike g) (p : BodyPair) :
    q.budget p g = q.budget p f := by
  simp only [budget, Findings.budget, h.contactCount, h.stored]

theorem isSatisfied_congr (q : Query σ) {f g : Findings} (h : f.Alike g) :
    q.isSatisfied g = q.isSatisfied f := by
  simp only [isSatisfied, h.collision, h.contactCount]

theorem probeOf_turned (q : Query σ) {f g : Findings} (h : f.Alike g) (t : Turn) :
    q.probeOf t.turned.1 t.turned.2 g = q.probeOf t.first t.second f := by
  simp only [probeOf, q.deciderOf_turned, t.make_turned, q.budget_congr h]
  rfl

/-! ### One decision -/

theorem IsMirrored.allows_view (hq : q.IsMirrored alike) {t : Turn} {allows : Decider}
    (h : q.deciderOf t.first.body t.second.body = some allows) (c : Contact) :
    allows (t.view c) = allows c := by
  unfold Turn.view
  split
  · exact hq.decider _ _ _ h c
  · rfl

/-- The answers to both ways to ask are the same but for the way the contacts are turned. -/
theorem IsMirrored.answerTo_turned (hq : q.IsMirrored alike) {s s' : Session σ}
    (h : s.Alike alike s') (t : Turn) :
    (q.answerTo t.turned.1 t.turned.2 s').count = (q.answerTo t.first t.second s).count ∧
      (q.answerTo t.turned.1 t.turned.2 s').contacts =
        (q.answerTo t.first t.second s).contacts.map t.view := by
  rw [answerTo, q.probeOf_turned h.findings]
  exact (hq.narrow.ask h.memory t _).2

theorem IsMirrored.offences_turned (hq : q.IsMirrored alike) {s s' : Session σ}
    (h : s.Alike alike s') (t : Turn) :
    q.offences t.turned.1 t.turned.2 (q.answerTo t.turned.1 t.turned.2 s') =
      (q.offences t.first t.second (q.answerTo t.first t.second s)).map t.view := by
  obtain ⟨hcount, hcontacts⟩ := hq.answerTo_turned h t
  rw [offences, offences, q.deciderOf_turned, hcount, hcontacts]
  cases hd : q.deciderOf t.first.body t.second.body with
  | some allows => simp only [List.filter_map, Function.comp_def, hq.allows_view hd]
  | none =>
    dsimp only
    split
    · rfl
    · rfl

theorem IsMirrored.isOffence_turned (hq : q.IsMirrored alike) {s s' : Session σ}
    (h : s.Alike alike s') (t : Turn) :
    q.isOffence t.turned.1 t.turned.2 (q.answerTo t.turned.1 t.turned.2 s') =
      q.isOffence t.first t.second (q.answerTo t.first t.second s) := by
  obtain ⟨hcount, hcontacts⟩ := hq.answerTo_turned h t
  rw [isOffence, isOffence, q.deciderOf_turned, hcount, hcontacts]
  cases hd : q.deciderOf t.first.body t.second.body with
  | some allows => simp only [List.any_map, Function.comp_def, hq.allows_view hd]
  | none => rfl

theorem alike_judge_of_idle {s s' : Session σ} (h : s.Alike alike s') {t : Turn}
    (hidle : s.done = true ∨ q.Spares t.first.body t.second.body)
    (hidle' : s'.done = true ∨ q.Spares t.turned.1.body t.turned.2.body) :
    (q.judge s t.first t.second).1.Alike alike (q.judge s' t.turned.1 t.turned.2).1 := by
  obtain ⟨hf, hd, hm, hcalls, _⟩ := (q.disciplined s t.first t.second).idle hidle
  obtain ⟨hf', hd', hm', hcalls', _⟩ := (q.disciplined s' t.turned.1 t.turned.2).idle hidle'
  constructor
  case memory => rw [hm, hm']; exact h.memory
  case findings => rw [hf, hf']; exact h.findings
  case done => rw [hd, hd', h.done]
  case probes => rw [probesOf, probesOf, hcalls, hcalls']; exact h.probes

theorem IsMirrored.alike_judge_of_not_exempt (hq : q.IsMirrored alike) {s s' : Session σ}
    (h : s.Alike alike s') {t : Turn} (hd : s.done = false)
    (he : q.isExempt t.first.body t.second.body = false) :
    (q.judge s t.first t.second).1.Alike alike (q.judge s' t.turned.1 t.turned.2).1 := by
  have hd' : s'.done = false := h.done.trans hd
  have he' := (q.isExempt_turned t).trans he
  obtain ⟨hx, hdone⟩ := q.examined_judge hd he
  obtain ⟨hx', hdone'⟩ := q.examined_judge hd' he'
  have hfindings : (q.judge s t.first t.second).1.findings.Alike
      (q.judge s' t.turned.1 t.turned.2).1.findings := by
    rw [hx.findings, hx'.findings, hq.offences_turned h, hq.isOffence_turned h, t.make_turned,
      q.budget_congr h.findings, ← List.map_take]
    exact h.findings.add ..
  constructor
  case memory =>
    rw [hx.memory, hx'.memory, q.probeOf_turned h.findings]
    exact (hq.narrow.ask h.memory t _).1
  case findings => exact hfindings
  case done => rw [hdone, hdone', q.isSatisfied_congr hfindings]
  case probes =>
    have hprobes := h.probes
    unfold probesOf at hprobes ⊢
    rw [callsOf_judge_of_not_exempt hd he, callsOf_judge_of_not_exempt hd' he',
      q.probeOf_turned h.findings, List.filterMap_append, List.filterMap_append, hprobes]
    rfl

/-- Decisions about a pair and about the same pair turned: like sessions stay alike, and what the
one decision stores is what the other one stores, turned. -/
theorem IsMirrored.judge_turned (hq : q.IsMirrored alike) {s s' : Session σ}
    (h : s.Alike alike s') (t : Turn) :
    (q.judge s t.first t.second).1.Alike alike (q.judge s' t.turned.1 t.turned.2).1 ∧
      q.gain s' t.turned.1 t.turned.2 = (q.gain s t.first t.second).map t.view := by
  by_cases hidle : s.done = true ∨ q.Spares t.first.body t.second.body
  · have hidle' : s'.done = true ∨ q.Spares t.turned.1.body t.turned.2.body := by
      rwa [h.done, spares_turned]
    exact ⟨alike_judge_of_idle h hidle hidle',
      by rw [gain_of_idle hidle, gain_of_idle hidle', List.map_nil]⟩
  · rw [not_or] at hidle
    have hd : s.done = false := eq_false_of_ne_true hidle.1
    have he := isExempt_eq_false_of_not_spares hidle.2
    refine ⟨hq.alike_judge_of_not_exempt h hd he, ?_⟩
    rw [gain_of_not_exempt hd he,
      gain_of_not_exempt (h.done.trans hd) ((q.isExempt_turned t).trans he),
      hq.offences_turned h, t.make_turned, q.budget_congr h.findings, List.map_take]
    rfl

/-! ### Rows of decisions -/

/-- What the decisions of a row store, each contact with the turn of its decision. The pairs are
handed over as `way` says. -/
def shares (q : Query σ) (way : Turn → Object × Object) :
    List Turn → Session σ → List (Turn × Contact)
  | [], _ => []
  | t :: ts, s => (q.gain s (way t).1 (way t).2).map (Prod.mk t) ++
      shares q way ts (q.judge s (way t).1 (way t).2).1

theorem gains_map (q : Query σ) {way : Turn → Object × Object}
    (hway : ∀ t, BodyPair.make (way t).1.id (way t).2.id = t.pair) (ts : List Turn)
    (s : Session σ) :
    q.gains (ts.map way) s = (q.shares way ts s).map fun x => (x.1.pair, x.2) := by
  induction ts generalizing s with
  | nil => rfl
  | cons t ts ih =>
    rw [List.map_cons, gains, shares, List.map_append, ih, hway, List.map_map]
    rfl

/-- The bucket of a pair after a row of turns. -/
theorem bucket_judgeAll_map (q : Query σ) {way : Turn → Object × Object}
    (hway : ∀ t, BodyPair.make (way t).1.id (way t).2.id = t.pair) (ts : List Turn)
    (s : Session σ) (p : BodyPair) : (q.judgeAll (ts.map way) s).findings.bucket p =
      s.findings.bucket p ++ ((q.shares way ts s).filter (·.1.pair = p)).map Prod.snd := by
  rw [(q.grownBy_judgeAll _ s).bucket, q.gains_map hway, Ledger.ofPair, List.filter_map,
    List.map_map]
  rfl

theorem IsMirrored.alike_judgeAll (hq : q.IsMirrored alike) {s s' : Session σ}
    (h : s.Alike alike s') (ts : List Turn) : (q.judgeAll (ts.map Turn.straight) s).Alike alike
      (q.judgeAll (ts.map Turn.turned) s') := by
  induction ts generalizing s s' with
  | nil => exact h
  | cons t ts ih => exact ih (hq.judge_turned h t).1

theorem IsMirrored.snd_judgeEach_turned (hq : q.IsMirrored alike) {s s' : Session σ}
    (h : s.Alike alike s') (ts : List Turn) : (q.judgeEach (ts.map Turn.turned) s').2 =
      (q.judgeEach (ts.map Turn.straight) s).2 := by
  induction ts generalizing s s' with
  | nil => rfl
  | cons t ts ih =>
    have hstep := (hq.judge_turned h t).1
    have hstop : (q.judge s' t.turned.1 t.turned.2).2 = (q.judge s t.first t.second).2 := by
      rw [snd_judge, snd_judge, hstep.done]
    simp only [List.map_cons, judgeEach, Turn.straight, hstop]
    exact congrArg _ (ih hstep)

theorem IsMirrored.shares_turned (hq : q.IsMirrored alike) {s s' : Session σ}
    (h : s.Alike alike s') (ts : List Turn) : q.shares Turn.turned ts s' =
      (q.shares Turn.straight ts s).map fun x => (x.1, x.1.view x.2) := by
  induction ts generalizing s s' with
  | nil => rfl
  | cons t ts ih =>
    obtain ⟨hstep, hgain⟩ := hq.judge_turned h t
    rw [shares, shares, List.map_append, ih hstep, hgain, List.map_map, List.map_map]
    rfl

/-- Two runs that hand over some of the pairs in different ways, from one session: they return the
same, put the same probes, and end with the same findings but for the contacts. These are the same
in their places, except that a contact from a swapped decision is turned. -/
theorem judgeEach_turned (hq : q.IsMirrored alike) (ts : List Turn) (s : Session σ) :
    let straight := q.judgeEach (ts.map Turn.straight) s
    let turned := q.judgeEach (ts.map Turn.turned) s
    turned.2 = straight.2 ∧ probesOf turned.1.events = probesOf straight.1.events ∧
      turned.1.done = straight.1.done ∧ straight.1.findings.Alike turned.1.findings ∧
      q.shares Turn.turned ts s =
        (q.shares Turn.straight ts s).map (fun x => (x.1, x.1.view x.2)) ∧
      ∀ p, let stored := (q.shares Turn.straight ts s).filter (·.1.pair = p)
        straight.1.findings.bucket p = s.findings.bucket p ++ stored.map Prod.snd ∧
          turned.1.findings.bucket p =
            s.findings.bucket p ++ stored.map fun x => x.1.view x.2 := by
  intro straight turned
  have hs : s.Alike alike s := ⟨hq.narrow.refl _, .refl _, rfl, rfl⟩
  have halike := hq.alike_judgeAll hs ts
  have hshares := hq.shares_turned hs ts
  refine ⟨hq.snd_judgeEach_turned hs ts, ?_⟩
  simp only [straight, turned, fst_judgeEach]
  refine ⟨halike.probes, halike.done, halike.findings, hshares, fun p => ⟨?_, ?_⟩⟩
  · exact q.bucket_judgeAll_map Turn.make_straight ts s p
  · rw [q.bucket_judgeAll_map Turn.make_turned, hshares, List.filter_map, List.map_map]
    rfl

/-- A spoon touches a plate in two places. -/
def spoonContacts : List Contact :=
  [.make .zero .unitZ 0.005 (.worldObject "plate") (.robotLink "spoon"),
    .make .zero .unitX 0.02 (.worldObject "plate") (.robotLink "spoon")]

/-- The spoon may touch the plate lightly. -/
def spoonOnPlate : Query Unit where
  request := .withContacts 2 2
  narrow := .eitherWay "plate" "spoon" spoonContacts
  matrix := some (.set .empty "plate" "spoon" (.conditional fun c => decide (c.depth < 0.01)))

theorem isMirrored_spoonOnPlate : spoonOnPlate.IsMirrored fun _ _ => True where
  narrow := by
    have hnormal : ∀ c ∈ spoonContacts, -(-c.normal) = c.normal := by decide +kernel
    exact NarrowPhase.mirrors_eitherWay (by decide) fun c hc => c.flip_flip (hnormal c hc)
  decider a b allows h c := by
    have hentry : ∀ d, spoonOnPlate.entryOf a b = some d →
        d = .conditional fun c => decide (c.depth < 0.01) := by
      intro d hd
      unfold entryOf spoonOnPlate at hd
      rw [Option.bind_some, AllowanceMatrix.get?_set, AllowanceMatrix.get?_empty] at hd
      split at hd
      · exact (Option.some.inj hd).symm
      · cases hd
    obtain ⟨d, hd, hallows⟩ := Option.bind_eq_some_iff.mp h
    rw [hentry d hd] at hallows
    cases hallows
    rfl

def plate : Object := .ball 0 (.worldObject "plate")

def spoon : Object := .ball 1 (.robotLink "spoon")

theorem shares_spoonOnPlate :
    spoonOnPlate.shares Turn.straight [⟨plate, spoon, false⟩, ⟨plate, spoon, true⟩]
      { findings := .empty, memory := () } =
      [(⟨plate, spoon, false⟩, spoonContacts[1]), (⟨plate, spoon, true⟩, spoonContacts[1])] := rfl

/-- Each of two decisions stores the deep contact, and the one that is handed the spoon first stores
it turned. -/
theorem judgeEach_spoonOnPlate :
    let deep := spoonContacts[1]
    let ts : List Turn := [⟨plate, spoon, false⟩, ⟨plate, spoon, true⟩]
    let s : Session Unit := { findings := .empty, memory := () }
    let straight := spoonOnPlate.judgeEach (ts.map Turn.straight) s
    let turned := spoonOnPlate.judgeEach (ts.map Turn.turned) s
    spoonOnPlate.IsMirrored (fun _ _ => True) ∧ turned.2 = [false, true] ∧
      straight.1.findings.bucket ⟨"plate", "spoon"⟩ = [deep, deep] ∧
      turned.1.findings.bucket ⟨"plate", "spoon"⟩ = [deep, deep.flip] := by
  intro deep ts s straight turned
  obtain ⟨hstops, _, _, _, _, hbucket⟩ := judgeEach_turned isMirrored_spoonOnPlate ts s
  obtain ⟨hstraight, hturned⟩ := hbucket ⟨"plate", "spoon"⟩
  rw [shares_spoonOnPlate] at hstraight hturned
  have hstraightStops : straight.2 = [false, true] := by decide +kernel
  exact ⟨isMirrored_spoonOnPlate, hstops.trans hstraightStops, hstraight, hturned⟩

end Query

end Clearance
