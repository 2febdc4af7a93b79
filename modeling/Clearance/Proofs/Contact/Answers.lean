import Clearance.Contact.Script

/-! What may be promised of a narrow phase. It may answer by a function of the question, tell the
presence of contacts alike to all probes, or draw all its answers from one list of contacts for each
pair. Either of the last two is enough to know a list for each pair that every probe tells the
presence of. Scripts that keep to the probe and say true counts make all three promises. -/

namespace Clearance

variable {σ : Type}

namespace NarrowPhase

/-- Neither the memory nor what came before shows in an answer. -/
def AnswersBy (n : NarrowPhase σ) (answer : Object → Object → Probe → List Contact → Answer) : Prop :=
  ∀ m a b p held, (n.ask m a b p held).2 = answer a b p held

/-- Every probe counts something exactly when asking for all contacts brings one. The limits that a
probe can carry are words. -/
structure AgreesOnPresence (answer : Object → Object → Probe → List Contact → Answer) : Prop where
  presence : ∀ a b, 0 < (answer a b .presence []).count ↔ (answer a b .all []).contacts ≠ []
  budgeted : ∀ a b n, 0 < n → n < UInt64.size →
    (0 < (answer a b (.budgeted n) []).count ↔ (answer a b .all []).contacts ≠ [])

/-- There is one list of contacts for each pair. A probe adds all of it, its first `n`, or nothing,
and the count is what was added, or whether there was anything to add. -/
structure Lists (n : NarrowPhase σ) (contacts : Object → Object → List Contact) : Prop where
  all : ∀ m a b held, (n.ask m a b .all held).2.contacts = held ++ contacts a b ∧
    (n.ask m a b .all held).2.count = (contacts a b).length
  budgeted : ∀ m a b k held, k < UInt64.size →
    (n.ask m a b (.budgeted k) held).2.contacts = held ++ (contacts a b).take k ∧
    (n.ask m a b (.budgeted k) held).2.count = ((contacts a b).take k).length
  presence : ∀ m a b held, (n.ask m a b .presence held).2.contacts = held ∧
    (n.ask m a b .presence held).2.count = min 1 (contacts a b).length

/-- Whatever the memory, asking for all contacts of a pair brings its list, and the counts of the
other probes tell whether the list is empty. -/
structure Tells (n : NarrowPhase σ) (contacts : Object → Object → List Contact) : Prop where
  all : ∀ m a b, (n.ask m a b .all []).2.contacts = contacts a b
  budgeted : ∀ m a b k, 0 < k → k < UInt64.size →
    (0 < (n.ask m a b (.budgeted k) []).2.count ↔ contacts a b ≠ [])
  presence : ∀ m a b, 0 < (n.ask m a b .presence []).2.count ↔ contacts a b ≠ []

theorem AnswersBy.tells {n : NarrowPhase σ}
    {answer : Object → Object → Probe → List Contact → Answer} (ha : n.AnswersBy answer)
    (hp : AgreesOnPresence answer) : n.Tells fun a b => (answer a b .all []).contacts where
  all m a b := by rw [ha]
  budgeted m a b k hk hs := by
    rw [ha]
    exact hp.budgeted a b k hk hs
  presence m a b := by
    rw [ha]
    exact hp.presence a b

theorem Lists.tells {n : NarrowPhase σ} {contacts : Object → Object → List Contact}
    (h : n.Lists contacts) : n.Tells contacts where
  all m a b := by rw [(h.all m a b []).1, List.nil_append]
  budgeted m a b k hk hs := by
    rw [(h.budgeted m a b k [] hs).2, List.length_take, ← List.length_pos_iff]
    omega
  presence m a b := by
    rw [(h.presence m a b []).2, ← List.length_pos_iff]
    omega

/-- One memory is enough to see the answers. -/
theorem Tells.agreesOnPresence {n : NarrowPhase σ} {contacts : Object → Object → List Contact}
    {answer : Object → Object → Probe → List Contact → Answer} (h : n.Tells contacts)
    (ha : n.AnswersBy answer) (m : σ) : AgreesOnPresence answer where
  presence a b := by
    rw [← ha m, ← ha m, h.all]
    exact h.presence m a b
  budgeted a b k hk hs := by
    rw [← ha m, ← ha m, h.all]
    exact h.budgeted m a b k hk hs

end NarrowPhase

/-- A script that keeps to the probe and says true counts. -/
structure Script.IsHonest (s : Script) : Prop where
  count : s.count? = none
  capped : s.uncapped = false
  silent : s.pushAlways = false

/-- An object for scripts, which look at names only. -/
def Object.ball (serial : Nat) (body : Body) : Object :=
  .make serial body ⟨.ball 1, .identity, .sphere⟩ .identity

namespace ScriptBook

theorem lists_narrowPhase {t : ScriptBook} (h : ∀ a b, (t.find a b).IsHonest) :
    t.narrowPhase.Lists fun a b => (t.find a.id b.id).contactsFor a b where
  all m a b held := by
    obtain ⟨hc, hu, hs⟩ := h a.id b.id
    simp [narrowPhase, NarrowPhase.pure, Script.answer, Probe.all, Probe.cut, hc, hu]
  budgeted m a b k held _ := by
    obtain ⟨hc, hu, hs⟩ := h a.id b.id
    simp [narrowPhase, NarrowPhase.pure, Script.answer, Probe.budgeted, Probe.cut, hc, hu]
  presence m a b held := by
    obtain ⟨hc, hu, hs⟩ := h a.id b.id
    simp [narrowPhase, NarrowPhase.pure, Script.answer, Probe.presence, hc, hs]

theorem answersBy_narrowPhase (t : ScriptBook) :
    t.narrowPhase.AnswersBy fun a b p held => (t.find a.id b.id).answer a b p held :=
  fun _ _ _ _ _ => rfl

end ScriptBook

end Clearance
