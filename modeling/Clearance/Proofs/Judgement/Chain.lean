import Clearance.Judgement.Search
import Clearance.Proofs.Judgement.Examination
import Clearance.Proofs.Scene.Candidates

/-! Searches made one after the other on one session. A search goes down its candidates and leaves
them when the session is done; since a session that is done ignores all further pairs, the searches
together are one row of decisions over all their candidates, and nothing in the session tells where
they were left. -/

namespace Clearance

/-- One call of a driver. Each brings the index as it stands at that time. -/
inductive Search where
  | all (index : SweepIndex)
  | object (index : SweepIndex) (o : Object)
  | group (index : SweepIndex) (g : Group)

/-- All pairs of a search, in the order in which a visitor that never stops sees them. -/
def Search.candidates : Search → List (Object × Object)
  | all i => i.pairs
  | object i o => i.partners o
  | group i g => g.objects.flatMap i.partners

namespace Query

variable {σ : Type}

/-- The session after a search and what the search returns. -/
def search (q : Query σ) : Search → Session σ → Session σ × Bool
  | .all i, s => q.searchAll i s
  | .object i o, s => q.searchObject i o s
  | .group i g, s => q.searchGroup i g s

/-- The session after a row of searches and what each of them returns. -/
def searchEach (q : Query σ) : List Search → Session σ → Session σ × List Bool
  | [], s => (s, [])
  | c :: cs, s =>
    let (s, stop) := q.search c s
    let (s, stops) := searchEach q cs s
    (s, stop :: stops)

/-! ### Leaving a row of candidates -/

theorem judgeAll_of_done (q : Query σ) (ps : List (Object × Object)) {s : Session σ}
    (h : s.done = true) : q.judgeAll ps s = s := by
  induction ps with
  | nil => rfl
  | cons p ps ih => rw [judgeAll_cons, q.judge_of_done h, ih]

/-- To leave a row where the session is done is to go on to its end. -/
theorem visitList_judge (q : Query σ) (ps : List (Object × Object)) (s : Session σ) :
    (Sweep.visitList q.judge ps s).1 = q.judgeAll ps s := by
  induction ps generalizing s with
  | nil => rfl
  | cons p ps ih =>
    rw [Sweep.visitList_cons, Sweep.andThen, judgeAll_cons, snd_judge]
    cases hd : (q.judge s p.1 p.2).1.done with
    | true =>
      rw [if_pos rfl, q.judgeAll_of_done ps hd]
    | false =>
      rw [if_neg Bool.false_ne_true, ih]

/-- The test before a search only saves the search. -/
theorem ite_done_judgeAll (q : Query σ) (ps : List (Object × Object)) (s : Session σ) :
    (if s.done then s else q.judgeAll ps s) = q.judgeAll ps s := by
  split
  · rename_i hd
    rw [q.judgeAll_of_done ps hd]
  · rfl

/-! ### One search -/

theorem searchAll_eq (q : Query σ) (i : SweepIndex) (s : Session σ) :
    q.searchAll i s = (q.judgeAll i.pairs s, (q.judgeAll i.pairs s).done) := by
  simp only [searchAll, i.visitPairs_eq_visitList, visitList_judge, ite_done_judgeAll]

theorem searchObject_eq (q : Query σ) (i : SweepIndex) (o : Object) (s : Session σ) :
    q.searchObject i o s = (q.judgeAll (i.partners o) s, (q.judgeAll (i.partners o) s).done) := by
  simp only [searchObject, i.visitPartners_eq_visitList, visitList_judge, ite_done_judgeAll]

theorem searchObjects_eq (q : Query σ) (i : SweepIndex) (os : List Object) (s : Session σ) :
    q.searchObjects i os s = q.judgeAll (os.flatMap i.partners) s := by
  induction os generalizing s with
  | nil => rfl
  | cons o os ih =>
    rw [searchObjects, searchObject_eq, List.flatMap_cons, judgeAll_append]
    dsimp only
    split
    · rename_i hd
      rw [q.judgeAll_of_done _ hd]
    · rw [ih]

theorem search_eq (q : Query σ) (c : Search) (s : Session σ) :
    q.search c s = (q.judgeAll c.candidates s, (q.judgeAll c.candidates s).done) := by
  cases c with
  | all i => exact q.searchAll_eq i s
  | object i o => exact q.searchObject_eq i o s
  | group i g => rw [search, searchGroup, searchObjects_eq]; rfl

/-! ### A row of searches -/

/-- Searches leave the whole session, events and memory included, as one row of decisions over all
their candidates does, and each returns whether the session was done after its own. -/
theorem searchEach_eq_judgeAll (q : Query σ) (cs : List Search) (s : Session σ) :
    q.searchEach cs s = (q.judgeAll (cs.flatMap Search.candidates) s,
      (List.range cs.length).map fun k =>
        (q.judgeAll ((cs.take (k + 1)).flatMap Search.candidates) s).done) := by
  induction cs generalizing s with
  | nil => rfl
  | cons c cs ih =>
    rw [searchEach, search_eq]
    dsimp only
    rw [ih, List.flatMap_cons, judgeAll_append, List.length_cons, List.range_succ_eq_map]
    simp only [List.map_cons, List.map_map, List.take_succ_cons, List.flatMap_cons, judgeAll_append,
      List.take_zero, List.flatMap_nil, judgeAll_nil, Function.comp_def, Nat.succ_eq_add_one]

end Query

end Clearance
