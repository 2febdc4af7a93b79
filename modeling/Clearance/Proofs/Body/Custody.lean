import Mathlib.Data.List.Induction
import Mathlib.Data.Set.Card
import Clearance.Body.Attachment

/-! Histories of attachments. Whatever is attached and detached, in whatever order, a body has the
attachment that the last transfer of it gave it, and none if that transfer took it off. Touch links
come in two ways, with the attachment and one by one, and make one row without repetition: a link
that a body had in an earlier attachment is forgotten with that attachment. -/

namespace Clearance

/-- A map has as many entries as there are keys that lead to something. -/
theorem OrderedMap.encard_isSome_get? {κ α : Type} [DecidableEq κ] (m : OrderedMap κ α) :
    {k | (m.get? k).isSome = true}.encard = m.size := by
  have hset : {k | (m.get? k).isSome = true} = (m.keys.toFinset : Set κ) := by
    ext k
    rw [List.coe_toFinset]
    exact m.contains_iff k
  have hcard : m.keys.toFinset.card = m.size := by
    rw [keys, List.toFinset_card_of_nodup m.nodup_keys, List.length_map, size]
  rw [hset, Set.encard_coe_eq_coe_finsetCard, hcard]

namespace Attachment

@[simp] theorem link_addTouchLink (t : Attachment) (l : BodyId) :
    (t.addTouchLink l).link = t.link := by
  unfold addTouchLink
  split <;> rfl

@[simp] theorem link_addTouchLinks (t : Attachment) (ls : List BodyId) :
    (t.addTouchLinks ls).link = t.link := by
  induction ls generalizing t with
  | nil => rfl
  | cons l ls ih => rw [addTouchLinks_cons, ih, link_addTouchLink]

/-- Each new link comes last, and only the first time that it is named. -/
theorem touchLinks_addTouchLinks (t : Attachment) (ls : List BodyId) :
    (t.addTouchLinks ls).touchLinks =
      t.touchLinks ++ (ls.filter (· ∉ t.touchLinks)).eraseDups := by
  induction ls generalizing t with
  | nil => simp
  | cons l ls ih =>
    rw [addTouchLinks_cons, ih]
    by_cases hl : l ∈ t.touchLinks
    · have hsame : t.addTouchLink l = t := if_pos hl
      rw [hsame, List.filter_cons_of_neg (by simpa using hl)]
    · have hadd : (t.addTouchLink l).touchLinks = t.touchLinks ++ [l] := by
        rw [addTouchLink, if_neg hl]
      have hrest : ls.filter (· ∉ t.touchLinks ++ [l]) =
          (ls.filter (· ∉ t.touchLinks)).filter (fun m => !m == l) := by
        rw [List.filter_filter]
        refine List.filter_congr fun m _ => ?_
        by_cases hm : m = l <;> simp [hm]
      rw [hadd, hrest, List.filter_cons_of_pos (by simpa using hl), List.eraseDups_cons,
        List.append_assoc, List.singleton_append]

/-- The links given with an attachment and those added later make one row, in which all but the
first place of each link is left out. -/
theorem addTouchLinks_make (link : BodyId) (ls added : List BodyId) :
    (make link ls).addTouchLinks added = ⟨link, (ls ++ added).eraseDups⟩ := by
  have hone : (make link ls).addTouchLinks added =
      addTouchLinks ⟨link, []⟩ (ls ++ added) := (addTouchLinks_append ..).symm
  have hlinks := touchLinks_addTouchLinks ⟨link, []⟩ (ls ++ added)
  have hlink := link_addTouchLinks ⟨link, []⟩ (ls ++ added)
  rw [hone]
  generalize addTouchLinks ⟨link, []⟩ (ls ++ added) = t at hlinks hlink
  obtain ⟨_, _⟩ := t
  simpa using And.intro hlink hlinks

end Attachment

/-- A transfer of a body. It is attached to a link with some touch links, to which more are added
one by one before the attachment takes place; or it is detached. -/
inductive Transfer where
  | attach (body link : BodyId) (ls added : List BodyId)
  | detach (body : BodyId)

/-- The body that is transferred. -/
def Transfer.body : Transfer → BodyId
  | attach body .. => body
  | detach body => body

/-- The last transfer of `body` attached it to `link`, with the touch links `ls` and then
`added`. -/
def LastAttached (ms : List Transfer) (body link : BodyId) (ls added : List BodyId) : Prop :=
  ∃ earlier later, ms = earlier ++ .attach body link ls added :: later ∧
    ∀ m ∈ later, m.body ≠ body

theorem lastAttached_append_singleton (ms : List Transfer) (m : Transfer) (body link : BodyId)
    (ls added : List BodyId) : LastAttached (ms ++ [m]) body link ls added ↔
      m = .attach body link ls added ∨ m.body ≠ body ∧ LastAttached ms body link ls added := by
  constructor
  · rintro ⟨earlier, later, h, hlater⟩
    rcases later.eq_nil_or_concat' with rfl | ⟨later, n, rfl⟩
    · obtain ⟨-, hm⟩ := List.append_inj' h rfl
      exact .inl (List.singleton_inj.mp hm)
    · rw [← List.cons_append, ← List.append_assoc] at h
      obtain ⟨rfl, hm⟩ := List.append_inj' h rfl
      cases hm
      refine .inr ⟨hlater m (by simp), earlier, later, rfl, fun n hn => hlater n ?_⟩
      exact List.mem_append_left _ hn
  · rintro (rfl | ⟨hm, earlier, later, rfl, hlater⟩)
    · exact ⟨ms, [], rfl, fun m hm => absurd hm List.not_mem_nil⟩
    · refine ⟨earlier, later ++ [m], by simp, fun n hn => ?_⟩
      rcases List.mem_append.mp hn with hn | hn
      · exact hlater n hn
      · rwa [List.mem_singleton.mp hn]

namespace Attachments

/-- Makes a transfer, with the attachment that it replaces or takes off. -/
def transfer (r : Attachments) : Transfer → Option Attachment × Attachments
  | .attach body link ls added => r.attach body ((Attachment.make link ls).addTouchLinks added)
  | .detach body => r.detach body

/-- The attachments after a row of transfers. -/
def after (ms : List Transfer) : Attachments := ms.foldl (fun r m => (r.transfer m).2) empty

@[simp] theorem after_append_singleton (ms : List Transfer) (m : Transfer) :
    after (ms ++ [m]) = ((after ms).transfer m).2 := List.foldl_append

/-- A transfer tells what its body had before. -/
theorem fst_transfer (r : Attachments) (m : Transfer) : (r.transfer m).1 = r.attached? m.body := by
  cases m <;> rfl

theorem attached?_after_iff (ms : List Transfer) (body : BodyId) (t : Attachment) :
    (after ms).attached? body = some t ↔ ∃ link ls added,
      LastAttached ms body link ls added ∧ t = ⟨link, (ls ++ added).eraseDups⟩ := by
  induction ms using List.reverseRecOn with
  | nil => simp [after, LastAttached]
  | append_singleton ms m ih =>
    simp only [after_append_singleton, lastAttached_append_singleton]
    cases m with
    | attach b link ls added =>
      rw [transfer, attached?_attach]
      by_cases hb : b = body
      · subst hb
        simp [Attachment.addTouchLinks_make, Transfer.body, eq_comm]
      · simp [hb, Transfer.body, ih]
    | detach b =>
      rw [transfer, attached?_detach]
      by_cases hb : body = b
      · simp [hb, Transfer.body]
      · simp [hb, Ne.symm hb, Transfer.body, ih]

/-- A body that has no attachment is detached without a trace. -/
theorem detach_of_attached?_eq_none {r : Attachments} {body : BodyId}
    (h : r.attached? body = none) : r.detach body = (none, r) := by
  have hkey : body ∉ r.byBody.keys := by
    rw [← OrderedMap.contains_iff, OrderedMap.contains, show r.byBody.get? body = none from h]
    simp
  have hsame : r.byBody.erase body = r.byBody := by
    refine OrderedMap.ext (List.filter_eq_self.mpr fun e he => ?_)
    have hne : e.1 ≠ body := fun heq => hkey (heq ▸ List.mem_map_of_mem he)
    simpa using hne
  rw [detach, show r.byBody.get? body = none from h, hsame]

/-- Attachments read as the last transfers of their bodies, whatever they are asked. -/
structure Recalls (r : Attachments) (ms : List Transfer) : Prop where
  /-- A link may be touched if the last transfer of the body attached it and named the link. -/
  mayTouch : ∀ link body, r.mayTouch link body = true ↔
    ∃ carrier ls added, LastAttached ms body carrier ls added ∧ (link ∈ ls ∨ link ∈ added)
  attached : ∀ body t, r.attached? body = some t ↔
    ∃ link ls added, LastAttached ms body link ls added ∧ t = ⟨link, (ls ++ added).eraseDups⟩
  /-- The next transfer tells what it replaces or takes off. -/
  told : ∀ m t, (r.transfer m).1 = some t ↔
    ∃ link ls added, LastAttached ms m.body link ls added ∧ t = ⟨link, (ls ++ added).eraseDups⟩
  /-- Detaching a body that is not attached tells nothing and changes nothing. -/
  idle : ∀ body, (∀ link ls added, ¬ LastAttached ms body link ls added) →
    r.detach body = (none, r)
  size : {body | ∃ link ls added, LastAttached ms body link ls added}.encard = r.size

/-- After any history, the attachments are what the last transfers have left, and nothing else. -/
theorem recalls_after (ms : List Transfer) : (after ms).Recalls ms where
  mayTouch link body := by
    simp only [mayTouch, Option.any_eq_true, attached?_after_iff, Attachment.touches,
      List.contains_iff_mem]
    constructor
    · rintro ⟨t, ⟨carrier, ls, added, hlast, rfl⟩, hlink⟩
      rw [List.mem_eraseDups, List.mem_append] at hlink
      exact ⟨carrier, ls, added, hlast, hlink⟩
    · rintro ⟨carrier, ls, added, hlast, hlink⟩
      rw [← List.mem_append, ← List.mem_eraseDups] at hlink
      exact ⟨_, ⟨carrier, ls, added, hlast, rfl⟩, hlink⟩
  attached := attached?_after_iff ms
  told m t := by rw [fst_transfer, attached?_after_iff]
  idle body hnone := by
    refine detach_of_attached?_eq_none (Option.eq_none_iff_forall_ne_some.mpr fun t ht => ?_)
    obtain ⟨link, ls, added, hlast, -⟩ := (attached?_after_iff ms body t).mp ht
    exact hnone link ls added hlast
  size := by
    refine Eq.trans (congrArg Set.encard (Set.ext fun body => ?_))
      (after ms).byBody.encard_isSome_get?
    have hsome := Option.isSome_iff_exists (x := (after ms).attached? body)
    simp only [attached?_after_iff] at hsome
    refine Iff.trans ?_ hsome.symm
    constructor
    · rintro ⟨link, ls, added, hlast⟩
      exact ⟨_, link, ls, added, hlast, rfl⟩
    · rintro ⟨t, link, ls, added, hlast, -⟩
      exact ⟨link, ls, added, hlast⟩

/-- A finger that a cup could touch is no longer exempt once the cup is attached without it. -/
example : (after [.attach "cup" "hand" ["thumb", "finger", "thumb"] ["palm", "finger"],
      .attach "cup" "hand" ["thumb"] []]).mayTouch "finger" "cup" = false := by
  decide +kernel

end Attachments

end Clearance
