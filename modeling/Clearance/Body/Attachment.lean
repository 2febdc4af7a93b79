import Clearance.Body.Basic
import Clearance.OrderedMap

/-! Bodies that hang on a robot. Each attachment names the link that carries the body and the links
the body may touch; a body has one attachment at a time. -/

namespace Clearance

structure Attachment where
  link : BodyId
  touchLinks : List BodyId
  deriving DecidableEq

namespace Attachment

/-- Allows one more link to be touched. A link that is there already is not listed again. -/
def addTouchLink (t : Attachment) (l : BodyId) : Attachment :=
  if l ∈ t.touchLinks then t else ⟨t.link, t.touchLinks ++ [l]⟩

def addTouchLinks (t : Attachment) (ls : List BodyId) : Attachment := ls.foldl addTouchLink t

/-- The attachment to `link` with the given touch links, each at its first place only. -/
def make (link : BodyId) (ls : List BodyId) : Attachment := addTouchLinks ⟨link, []⟩ ls

def touches (t : Attachment) (l : BodyId) : Bool := t.touchLinks.contains l

@[simp] theorem addTouchLinks_nil (t : Attachment) : t.addTouchLinks [] = t := rfl

@[simp] theorem addTouchLinks_cons (t : Attachment) (l : BodyId) (ls : List BodyId) :
    t.addTouchLinks (l :: ls) = (t.addTouchLink l).addTouchLinks ls := rfl

theorem addTouchLinks_append (t : Attachment) (ls ms : List BodyId) :
    t.addTouchLinks (ls ++ ms) = (t.addTouchLinks ls).addTouchLinks ms := List.foldl_append

end Attachment

/-- The attachments of a scene, by attached body. -/
structure Attachments where
  byBody : OrderedMap BodyId Attachment

namespace Attachments

def empty : Attachments := ⟨.empty⟩

/-- Attaches a body, with the attachment that it replaces. -/
def attach (r : Attachments) (body : BodyId) (t : Attachment) : Option Attachment × Attachments :=
  (r.byBody.get? body, ⟨r.byBody.set body t⟩)

/-- Detaches a body, with the attachment that it had. -/
def detach (r : Attachments) (body : BodyId) : Option Attachment × Attachments :=
  (r.byBody.get? body, ⟨r.byBody.erase body⟩)

def attached? (r : Attachments) (body : BodyId) : Option Attachment := r.byBody.get? body

def size (r : Attachments) : Nat := r.byBody.size

def isEmpty (r : Attachments) : Bool := r.byBody.isEmpty

/-- Whether `body` is attached and may touch `link`. -/
def mayTouch (r : Attachments) (link body : BodyId) : Bool :=
  (r.attached? body).any (·.touches link)

@[simp] theorem attached?_empty (body : BodyId) : empty.attached? body = none := rfl

theorem attached?_attach (r : Attachments) (a b : BodyId) (t : Attachment) :
    (r.attach a t).2.attached? b = if a = b then some t else r.attached? b :=
  OrderedMap.get?_set ..

theorem attached?_detach (r : Attachments) (a b : BodyId) :
    (r.detach a).2.attached? b = if b = a then none else r.attached? b :=
  OrderedMap.get?_erase ..

end Attachments

end Clearance
