import Clearance.Contact.Basic

/-! What two bodies may do to each other: never touch, always touch, or touch where a rule on single
contacts says so. -/

namespace Clearance

/-- Answers whether a contact is allowed. -/
abbrev Decider := Contact → Bool

inductive Allowance where
  | never
  | always
  | conditional (allows : Decider)

instance : Inhabited Allowance := ⟨.never⟩

namespace Allowance

def ofBool (allowed : Bool) : Allowance := if allowed then always else never

def isAlways : Allowance → Bool
  | always => true
  | _ => false

def isNever : Allowance → Bool
  | never => true
  | _ => false

def decider? : Allowance → Option Decider
  | conditional d => some d
  | _ => none

def describe : Allowance → String
  | never => "Never"
  | always => "Always"
  | conditional _ => "Conditional(..)"

end Allowance

end Clearance
