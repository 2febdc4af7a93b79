/-! What a query asks for: whether contacts are stored, how many, and whether decisions are
explained. -/

namespace Clearance

/-- The wishes of a query. Counts are machine words. -/
structure Request where
  /-- Whether contacts are stored; otherwise the first collision ends the query. -/
  contacts : Bool := false
  /-- How many contacts are stored at most. -/
  maxContacts : UInt64 := 1
  /-- How many contacts are stored at most for one pair of bodies. -/
  maxPerPair : UInt64 := 1
  /-- Whether each decision is explained in the log. -/
  verbose : Bool := false
  deriving DecidableEq

namespace Request

def boolean : Request := {}

def withContacts (maxContacts maxPerPair : UInt64) : Request :=
  { contacts := true, maxContacts, maxPerPair }

end Request

end Clearance
