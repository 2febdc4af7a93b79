import Clearance.Json.Basic

/-! Reading JSON text. The grammar is the strict one: no leading zeros, no trailing commas, no
control characters in text. Whole numbers beyond 64 bits and minus zero are read as other numbers,
and every number is rounded correctly. -/

namespace Clearance.Json

/-- What is left to read. -/
abbrev Rest := List Char

def isBlank (c : Char) : Bool := c = ' ' || c = '\n' || c = '\t' || c = '\r'

def skipBlanks (cs : Rest) : Rest := cs.dropWhile isBlank

/-! ### Text -/

def hexDigit? (c : Char) : Option Nat :=
  if '0' ≤ c ∧ c ≤ '9' then some (c.toNat - '0'.toNat)
  else if 'a' ≤ c ∧ c ≤ 'f' then some (c.toNat - 'a'.toNat + 10)
  else if 'A' ≤ c ∧ c ≤ 'F' then some (c.toNat - 'A'.toNat + 10)
  else none

/-- The character after a backslash that stands for itself or for a control character. -/
def shortEscape? (c : Char) : Option Char :=
  if c = '"' ∨ c = '\\' ∨ c = '/' then some c
  else if c = 'b' then some (Char.ofNat 8)
  else if c = 'f' then some (Char.ofNat 12)
  else if c = 'n' then some '\n'
  else if c = 'r' then some '\r'
  else if c = 't' then some '\t'
  else none

def fourDigits? (a b c d : Char) : Option Nat := do
  let a ← hexDigit? a
  let b ← hexDigit? b
  let c ← hexDigit? c
  let d ← hexDigit? d
  return ((a * 16 + b) * 16 + c) * 16 + d

/-- Reads up to the closing quote: code points, and the units of numbered escapes. -/
def readUnits : Rest → Option (List Nat × Rest)
  | [] => none
  | '"' :: r => some ([], r)
  | '\\' :: 'u' :: a :: b :: c :: d :: r => do
    let n ← fourDigits? a b c d
    let (ns, r) ← readUnits r
    return (n :: ns, r)
  | '\\' :: c :: r => do
    let c ← shortEscape? c
    let (ns, r) ← readUnits r
    return (c.toNat :: ns, r)
  | c :: r =>
    if c.toNat < 32 then none
    else do
      let (ns, r) ← readUnits r
      return (c.toNat :: ns, r)

def isHighSurrogate (n : Nat) : Bool := 0xd800 ≤ n && n < 0xdc00

def isLowSurrogate (n : Nat) : Bool := 0xdc00 ≤ n && n < 0xe000

/-- Joins surrogate pairs; half of a pair has no text. -/
def joinUnits : List Nat → Option (List Char)
  | [] => some []
  | [n] => if isHighSurrogate n || isLowSurrogate n then none else some [Char.ofNat n]
  | n :: m :: ns =>
    if isHighSurrogate n then
      if isLowSurrogate m then
        (joinUnits ns).map (Char.ofNat (0x10000 + (n - 0xd800) * 0x400 + (m - 0xdc00)) :: ·)
      else none
    else if isLowSurrogate n then none
    else (joinUnits (m :: ns)).map (Char.ofNat n :: ·)

/-- Reads text up to the closing quote. The text is missing if its units do not join. -/
def readText (cs : Rest) : Option (Option String × Rest) := do
  let (ns, r) ← readUnits cs
  return ((joinUnits ns).map String.ofList, r)

/-! ### Numbers -/

def digits (cs : Rest) : List Char × Rest := (cs.takeWhile Char.isDigit, cs.dropWhile Char.isDigit)

def natOf (ds : List Char) : Nat := ds.foldl (fun n d => n * 10 + (d.toNat - '0'.toNat)) 0

/-- Reads digits of which there is at least one. -/
def someDigits (cs : Rest) : Option (List Char × Rest) :=
  match digits cs with
  | ([], _) => none
  | r => some r

/-- Reads the digits before the point: a zero, or digits that do not start with one. -/
def readWhole (cs : Rest) : Option (List Char × Rest) :=
  match cs with
  | '0' :: c :: r => if c.isDigit then none else some (['0'], c :: r)
  | _ => someDigits cs

/-- Reads a point and the digits after it, if there is a point. -/
def readPlaces (cs : Rest) : Option (Option (List Char) × Rest) :=
  match cs with
  | '.' :: r => (someDigits r).map fun (ds, r) => (some ds, r)
  | _ => some (none, cs)

/-- Reads a power of ten, if there is one. -/
def readPower (cs : Rest) : Option (Option Int × Rest) :=
  match cs with
  | c :: r =>
    if c = 'e' ∨ c = 'E' then
      let (negative, r) := match r with
        | '-' :: r => (true, r)
        | '+' :: r => (false, r)
        | _ => (false, r)
      (someDigits r).map fun (ds, r) => (some (if negative then -(natOf ds : Int) else natOf ds), r)
    else some (none, cs)
  | [] => some (none, cs)

/-- The double nearest to `n * 10 ^ e`. Powers far beyond the range of doubles are not computed. -/
def nearest (n : Nat) (e : Int) : Float :=
  let size := (Nat.toDigits 10 n).length + e
  if n = 0 ∨ size < -400 then 0
  else if 400 < size then 1 / 0
  else if 0 ≤ e then Float.ofScientific n false e.toNat
  else Float.ofScientific n true (-e).toNat

/-- The number that is written; one beyond the range of doubles is unreadable. -/
def numberOf (negative : Bool) (whole : List Char) (places? : Option (List Char))
    (power? : Option Int) : Json :=
  let n := natOf whole
  let inRange := if negative then 0 < n ∧ n ≤ UInt64.size / 2 else n < UInt64.size
  if places?.isNone ∧ power?.isNone ∧ inRange then .integer (if negative then -n else n)
  else
    let places := places?.getD []
    let x := nearest (natOf (whole ++ places)) (power?.getD 0 - places.length)
    if x.isFinite then .real (if negative then -x else x) else .unreadable

def readNumber (cs : Rest) : Option (Json × Rest) := do
  let (negative, r) := match cs with
    | '-' :: r => (true, r)
    | _ => (false, cs)
  let (whole, r) ← readWhole r
  let (places?, r) ← readPlaces r
  let (power?, r) ← readPower r
  return (numberOf negative whole places? power?, r)

/-! ### Documents -/

/-- An object is unreadable if one of its names is. -/
def objectOf (ms : List (Option String × Json)) : Json :=
  match ms.mapM fun m => m.1.map (·, m.2) with
  | some ms => .object ms
  | none => .unreadable

mutual

/-- Reads one value; `fuel` bounds the number of calls. -/
def readValue : Nat → Rest → Option (Json × Rest)
  | 0, _ => none
  | fuel + 1, cs =>
    match skipBlanks cs with
    | 'n' :: 'u' :: 'l' :: 'l' :: r => some (.null, r)
    | 't' :: 'r' :: 'u' :: 'e' :: r => some (.bool true, r)
    | 'f' :: 'a' :: 'l' :: 's' :: 'e' :: r => some (.bool false, r)
    | '"' :: r => do
      let (s?, r) ← readText r
      return (s?.elim .unreadable .text, r)
    | '[' :: r =>
      match skipBlanks r with
      | ']' :: r => some (.array [], r)
      | r => do
        let (xs, r) ← readItems fuel r
        return (.array xs, r)
    | '{' :: r =>
      match skipBlanks r with
      | '}' :: r => some (.object [], r)
      | r => do
        let (ms, r) ← readMembers fuel r
        return (objectOf ms, r)
    | r => readNumber r

/-- Reads the items of an array up to its end. -/
def readItems : Nat → Rest → Option (List Json × Rest)
  | 0, _ => none
  | fuel + 1, cs => do
    let (x, r) ← readValue fuel cs
    match skipBlanks r with
    | ',' :: r =>
      let (xs, r) ← readItems fuel r
      return (x :: xs, r)
    | ']' :: r => return ([x], r)
    | _ => none

/-- Reads the members of an object up to its end. -/
def readMembers : Nat → Rest → Option (List (Option String × Json) × Rest)
  | 0, _ => none
  | fuel + 1, cs =>
    match skipBlanks cs with
    | '"' :: r => do
      let (name, r) ← readText r
      match skipBlanks r with
      | ':' :: r =>
        let (x, r) ← readValue fuel r
        match skipBlanks r with
        | ',' :: r =>
          let (ms, r) ← readMembers fuel r
          return ((name, x) :: ms, r)
        | '}' :: r => return ([(name, x)], r)
        | _ => none
      | _ => none
    | _ => none

end

/-- Reads a text that holds one value and blanks. Each call but one in two takes a character. -/
def read? (s : String) : Option Json :=
  let cs := s.toList
  match readValue (2 * cs.length + 2) cs with
  | some (j, r) => if (skipBlanks r).isEmpty then some j else none
  | none => none

end Clearance.Json
