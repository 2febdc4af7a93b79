import Clearance.Json.Basic

/-! Writing JSON on one line. Quotes, backslashes and control characters in text are escaped, all
other characters stand as they are. -/

namespace Clearance.Json

def escapeChar (c : Char) : List Char :=
  if c = '"' then ['\\', '"']
  else if c = '\\' then ['\\', '\\']
  else if c.toNat < 32 then
    let t := Nat.toDigits 16 c.toNat
    ['\\', 'u'] ++ List.replicate (4 - t.length) '0' ++ t
  else [c]

def renderText (s : String) : String :=
  String.ofList (['"'] ++ s.toList.flatMap escapeChar ++ ['"'])

mutual

def render : Json → String
  | null | unreadable => "null"
  | bool b => if b then "true" else "false"
  | integer z => toString z
  | real x => if x.isFinite then Number.shortestText .plain x else "null"
  | text s => renderText s
  | array xs => "[" ++ String.intercalate "," (renderItems xs) ++ "]"
  | object ms => "\x7b" ++ String.intercalate "," (renderMembers ms) ++ "\x7d"

def renderItems : List Json → List String
  | [] => []
  | x :: xs => render x :: renderItems xs

def renderMembers : List (String × Json) → List String
  | [] => []
  | (k, x) :: ms => (renderText k ++ ":" ++ render x) :: renderMembers ms

end

end Clearance.Json
