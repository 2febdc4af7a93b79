/-! Text cut to a largest and filled to a least number of characters. -/

namespace Clearance.Text

/-- Where the text stands in its field, and so which side is filled. -/
inductive Alignment where
  | left | right | center
  deriving DecidableEq

structure Field where
  width : Nat := 0
  alignment : Alignment := .left
  fill : Char := ' '
  precision : Option Nat := none

namespace Field

/-- How many fill characters go on the left and on the right of a text that lacks `n`. An odd one in
the middle goes to the right. -/
def split (n : Nat) : Alignment → Nat × Nat
  | .left => (0, n)
  | .right => (n, 0)
  | .center => (n / 2, n - n / 2)

/-- Cuts the text to the precision, then fills it to the width. -/
def pad (f : Field) (s : List Char) : List Char :=
  let t := match f.precision with
    | some n => s.take n
    | none => s
  let gap := split (f.width - t.length) f.alignment
  List.replicate gap.1 f.fill ++ t ++ List.replicate gap.2 f.fill

theorem split_sum (n : Nat) (a : Alignment) : (split n a).1 + (split n a).2 = n := by
  cases a <;> simp [split]
  omega

/-- A padded text is exactly as wide as its field unless the cut text is wider. -/
theorem length_pad (f : Field) (s : List Char) :
    (f.pad s).length =
      max f.width (match f.precision with | some n => s.take n | none => s).length := by
  cases h : f.precision with
  | none =>
    have := split_sum (f.width - s.length) f.alignment
    simp only [pad, h, List.length_append, List.length_replicate]; omega
  | some n =>
    have := split_sum (f.width - (s.take n).length) f.alignment
    simp only [pad, h, List.length_append, List.length_replicate]; omega

end Field

end Clearance.Text
