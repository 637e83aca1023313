import TagLens.Text.Basic

/-!
# Sets of characters given by boundaries

A Unicode property is a union of ranges of code points. `Boundaries` stores such a set as
the ascending list of the code points at which membership changes: the first one begins a
range, the second one ends it (and is no longer inside), and so on. A code point is a member
exactly when an odd number of boundaries lie at or below it.
-/

namespace TagLens.Text

/-- The ascending code points at which membership in a set changes. -/
abbrev Boundaries := List Nat

/-- Membership: an odd number of changes happened at or below the code point. -/
def Boundaries.mem (bounds : Boundaries) (c : Char) : Bool :=
  (bounds.takeWhile (· ≤ c.toNat)).length % 2 == 1

example : Boundaries.mem [0x61, 0x64] 'a' = true := by decide
example : Boundaries.mem [0x61, 0x64] 'd' = false := by decide

end TagLens.Text
