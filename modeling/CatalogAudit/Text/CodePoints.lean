/-!
# Sets of code points

A set of characters given by ascending, disjoint ranges, as the character database lists a
property. Membership halves the table at every step.
-/

namespace CatalogAudit.Text

/-- A set of code points: ascending, disjoint ranges, both ends included. -/
structure CodePoints where
  /-- First and last code point of each range. -/
  ranges : Array (Nat × Nat)

/-- Whether some range among those from `low` up to, but not including, `high` holds `n`. -/
def CodePoints.search (ranges : Array (Nat × Nat)) (n low high : Nat) : Bool :=
  if low < high then
    let middle := (low + high) / 2
    match ranges[middle]? with
    | none => false
    | some (first, last) =>
      if n < first then search ranges n low middle
      else if last < n then search ranges n (middle + 1) high
      else true
  else false
termination_by high - low

/-- Whether the character belongs to the set. -/
def CodePoints.contains (set : CodePoints) (c : Char) : Bool :=
  search set.ranges c.toNat 0 set.ranges.size

end CatalogAudit.Text
