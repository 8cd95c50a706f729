/-!
# Character ranges

Membership of a code point in a table of closed ranges.
-/

namespace ScriptGlue.Text

/-- The number lies in one of the closed ranges. -/
def inRanges (ranges : List (Nat × Nat)) (n : Nat) : Bool :=
  ranges.any fun (first, last) => first ≤ n && n ≤ last

end ScriptGlue.Text
