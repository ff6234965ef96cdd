set_option relaxedAutoImplicit false
set_option autoImplicit false

/-!
# Classes of characters given by intervals

A property of characters is written down as the closed intervals of code points that have it.

## Main definitions

* `Backlog.Text.CharRanges` — a list of intervals.
* `Backlog.Text.CharRanges.covers` — membership of a character.
-/

namespace Backlog.Text

/-- Closed intervals of code points, first and last. -/
abbrev CharRanges := List (Nat × Nat)

/-- The character lies in one of the intervals. -/
def CharRanges.covers (ranges : CharRanges) (c : Char) : Bool :=
  ranges.any fun range => range.1 ≤ c.toNat && c.toNat ≤ range.2

/-- Intervals that do not meet have no character in common. -/
theorem CharRanges.covers_eq_false {ranges others : CharRanges} {c : Char}
    (apart : ∀ r ∈ ranges, ∀ s ∈ others, r.2 < s.1 ∨ s.2 < r.1) (h : ranges.covers c = true) :
    others.covers c = false := by
  rw [covers, List.any_eq_true] at h
  obtain ⟨r, hr, inside⟩ := h
  rw [covers, List.any_eq_false]
  intro s hs
  have separate := apart r hr s hs
  simp only [Bool.and_eq_true, decide_eq_true_eq] at inside ⊢
  omega

end Backlog.Text
