import Backlog.Proofs.HeadGrammar
import Backlog.Proofs.LowerCase
import Mathlib.Tactic.IntervalCases

set_option relaxedAutoImplicit false
set_option autoImplicit false

/-!
# The case of ASCII letters

Texts may differ in the case of ASCII letters only. Everything that lower case asks of a character
has the same answer for a capital letter of ASCII and its small form: both are cased, neither is
looked through, and both have the same small form. So the two texts have the same lower case, also
where there is a sigma next to such a letter.

## Main definitions

* `Backlog.Text.asciiCapitals` — the capital letters of ASCII.
* `Backlog.Text.asciiLetterRanges` — its capital and small letters.

## Main results

* `Backlog.Text.apply_toLower` — what the case of ASCII letters makes no difference to.
* `Backlog.Text.lower_map_toLower` — lower case of a text with small ASCII letters.
* `Backlog.Text.lower_eq_of_sameButForCase` — lower case of texts that differ in these letters.
-/

namespace Backlog.Text

variable {s t : Text} {α : Type}

/-! ## Letters -/

/-- The capital letters of ASCII. -/
def asciiCapitals : Text := "ABCDEFGHIJKLMNOPQRSTUVWXYZ".toList

/-- The code points of the letters of ASCII. -/
def asciiLetterRanges : CharRanges := [(0x41, 0x5A), (0x61, 0x7A)]

/-- Characters other than these capital letters are their own small form in ASCII. -/
lemma toLower_eq_self_or_mem (c : Char) : c.toLower = c ∨ c ∈ asciiCapitals := by
  by_cases capital : 65 ≤ c.toNat ∧ c.toNat ≤ 90
  · right
    obtain ⟨first, last⟩ := capital
    rw [← Char.ofNat_toNat c]
    generalize c.toNat = n at first last
    interval_cases n <;> decide
  · left
    rw [← Char.toNat_inj, Remark.toNat_toLower, if_neg capital]

/-- **What the case of ASCII letters makes no difference to**, if that has been checked for the 26
capital letters. -/
lemma apply_toLower [DecidableEq α] {f : Char → α}
    (checked : (asciiCapitals.all fun c => f c.toLower = f c) = true) (c : Char) :
    f c.toLower = f c := by
  rcases toLower_eq_self_or_mem c with same | capital
  · rw [same]
  · exact of_decide_eq_true (List.all_eq_true.mp checked c capital)

/-- No letter of ASCII is blank. -/
lemma isBlank_toLower (c : Char) : isBlank c.toLower = isBlank c :=
  apply_toLower (by decide +kernel) c

/-- All letters of ASCII are cased. -/
lemma isCased_toLower (c : Char) : isCased c.toLower = isCased c :=
  apply_toLower (by decide +kernel) c

/-- The two forms of a letter of ASCII have the same small form. -/
lemma smallLetter_toLower (c : Char) : smallLetter c.toLower = smallLetter c :=
  apply_toLower (by decide +kernel) c

/-- No letter of ASCII is case-ignorable. -/
lemma isCaseIgnorable_toLower (c : Char) : isCaseIgnorable c.toLower = isCaseIgnorable c := by
  have apart {c : Char} (letter : asciiLetterRanges.covers c = true) : isCaseIgnorable c = false :=
    CharRanges.covers_eq_false (by decide +kernel) letter
  have letters : (asciiCapitals.all fun c =>
      asciiLetterRanges.covers c && asciiLetterRanges.covers c.toLower) = true := by
    decide
  rcases toLower_eq_self_or_mem c with same | capital
  · rw [same]
  · obtain ⟨letter, small⟩ := Bool.and_eq_true_iff.mp (List.all_eq_true.mp letters c capital)
    rw [apart letter, apart small]

/-- No letter of ASCII has a rule of its own, so its case makes no difference. -/
lemma lowerChar_toLower (before : Text) (c : Char) (after : Text) :
    lowerChar before c.toLower after = lowerChar before c after := by
  have sigma : c.toLower = 'Σ' ↔ c = 'Σ' :=
    decide_eq_decide.mp (apply_toLower (f := fun c => decide (c = 'Σ')) (by decide) c)
  have dotted : c.toLower = 'İ' ↔ c = 'İ' :=
    decide_eq_decide.mp (apply_toLower (f := fun c => decide (c = 'İ')) (by decide) c)
  simp only [lowerChar, sigma, dotted, smallLetter_toLower]

/-! ## Texts -/

/-- Texts that differ in case only are the same with small ASCII letters. -/
lemma sameButForCase_iff :
    sameButForCase s t = true ↔ s.map Char.toLower = t.map Char.toLower := by
  rw [sameButForCase, beq_iff_eq]

/-- Trimming does not depend on the case of ASCII letters. -/
lemma trim_map_toLower (t : Text) : trim (t.map Char.toLower) = (trim t).map Char.toLower := by
  have blank : isBlank ∘ Char.toLower = isBlank := funext isBlank_toLower
  simp only [trim, trimStart, trimEnd, List.dropWhile_map, ← List.map_reverse, blank]

/-- The look for a cased character meets letters of ASCII in either case. -/
lemma meetsCased_map_toLower (t : Text) : meetsCased (t.map Char.toLower) = meetsCased t := by
  induction t with
  | nil => rfl
  | cons c t ih =>
    rw [List.map_cons, meetsCased_cons, isCaseIgnorable_toLower, isCased_toLower, ih,
      ← meetsCased_cons]

/-- A character has the same small form among ASCII letters of either case. -/
lemma lowerChar_map_toLower (before : Text) (c : Char) (after : Text) :
    lowerChar (before.map Char.toLower) c (after.map Char.toLower) = lowerChar before c after := by
  rw [lowerChar, endsWord, meetsCased_map_toLower, meetsCased_map_toLower, ← endsWord, ← lowerChar]

/-- So has a text, with small ASCII letters or as it is. -/
lemma lowerAfter_map_toLower (before t : Text) :
    lowerAfter (before.map Char.toLower) (t.map Char.toLower) = lowerAfter before t := by
  induction t generalizing before with
  | nil => rfl
  | cons c t ih =>
    rw [List.map_cons, lowerAfter, lowerChar_map_toLower, lowerChar_toLower, ← List.map_cons, ih,
      ← lowerAfter]

/-- **A text with small ASCII letters** has the lower case of the text. -/
theorem lower_map_toLower (t : Text) : lower (t.map Char.toLower) = lower t :=
  lowerAfter_map_toLower [] t

/-- **Texts that differ in the case of ASCII letters** have the same lower case. -/
theorem lower_eq_of_sameButForCase (h : sameButForCase s t = true) : lower s = lower t := by
  rw [← lower_map_toLower s, sameButForCase_iff.mp h, lower_map_toLower]

end Backlog.Text
