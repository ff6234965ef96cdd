import Backlog.Proofs.SmallLetters
import Backlog.Text.Blank
import Backlog.Text.Lowercase
import Mathlib.Data.List.Basic

set_option relaxedAutoImplicit false
set_option autoImplicit false

/-!
# Lower case, part by part

The small form of a sigma depends on the letters around it: on those before it, and on what the look
for a cased character meets behind it. So the lower case of a beginning of a text is the beginning
of the lower case of the text, unless that beginning ends a word in a capital sigma and the word
goes on behind it. Blanks are neither cased nor case-ignorable, and every look ends at one. The
lower case of a text can therefore be taken separately before and behind a blank.

## Main definitions

* `Backlog.Text.lowerBetween` — the lower case of a part of a text.
* `Backlog.Text.EndsInSigma` — a text ends a word in a capital sigma.
* `Backlog.Text.SplitsAtSigma` — behind such a text the word goes on.

## Main results

* `Backlog.Text.meetsCased_append` — what is met in a text that goes on.
* `Backlog.Text.lowerAfter_append` — lower case is taken part by part.
* `Backlog.Text.lower_isPrefix_iff` — which lower cases a beginning of a text begins.
* `Backlog.Text.lower_append_blank` — lower case before and behind a blank.
-/

namespace Backlog.Text

variable {c : Char}

/-! ## Blanks -/

/-- No blank is cased. -/
lemma isCased_of_isBlank (h : isBlank c = true) : isCased c = false :=
  CharRanges.covers_eq_false (by decide +kernel) h

/-- No blank is case-ignorable. -/
lemma isCaseIgnorable_of_isBlank (h : isBlank c = true) : isCaseIgnorable c = false :=
  CharRanges.covers_eq_false (by decide +kernel) h

/-- A blank is no capital. -/
lemma isSmall_of_isBlank (h : isBlank c = true) : IsSmall c := by
  have apart : ∀ run ∈ caseTable, ∀ range ∈ blankRanges,
      range.2 < run.first ∨ run.last < range.1 := by
    decide +kernel
  refine ⟨fun dotted => ?_, fun run hrun => ?_⟩
  · have undotted : isBlank 'İ' = false := by decide
    rw [dotted, undotted] at h
    cases h
  · rw [Bool.eq_false_iff]
    intro covers
    obtain ⟨range, hrange, inside⟩ := List.any_eq_true.mp h
    have separate := apart run hrun range hrange
    simp only [CaseRun.covers, Bool.and_eq_true, decide_eq_true_eq] at inside covers
    omega

/-- A blank stays as it is, whatever stands around it. -/
lemma lowerChar_of_isBlank (h : isBlank c = true) (before after : Text) :
    lowerChar before c after = [c] :=
  (isSmall_of_isBlank h).lowerChar_eq before after

/-! ## The look for a cased character -/

/-- A case-ignorable character is looked through, and any other one decides. -/
lemma meetsCased_cons (a : Char) (t : Text) :
    meetsCased (a :: t) = if isCaseIgnorable a then meetsCased t else isCased a := by
  rw [meetsCased, List.dropWhile_cons]
  split
  · rfl
  · rfl

/-- **What is met in a text that goes on** is what is met in the text itself, unless all of it is
looked through. -/
lemma meetsCased_append (t rest : Text) :
    meetsCased (t ++ rest) = if t.all isCaseIgnorable then meetsCased rest else meetsCased t := by
  induction t with
  | nil => rfl
  | cons a t ih =>
    rw [List.cons_append, meetsCased_cons, meetsCased_cons, ih, List.all_cons]
    cases isCaseIgnorable a with
    | true => rfl
    | false => rfl

/-- Nothing is met in a text that is looked through. -/
lemma meetsCased_of_all {t : Text} (h : t.all isCaseIgnorable = true) : meetsCased t = false := by
  have whole := meetsCased_append t []
  rwa [List.append_nil, if_pos h] at whole

/-- **Nothing beyond a blank is met.** -/
lemma meetsCased_append_blank (blank : isBlank c = true) (t rest : Text) :
    meetsCased (t ++ c :: rest) = meetsCased t := by
  have nothing : meetsCased (c :: rest) = false := by
    rw [meetsCased_cons, isCaseIgnorable_of_isBlank blank, if_neg Bool.false_ne_true,
      isCased_of_isBlank blank]
  rw [meetsCased_append, nothing]
  split
  · next all => rw [meetsCased_of_all all]
  · rfl

/-- A word that ends with a text goes on in what follows if and only if the text is looked through
and a cased character is met then. -/
lemma endsWord_append_eq_iff (before t rest : Text) :
    endsWord before (t ++ rest) = endsWord before t ↔
      ¬ (meetsCased before = true ∧ t.all isCaseIgnorable = true ∧ meetsCased rest = true) := by
  rw [endsWord, endsWord, meetsCased_append]
  split
  · next all =>
    rw [meetsCased_of_all all]
    cases meetsCased before <;> cases meetsCased rest <;> simp [all]
  · next some => simp [some]

/-! ## Parts of a text -/

/-- The small form of a text that stands between `before`, read backwards, and `after`. -/
def lowerBetween (before : Text) : Text → Text → Text
  | [], _ => []
  | c :: t, after => lowerChar before c (t ++ after) ++ lowerBetween (c :: before) t after

/-- **Lower case is taken part by part**: first that of what stands in front of the rest, then that
of the rest, which stands behind it. -/
lemma lowerAfter_append (before t rest : Text) :
    lowerAfter before (t ++ rest) =
      lowerBetween before t rest ++ lowerAfter (t.reverse ++ before) rest := by
  induction t generalizing before with
  | nil => rfl
  | cons c t ih =>
    rw [List.cons_append, lowerAfter, ih, lowerBetween, List.append_assoc, List.reverse_cons,
      List.append_assoc, List.singleton_append]

/-- A text behind which nothing stands. -/
lemma lowerBetween_nil (before t : Text) : lowerBetween before t [] = lowerAfter before t := by
  have whole := lowerAfter_append before t []
  rw [List.append_nil, lowerAfter, List.append_nil] at whole
  exact whole.symm

/-- A character has a small form of the same length everywhere. -/
lemma length_lowerChar (before after other : Text) (c : Char) :
    (lowerChar before c after).length = (lowerChar before c other).length := by
  unfold lowerChar
  split_ifs <;> rfl

/-- So has a part of a text. -/
lemma length_lowerBetween (before t after other : Text) :
    (lowerBetween before t after).length = (lowerBetween before t other).length := by
  induction t generalizing before with
  | nil => rfl
  | cons c t ih =>
    rw [lowerBetween, lowerBetween, List.length_append, List.length_append, ih,
      length_lowerChar before (t ++ after) (t ++ other)]

/-- Only for a capital sigma does it matter what follows, and only whether it ends a word. -/
lemma lowerChar_eq_iff (before after other : Text) (c : Char) :
    lowerChar before c after = lowerChar before c other ↔
      (c = 'Σ' → endsWord before after = endsWord before other) := by
  unfold lowerChar
  split
  · next sigma =>
    cases endsWord before after <;> cases endsWord before other <;> simp [sigma]
  · next other => simp [other]

/-- **What follows a part of a text matters** for the capital sigmas in it only.

**Proof sketch.** Induction on the part. The small forms of its first character have the same
length, so they are the same if the small forms of the part are. -/
lemma lowerBetween_eq_iff (before t after other : Text) :
    lowerBetween before t after = lowerBetween before t other ↔
      ∀ start rest, t = start ++ 'Σ' :: rest →
        endsWord (start.reverse ++ before) (rest ++ after) =
          endsWord (start.reverse ++ before) (rest ++ other) := by
  induction t generalizing before with
  | nil => simp [lowerBetween]
  | cons c t ih =>
    have parts : lowerBetween before (c :: t) after = lowerBetween before (c :: t) other ↔
        lowerChar before c (t ++ after) = lowerChar before c (t ++ other) ∧
          lowerBetween (c :: before) t after = lowerBetween (c :: before) t other := by
      rw [lowerBetween, lowerBetween]
      refine ⟨fun same => List.append_inj same (length_lowerChar _ _ _ c), ?_⟩
      rintro ⟨first, others⟩
      rw [first, others]
    rw [parts, lowerChar_eq_iff, ih]
    constructor
    · rintro ⟨first, others⟩ start rest split
      cases start with
      | nil =>
        obtain ⟨rfl, rfl⟩ := List.cons.inj split
        exact first rfl
      | cons a start =>
        obtain ⟨rfl, rfl⟩ := List.cons.inj split
        simpa using others start rest rfl
    · intro all
      refine ⟨fun sigma => ?_, fun start rest split => ?_⟩
      · simpa using all [] t (by rw [sigma]; rfl)
      · simpa using all (c :: start) rest (by rw [split]; rfl)

/-- No character is lost in lower case. -/
lemma lowerChar_ne_nil (before after : Text) (c : Char) : lowerChar before c after ≠ [] := by
  unfold lowerChar
  split_ifs <;> exact List.cons_ne_nil _ _

/-- Only the empty text is empty in lower case. -/
lemma lower_eq_nil_iff {t : Text} : lower t = [] ↔ t = [] := by
  cases t with
  | nil => exact iff_of_true rfl rfl
  | cons c t => simp [lower, lowerAfter, lowerChar_ne_nil]

/-! ## Beginnings of a text -/

/-- The text ends a word in a capital sigma: a cased character comes before the sigma, and only
case-ignorable ones follow it. -/
def EndsInSigma (t : Text) : Prop :=
  ∃ start rest, t = start ++ 'Σ' :: rest ∧ meetsCased start.reverse = true ∧
    rest.all isCaseIgnorable = true

/-- Between the two texts a word is split behind a capital sigma, which ends the first text and
would not end the word. -/
def SplitsAtSigma (start more : Text) : Prop := EndsInSigma start ∧ meetsCased more = true

/-- The lower case of a beginning stays as it is in the whole text, unless a word is split behind a
capital sigma. -/
lemma lowerBetween_eq_lower_iff (start more : Text) :
    lowerBetween [] start more = lower start ↔ ¬ SplitsAtSigma start more := by
  rw [lower, ← lowerBetween_nil, lowerBetween_eq_iff]
  simp only [List.append_nil, endsWord_append_eq_iff]
  constructor
  · rintro apart ⟨⟨before, rest, split, cased, ignorable⟩, met⟩
    exact apart before rest split ⟨cased, ignorable, met⟩
  · rintro apart before rest split ⟨cased, ignorable, met⟩
    exact apart ⟨⟨before, rest, split, cased, ignorable⟩, met⟩

instance (start more : Text) : Decidable (SplitsAtSigma start more) :=
  decidable_of_iff (lowerBetween [] start more ≠ lower start)
    (by rw [ne_eq, lowerBetween_eq_lower_iff, not_not])

/-- **Which lower cases a beginning of a text begins**: all that the lower case of the text begins,
unless a word is split behind a capital sigma. Then it begins none of them. -/
theorem lower_isPrefix_iff {start more t : Text} (h : lower (start ++ more) <+: t) :
    lower start <+: t ↔ ¬ SplitsAtSigma start more := by
  have inner : lowerBetween [] start more <+: t := by
    rw [lower, lowerAfter_append] at h
    exact (List.prefix_append _ _).trans h
  have same : (lower start).length = (lowerBetween [] start more).length := by
    rw [lower, ← lowerBetween_nil, length_lowerBetween]
  rw [← lowerBetween_eq_lower_iff]
  constructor
  · intro begins
    have among := List.prefix_of_prefix_length_le begins inner (Nat.le_of_eq same)
    exact (among.eq_of_length same).symm
  · intro equal
    exact equal ▸ inner

/-! ## Blanks in a text -/

/-- What follows a blank has no effect on what stands before it. -/
lemma lowerAfter_append_blank (blank : isBlank c = true) (before s rest : Text) :
    lowerAfter before (s ++ c :: rest) =
      lowerAfter before s ++ lowerAfter (s.reverse ++ before) (c :: rest) := by
  have same : lowerBetween before s (c :: rest) = lowerBetween before s [] := by
    rw [lowerBetween_eq_iff]
    intro start behind _
    rw [endsWord, meetsCased_append_blank blank, List.append_nil, endsWord]
  rw [lowerAfter_append, same, lowerBetween_nil]

/-- What stands before a blank has no effect on what follows it. -/
lemma lowerAfter_blank (blank : isBlank c = true) (between before t : Text) :
    lowerAfter (between ++ c :: before) t = lowerAfter between t := by
  induction t generalizing between with
  | nil => rfl
  | cons a t ih =>
    have same : lowerChar (between ++ c :: before) a t = lowerChar between a t := by
      rw [lowerChar, endsWord, meetsCased_append_blank blank, lowerChar, endsWord]
    rw [lowerAfter, same, ← List.cons_append, ih, lowerAfter]

/-- **Lower case is taken before and behind a blank separately**, and the blank stays. -/
theorem lower_append_blank (blank : isBlank c = true) (s t : Text) :
    lower (s ++ c :: t) = lower s ++ c :: lower t := by
  have behind : lowerAfter (c :: s.reverse) t = lower t := lowerAfter_blank blank [] s.reverse t
  rw [lower, lowerAfter_append_blank blank, List.append_nil, lowerAfter, lowerChar_of_isBlank blank,
    behind]
  rfl

end Backlog.Text
