import Backlog.Text.Lowercase
import Mathlib.Data.List.Basic

set_option relaxedAutoImplicit false
set_option autoImplicit false

/-!
# Small letters

Lower case leaves a text alone in which there are no capitals, and it makes no capitals: the small
letters of the table are not among the capitals of any of its runs, and neither are the letters that
the two characters with rules of their own turn into. So a text in lower case is the same in lower
case again.

## Main definitions

* `Backlog.Text.CaseRun.meets` — a test that finds small letters of a run among the capitals of
  another one.
* `Backlog.Text.IsSmall` — a character that is no capital.

## Main results

* `Backlog.Text.CaseRun.covers_smallOf` — no small letter of the table is a capital of it.
* `Backlog.Text.isSmall_smallLetter` — the mapping leads to characters that are no capitals.
* `Backlog.Text.lower_eq_self` — texts without capitals stay as they are.
* `Backlog.Text.lower_lower` — lower case of a text in lower case.
-/

namespace Backlog.Text

variable {c : Char} {t : Text}

/-! ## Runs of capitals -/

namespace CaseRun

variable {run other : CaseRun} {n : ℕ}

/-- The capitals of a run go on in steps from the first to the last. -/
lemma covers_eq_true_iff :
    run.covers n = true ↔ (run.first ≤ n ∧ n ≤ run.last) ∧ (n - run.first) % run.step = 0 := by
  simp only [covers, Bool.and_eq_true, decide_eq_true_eq, beq_iff_eq]

/-- The range of the small letters meets that of the capitals of the other run, and the small
letters do not all fall between these, where they take steps of two. -/
def meets (run other : CaseRun) : Bool :=
  Nat.ble run.small other.last && Nat.ble other.first (run.small + (run.last - run.first)) &&
    !(other.step == 2 && (run.step == 2 || run.first == run.last) &&
      (run.small + other.first) % 2 == 1)

/-- Two runs meet where a small letter of the one is a capital of the other. -/
lemma meets_of_covers_smallOf (h : run.covers n = true)
    (small : other.covers (run.smallOf n) = true) : run.meets other = true := by
  rw [covers_eq_true_iff] at h small
  rw [smallOf] at small
  simp only [meets, Bool.and_eq_true, Nat.ble_eq, Bool.not_eq_true', ← Bool.not_eq_true,
    Bool.or_eq_true, beq_iff_eq]
  refine ⟨⟨by omega, by omega⟩, ?_⟩
  rintro ⟨⟨step, two | one⟩, odd⟩
  · rw [two] at h
    rw [step] at small
    omega
  · rw [step] at small
    omega

/-- **No small letter of the table is a capital of the table**, since no two runs meet. -/
lemma covers_smallOf (hrun : run ∈ caseTable) (hother : other ∈ caseTable)
    (h : run.covers n = true) : other.covers (run.smallOf n) = false := by
  -- All pairs of runs are tried, so `meets` is written with tests that are quick to evaluate.
  have none : (caseTable.any fun run => caseTable.any run.meets) = false := by decide +kernel
  have others := Bool.eq_false_iff.mpr (List.any_eq_false.mp none run hrun)
  rw [Bool.eq_false_iff]
  intro small
  exact List.any_eq_false.mp others other hother (meets_of_covers_smallOf h small)

/-- The small letters of the table are characters, and the dotted capital is not among them. -/
lemma smallOf_bounds (hrun : run ∈ caseTable) (h : run.covers n = true) :
    (run.smallOf n).isValidChar ∧ run.smallOf n ≠ 0x130 := by
  have scalar : ∀ run ∈ caseTable, run.small + (run.last - run.first) < 0xD800 ∨
      0xDFFF < run.small ∧ run.small + (run.last - run.first) < 0x110000 := by
    decide +kernel
  have undotted : ∀ run ∈ caseTable,
      run.small + (run.last - run.first) < 0x130 ∨ 0x130 < run.small := by
    decide +kernel
  have inside := (covers_eq_true_iff.mp h).1
  have hscalar := scalar run hrun
  have hundotted := undotted run hrun
  rw [smallOf, Nat.isValidChar]
  omega

end CaseRun

/-! ## Characters that are no capitals -/

/-- The character is no capital, neither one of the table nor one with a rule of its own. -/
def IsSmall (c : Char) : Prop := c ≠ 'İ' ∧ ∀ run ∈ caseTable, run.covers c.toNat = false

instance : DecidablePred IsSmall := fun _ => inferInstanceAs (Decidable (_ ∧ _))

/-- What is no capital of the table is mapped to itself. -/
lemma smallLetter_eq_self (h : ∀ run ∈ caseTable, run.covers c.toNat = false) :
    smallLetter c = c := by
  have none : caseTable.find? (fun run => run.covers c.toNat) = none :=
    List.find?_eq_none.mpr fun run mem => Bool.eq_false_iff.mp (h run mem)
  rw [smallLetter, none]

/-- A character that is no capital is its own small form, whatever stands around it. -/
lemma IsSmall.lowerChar_eq (h : IsSmall c) (before after : Text) :
    lowerChar before c after = [c] := by
  have noSigma : c ≠ 'Σ' := by
    rintro rfl
    exact absurd h (by decide +kernel)
  rw [lowerChar, if_neg noSigma, if_neg h.1, smallLetter_eq_self h.2]

/-- A character is no capital of the table, or it is mapped to the small letter that a run of the
table has for it. -/
lemma smallLetter_cases (c : Char) :
    (∀ run ∈ caseTable, run.covers c.toNat = false) ∨
      ∃ run ∈ caseTable, run.covers c.toNat = true ∧
        (smallLetter c).toNat = run.smallOf c.toNat := by
  cases found : caseTable.find? fun run => run.covers c.toNat with
  | none =>
    exact .inl fun run mem => Bool.eq_false_iff.mpr (List.find?_eq_none.mp found run mem)
  | some run =>
    have mem := List.mem_of_find?_eq_some found
    have covers : run.covers c.toNat = true := by simpa using List.find?_some found
    have valid := (CaseRun.smallOf_bounds mem covers).1
    have mapped : smallLetter c = Char.ofNat (run.smallOf c.toNat) := by rw [smallLetter, found]
    refine .inr ⟨run, mem, covers, ?_⟩
    rw [mapped, Char.ofNat, dif_pos valid]
    rfl

/-- **The mapping leads to characters that are no capitals.** -/
lemma isSmall_smallLetter (h : c ≠ 'İ') : IsSmall (smallLetter c) := by
  rcases smallLetter_cases c with uncovered | ⟨run, mem, covers, mapped⟩
  · rw [smallLetter_eq_self uncovered]
    exact ⟨h, uncovered⟩
  · refine ⟨fun dotted => ?_, fun other hother => ?_⟩
    · refine (CaseRun.smallOf_bounds mem covers).2 ?_
      rw [← mapped, dotted]
      rfl
    · rw [mapped]
      exact CaseRun.covers_smallOf mem hother covers

/-- No capital stands in the small form of a character. -/
lemma isSmall_of_mem_lowerChar {before after : Text} {d : Char} (h : d ∈ lowerChar before c after) :
    IsSmall d := by
  have checked : (['ς', 'σ', 'i', '\u0307'].all fun d => IsSmall d) = true := by decide +kernel
  have special : ∀ d ∈ ['ς', 'σ', 'i', '\u0307'], IsSmall d := fun d hd =>
    of_decide_eq_true (List.all_eq_true.mp checked d hd)
  unfold lowerChar at h
  split_ifs at h with sigma final dotted
  · exact special d (by simp [List.mem_singleton.mp h])
  · exact special d (by simp [List.mem_singleton.mp h])
  · refine special d (List.mem_cons_of_mem _ (List.mem_cons_of_mem _ h))
  · rw [List.mem_singleton.mp h]
    exact isSmall_smallLetter dotted

/-! ## Texts without capitals -/

/-- No capital stands in a text in lower case. -/
lemma isSmall_of_mem_lowerAfter {before : Text} {d : Char} (h : d ∈ lowerAfter before t) :
    IsSmall d := by
  induction t generalizing before with
  | nil => cases h
  | cons c t ih =>
    rw [lowerAfter, List.mem_append] at h
    rcases h with first | later
    · exact isSmall_of_mem_lowerChar first
    · exact ih later

/-- A text without capitals stays as it is behind any other text. -/
lemma lowerAfter_eq_self (h : ∀ c ∈ t, IsSmall c) (before : Text) : lowerAfter before t = t := by
  induction t generalizing before with
  | nil => rfl
  | cons c t ih =>
    rw [List.forall_mem_cons] at h
    rw [lowerAfter, h.1.lowerChar_eq, ih h.2, List.singleton_append]

/-- **Texts without capitals stay as they are.** -/
lemma lower_eq_self (h : ∀ c ∈ t, IsSmall c) : lower t = t := lowerAfter_eq_self h []

/-- **A text in lower case is the same in lower case again.** -/
theorem lower_lower (t : Text) : lower (lower t) = lower t :=
  lower_eq_self fun _ => isSmall_of_mem_lowerAfter

end Backlog.Text
