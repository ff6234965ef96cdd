import Backlog.Proofs.Trimming
import Backlog.Session.Command
import Mathlib.Tactic.IntervalCases

set_option relaxedAutoImplicit false
set_option autoImplicit false

/-!
# The reading of thresholds

A threshold is checked for its form and then read as every date is. The check adds nothing but that
there are no blanks at the ends: whatever else is read as a date has the form of a threshold, and
decimal digits of other scripts, which have the form, are not read.

## Main results

* `Backlog.Text.isBlank_of_isDecimalDigit` — no decimal digit is blank.
* `Backlog.Date.isTrimmed_of_hasThresholdForm`, `Backlog.Date.hasThresholdForm_of_read?` — the form
  of a threshold lies between being read and being trimmed.
* `Backlog.Date.readThreshold_iff` — thresholds are the trimmed texts that are read as dates.
-/

namespace Backlog

open Text

/-! ## Classes of characters -/

namespace Text

/-- No decimal digit is blank. -/
lemma isBlank_of_isDecimalDigit {c : Char} (h : isDecimalDigit c = true) : isBlank c = false :=
  CharRanges.covers_eq_false (by decide +kernel) h

/-- The decimal digits of ASCII. -/
def asciiDigits : List Char := ['0', '1', '2', '3', '4', '5', '6', '7', '8', '9']

/-- The digits of the library are those of ASCII. -/
lemma isDigit_iff {c : Char} : c.isDigit = true ↔ c ∈ asciiDigits := by
  constructor
  · intro h
    simp only [Char.isDigit, Bool.and_eq_true, decide_eq_true_eq, ge_iff_le,
      UInt32.le_iff_toNat_le] at h
    change 48 ≤ c.toNat ∧ c.toNat ≤ 57 at h
    obtain ⟨lower, upper⟩ := h
    rw [← Char.ofNat_toNat c]
    generalize c.toNat = n at lower upper
    interval_cases n <;> decide
  · intro h
    have all : asciiDigits.all Char.isDigit = true := by decide
    exact List.all_eq_true.mp all c h

/-- What has been checked for the ten digits holds of every digit. -/
lemma of_all_asciiDigits {p : Char → Bool} (all : asciiDigits.all p = true) {c : Char}
    (h : c.isDigit = true) : p c = true :=
  List.all_eq_true.mp all c (isDigit_iff.mp h)

/-- The digits of ASCII are decimal digits. -/
lemma isDecimalDigit_of_isDigit {c : Char} (h : c.isDigit = true) : isDecimalDigit c = true :=
  of_all_asciiDigits (by decide) h

end Text

namespace Date

variable {t : Text} {d : Date}

/-! ## From the form to a trimmed text -/

/-- The characters from a digit up to another are decimal digits. -/
lemma isDecimalDigit_of_le {a b c : Char} (ha : a.isDigit = true) (hb : b.isDigit = true)
    (lower : a ≤ c) (upper : c ≤ b) : isDecimalDigit c = true := by
  apply isDecimalDigit_of_isDigit
  simp only [Char.isDigit, Bool.and_eq_true, decide_eq_true_eq] at ha hb ⊢
  exact ⟨UInt32.le_trans ha.1 lower, UInt32.le_trans upper hb.2⟩

/-- The second character of a written month is a decimal digit. -/
lemma isDecimalDigit_of_isMonthForm {a b : Char} (h : isMonthForm a b = true) :
    isDecimalDigit b = true := by
  unfold isMonthForm at h
  split at h
  · simp only [Bool.and_eq_true, decide_eq_true_eq] at h
    exact isDecimalDigit_of_le rfl rfl h.1 h.2
  · simp only [Bool.and_eq_true, decide_eq_true_eq] at h
    exact isDecimalDigit_of_le rfl rfl h.1 h.2
  · cases h

/-- The second character of a written day is a decimal digit. -/
lemma isDecimalDigit_of_isDayForm {a b : Char} (h : isDayForm a b = true) :
    isDecimalDigit b = true := by
  unfold isDayForm at h
  split at h
  · simp only [Bool.and_eq_true, decide_eq_true_eq] at h
    exact isDecimalDigit_of_le rfl rfl h.1 h.2
  · exact h
  · exact h
  · simp only [Bool.or_eq_true, beq_iff_eq] at h
    rcases h with rfl | rfl <;> decide
  · cases h

/-- A text that begins and ends with decimal digits is trimmed. -/
lemma isTrimmed_of_isDecimalDigit {first last : Char} (head : t.head? = some first)
    (getLast : t.getLast? = some last) (hfirst : isDecimalDigit first = true)
    (hlast : isDecimalDigit last = true) : IsTrimmed t := by
  constructor
  · intro c hc
    rw [← Option.some.inj (head.symm.trans hc)]
    exact isBlank_of_isDecimalDigit hfirst
  · intro c hc
    rw [← Option.some.inj (getLast.symm.trans hc)]
    exact isBlank_of_isDecimalDigit hlast

/-- **A text in the form of a threshold is trimmed.** -/
lemma isTrimmed_of_hasThresholdForm (h : hasThresholdForm t = true) : IsTrimmed t := by
  unfold hasThresholdForm at h
  split at h
  · next y₁ y₂ y₃ y₄ =>
    simp only [List.all_cons, List.all_nil, Bool.and_eq_true, Bool.and_true] at h
    exact isTrimmed_of_isDecimalDigit rfl rfl h.1 h.2.2.2
  · next y₁ y₂ y₃ y₄ m₁ m₂ =>
    simp only [List.all_cons, List.all_nil, Bool.and_eq_true, Bool.and_true] at h
    exact isTrimmed_of_isDecimalDigit rfl rfl h.1.1 (isDecimalDigit_of_isMonthForm h.2)
  · next y₁ y₂ y₃ y₄ m₁ m₂ d₁ d₂ =>
    simp only [List.all_cons, List.all_nil, Bool.and_eq_true, Bool.and_true] at h
    exact isTrimmed_of_isDecimalDigit rfl rfl h.1.1.1 (isDecimalDigit_of_isDayForm h.2)
  · cases h

/-! ## From a reading to the form -/

/-- A form of two characters admits the digits that write the numbers from one to a bound, if it
does so for the hundred pairs of digits. -/
lemma form_iff_number {form : Char → Char → Bool} {bound : ℕ}
    (pairs : (asciiDigits.all fun a => asciiDigits.all fun b =>
      form a b == decide (1 ≤ number [a, b] ∧ number [a, b] ≤ bound)) = true)
    {a b : Char} (ha : a.isDigit = true) (hb : b.isDigit = true) :
    form a b = true ↔ 1 ≤ number [a, b] ∧ number [a, b] ≤ bound := by
  have same := of_all_asciiDigits (of_all_asciiDigits pairs ha) hb
  rw [beq_iff_eq.mp same, decide_eq_true_eq]

/-- The months that two digits write are those from the first to the twelfth. -/
lemma isMonthForm_iff {a b : Char} (ha : a.isDigit = true) (hb : b.isDigit = true) :
    isMonthForm a b = true ↔ 1 ≤ number [a, b] ∧ number [a, b] ≤ 12 :=
  form_iff_number (by decide) ha hb

/-- The days that two digits write are those from the first to the thirty-first. -/
lemma isDayForm_iff {a b : Char} (ha : a.isDigit = true) (hb : b.isDigit = true) :
    isDayForm a b = true ↔ 1 ≤ number [a, b] ∧ number [a, b] ≤ 31 :=
  form_iff_number (by decide) ha hb

/-- A date is read from digits only. -/
lemma isDigit_of_ofDigits? {year month day : Text} (h : ofDigits? year month day = some d) :
    (∀ c ∈ year, c.isDigit = true) ∧ (∀ c ∈ month, c.isDigit = true) ∧
      ∀ c ∈ day, c.isDigit = true := by
  unfold ofDigits? at h
  split_ifs at h with digits
  simp only [List.all_append, Bool.and_eq_true, List.all_eq_true] at digits
  exact ⟨digits.1.1, digits.1.2, digits.2⟩

/-- A date is read with a month up to the twelfth and a day up to the thirty-first. -/
lemma bounds_of_ofDigits? {year month day : Text} (h : ofDigits? year month day = some d) :
    (1 ≤ number month ∧ number month ≤ 12) ∧ 1 ≤ number day ∧ number day ≤ 31 := by
  unfold ofDigits? counted? at h
  split_ifs at h with _ bounds
  exact ⟨⟨bounds.1, bounds.2.1⟩, bounds.2.2⟩

/-- **A trimmed text that is read as a date has the form of a threshold.** -/
lemma hasThresholdForm_of_read? (trimmed : IsTrimmed t) (h : read? t = some d) :
    hasThresholdForm t = true := by
  have decimal {year : Text} (digits : ∀ c ∈ year, c.isDigit = true) :
      year.all isDecimalDigit = true :=
    List.all_eq_true.mpr fun c hc => isDecimalDigit_of_isDigit (digits c hc)
  rw [read?, isTrimmed_iff.mp trimmed] at h
  split at h
  · next y₁ y₂ y₃ y₄ =>
    obtain ⟨year, -⟩ := isDigit_of_ofDigits? h
    exact decimal year
  · next y₁ y₂ y₃ y₄ m₁ m₂ =>
    obtain ⟨year, month, -⟩ := isDigit_of_ofDigits? h
    obtain ⟨months, -⟩ := bounds_of_ofDigits? h
    rw [hasThresholdForm, Bool.and_eq_true]
    exact ⟨decimal year, (isMonthForm_iff (month m₁ (by simp)) (month m₂ (by simp))).mpr months⟩
  · next y₁ y₂ y₃ y₄ m₁ m₂ d₁ d₂ =>
    obtain ⟨year, month, day⟩ := isDigit_of_ofDigits? h
    obtain ⟨months, days⟩ := bounds_of_ofDigits? h
    rw [hasThresholdForm, Bool.and_eq_true, Bool.and_eq_true]
    exact ⟨⟨decimal year, (isMonthForm_iff (month m₁ (by simp)) (month m₂ (by simp))).mpr months⟩,
      (isDayForm_iff (day d₁ (by simp)) (day d₂ (by simp))).mpr days⟩
  · cases h

/-! ## Thresholds -/

/-- A threshold is given by a trimmed text that is read as a date. -/
lemma threshold?_eq_some_iff : threshold? t = some d ↔ IsTrimmed t ∧ read? t = some d := by
  rw [threshold?, Option.ite_none_right_eq_some]
  constructor
  · rintro ⟨form, h⟩
    exact ⟨isTrimmed_of_hasThresholdForm form, h⟩
  · rintro ⟨trimmed, h⟩
    exact ⟨hasThresholdForm_of_read? trimmed h, h⟩

/-- A text gives a threshold to a command if it gives one at all. -/
lemma readThreshold_eq_ok_iff : readThreshold t = .ok d ↔ threshold? t = some d := by
  rw [readThreshold]
  cases threshold? t <;> simp

/-- A text that gives no threshold is refused as a date. -/
lemma readThreshold_eq_error_iff :
    readThreshold t = .error .invalidDate ↔ threshold? t = none := by
  rw [readThreshold]
  cases threshold? t <;> simp

/-- A line whose first word is `date` is read as its second word is. -/
lemma read_eq_ok_showSince_iff {line : Text} (action : (words line)[0]? = some "date".toList)
    (parameter : (words line)[1]? = some t) :
    Command.read line = .ok (.showSince d) ↔ readThreshold t = .ok d := by
  have command : Command.read line = (readThreshold t).map .showSince := by
    rw [Command.read, action, parameter]
    rfl
  rw [command]
  cases readThreshold t <;> simp [Except.map]

/-- **Thresholds are the trimmed texts that are read as dates.** Any other text is refused as a
date. So the second word of a `date` line is read as the date field of a todo with this word is. -/
theorem readThreshold_iff (t : Text) :
    (∀ d, readThreshold t = .ok d ↔ trim t = t ∧ read? t = some d) ∧
      (readThreshold t = .error .invalidDate ↔ ¬ ∃ d, trim t = t ∧ read? t = some d) ∧
      ∀ line, (words line)[0]? = some "date".toList → (words line)[1]? = some t →
        ∀ d, (Command.read line = .ok (.showSince d) ↔ read? t = some d) ∧
          ∀ todo : Todo, todo.date = t →
            (Command.read line = .ok (.showSince d) ↔ todo.day? = some d) := by
  have ok (d : Date) : readThreshold t = .ok d ↔ trim t = t ∧ read? t = some d := by
    rw [readThreshold_eq_ok_iff, threshold?_eq_some_iff, isTrimmed_iff]
  refine ⟨ok, ?_, fun line action parameter d => ?_⟩
  · simp only [readThreshold_eq_error_iff, ← ok, readThreshold_eq_ok_iff]
    rw [Option.eq_none_iff_forall_ne_some, not_exists]
  · have trimmed : trim t = t :=
      isTrimmed_iff.mp (isTrimmed_of_mem_words (List.mem_of_getElem? parameter))
    have reads : Command.read line = .ok (.showSince d) ↔ read? t = some d := by
      rw [read_eq_ok_showSince_iff action parameter, ok, and_iff_right trimmed]
    refine ⟨reads, fun todo hdate => ?_⟩
    rw [reads, Todo.day?, hdate]

/-- A `date` line with a day beyond the end of its month, and one with a digit of another script. -/
theorem readThreshold_iff_lines :
    (words "date\t2021-02-30 x".toList)[0]? = some "date".toList ∧
      (words "date\t2021-02-30 x".toList)[1]? = some "2021-02-30".toList ∧
      (∃ d, Command.read "date\t2021-02-30 x".toList = .ok (.showSince d) ∧
        read? "2021-02-30".toList = some d) ∧
      readThreshold "2021-02-1٢".toList = .error .invalidDate := by
  have action : (words "date\t2021-02-30 x".toList)[0]? = some "date".toList := by decide +kernel
  have parameter : (words "date\t2021-02-30 x".toList)[1]? = some "2021-02-30".toList := by
    decide +kernel
  have read : read? "2021-02-30".toList =
      some ⟨2021, 3, 2, by decide, by decide, by decide, by decide⟩ := by decide +kernel
  have other : read? "2021-02-1٢".toList = none := by decide +kernel
  refine ⟨action, parameter, ⟨_, ?_, read⟩, ?_⟩
  · exact ((readThreshold_iff _).2.2 _ action parameter _).1.mpr read
  · rw [(readThreshold_iff _).2.1]
    rintro ⟨d, -, h⟩
    rw [other] at h
    cases h

end Date

end Backlog
