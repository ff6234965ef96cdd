import Backlog.Text.Blank
import Mathlib.Data.List.DropRight

set_option relaxedAutoImplicit false
set_option autoImplicit false

/-!
# Trimmed texts

A text is trimmed if no blank stands at either end, and trimming makes every text so without
touching anything else.

## Main definitions

* `Backlog.Text.IsTrimmed` — no blank at either end.

## Main results

* `Backlog.Text.isTrimmed_iff` — the trimmed texts are those that `trim` keeps.
* `Backlog.Text.trim_append_blank` — one more blank at the end makes no difference.
* `Backlog.Text.count_trim` — only blanks are lost.
* `Backlog.Text.isTrimmed_of_mem_words` — words are trimmed.
* `Backlog.Text.words_append_blank`, `Backlog.Text.words_of_forall` — the words of a text.
* `Backlog.Text.IsTrimmed.exists_first_word` — a trimmed text begins with its first word.
-/

namespace Backlog.Text

variable {t : Text} {c : Char}

/-- No blank stands at either end of the text. -/
structure IsTrimmed (t : Text) : Prop where
  head : ∀ c, t.head? = some c → isBlank c = false
  last : ∀ c, t.getLast? = some c → isBlank c = false

/-- Trimming the end leaves a beginning of the text. -/
lemma trimEnd_isPrefix (t : Text) : trimEnd t <+: t := List.rdropWhile_prefix isBlank t

/-- A text that begins with no blank keeps its beginning. -/
lemma trimStart_eq_self (h : ∀ c, t.head? = some c → isBlank c = false) : trimStart t = t := by
  cases t with
  | nil => rfl
  | cons c t => exact List.dropWhile_cons_of_neg (by simp [h c rfl])

/-- A text that ends in no blank keeps its end. -/
lemma trimEnd_eq_self (h : ∀ c, t.getLast? = some c → isBlank c = false) : trimEnd t = t := by
  rw [← List.head?_reverse] at h
  exact (congrArg List.reverse (trimStart_eq_self h)).trans (List.reverse_reverse t)

/-- What is left without the blanks in front begins with none. -/
lemma isBlank_of_head?_trimStart (h : (trimStart t).head? = some c) : isBlank c = false := by
  have first := List.head?_dropWhile_not isBlank t
  rwa [← trimStart, h] at first

/-- Trimming makes a text trimmed. -/
lemma isTrimmed_trim (t : Text) : IsTrimmed (trim t) := by
  constructor
  · intro c h
    obtain ⟨rest, hrest⟩ := trimEnd_isPrefix (trimStart t)
    apply isBlank_of_head?_trimStart (t := t)
    rw [← hrest, List.head?_append, ← trim, h]
    rfl
  · intro c h
    rw [trim, trimEnd, List.getLast?_reverse] at h
    exact isBlank_of_head?_trimStart h

/-- **The trimmed texts** are those that trimming keeps. -/
theorem isTrimmed_iff : IsTrimmed t ↔ trim t = t := by
  constructor
  · intro h
    rw [trim, trimStart_eq_self h.head, trimEnd_eq_self h.last]
  · intro h
    exact h ▸ isTrimmed_trim t

/-- Blanks in front are trimmed. -/
lemma trim_blanks_append {s : Text} (blank : ∀ c ∈ s, isBlank c = true) (t : Text) :
    trim (s ++ t) = trim t := by
  rw [trim, trimStart, List.dropWhile_append_of_pos blank, trim, trimStart]

/-- Spaces in front are trimmed. -/
lemma trim_spaces_append (n : ℕ) (t : Text) : trim (List.replicate n ' ' ++ t) = trim t := by
  refine trim_blanks_append (fun c hc => ?_) t
  rw [List.eq_of_mem_replicate hc]
  rfl

/-- One more blank at the end is trimmed. -/
lemma trim_append_blank (blank : isBlank c = true) (t : Text) : trim (t ++ [c]) = trim t := by
  rw [trim, trimStart, List.dropWhile_append]
  split
  · next empty =>
    rw [trim, trimStart, List.isEmpty_iff.mp empty, List.dropWhile_cons_of_pos blank,
      List.dropWhile_nil]
  · rw [trimEnd, List.reverse_append, List.reverse_singleton, List.singleton_append,
      List.dropWhile_cons_of_pos blank]
    rfl

/-- Blanks at the end are trimmed. -/
lemma trim_append_blanks {s : Text} (blank : ∀ c ∈ s, isBlank c = true) (t : Text) :
    trim (t ++ s) = trim t := by
  induction s generalizing t with
  | nil => rw [List.append_nil]
  | cons c s ih =>
    rw [List.forall_mem_cons] at blank
    rw [List.append_cons, ih blank.2, trim_append_blank blank.1]

/-- A text without blanks is trimmed. -/
lemma isTrimmed_of_forall (h : ∀ c ∈ t, isBlank c = false) : IsTrimmed t :=
  ⟨fun c hc => h c (List.mem_of_head? hc), fun c hc => h c (List.mem_of_getLast? hc)⟩

/-- A trimmed text does not end in a blank. -/
lemma IsTrimmed.getLast?_ne (h : IsTrimmed t) (blank : isBlank c = true) : t.getLast? ≠ some c := by
  intro last
  rw [h.last c last] at blank
  exact Bool.false_ne_true blank

/-- A trimmed text does not begin with a blank. -/
lemma IsTrimmed.head?_ne (h : IsTrimmed t) (blank : isBlank c = true) : t.head? ≠ some c := by
  intro first
  rw [h.head c first] at blank
  exact Bool.false_ne_true blank

/-! ## What is left -/

/-- The blanks in front are no other characters. -/
lemma count_trimStart (h : isBlank c = false) (t : Text) : (trimStart t).count c = t.count c := by
  have dropped : (t.takeWhile isBlank).count c = 0 := by
    rw [List.count_eq_zero]
    intro hc
    rw [List.mem_takeWhile_imp hc] at h
    cases h
  conv_rhs => rw [← List.takeWhile_append_dropWhile (p := isBlank) (l := t)]
  rw [List.count_append, dropped, Nat.zero_add, trimStart]

/-- **Only blanks are lost** by trimming. -/
theorem count_trim (h : isBlank c = false) (t : Text) : (trim t).count c = t.count c := by
  have last : (trimEnd (trimStart t)).count c = (trimStart t).count c := by
    rw [trimEnd, List.count_reverse, ← trimStart, count_trimStart h, List.count_reverse]
  rw [trim, last, count_trimStart h]

/-- Trimming adds no characters. -/
lemma mem_of_mem_trim (h : c ∈ trim t) : c ∈ t :=
  (List.dropWhile_sublist isBlank).subset ((trimEnd_isPrefix (trimStart t)).subset h)

/-! ## Words -/

/-- No separator stands in the parts between separators. -/
lemma of_mem_splitOnP {p : Char → Bool} {t part : Text} (h : part ∈ t.splitOnP p) :
    ∀ c ∈ part, p c = false := by
  induction t generalizing part with
  | nil =>
    rw [List.splitOnP_nil, List.mem_singleton] at h
    rw [h]
    exact nofun
  | cons a t ih =>
    rw [List.splitOnP_cons_eq_if_modifyHead] at h
    split_ifs at h with ha
    · rcases List.mem_cons.mp h with rfl | h
      · exact nofun
      · exact ih h
    · obtain ⟨first, others, parts⟩ := List.exists_cons_of_ne_nil (List.splitOnP_ne_nil p t)
      rw [parts, List.modifyHead_cons] at h
      rcases List.mem_cons.mp h with rfl | h
      · rw [List.forall_mem_cons]
        exact ⟨Bool.eq_false_iff.mpr ha, ih (parts ▸ List.mem_cons_self)⟩
      · exact ih (parts ▸ List.mem_cons_of_mem _ h)

/-- No blank stands in a word. -/
lemma isBlank_of_mem_words {t word : Text} (h : word ∈ words t) : ∀ c ∈ word, isBlank c = false :=
  of_mem_splitOnP (List.mem_filter.mp h).1

/-- A word is not empty. -/
lemma ne_nil_of_mem_words {t word : Text} (h : word ∈ words t) : word ≠ [] := by
  simpa using (List.mem_filter.mp h).2

/-- A word has no blanks at its ends, nor anywhere else. -/
lemma isTrimmed_of_mem_words {t word : Text} (h : word ∈ words t) : IsTrimmed word :=
  isTrimmed_of_forall (isBlank_of_mem_words h)

/-- **Words are cut at any blank** of a text. -/
lemma words_append_blank (blank : isBlank c = true) (s t : Text) :
    words (s ++ c :: t) = words s ++ words t := by
  rw [words, List.splitOnP_append_cons s t blank, List.filter_append, words, words]

/-- A text without blanks is one word. -/
lemma words_of_forall (h : ∀ c ∈ t, isBlank c = false) (nonempty : t ≠ []) : words t = [t] := by
  rw [words, List.splitOnP_eq_singleton h]
  simp [nonempty]

/-- A text is without blanks if none is found in it. -/
lemma any_isBlank_eq_false_iff : t.any isBlank = false ↔ ∀ c ∈ t, isBlank c = false := by
  simp only [List.any_eq_false, Bool.not_eq_true]

/-- The first word ends at the first blank behind it. -/
lemma words_append_cons {word : Text} (unbroken : ∀ c ∈ word, isBlank c = false)
    (nonempty : word ≠ []) (blank : isBlank c = true) (t : Text) :
    words (word ++ c :: t) = word :: words t := by
  rw [words_append_blank blank, words_of_forall unbroken nonempty, List.singleton_append]

/-- **A trimmed text begins with its first word**, unless it is empty. Behind the word the text ends
or goes on with a blank. -/
lemma IsTrimmed.exists_first_word (h : IsTrimmed t) (nonempty : t ≠ []) :
    ∃ word rest, t = word ++ rest ∧ (words t).head? = some word ∧
      ∀ c, rest.head? = some c → isBlank c = true := by
  have whole := List.takeWhile_append_dropWhile (p := (!isBlank ·)) (l := t)
  have unbroken : ∀ c ∈ t.takeWhile (!isBlank ·), isBlank c = false := fun c hc => by
    simpa using List.mem_takeWhile_imp hc
  have begun : t.takeWhile (!isBlank ·) ≠ [] := by
    obtain ⟨first, others, rfl⟩ := List.exists_cons_of_ne_nil nonempty
    rw [List.takeWhile_cons_of_pos (by simp [h.head first rfl])]
    exact List.cons_ne_nil _ _
  generalize t.takeWhile (!isBlank ·) = word at whole unbroken begun
  cases behind : t.dropWhile (!isBlank ·) with
  | nil =>
    rw [behind, List.append_nil] at whole
    refine ⟨word, [], ?_, ?_, nofun⟩
    · rw [whole, List.append_nil]
    · rw [← whole, words_of_forall unbroken begun, List.head?_cons]
  | cons c rest =>
    have blank : isBlank c = true := by
      have first := List.head?_dropWhile_not (!isBlank ·) t
      rw [behind] at first
      simpa using first
    rw [behind] at whole
    refine ⟨word, c :: rest, whole.symm, ?_, fun d hd => ?_⟩
    · rw [← whole, words_append_cons unbroken begun blank, List.head?_cons]
    · obtain rfl := Option.some.inj hd
      exact blank

end Backlog.Text
