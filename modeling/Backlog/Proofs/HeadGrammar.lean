import Backlog.Remark.Head
import Mathlib.Data.List.Forall2
import Mathlib.Data.List.TakeWhile

set_option relaxedAutoImplicit false
set_option autoImplicit false

/-!
# The grammar of heads

The head of a remark as a word of a small language, and `freeText?` as its reader. The language
says nothing about how a head is found: a head is an opener, perhaps a space, a spelling of the
marker and a separator, put together.

## Main definitions

* `Backlog.Remark.IsSpelling`, `Backlog.Remark.IsSeparator` — the parts of a head.
* `Backlog.Remark.Head` — a head with its parts, and `Backlog.Remark.Head.text`.
* `Backlog.Remark.BeginsWithHead` — a text that begins with some head.
* `Backlog.Remark.Head.Meets` — a free text that the separator leaves whole.

## Main results

* `Backlog.Remark.freeText?_eq_some_iff` — what `freeText?` returns, by the grammar.
* `Backlog.Remark.isSome_freeText?_iff` — it returns something for the texts that begin with a head.
-/

namespace Backlog.Remark

open Text

variable {t free word separator : Text}

/-! ## The parts of a head -/

/-- The code point of a small letter lies 32 above that of its capital letter. -/
lemma toNat_toLower (c : Char) :
    c.toLower.toNat = if 65 ≤ c.toNat ∧ c.toNat ≤ 90 then c.toNat + 32 else c.toNat := by
  have capital : (c.val ≥ 'A'.val ∧ c.val ≤ 'Z'.val) ↔ 65 ≤ c.toNat ∧ c.toNat ≤ 90 := by
    simp only [ge_iff_le, UInt32.le_iff_toNat_le]
    exact Iff.rfl
  delta Char.toLower
  simp only [capital]
  split_ifs with h
  · change (c.val + 32).toNat = _
    rw [UInt32.toNat_add]
    exact Nat.mod_eq_of_lt (by change c.toNat + 32 < _; omega)
  · rfl

/-- The characters with the small form of a capital letter are the letter and its small form. -/
lemma toLower_eq_toLower_iff {c letter : Char} (h : 65 ≤ letter.toNat ∧ letter.toNat ≤ 90) :
    c.toLower = letter.toLower ↔ c = letter ∨ c = letter.toLower := by
  simp only [← Char.toNat_inj, toNat_toLower, if_pos h]
  split_ifs <;> omega

/-- The letters of the marker, each capital or small. -/
def IsSpelling (word : Text) : Prop :=
  List.Forall₂ (fun c letter => c = letter ∨ c = letter.toLower) word marker

/-- A spelling is what differs from the marker at most in case. -/
lemma isSpelling_iff : IsSpelling word ↔ sameButForCase word marker = true := by
  have t (c : Char) : c.toLower = 't' ↔ c = 'T' ∨ c = 't' :=
    @toLower_eq_toLower_iff c 'T' (by decide)
  have o (c : Char) : c.toLower = 'o' ↔ c = 'O' ∨ c = 'o' :=
    @toLower_eq_toLower_iff c 'O' (by decide)
  have d (c : Char) : c.toLower = 'd' ↔ c = 'D' ∨ c = 'd' :=
    @toLower_eq_toLower_iff c 'D' (by decide)
  rw [IsSpelling, sameButForCase, beq_iff_eq, ← List.forall₂_eq_eq_eq, List.forall₂_map_left_iff,
    List.forall₂_map_right_iff]
  simp only [marker, List.forall₂_cons_right_iff, List.forall₂_nil_right_iff]
  simp [t, o, d]

/-- A spelling has as many letters as the marker. -/
lemma IsSpelling.length_eq (h : IsSpelling word) : word.length = 4 := List.Forall₂.length_eq h

/-- A spelling has no other characters than the letters of the marker. -/
lemma IsSpelling.mem_of_mem (h : IsSpelling word) {c : Char} (hc : c ∈ word) :
    c ∈ ['T', 'O', 'D', 't', 'o', 'd'] := by
  rcases h with _ | ⟨t, _ | ⟨o, _ | ⟨d, _ | ⟨o', _ | _⟩⟩⟩⟩
  simp only [List.mem_cons, List.not_mem_nil, or_false] at hc ⊢
  rcases hc with rfl | rfl | rfl | rfl
  · rcases t with rfl | rfl <;> decide
  · rcases o with rfl | rfl <;> decide
  · rcases d with rfl | rfl <;> decide
  · rcases o' with rfl | rfl <;> decide

/-- One or more spaces, or a colon with any number of spaces on its two sides. -/
inductive IsSeparator : Text → Prop
  | spaces (n : ℕ) : IsSeparator (List.replicate (n + 1) ' ')
  | colon (before after : ℕ) :
      IsSeparator (List.replicate before ' ' ++ ':' :: List.replicate after ' ')

/-- The head of a remark: the opener, perhaps a space, the marker and a separator. -/
structure Head where
  spaced : Bool
  word : Text
  separator : Text
  isSpelling : IsSpelling word
  isSeparator : IsSeparator separator

namespace Head

/-- The head as it stands in a text. -/
def text (head : Head) : Text :=
  ['/', '/'] ++ (if head.spaced then [' '] else []) ++ head.word ++ head.separator

/-- A head is made of slashes, spaces, colons and the letters of the marker. -/
lemma mem_of_mem_text {head : Head} {c : Char} (h : c ∈ head.text) :
    c ∈ ['/', ' ', ':', 'T', 'O', 'D', 't', 'o', 'd'] := by
  obtain ⟨spaced, word, separator, hword, hseparator⟩ := head
  simp only [text, List.mem_append] at h
  rcases h with ((h | h) | h) | h
  · simp only [List.mem_cons, List.not_mem_nil, or_false, or_self] at h
    simp [h]
  · split_ifs at h
    · simp [List.mem_singleton.mp h]
    · cases h
  · have letters := hword.mem_of_mem h
    simp only [List.mem_cons, List.not_mem_nil, or_false] at letters ⊢
    tauto
  · cases hseparator with
    | spaces n => simp [List.eq_of_mem_replicate h]
    | colon before after =>
      simp only [List.mem_append, List.mem_cons, List.mem_replicate] at h
      rcases h with ⟨-, rfl⟩ | rfl | ⟨-, rfl⟩ <;> simp

/-- No other character stands in a head. -/
lemma notMem_text (head : Head) {c : Char}
    (h : c ∉ ['/', ' ', ':', 'T', 'O', 'D', 't', 'o', 'd']) : c ∉ head.text :=
  fun hc => h (mem_of_mem_text hc)

/-- The separator of the head goes no further than to the free text: that begins with no space, and
with a colon only if the separator has one. -/
def Meets (head : Head) (free : Text) : Prop :=
  free.head? ≠ some ' ' ∧ (':' ∉ head.separator → free.head? ≠ some ':')

end Head

/-- Some head stands at the front of the text. -/
def BeginsWithHead (t : Text) : Prop := ∃ (head : Head) (free : Text), t = head.text ++ free

/-! ## Reading -/

/-- What stands behind a marker. -/
lemma afterMarker?_eq_some_iff {rest : Text} :
    afterMarker? t = some rest ↔ ∃ word, IsSpelling word ∧ t = word ++ rest := by
  simp only [afterMarker?, ← isSpelling_iff, Option.ite_none_right_eq_some, Option.some.injEq]
  constructor
  · rintro ⟨h, rfl⟩
    exact ⟨t.take 4, h, (List.take_append_drop 4 t).symm⟩
  · rintro ⟨word, h, rfl⟩
    have length := h.length_eq
    rw [List.take_left' length, List.drop_left' length]
    exact ⟨h, rfl⟩

/-- All spaces at the front are dropped. -/
lemma dropWhile_space (n : ℕ) (h : t.head? ≠ some ' ') :
    (List.replicate n ' ' ++ t).dropWhile (· = ' ') = t := by
  rw [List.dropWhile_append_of_pos (by simp)]
  cases t with
  | nil => rfl
  | cons c t => exact List.dropWhile_cons_of_neg (by simpa using h)

/-- A text is some spaces and what is left without them. -/
lemma exists_eq_spaces_append (t : Text) :
    ∃ n rest, t = List.replicate n ' ' ++ rest ∧ rest.head? ≠ some ' ' := by
  refine ⟨(t.takeWhile (· = ' ')).length, t.dropWhile (· = ' '), ?_, ?_⟩
  · have spaces : t.takeWhile (· = ' ') = List.replicate (t.takeWhile (· = ' ')).length ' ' :=
      List.eq_replicate_of_mem fun c hc => by simpa using List.mem_takeWhile_imp hc
    rw [← spaces, List.takeWhile_append_dropWhile]
  · intro h
    have first := List.head?_dropWhile_not (fun c : Char => decide (c = ' ')) t
    simp [h] at first

/-- What stands behind a separator: a separator of the grammar is read to its end.

**Proof sketch.** Both sides are decided by the first character behind the leading spaces. A colon
there belongs to the separator, with the spaces behind it. Any other character, or none, leaves a
separator of spaces, of which there must be one. -/
lemma afterSeparator?_eq_some_iff :
    afterSeparator? t = some free ↔ ∃ separator, IsSeparator separator ∧ t = separator ++ free ∧
      free.head? ≠ some ' ' ∧ (':' ∉ separator → free.head? ≠ some ':') := by
  constructor
  · intro h
    obtain ⟨n, rest, rfl, hrest⟩ := exists_eq_spaces_append t
    rw [afterSeparator?, dropWhile_space n hrest] at h
    split at h
    · next after =>
      obtain ⟨m, after, rfl, hafter⟩ := exists_eq_spaces_append after
      rw [dropWhile_space m hafter] at h
      cases h
      exact ⟨_, .colon n m, by simp, hafter, by simp⟩
    · next noColon =>
      split_ifs at h with first
      cases h
      cases n with
      | zero => exact absurd first hrest
      | succ n =>
        refine ⟨_, .spaces n, rfl, hrest, fun _ colon => ?_⟩
        obtain ⟨after, rfl⟩ := List.head?_eq_some_iff.mp colon
        exact noColon after rfl
  · rintro ⟨separator, hseparator, rfl, space, colon⟩
    cases hseparator with
    | spaces n =>
      rw [afterSeparator?, dropWhile_space (n + 1) space]
      split
      · exact absurd rfl (colon (by simp [List.mem_replicate]))
      · rfl
    | colon before after =>
      rw [afterSeparator?, List.append_assoc, dropWhile_space before (by simp)]
      exact congrArg some (dropWhile_space after space)

/-- Every separator is read, whatever follows it. -/
lemma isSome_afterSeparator? (h : IsSeparator separator) (t : Text) :
    (afterSeparator? (separator ++ t)).isSome := by
  cases h with
  | spaces n =>
    rw [afterSeparator?]
    split
    · rfl
    · rw [if_pos (by simp [List.replicate_succ])]
      rfl
  | colon before after =>
    rw [afterSeparator?, List.append_assoc, dropWhile_space before (by simp)]
    rfl

/-- A spelling of the marker does not begin with a space. -/
lemma IsSpelling.head?_ne_space (h : IsSpelling word) (t : Text) :
    (word ++ t).head? ≠ some ' ' := by
  rcases h with _ | ⟨rfl | rfl, _⟩ <;> simp

/-- The opener and one space are taken off before marker and separator are read. -/
lemma freeText?_opener (spaced : Bool) (h : t.head? ≠ some ' ') :
    freeText? (['/', '/'] ++ (if spaced then [' '] else []) ++ t) =
      (afterMarker? t).bind afterSeparator? := by
  cases spaced with
  | true => rfl
  | false =>
    simp only [Bool.false_eq_true, if_false, List.append_nil, List.cons_append, List.nil_append]
    rw [freeText?]
    rintro rest rfl
    exact h rfl

/-- Behind a head, what the separator leaves is read. -/
lemma freeText?_head_append (head : Head) (t : Text) :
    freeText? (head.text ++ t) = afterSeparator? (head.separator ++ t) := by
  have marked : afterMarker? (head.word ++ (head.separator ++ t)) = some (head.separator ++ t) :=
    afterMarker?_eq_some_iff.mpr ⟨head.word, head.isSpelling, rfl⟩
  rw [Head.text, List.append_assoc, List.append_assoc,
    freeText?_opener head.spaced (head.isSpelling.head?_ne_space _), marked]
  rfl

/-- A text with a free text begins with a head.

**Proof sketch.** The two forms of the opener are the two cases of `freeText?`. In each the rest is
a spelling of the marker, a separator and the free text. -/
lemma exists_head_of_freeText? (h : freeText? t = some free) :
    ∃ head : Head, t = head.text ++ free := by
  have parts {rest : Text} (h : (afterMarker? rest).bind afterSeparator? = some free) :
      ∃ word separator, IsSpelling word ∧ IsSeparator separator ∧
        rest = word ++ separator ++ free := by
    obtain ⟨after, marked, separated⟩ := Option.bind_eq_some_iff.mp h
    obtain ⟨word, hword, rfl⟩ := afterMarker?_eq_some_iff.mp marked
    obtain ⟨separator, hseparator, rfl, -⟩ := afterSeparator?_eq_some_iff.mp separated
    exact ⟨word, separator, hword, hseparator, (List.append_assoc ..).symm⟩
  unfold freeText? at h
  split at h
  · obtain ⟨word, separator, hword, hseparator, rfl⟩ := parts h
    exact ⟨⟨true, word, separator, hword, hseparator⟩, by simp [Head.text]⟩
  · obtain ⟨word, separator, hword, hseparator, rfl⟩ := parts h
    exact ⟨⟨false, word, separator, hword, hseparator⟩, by simp [Head.text]⟩
  · cases h

/-- Behind a head whose separator ends there, the whole text is read. -/
lemma freeText?_of_meets {head : Head} (h : head.Meets free) :
    freeText? (head.text ++ free) = some free := by
  rw [freeText?_head_append]
  exact afterSeparator?_eq_some_iff.mpr ⟨head.separator, head.isSeparator, rfl, h⟩

/-- **Free texts by the grammar**: what is read is the rest behind a head, such that the separator
of the head goes no further. -/
theorem freeText?_eq_some_iff :
    freeText? t = some free ↔ ∃ head : Head, t = head.text ++ free ∧ head.Meets free := by
  constructor
  · intro h
    obtain ⟨head, rfl⟩ := exists_head_of_freeText? h
    rw [freeText?_head_append] at h
    obtain ⟨separator, hseparator, same, hmeets⟩ := afterSeparator?_eq_some_iff.mp h
    obtain rfl : head.separator = separator := List.append_cancel_right same
    exact ⟨head, rfl, hmeets⟩
  · rintro ⟨head, rfl, h⟩
    exact freeText?_of_meets h

/-- **There is a free text where a head stands**, whatever follows the head. -/
theorem isSome_freeText?_iff : (freeText? t).isSome ↔ BeginsWithHead t := by
  constructor
  · intro h
    obtain ⟨free, hfree⟩ := Option.isSome_iff_exists.mp h
    obtain ⟨head, ht⟩ := exists_head_of_freeText? hfree
    exact ⟨head, free, ht⟩
  · rintro ⟨head, rest, rfl⟩
    rw [freeText?_head_append]
    exact isSome_afterSeparator? head.isSeparator rest

end Backlog.Remark
