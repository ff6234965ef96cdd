import Backlog.Proofs.ByteEnds
import Backlog.Proofs.HeadGrammar

set_option relaxedAutoImplicit false
set_option autoImplicit false

/-!
# One head for each text

A text that begins with a head can be taken apart into the head and a free text in one way only,
where the separator goes as far as it may. So the grammar of heads, though it seems to leave open
where a separator ends, describes a function, and `freeText?` computes it.

The marker has four letters of one byte each. Where no character ends with the fourth byte behind
the opener, because the text is too short or because a longer character stands there, there is no
head.

## Main definitions

* `Backlog.Remark.IsTakenApart` — a text as a head and a free text.

## Main results

* `Backlog.Remark.Head.text_injective` — the parts of a head can be told from its text.
* `Backlog.Remark.IsTakenApart.unique` — a text is taken apart in one way.
* `Backlog.Remark.exists_firstBytes?` — some character ends with the fourth byte behind an opener.
* `Backlog.Remark.freeText?_iff_isTakenApart` — what is read as a free text, and when nothing is.
-/

namespace Backlog.Remark

open Text

variable {t free : Text} {head : Head}

/-- **The text is the head with the free text behind it**, and the separator goes no further. -/
structure IsTakenApart (t : Text) (head : Head) (free : Text) : Prop where
  parts : t = head.text ++ free
  meets : head.Meets free

/-! ## The parts of a head -/

/-- A separator is not empty. -/
lemma IsSeparator.ne_nil {separator : Text} (h : IsSeparator separator) : separator ≠ [] := by
  cases h with
  | spaces n => exact List.cons_ne_nil _ _
  | colon before after => exact List.append_ne_nil_of_right_ne_nil _ (List.cons_ne_nil _ _)

namespace Head

/-- **The parts of a head can be told from its text.** -/
lemma text_injective : Function.Injective text := by
  rintro ⟨spaced, word, separator, hword, hseparator⟩
    ⟨spaced', word', separator', hword', hseparator'⟩ same
  simp only [text, List.append_assoc, List.append_cancel_left_eq] at same
  obtain rfl : spaced = spaced' := by
    -- a marker does not begin with the space that belongs to the opener
    cases spaced <;> cases spaced'
    case false.true => exact absurd (congrArg List.head? same) (hword.head?_ne_space _)
    case true.false => exact absurd (congrArg List.head? same).symm (hword'.head?_ne_space _)
    all_goals rfl
  rw [List.append_cancel_left_eq] at same
  have length : word.length = word'.length := hword.length_eq.trans hword'.length_eq.symm
  obtain ⟨rfl, rfl⟩ := List.append_inj same length
  rfl

/-- A head has at least an opener of two characters, a marker of four and one more. -/
lemma seven_le_length_text (head : Head) : 7 ≤ head.text.length := by
  have word := head.isSpelling.length_eq
  have separator := List.length_pos_iff.mpr head.isSeparator.ne_nil
  simp only [text, List.length_append, List.length_cons, List.length_nil]
  omega

/-- The characters of a head take one byte each. -/
lemma utf8Size_of_mem_text {c : Char} (h : c ∈ head.text) : c.utf8Size = 1 := by
  have each : (['/', ' ', ':', 'T', 'O', 'D', 't', 'o', 'd'].all (·.utf8Size == 1)) = true := by
    decide
  exact beq_iff_eq.mp (List.all_eq_true.mp each c (mem_of_mem_text h))

end Head

/-! ## Taking a text apart -/

/-- What is read is the free text behind some head. -/
lemma freeText?_eq_some_iff_exists : freeText? t = some free ↔ ∃ head, IsTakenApart t head free :=
  freeText?_eq_some_iff.trans (exists_congr fun _ => ⟨fun h => ⟨h.1, h.2⟩, fun h => ⟨h.1, h.2⟩⟩)

/-- **A text is taken apart in one way.**

**Proof sketch.** The free text is what is read. Without it the text of the head is left, which
tells the parts of the head. -/
lemma IsTakenApart.unique {head' : Head} {free' : Text} (h : IsTakenApart t head free)
    (h' : IsTakenApart t head' free') : head = head' ∧ free = free' := by
  have read := freeText?_eq_some_iff_exists.mpr ⟨head, h⟩
  rw [freeText?_eq_some_iff_exists.mpr ⟨head', h'⟩] at read
  obtain rfl : free' = free := Option.some.inj read
  have texts : head.text = head'.text := List.append_cancel_right (h.parts.symm.trans h'.parts)
  exact ⟨Head.text_injective texts, rfl⟩

/-- **Some character ends with the fourth byte behind an opener** of two or three characters.

**Proof sketch.** The head has four more characters there, which take one byte each. -/
lemma exists_firstBytes? {opener rest : Text} (short : opener.length ≤ 3)
    (h : freeText? (opener ++ rest) = some free) : ∃ first, firstBytes? 4 rest = some first := by
  obtain ⟨head, parts⟩ := exists_head_of_freeText? h
  have long := head.seven_le_length_text
  have same : rest.take 4 = (head.text.drop opener.length).take 4 := by
    calc rest.take 4
        = ((opener ++ rest).drop opener.length).take 4 := by rw [List.drop_left]
      _ = ((head.text.drop opener.length) ++ free).take 4 := by
          rw [parts, List.drop_append_of_le_length (by omega)]
      _ = (head.text.drop opener.length).take 4 :=
          List.take_append_of_le_length (by rw [List.length_drop]; omega)
  refine ⟨rest.take 4, firstBytes?_eq_some_iff.mpr ⟨List.take_prefix 4 rest, ?_⟩⟩
  rw [same, byteLength_of_forall fun c hc =>
    Head.utf8Size_of_mem_text (List.mem_of_mem_drop (List.mem_of_mem_take hc))]
  simp only [List.length_take, List.length_drop]
  omega

/-- **What is read as a free text.** It is what stands behind a head such that the separator of the
head goes no further, and nothing is read of a text that cannot be taken apart in this way. There is
only one way. So all heads that fit in front of a free text give the same result. No head begins a
text in which no character ends with the fourth byte behind the opener, whether or not a space is
counted to it. -/
theorem freeText?_iff_isTakenApart (t : Text) :
    (∀ free, freeText? t = some free ↔ ∃ head, IsTakenApart t head free) ∧
      (freeText? t = none ↔ ∀ head free, ¬ IsTakenApart t head free) ∧
      (∀ head head' free free', IsTakenApart t head free → IsTakenApart t head' free' →
        head = head' ∧ free = free') ∧
      (∀ (head head' : Head) (free : Text), head.Meets free → head'.Meets free →
        freeText? (head.text ++ free) = freeText? (head'.text ++ free)) ∧
      ∀ (spaced : Bool) (rest : Text), t = ['/', '/'] ++ (if spaced then [' '] else []) ++ rest →
        firstBytes? 4 rest = none → freeText? t = none := by
  refine ⟨fun free => freeText?_eq_some_iff_exists, ?_,
    fun head head' free free' h h' => h.unique h', fun head head' free h h' => ?_,
    fun spaced rest whole cut => ?_⟩
  · rw [Option.eq_none_iff_forall_ne_some, forall_comm]
    simp only [ne_eq, freeText?_eq_some_iff_exists, not_exists]
  · rw [freeText?_of_meets h, freeText?_of_meets h']
  · have short : (['/', '/'] ++ (if spaced then [' '] else [])).length ≤ 3 := by
      cases spaced <;> decide
    cases read : freeText? t with
    | none => rfl
    | some free =>
      obtain ⟨first, ends⟩ := exists_firstBytes? short (whole ▸ read)
      rw [cut] at ends
      cases ends

/-- Behind a separator with a colon the free text begins with a second one, and in the last text a
character of three bytes begins where the last letter of the marker would stand. -/
theorem freeText?_iff_isTakenApart_colons :
    freeText? "//tOdO  : : x".toList = some ": x".toList ∧
      freeText? "// TODO:: x".toList = freeText? "//tOdO  : : x".toList ∧
      freeText? "// TOD漢o x".toList = none := by
  have loose : IsSeparator "  : ".toList := .colon 2 1
  have tight : IsSeparator ":".toList := .colon 0 0
  let first : Head := ⟨false, "tOdO".toList, _, isSpelling_iff.mpr (by decide), loose⟩
  let second : Head := ⟨true, "TODO".toList, _, isSpelling_iff.mpr (by decide), tight⟩
  have meets {head : Head} (colon : ':' ∈ head.separator) : head.Meets ": x".toList :=
    ⟨by decide, fun noColon => absurd colon noColon⟩
  have meetsFirst := @meets first (show ':' ∈ "  : ".toList by decide)
  have meetsSecond := @meets second (show ':' ∈ ":".toList by decide)
  obtain ⟨read, -, -, alike, -⟩ := freeText?_iff_isTakenApart "//tOdO  : : x".toList
  obtain ⟨-, -, -, -, cut⟩ := freeText?_iff_isTakenApart "// TOD漢o x".toList
  exact ⟨(read _).mpr ⟨first, rfl, meetsFirst⟩, alike second first _ meetsSecond meetsFirst,
    cut true "TOD漢o x".toList rfl (by decide)⟩

end Backlog.Remark
