import Backlog.Proofs.HeadGrammar
import Backlog.Proofs.LineCut
import Backlog.Remark.Span

set_option relaxedAutoImplicit false
set_option autoImplicit false

/-!
# The remarks of a text, described

Which remarks a text has follows from two descriptions: what its lines are and what a head is. A
line has a remark if some end of its content begins with a head, and the remark is then the longest
such end, with the terminator of the line behind it.

## Main definitions

* `Backlog.Remark.IsLongest` — the longest end of a text that begins with a head.
* `Backlog.Remark.IsRemarkOf`, `Backlog.Remark.HasNoRemark` — what a line has.
* `Backlog.Remark.AreRemarksOf` — the remarks of some lines, in order.

## Main results

* `Backlog.Remark.inContent?_eq_some_iff`, `Backlog.Remark.inLine?_eq_some_iff` — the search in a
  content and in a line finds what is described.
* `Backlog.Remark.areRemarksOf_iff_eq_inText` — a text is cut into lines in one way, and `inText`
  returns the remarks of these lines and no others.
* `Backlog.Remark.inText_append` — the remarks of the first line of a text and those of the others.
-/

namespace Backlog.Remark

open Text

variable {s t line span : Text}

/-! ## The longest end with a head -/

/-- A text that begins with a head begins with a slash. -/
lemma BeginsWithHead.exists_eq_cons (h : BeginsWithHead t) : ∃ rest, t = '/' :: rest := by
  obtain ⟨head, free, rfl⟩ := h
  exact ⟨_, rfl⟩

/-- `remark` is an end of the text that begins with a head, and no such end is longer. -/
structure IsLongest (remark t : Text) : Prop where
  suffix : remark <:+ t
  begins : BeginsWithHead remark
  longest : ∀ s, s <:+ t → BeginsWithHead s → s.length ≤ remark.length

/-- A text that begins with a head itself is its own longest end. -/
lemma isLongest_iff_eq (h : BeginsWithHead t) : IsLongest s t ↔ s = t := by
  constructor
  · intro hs
    exact hs.suffix.eq_of_length_le (hs.longest t List.suffix_rfl h)
  · rintro rfl
    exact ⟨List.suffix_rfl, h, fun _ hs _ => hs.length_le⟩

/-- Where no head stands, the first character is of no use. -/
lemma isLongest_cons_iff {c : Char} (h : ¬ BeginsWithHead (c :: t)) :
    IsLongest s (c :: t) ↔ IsLongest s t := by
  have shorter {r : Text} (hr : r <:+ c :: t) (begins : BeginsWithHead r) : r <:+ t := by
    rcases List.suffix_cons_iff.mp hr with rfl | hr
    · exact absurd begins h
    · exact hr
  constructor
  · intro hs
    exact ⟨shorter hs.suffix hs.begins, hs.begins,
      fun r hr => hs.longest r (hr.trans (List.suffix_cons c t))⟩
  · intro hs
    exact ⟨hs.suffix.trans (List.suffix_cons c t), hs.begins,
      fun r hr begins => hs.longest r (shorter hr begins) begins⟩

/-- **The search in a content** finds its longest end with a head.

**Proof sketch.** Induction on the content. If a head stands at its front, the whole content is the
longest end. Otherwise the ends with a head are those of what follows the first character. -/
lemma inContent?_eq_some_iff : inContent? t = some s ↔ IsLongest s t := by
  induction t with
  | nil =>
    refine ⟨nofun, fun h => ?_⟩
    obtain ⟨rest, rfl⟩ := h.begins.exists_eq_cons
    exact absurd h.suffix (by simp)
  | cons c t ih =>
    rw [inContent?]
    split_ifs with h <;> rw [isSome_freeText?_iff] at h
    · rw [isLongest_iff_eq h, Option.some.injEq, eq_comm]
    · rw [isLongest_cons_iff h, ih]

/-- The search in a content fails if no end begins with a head. -/
lemma inContent?_eq_none_iff :
    inContent? t = none ↔ ∀ s, s <:+ t → ¬ BeginsWithHead s := by
  induction t with
  | nil =>
    refine ⟨fun _ s hs h => ?_, fun _ => rfl⟩
    obtain ⟨rest, rfl⟩ := h.exists_eq_cons
    exact absurd hs (by simp)
  | cons c t ih =>
    rw [inContent?]
    split_ifs with h <;> rw [isSome_freeText?_iff] at h
    · exact ⟨nofun, fun none => absurd h (none _ List.suffix_rfl)⟩
    · rw [ih]
      simp only [List.suffix_cons_iff, forall_eq_or_imp, h, not_false_eq_true, true_and]

/-! ## The remark of a line -/

/-- `span` is the longest end of the line's content that begins with a head, followed by the line's
terminator. -/
def IsRemarkOf (span line : Text) : Prop :=
  ∃ content terminator remark, IsContentOf content line ∧ line = content ++ terminator ∧
    IsLongest remark content ∧ span = remark ++ terminator

/-- No end of the line's content begins with a head. -/
def HasNoRemark (line : Text) : Prop :=
  ∀ content, IsContentOf content line → ∀ s, s <:+ content → ¬ BeginsWithHead s

/-- The search in a line finds its remark. -/
lemma inLine?_eq_some_iff : inLine? line = some span ↔ IsRemarkOf span line := by
  rw [inLine?, Option.map_eq_some_iff]
  constructor
  · rintro ⟨remark, hremark, rfl⟩
    exact ⟨content line, line.drop (content line).length, remark, isContentOf_iff.mpr rfl,
      (content_append_drop line).symm, inContent?_eq_some_iff.mp hremark, rfl⟩
  · rintro ⟨c, terminator, remark, hcontent, hline, hlongest, rfl⟩
    obtain rfl := isContentOf_iff.mp hcontent
    refine ⟨remark, inContent?_eq_some_iff.mpr hlongest, ?_⟩
    rw [List.append_cancel_left ((content_append_drop line).trans hline)]

/-- A remark is the end of its line. -/
lemma isSuffix_of_inLine? (h : inLine? line = some span) : span <:+ line := by
  obtain ⟨c, terminator, kept, -, rfl, longest, rfl⟩ := inLine?_eq_some_iff.mp h
  obtain ⟨front, rfl⟩ := longest.suffix
  exact ⟨front, (List.append_assoc _ _ _).symm⟩

/-- The search in a line fails if the line has no remark. -/
lemma inLine?_eq_none_iff : inLine? line = none ↔ HasNoRemark line := by
  simp only [inLine?, Option.map_eq_none_iff, inContent?_eq_none_iff, HasNoRemark, isContentOf_iff,
    forall_eq]

/-! ## The remarks of a text -/

/-- The spans are the remarks of the lines, in order: one for each line that has a remark, and none
for the others. -/
inductive AreRemarksOf : List Text → List Text → Prop
  | nil : AreRemarksOf [] []
  | skip {line : Text} {spans lines : List Text} :
      HasNoRemark line → AreRemarksOf spans lines → AreRemarksOf spans (line :: lines)
  | take {span line : Text} {spans lines : List Text} :
      IsRemarkOf span line → AreRemarksOf spans lines →
        AreRemarksOf (span :: spans) (line :: lines)

/-- Some lines have one list of remarks, which the search in each of them makes up.

**Proof sketch.** Each line is searched with success or without, and the two descriptions of a line
say which. So the remarks of the lines behind it decide about all. -/
lemma areRemarksOf_iff {spans lines : List Text} :
    AreRemarksOf spans lines ↔ spans = lines.filterMap inLine? := by
  constructor
  · intro h
    induction h with
    | nil => rfl
    | skip hline _ ih => rw [List.filterMap_cons_none (inLine?_eq_none_iff.mpr hline), ih]
    | take hline _ ih => rw [List.filterMap_cons_some (inLine?_eq_some_iff.mpr hline), ih]
  · rintro rfl
    induction lines with
    | nil => exact .nil
    | cons line lines ih =>
      cases h : inLine? line with
      | none =>
        rw [List.filterMap_cons_none h]
        exact .skip (inLine?_eq_none_iff.mp h) ih
      | some span =>
        rw [List.filterMap_cons_some h]
        exact .take (inLine?_eq_some_iff.mp h) ih

/-- **Soundness, completeness and maximality of the search**: a text is cut into lines in one way,
and the remarks that are found are exactly those of these lines, in their order. -/
theorem areRemarksOf_iff_eq_inText (t : Text) :
    ∃ lines, (∀ pieces, IsCutAfter '\n' t pieces ↔ pieces = lines) ∧
      ∀ spans, AreRemarksOf spans lines ↔ spans = inText t :=
  ⟨lines t, fun _ => isCutAfter_iff, fun _ => areRemarksOf_iff⟩

/-! ## The remarks of a text, line by line -/

/-- The remarks of a text are those of its lines. -/
lemma inText_eq_flatMap (t : Text) :
    inText t = (lines t).flatMap fun line => (inLine? line).toList :=
  List.filterMap_eq_flatMap_toList inLine? (lines t)

/-- A text with no line feed has the remarks of one line. -/
lemma inText_of_notMem (h : '\n' ∉ t) : inText t = (inLine? t).toList := by
  rcases eq_or_ne t [] with rfl | ht
  · rfl
  · rw [inText_eq_flatMap, lines, cutAfter_of_notMem ht h, List.flatMap_singleton]

/-- The first line goes up to its terminator. -/
lemma lines_append {terminator : Text} (h : '\n' ∉ line) (hterminator : IsTerminator terminator)
    (ends : terminator ≠ []) (rest : Text) :
    lines (line ++ terminator ++ rest) = (line ++ terminator) :: lines rest := by
  cases hterminator with
  | missing => exact absurd rfl ends
  | lineFeed =>
    rw [lines, List.append_assoc]
    exact cutAfter_append_cons h rest
  | both =>
    have body : '\n' ∉ line ++ ['\r'] := by simp [h]
    simpa [lines] using cutAfter_append_cons body rest

/-- A text with more than one line has the remarks of its first line and of the others. -/
lemma inText_append {terminator : Text} (h : '\n' ∉ line) (hterminator : IsTerminator terminator)
    (ends : terminator ≠ []) (rest : Text) :
    inText (line ++ terminator ++ rest) = (inLine? (line ++ terminator)).toList ++ inText rest := by
  rw [inText_eq_flatMap, lines_append h hterminator ends, List.flatMap_cons, ← inText_eq_flatMap]

end Backlog.Remark
