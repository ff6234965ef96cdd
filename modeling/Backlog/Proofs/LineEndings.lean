import Backlog.Proofs.FieldDivision
import Backlog.Proofs.RemarkSpans
import Backlog.Todo.Basic

set_option relaxedAutoImplicit false
set_option autoImplicit false

/-!
# Line endings

A text may end its lines in line feeds or in carriage returns with line feeds. The same todos are
read from it in both cases, also where some lines end in carriage returns already: one more of them
is left over then, at the end of the remark. No head has a carriage return, so it makes and unmakes
no remark, and at the end of a free text it is a blank that belongs to no field.

## Main definitions

* `Backlog.Text.withCarriageReturns` — a text with a carriage return before every line feed.
* `Backlog.Remark.EndsAlike` — two remarks that differ at most in the carriage return at the end.
* `Backlog.Todo.ReadsAlike` — two todos that differ at most in the remark.

## Main results

* `Backlog.Remark.inContent?_concat` — a character that is in no head makes and unmakes no remark.
* `Backlog.Remark.forall₂_inText` — the remarks of both texts end alike.
* `Backlog.Todo.forall₂_readsAlike_inText` — the todos of both texts read alike.
-/

namespace Backlog

open Text

variable {c : Char} {t body : Text}

/-! ## Texts with carriage returns -/

namespace Text

/-- The text with one carriage return more before every line feed. -/
def withCarriageReturns (t : Text) : Text :=
  t.flatMap fun c => if c = '\n' then ['\r', '\n'] else [c]

/-- A text without line feeds stays as it is. -/
lemma withCarriageReturns_of_notMem (h : '\n' ∉ t) : withCarriageReturns t = t := by
  have each : ∀ c ∈ t, (if c = '\n' then ['\r', '\n'] else [c]) = [c] := by
    intro c hc
    rw [if_neg]
    rintro rfl
    exact h hc
  rw [withCarriageReturns, List.flatMap_congr each, List.flatMap_singleton']

/-- The first line ends in both characters. -/
lemma withCarriageReturns_append_cons (h : '\n' ∉ body) (t : Text) :
    withCarriageReturns (body ++ '\n' :: t) = body ++ ['\r', '\n'] ++ withCarriageReturns t := by
  have first := withCarriageReturns_of_notMem h
  rw [withCarriageReturns] at first
  rw [withCarriageReturns, List.flatMap_append, first, List.flatMap_cons, List.append_assoc]
  rfl

end Text

/-! ## Remarks -/

namespace Remark

/-- The free text of a remark goes on with a character that is in no head. -/
lemma freeText?_concat (h : c ∉ ['/', ' ', ':', 'T', 'O', 'D', 't', 'o', 'd']) (t : Text) :
    freeText? (t ++ [c]) = (freeText? t).map (· ++ [c]) := by
  cases read : freeText? t with
  | some free =>
    obtain ⟨head, rfl, space, colon⟩ := freeText?_eq_some_iff.mp read
    have meets : head.Meets (free ++ [c]) := by
      simp only [List.mem_cons, not_or] at h
      cases free with
      | nil => simp [Head.Meets, h]
      | cons a free => exact ⟨space, colon⟩
    rw [List.append_assoc, freeText?_of_meets meets, Option.map_some]
  | none =>
    rw [Option.map_none, Option.eq_none_iff_forall_ne_some]
    intro free longer
    obtain ⟨head, whole, -⟩ := freeText?_eq_some_iff.mp longer
    -- the character is the last one of the free text, since it is none of the head
    rcases List.eq_nil_or_concat free with rfl | ⟨free, last, rfl⟩
    · rw [List.append_nil] at whole
      exact head.notMem_text h (whole ▸ List.mem_append_right t List.mem_cons_self)
    · rw [List.concat_eq_append, ← List.append_assoc] at whole
      obtain ⟨rfl, -⟩ := List.append_inj' whole rfl
      have begins : BeginsWithHead (head.text ++ free) := ⟨head, free, rfl⟩
      rw [← isSome_freeText?_iff, read] at begins
      cases begins

/-- **A character that is in no head makes and unmakes no remark.**

**Proof sketch.** Induction on the text. At each place a head begins with the character behind the
text if and only if one begins without it. -/
lemma inContent?_concat (h : c ∉ ['/', ' ', ':', 'T', 'O', 'D', 't', 'o', 'd']) (t : Text) :
    inContent? (t ++ [c]) = (inContent? t).map (· ++ [c]) := by
  induction t with
  | nil =>
    have none : freeText? [c] = .none := freeText?_concat h []
    simp [inContent?, none]
  | cons a t ih =>
    have here : freeText? (a :: (t ++ [c])) = (freeText? (a :: t)).map (· ++ [c]) :=
      freeText?_concat h (a :: t)
    rw [List.cons_append, inContent?, inContent?, here, Option.isSome_map, ih]
    split <;> rfl

/-- A line with a line feed has the remark that begins in it before the line feed, whether or not a
carriage return stands there. -/
lemma inLine?_append_lineFeed (body : Text) :
    inLine? (body ++ ['\n']) = (inContent? body).map (· ++ ['\n']) := by
  by_cases last : body.getLast? = some '\r'
  · obtain ⟨rest, rfl⟩ := List.getLast?_eq_some_iff.mp last
    have held : content (rest ++ ['\r'] ++ ['\n']) = rest := by
      rw [content_append_lineFeed, withoutLast_append_singleton]
    rw [inLine?, held, inContent?_concat (by decide), List.append_assoc, List.drop_left]
    simp [Function.comp_def]
  · have held : content (body ++ ['\n']) = body := by
      rw [content_append_lineFeed, withoutLast_of_getLast?_ne last]
    rw [inLine?, held, List.drop_left]

/-- A line with both characters has the remark that begins in it before them. -/
lemma inLine?_append_both (body : Text) :
    inLine? (body ++ ['\r', '\n']) = (inContent? body).map (· ++ ['\r', '\n']) := by
  rw [inLine?, content_append_both, List.drop_left]

/-- The second remark is the first one, or has a carriage return more before the line feed at its
end. -/
inductive EndsAlike : Text → Text → Prop
  | same (remark : Text) : EndsAlike remark remark
  | longer (remark : Text) : EndsAlike (remark ++ ['\n']) (remark ++ ['\r', '\n'])

/-- **The remarks of both texts end alike**, and there are equally many.

**Proof sketch.** Induction on the lines. A line with a line feed has a remark in both texts or in
none, which begins at the same place. The rest behind the last line feed is the same in both. -/
theorem forall₂_inText (t : Text) :
    List.Forall₂ EndsAlike (inText t) (inText (withCarriageReturns t)) := by
  have cut := isCutAfter_cutAfter '\n' t
  generalize cutAfter '\n' t = pieces at cut
  induction cut with
  | nil => exact .nil
  | rest _ absent =>
    rw [withCarriageReturns_of_notMem absent]
    exact List.forall₂_same.mpr fun remark _ => .same remark
  | @piece body s _ absent _ ih =>
    rw [withCarriageReturns_append_cons absent, inText_append absent .both (List.cons_ne_nil _ _),
      inLine?_append_both, ← List.singleton_append, ← List.append_assoc,
      inText_append absent .lineFeed (List.cons_ne_nil _ _), inLine?_append_lineFeed]
    cases inContent? body with
    | none => exact ih
    | some remark => exact .cons (.longer remark) ih

end Remark

/-! ## Todos -/

namespace Todo

/-- A carriage return that is left over at the end changes no field. -/
lemma fieldsOf_eq_of_content_eq {a b : Text} (left : content b = content a ++ ['\r']) :
    fieldsOf b = fieldsOf a := by
  have blank : isBlank '\r' = true := by decide
  rw [fieldsOf, fieldsOf, left, Remark.freeText?_concat (by decide), trim_append_blank blank]
  cases Remark.freeText? (content a) with
  | none => rfl
  | some free => exact Fields.ofFreeText_append_blank blank free

/-- A remark has the same fields with one carriage return more at its end. -/
lemma fieldsOf_append_both (remark : Text) :
    fieldsOf (remark ++ ['\r', '\n']) = fieldsOf (remark ++ ['\n']) := by
  by_cases last : remark.getLast? = some '\r'
  · obtain ⟨rest, rfl⟩ := List.getLast?_eq_some_iff.mp last
    refine fieldsOf_eq_of_content_eq ?_
    rw [content_append_both, content_append_lineFeed, withoutLast_append_singleton]
  · rw [fieldsOf, fieldsOf, content_append_both, content_append_lineFeed,
      withoutLast_of_getLast?_ne last]

/-- The todos have the same fields, the same day, the same importance and the same file, and differ
at most in the remark that they are read from. -/
structure ReadsAlike (a b : Todo) : Prop where
  user : a.user = b.user
  date : a.date = b.date
  comment : a.comment = b.comment
  day : a.day? = b.day?
  importance : a.importance = b.importance
  file : a.file = b.file

/-- Remarks that end alike are read alike. -/
lemma readsAlike_ofRemark {a b : Text} (h : Remark.EndsAlike a b) (file : Text) :
    (ofRemark file a).ReadsAlike (ofRemark file b) := by
  cases h with
  | same => exact ⟨rfl, rfl, rfl, rfl, rfl, rfl⟩
  | longer remark =>
    have fields := (fieldsOf_append_both remark).symm
    have date := congrArg Fields.date fields
    exact
      { user := congrArg Fields.user fields
        date := date
        comment := congrArg Fields.comment fields
        day := congrArg Date.read? date
        importance := by simp [importance, ofRemark]
        file := rfl }

/-- **The todos of a text do not depend on its line endings**: with one carriage return more before
every line feed, equally many todos are read from it, and each of them reads as before. -/
theorem forall₂_readsAlike_inText (file t : Text) :
    List.Forall₂ ReadsAlike (inText file t) (inText file (withCarriageReturns t)) := by
  rw [inText, inText, List.forall₂_map_left_iff, List.forall₂_map_right_iff]
  exact (Remark.forall₂_inText t).imp fun _ _ alike => readsAlike_ofRemark alike file

end Todo

end Backlog
