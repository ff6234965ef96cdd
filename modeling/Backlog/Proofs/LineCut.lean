import Backlog.Text.Line
import Mathlib.Data.List.Basic
import Mathlib.Data.List.TakeDrop

set_option relaxedAutoImplicit false
set_option autoImplicit false

/-!
# Lines and their contents, described

What a cut into lines is and what a line holds, said by the shape of the pieces and not by a
recursion over the text. The cut is described for any separator, so that it serves for texts and
for bytes.

## Main definitions

* `Backlog.IsCutAfter` — the pieces of a list that is cut behind every separator.
* `Backlog.DropsFinal` — a list without one final element.
* `Backlog.Text.IsContentOf` — what a line holds, apart from its terminator.

## Main results

* `Backlog.isCutAfter_iff` — `cutAfter` computes the only cut of a list.
* `Backlog.isCutAfter_flatten` — pieces that end in their only separator are those of their whole.
* `Backlog.IsCutAfter.filterMap` — the ends of some pieces are those of what they make up.
* `Backlog.Text.isContentOf_iff` — `content` computes the only content of a line.
* `Backlog.Text.content_drop` — the content of an end of a line.
* `Backlog.Text.content_append_terminator` — the content of a line that is put together.
-/

namespace Backlog

variable {α : Type} [DecidableEq α] {sep a : α} {s t body : List α}

/-! ## The cut behind a separator -/

/-- The pieces make up the list. Each has its only separator at its end; the last may do without
one, but is then not empty. -/
inductive IsCutAfter (sep : α) : List α → List (List α) → Prop
  | nil : IsCutAfter sep [] []
  | rest {s : List α} : s ≠ [] → sep ∉ s → IsCutAfter sep s [s]
  | piece (body : List α) {s : List α} {pieces : List (List α)} :
      sep ∉ body → IsCutAfter sep s pieces →
        IsCutAfter sep (body ++ sep :: s) ((body ++ [sep]) :: pieces)

/-- A separator at the front is a piece of its own. -/
lemma cutAfter_cons_self (s : List α) : cutAfter sep (sep :: s) = [sep] :: cutAfter sep s := by
  simp [cutAfter]

/-- Any other element at the front belongs to the first piece. -/
lemma cutAfter_cons_of_ne (h : a ≠ sep) (s : List α) :
    cutAfter sep (a :: s) =
      match cutAfter sep s with
      | [] => [[a]]
      | piece :: others => (a :: piece) :: others := by
  rw [cutAfter, List.foldr_cons, if_neg h]
  rfl

/-- Without a separator there is one piece. -/
lemma cutAfter_of_notMem (hs : s ≠ []) (h : sep ∉ s) : cutAfter sep s = [s] := by
  induction s with
  | nil => exact absurd rfl hs
  | cons a s ih =>
    rw [List.mem_cons, not_or] at h
    rw [cutAfter_cons_of_ne (Ne.symm h.1)]
    rcases s with _ | ⟨b, s⟩
    · rfl
    · rw [ih (List.cons_ne_nil b s) h.2]

/-- The first piece goes up to the first separator. -/
lemma cutAfter_append_cons (h : sep ∉ body) (s : List α) :
    cutAfter sep (body ++ sep :: s) = (body ++ [sep]) :: cutAfter sep s := by
  induction body with
  | nil => exact cutAfter_cons_self s
  | cons a body ih =>
    rw [List.mem_cons, not_or] at h
    rw [List.cons_append, cutAfter_cons_of_ne (Ne.symm h.1), ih h.2]
    rfl

/-- The computed pieces are a cut.

**Proof sketch.** Induction on the list. A separator at the front is a piece with an empty body.
Another element joins the first piece, whether that is the rest or ends in a separator. -/
lemma isCutAfter_cutAfter (sep : α) (s : List α) : IsCutAfter sep s (cutAfter sep s) := by
  induction s with
  | nil => exact .nil
  | cons a s ih =>
    by_cases h : a = sep
    · subst h
      rw [cutAfter_cons_self]
      exact .piece [] List.not_mem_nil ih
    · rw [cutAfter_cons_of_ne h]
      generalize cutAfter sep s = pieces at ih
      cases ih with
      | nil => exact .rest (List.cons_ne_nil a []) (by simpa using Ne.symm h)
      | rest _ hs => exact .rest (List.cons_ne_nil a s) (by simp [Ne.symm h, hs])
      | piece body hbody cut => exact .piece (a :: body) (by simp [Ne.symm h, hbody]) cut

/-- **There is one cut of a list**, the one that `cutAfter` computes. -/
theorem isCutAfter_iff {pieces : List (List α)} :
    IsCutAfter sep s pieces ↔ pieces = cutAfter sep s := by
  constructor
  · intro h
    induction h with
    | nil => rfl
    | rest hs h => exact (cutAfter_of_notMem hs h).symm
    | piece _ hbody _ ih => rw [cutAfter_append_cons hbody, ih]
  · rintro rfl
    exact isCutAfter_cutAfter sep s

/-- Where a list ends in a separator, what follows is cut by itself.

**Proof sketch.** Induction on the cut of the list. Its last piece ends in a separator, so there is
none that could go on. -/
lemma IsCutAfter.append {β : Type} {sep : β} {s t : List β} {pieces others : List (List β)}
    (cut : IsCutAfter sep s pieces) (ends : s = [] ∨ s.getLast? = some sep)
    (other : IsCutAfter sep t others) : IsCutAfter sep (s ++ t) (pieces ++ others) := by
  induction cut with
  | nil => exact other
  | rest hs absent =>
    rcases ends with rfl | last
    · exact absurd rfl hs
    · exact absurd (List.mem_of_getLast? last) absent
  | @piece body s _ hbody _ ih =>
    have ends : s = [] ∨ s.getLast? = some sep := by
      cases s with
      | nil => exact .inl rfl
      | cons a s => exact .inr (by simpa using ends)
    rw [List.append_assoc, List.cons_append]
    exact .piece body hbody (ih ends)

/-- Pieces that have their only separator at their end are the pieces of what they make up. -/
lemma isCutAfter_flatten {β : Type} {sep : β} {pieces : List (List β)}
    (h : ∀ piece ∈ pieces, ∃ body, sep ∉ body ∧ piece = body ++ [sep]) :
    IsCutAfter sep pieces.flatten pieces := by
  induction pieces with
  | nil => exact .nil
  | cons piece pieces ih =>
    rw [List.forall_mem_cons] at h
    obtain ⟨⟨body, absent, rfl⟩, others⟩ := h
    rw [List.flatten_cons, List.append_assoc]
    exact .piece body absent (ih others)

/-- Every piece has at most one separator, at its end. -/
lemma IsCutAfter.notMem_dropLast {β : Type} {sep : β} {s piece : List β} {pieces : List (List β)}
    (cut : IsCutAfter sep s pieces) (mem : piece ∈ pieces) : sep ∉ piece.dropLast := by
  induction cut with
  | nil => cases mem
  | rest _ absent =>
    obtain rfl := List.mem_singleton.mp mem
    exact fun h => absent (List.dropLast_subset _ h)
  | piece body absent _ ih =>
    rcases List.mem_cons.mp mem with rfl | mem
    · rwa [List.dropLast_concat]
    · exact ih mem

/-- Every piece is cut into itself. -/
lemma IsCutAfter.of_mem {β : Type} {sep : β} {s piece : List β} {pieces : List (List β)}
    (cut : IsCutAfter sep s pieces) (mem : piece ∈ pieces) : IsCutAfter sep piece [piece] := by
  induction cut with
  | nil => cases mem
  | rest nonempty absent =>
    obtain rfl := List.mem_singleton.mp mem
    exact .rest nonempty absent
  | piece body absent _ ih =>
    rcases List.mem_cons.mp mem with rfl | mem
    · exact .piece body absent .nil
    · exact ih mem

/-- **The ends of some pieces are the pieces of what they make up.**

**Proof sketch.** Induction on the cut. An end of a piece keeps the separator behind it, so what
comes next begins a new piece. Only an end of the last piece may have none, and nothing comes after
that. -/
lemma IsCutAfter.filterMap {β : Type} {sep : β} {s : List β} {pieces : List (List β)}
    {end? : List β → Option (List β)} (cut : IsCutAfter sep s pieces)
    (ends : ∀ piece kept, end? piece = some kept → kept <:+ piece ∧ kept ≠ []) :
    IsCutAfter sep (pieces.filterMap end?).flatten (pieces.filterMap end?) := by
  induction cut with
  | nil => exact .nil
  | @rest s _ absent =>
    cases h : end? s with
    | none =>
      rw [List.filterMap_cons_none h]
      exact .nil
    | some kept =>
      obtain ⟨suffix, nonempty⟩ := ends s kept h
      rw [List.filterMap_cons_some h]
      simpa using IsCutAfter.rest nonempty fun mem => absent (suffix.mem mem)
  | piece body absent _ ih =>
    cases h : end? (body ++ [sep]) with
    | none => rwa [List.filterMap_cons_none h]
    | some kept =>
      obtain ⟨isEnd, nonempty⟩ := ends _ kept h
      obtain ⟨front, rfl, suffix⟩ := (List.suffix_concat_iff.mp isEnd).resolve_left nonempty
      rw [List.filterMap_cons_some h, List.flatten_cons, List.append_assoc]
      exact .piece front (fun mem => absent (suffix.mem mem)) ih

/-! ## Terminators -/

/-- The second list is the first without one final `a`, or the first where that does not end in
`a`. -/
inductive DropsFinal (a : α) : List α → List α → Prop
  | drop (t : List α) : DropsFinal a (t ++ [a]) t
  | keep {s : List α} : s.getLast? ≠ some a → DropsFinal a s s

/-- One final element is dropped. -/
lemma withoutLast_append_singleton (t : List α) : withoutLast a (t ++ [a]) = t := by
  simp [withoutLast]

/-- A list that ends otherwise is kept. -/
lemma withoutLast_of_getLast?_ne (h : s.getLast? ≠ some a) : withoutLast a s = s := if_neg h

/-- `withoutLast` is the only way to drop one final element. -/
lemma dropsFinal_iff : DropsFinal a s t ↔ t = withoutLast a s := by
  constructor
  · rintro (_ | h)
    · exact (withoutLast_append_singleton t).symm
    · exact (withoutLast_of_getLast?_ne h).symm
  · rintro rfl
    by_cases h : s.getLast? = some a
    · obtain ⟨t, rfl⟩ := List.getLast?_eq_some_iff.mp h
      rw [withoutLast_append_singleton]
      exact .drop t
    · rw [withoutLast_of_getLast?_ne h]
      exact .keep h

/-- **An end of a list loses the same final element**, or is empty. -/
lemma withoutLast_drop (a : α) (n : ℕ) (s : List α) :
    withoutLast a (s.drop n) = (withoutLast a s).drop n := by
  unfold withoutLast
  rw [List.getLast?_drop]
  by_cases short : s.length ≤ n
  · have none : s.drop n = [] := List.drop_eq_nil_of_le short
    rw [if_pos short, none, if_neg nofun]
    split_ifs
    · rw [← List.dropLast_drop_eq_drop_dropLast, none, List.dropLast_nil]
    · exact none.symm
  · rw [if_neg short]
    split_ifs
    · exact List.dropLast_drop_eq_drop_dropLast s n
    · rfl

/-- What is left begins the list. -/
lemma withoutLast_isPrefix (a : α) (s : List α) : withoutLast a s <+: s := by
  unfold withoutLast
  split
  · exact List.dropLast_prefix s
  · exact List.prefix_refl s

/-- No other element is dropped. -/
lemma count_withoutLast {b : α} (h : b ≠ a) (s : List α) :
    (withoutLast a s).count b = s.count b := by
  by_cases last : s.getLast? = some a
  · obtain ⟨t, rfl⟩ := List.getLast?_eq_some_iff.mp last
    rw [withoutLast_append_singleton, List.count_append, List.count_singleton, if_neg]
    · rfl
    · exact fun same => h (beq_iff_eq.mp same).symm
  · rw [withoutLast_of_getLast?_ne last]

namespace Text

/-- `content` is `line` without one final line feed and then without one final carriage return. -/
def IsContentOf (content line : Text) : Prop :=
  ∃ rest, DropsFinal '\n' line rest ∧ DropsFinal '\r' rest content

/-- **A line has one content**, the one that `content` computes. -/
theorem isContentOf_iff {c line : Text} : IsContentOf c line ↔ c = content line := by
  simp only [IsContentOf, dropsFinal_iff, exists_eq_left]
  rfl

/-- The content of a line is its beginning. -/
lemma content_isPrefix (line : Text) : content line <+: line :=
  (withoutLast_isPrefix '\r' _).trans (withoutLast_isPrefix '\n' line)

/-- A line is its content and what follows. -/
lemma content_append_drop (line : Text) :
    content line ++ line.drop (content line).length = line :=
  List.prefix_iff_eq_append.mp (content_isPrefix line)

/-- **It makes no difference** whether the terminator is dropped before the line is cut at some
place, or after that. -/
lemma content_drop (n : ℕ) (line : Text) : content (line.drop n) = (content line).drop n := by
  rw [content, withoutLast_drop, withoutLast_drop, content]

/-- A line and its content differ in line feeds and carriage returns only. -/
lemma count_content {c : Char} (lf : c ≠ '\n') (cr : c ≠ '\r') (line : Text) :
    (content line).count c = line.count c := by
  rw [content, count_withoutLast cr, count_withoutLast lf]

/-- The ways in which a line may end: not at all, in a line feed, or in both characters. -/
inductive IsTerminator : Text → Prop
  | missing : IsTerminator []
  | lineFeed : IsTerminator ['\n']
  | both : IsTerminator ['\r', '\n']

/-- Before a line feed only a carriage return can be dropped. -/
lemma content_append_lineFeed (body : Text) :
    content (body ++ ['\n']) = withoutLast '\r' body := by
  rw [content, withoutLast_append_singleton]

/-- A line feed with a carriage return before it is dropped as a whole. -/
lemma content_append_both (body : Text) : content (body ++ ['\r', '\n']) = body := by
  rw [List.append_cons, content_append_lineFeed, withoutLast_append_singleton]

/-- **The content of a line that is put together** from a body and a terminator is the body, if the
body does not look as if it ended in one itself. -/
theorem content_append_terminator {body terminator : Text} (lf : body.getLast? ≠ some '\n')
    (cr : body.getLast? ≠ some '\r') (h : IsTerminator terminator) :
    content (body ++ terminator) = body := by
  cases h with
  | missing =>
    rw [List.append_nil, content, withoutLast_of_getLast?_ne lf, withoutLast_of_getLast?_ne cr]
  | lineFeed => rw [content_append_lineFeed, withoutLast_of_getLast?_ne cr]
  | both => exact content_append_both body

/-- The content of a line that is put together is always a beginning of the body. -/
lemma content_append_isPrefix (body : Text) {terminator : Text} (h : IsTerminator terminator) :
    content (body ++ terminator) <+: body := by
  cases h with
  | missing =>
    rw [List.append_nil]
    exact content_isPrefix body
  | lineFeed =>
    rw [content_append_lineFeed]
    exact withoutLast_isPrefix '\r' body
  | both => simp only [content_append_both, List.prefix_rfl]

end Text

end Backlog
