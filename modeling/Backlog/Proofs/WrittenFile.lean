import Backlog.Proofs.RemarkSpans
import Backlog.Proofs.WrittenRemark
import Mathlib.Data.List.Infix

set_option relaxedAutoImplicit false
set_option autoImplicit false

/-!
# Files that are written down

A file is written from entries: each is a line of code, or of nothing, with a remark behind it.
Other lines may stand between the entries as long as the marker does not occur in them. Reading
such a file gives one todo for every entry, with the fields that were written.

## Main definitions

* `Backlog.Remark.Unmarked` — a text in which the marker does not occur.
* `Backlog.Entry` — a remark to be written, with what stands before it on its line.
* `Backlog.IsFileOf` — the files that hold some entries.
* `Backlog.IsTodoOf` — what is read from an entry.

## Main results

* `Backlog.Remark.isLongest_append` — nothing before a remark is taken for its head.
* `Backlog.inText_of_isFileOf` — a file is read as it was written.
-/

namespace Backlog

open Text

namespace Remark

variable {s t before line : Text}

/-! ## Texts without the marker -/

/-- The marker does not occur in the text, in whatever case. -/
def Unmarked (t : Text) : Prop := ∀ word, IsSpelling word → ¬ word <:+: t

/-- The marker does not occur in a part either. -/
lemma Unmarked.of_infix (h : Unmarked t) (hs : s <:+: t) : Unmarked s :=
  fun word hword part => h word hword (part.trans hs)

/-- The marker does not occur in a text if it stands at the front of no end of it. -/
lemma unmarked_iff : Unmarked t ↔ ∀ s ∈ t.tails, afterMarker? s = none := by
  constructor
  · intro h s hs
    rw [Option.eq_none_iff_forall_ne_some]
    intro rest marked
    obtain ⟨word, hword, rfl⟩ := afterMarker?_eq_some_iff.mp marked
    have part : word <:+: word ++ rest := (List.prefix_append word rest).isInfix
    exact h word hword (part.trans ((List.mem_tails _ _).mp hs).isInfix)
  · rintro h word hword ⟨a, b, rfl⟩
    have tail : word ++ b ∈ (a ++ word ++ b).tails := by
      rw [List.mem_tails, List.append_assoc]
      exact List.suffix_append a (word ++ b)
    have marked : afterMarker? (word ++ b) = some b :=
      afterMarker?_eq_some_iff.mpr ⟨word, hword, rfl⟩
    rw [h _ tail] at marked
    cases marked

instance (t : Text) : Decidable (Unmarked t) := decidable_of_iff _ unmarked_iff.symm

/-- The opener, the space and the marker of a head. -/
def Head.opening (head : Head) : Text :=
  ['/', '/'] ++ (if head.spaced then [' '] else []) ++ head.word

/-- A head is its opening and its separator. -/
lemma Head.text_eq (head : Head) : head.text = head.opening ++ head.separator := rfl

/-- The marker occurs in the opening. -/
lemma Head.word_infix_opening (head : Head) : head.word <:+: head.opening :=
  (List.suffix_append _ _).isInfix

/-- Only the first two characters of an opening are slashes. -/
lemma Head.lt_two_of_getElem?_opening {head : Head} {i : ℕ} (h : head.opening[i]? = some '/') :
    i < 2 := by
  by_contra late
  obtain ⟨j, rfl⟩ : ∃ j, i = j + 2 := ⟨i - 2, by omega⟩
  simp only [opening, List.cons_append, List.nil_append, List.getElem?_cons_succ] at h
  have slash := List.mem_of_getElem? h
  rw [List.mem_append] at slash
  rcases slash with slash | slash
  · split_ifs at slash <;> simp at slash
  · simpa using head.isSpelling.mem_of_mem slash

/-- An opening is longer than two slashes. -/
lemma Head.two_lt_length_opening (head : Head) : 2 < head.opening.length := by
  simp [opening, head.isSpelling.length_eq]

/-- A text without the marker does not begin with a head. -/
lemma Unmarked.not_beginsWithHead (h : Unmarked t) : ¬ BeginsWithHead t := by
  rintro ⟨head, free, rfl⟩
  refine h head.word head.isSpelling (head.word_infix_opening.trans ?_)
  rw [head.text_eq, List.append_assoc]
  exact (List.prefix_append head.opening _).isInfix

/-- A line without the marker has no remark. -/
lemma inLine?_of_unmarked (h : Unmarked line) {terminator : Text}
    (hterminator : IsTerminator terminator) : inLine? (line ++ terminator) = none := by
  rw [inLine?_eq_none_iff]
  intro c hc s hs
  rw [isContentOf_iff.mp hc] at hs
  have part := hs.isInfix.trans (content_append_isPrefix line hterminator).isInfix
  exact (h.of_infix part).not_beginsWithHead

/-- Two slashes behind the first character of an opening stand behind the whole of it. -/
lemma Head.length_opening_le {head : Head} {tail rest free : Text} (nonempty : 0 < tail.length)
    (h : tail ++ '/' :: '/' :: rest = head.opening ++ free) :
    head.opening.length ≤ tail.length := by
  by_contra inside
  have slash (i : ℕ) (hi : i < 2) (hlt : tail.length + i < head.opening.length) :
      head.opening[tail.length + i]? = some '/' := by
    have whole : (head.opening ++ free)[tail.length + i]? = head.opening[tail.length + i]? :=
      List.getElem?_append_left hlt
    rw [← whole, ← h, List.getElem?_append_right (by omega), Nat.add_sub_cancel_left]
    rcases i with _ | _ | i
    · rfl
    · rfl
    · omega
  have first := lt_two_of_getElem?_opening (slash 0 (by omega) (by omega))
  have length := head.two_lt_length_opening
  have second := lt_two_of_getElem?_opening (slash 1 (by omega) (by omega))
  omega

/-- **Nothing before a remark is taken for its head**, not even slashes right before it.

**Proof sketch.** Suppose a head begins earlier. The two slashes of the remark do not lie inside its
opening, where only the first two characters are slashes. So the opening ends before the remark, and
the marker occurs there. -/
lemma isLongest_append (h : Unmarked before) (head : Head) (rest : Text) :
    IsLongest (head.text ++ rest) (before ++ (head.text ++ rest)) := by
  refine ⟨List.suffix_append _ _, ⟨head, rest, rfl⟩, fun s hs ⟨earlier, free, hfree⟩ => ?_⟩
  by_contra longer
  obtain ⟨tail, rfl⟩ := List.suffix_of_suffix_length_le (List.suffix_append before _) hs (by omega)
  have hbefore : tail <:+: before := by
    obtain ⟨a, ha⟩ := hs
    rw [← List.append_assoc] at ha
    exact ⟨a, [], by rw [List.append_nil, List.append_cancel_right ha]⟩
  have nonempty : 0 < tail.length := by
    simp only [List.length_append] at longer
    omega
  rw [earlier.text_eq, List.append_assoc] at hfree
  have opening : earlier.opening <+: tail :=
    List.prefix_of_prefix_length_le (List.prefix_append _ _) (hfree ▸ List.prefix_append tail _)
      (Head.length_opening_le nonempty hfree)
  exact h earlier.word earlier.isSpelling
    ((earlier.word_infix_opening.trans opening.isInfix).trans hbefore)

end Remark

/-! ## Entries -/

/-- A remark to be written: what stands before it on its line, its head, its fields and the spaces
behind the semicolons. Nothing in it looks like something else: the marker does not occur before
the remark, the fields are of the form that is read, and the user begins with a colon only if the
separator has one of its own. -/
structure Entry where
  before : Text
  head : Remark.Head
  fields : Fields
  beforeDate : ℕ
  beforeComment : ℕ
  unmarked : Remark.Unmarked before
  isNormal : fields.IsNormal
  colon : ':' ∉ head.separator → fields.user.head? ≠ some ':'
  before_lineFeed : '\n' ∉ before
  user_lineFeed : '\n' ∉ fields.user
  date_lineFeed : '\n' ∉ fields.date
  comment_lineFeed : '\n' ∉ fields.comment

namespace Entry

/-- The remark of an entry. -/
def remark (entry : Entry) : Text :=
  entry.head.text ++ entry.fields.laidOut entry.beforeDate entry.beforeComment

/-- The line of an entry, without a terminator. -/
def line (entry : Entry) : Text := entry.before ++ entry.remark

/-- An entry is written on one line. -/
lemma lineFeed_notMem_line (entry : Entry) : '\n' ∉ entry.line := by
  have head : '\n' ∉ entry.head.text := entry.head.notMem_text (by decide)
  simp [line, remark, Fields.laidOut, List.mem_replicate, head, entry.before_lineFeed,
    entry.user_lineFeed, entry.date_lineFeed, entry.comment_lineFeed]

/-- A line of an entry ends as its fields do. -/
lemma getLast?_line_ne (entry : Entry) {c : Char} (blank : isBlank c = true) (space : c ≠ ' ') :
    entry.line.getLast? ≠ some c := by
  have last : entry.line.getLast? =
      (entry.fields.laidOut entry.beforeDate entry.beforeComment).getLast? := by
    rw [line, remark, ← List.append_assoc,
      List.getLast?_append_of_ne_nil _ (by simp [Fields.laidOut])]
  rw [last]
  exact Fields.getLast?_laidOut_ne entry.isNormal _ _ blank space

/-- **The remark of an entry is found on its line**, however that ends. -/
lemma inLine?_line (entry : Entry) {terminator : Text} (h : IsTerminator terminator) :
    Remark.inLine? (entry.line ++ terminator) = some (entry.remark ++ terminator) := by
  rw [Remark.inLine?_eq_some_iff]
  refine ⟨entry.line, terminator, entry.remark, ?_, rfl, ?_, rfl⟩
  · rw [isContentOf_iff, content_append_terminator (entry.getLast?_line_ne rfl (by decide))
      (entry.getLast?_line_ne rfl (by decide)) h]
  · exact Remark.isLongest_append entry.unmarked entry.head _

end Entry

/-! ## Files -/

/-- A line, without its terminator, that holds one entry, or none and not the marker either. -/
inductive IsLineOf : List Entry → Text → Prop
  | entry (entry : Entry) : IsLineOf [entry] entry.line
  | other {line : Text} : Remark.Unmarked line → '\n' ∉ line → IsLineOf [] line

/-- A text whose lines hold the entries, in order. Every line but the last has a terminator. -/
inductive IsFileOf : List Entry → Text → Prop
  | last {entries : List Entry} {line : Text} : IsLineOf entries line → IsFileOf entries line
  | line {entries others : List Entry} {line terminator rest : Text} :
      IsLineOf entries line → IsTerminator terminator → terminator ≠ [] → IsFileOf others rest →
        IsFileOf (entries ++ others) (line ++ terminator ++ rest)

/-- The todo is what the entry says: its fields, the day that its date writes, and the exclamation
marks in its fields, but not those in the code before it. -/
structure IsTodoOf (file : Text) (entry : Entry) (todo : Todo) : Prop where
  user : todo.user = entry.fields.user
  date : todo.date = entry.fields.date
  comment : todo.comment = entry.fields.comment
  day : todo.day? = Date.read? entry.fields.date
  importance : todo.importance =
    entry.fields.user.count '!' + entry.fields.date.count '!' + entry.fields.comment.count '!'
  file : todo.file = file

namespace Entry

/-- The exclamation marks of a remark are those of its fields. -/
lemma count_remark (entry : Entry) {terminator : Text} (h : IsTerminator terminator) :
    (entry.remark ++ terminator).count '!' = entry.fields.user.count '!' +
      entry.fields.date.count '!' + entry.fields.comment.count '!' := by
  have head : entry.head.text.count '!' = 0 :=
    List.count_eq_zero.mpr (entry.head.notMem_text (by decide))
  have ending : terminator.count '!' = 0 := by
    cases h <;> decide
  simp [remark, Fields.laidOut, List.count_replicate, head, ending, Nat.add_assoc]

/-- A todo with the fields of an entry is what the entry says, if the rest is. -/
lemma isTodoOf_of_fields_eq {entry : Entry} {file : Text} {todo : Todo}
    (same : todo.fields = entry.fields) (hfile : todo.file = file)
    (importance : todo.importance = entry.fields.user.count '!' + entry.fields.date.count '!' +
      entry.fields.comment.count '!') : IsTodoOf file entry todo where
  user := by rw [← same, Todo.fields]
  date := by rw [← same, Todo.fields]
  comment := by rw [← same, Todo.fields]
  day := by rw [← same, Todo.fields, Todo.day?]
  importance := importance
  file := hfile

/-- The todo of a remark is what its entry says. -/
lemma isTodoOf_ofRemark (entry : Entry) (file : Text) {terminator : Text}
    (h : IsTerminator terminator) :
    IsTodoOf file entry (Todo.ofRemark file (entry.remark ++ terminator)) := by
  refine isTodoOf_of_fields_eq ?_ rfl (entry.count_remark h)
  rw [Todo.fields_ofRemark, remark]
  exact Todo.fieldsOf_remark entry.isNormal entry.colon _ _ h

end Entry

/-- A line has the remark of its entry, if it has one, and no other. -/
lemma IsLineOf.forall₂_isTodoOf {entries : List Entry} {line terminator : Text}
    (h : IsLineOf entries line) (file : Text) (hterminator : IsTerminator terminator) :
    List.Forall₂ (IsTodoOf file) entries
      ((Remark.inLine? (line ++ terminator)).toList.map (Todo.ofRemark file)) := by
  cases h with
  | entry entry =>
    rw [entry.inLine?_line hterminator]
    exact .cons (entry.isTodoOf_ofRemark file hterminator) .nil
  | other unmarked _ =>
    rw [Remark.inLine?_of_unmarked unmarked hterminator]
    exact .nil

/-- A line is written without line feeds. -/
lemma IsLineOf.lineFeed_notMem {entries : List Entry} {line : Text} (h : IsLineOf entries line) :
    '\n' ∉ line := by
  cases h with
  | entry entry => exact entry.lineFeed_notMem_line
  | other _ h => exact h

/-- **A file is read as it was written**: it has one todo for every entry, in order, and this is
what the entry says. -/
theorem inText_of_isFileOf {entries : List Entry} {t : Text} (h : IsFileOf entries t)
    (file : Text) : List.Forall₂ (IsTodoOf file) entries (Todo.inText file t) := by
  induction h with
  | last hline =>
    have read := hline.forall₂_isTodoOf file .missing
    rwa [List.append_nil, ← Remark.inText_of_notMem hline.lineFeed_notMem] at read
  | line hline hterminator ends _ ih =>
    rw [Todo.inText, Remark.inText_append hline.lineFeed_notMem hterminator ends, List.map_append]
    exact List.rel_append (hline.forall₂_isTodoOf file hterminator) ih

/-- A remark behind code that ends in a slash, with a semicolon and another head in its comment. -/
def Entry.sampleBusy : Entry where
  before := "f!/".toList
  head := ⟨false, "Todo".toList, " : ".toList, Remark.isSpelling_iff.mpr rfl, .colon 1 1⟩
  fields := ⟨":bob!".toList, "2021-02-30".toList, "a; // TODO".toList⟩
  beforeDate := 0
  beforeComment := 2
  unmarked := by decide
  isNormal := ⟨isTrimmed_iff.mpr rfl, isTrimmed_iff.mpr rfl, isTrimmed_iff.mpr rfl, by decide,
    by decide⟩
  colon := by decide
  before_lineFeed := by decide
  user_lineFeed := by decide
  date_lineFeed := by decide
  comment_lineFeed := by decide

/-- A remark with empty fields and nothing before it. -/
def Entry.sampleBare : Entry where
  before := []
  head := ⟨true, "TODO".toList, " ".toList, Remark.isSpelling_iff.mpr rfl, .spaces 0⟩
  fields := ⟨[], [], []⟩
  beforeDate := 0
  beforeComment := 0
  unmarked := by decide
  isNormal := ⟨isTrimmed_iff.mpr rfl, isTrimmed_iff.mpr rfl, isTrimmed_iff.mpr rfl, by decide,
    by decide⟩
  colon := by decide
  before_lineFeed := by decide
  user_lineFeed := by decide
  date_lineFeed := by decide
  comment_lineFeed := by decide

/-- Two entries in a file, with a line of code between them and no terminator at the end. -/
theorem inText_busy_bare :
    let t := "f!///Todo : :bob!;2021-02-30;  a; // TODO\r\ny // to\n// TODO ;;".toList
    IsFileOf [.sampleBusy, .sampleBare] t ∧
      List.Forall₂ (IsTodoOf "a.rs".toList) [.sampleBusy, .sampleBare]
        (Todo.inText "a.rs".toList t) := by
  intro t
  have code : IsLineOf [] "y // to".toList := .other (by decide) (by decide)
  have written : IsFileOf [.sampleBusy, .sampleBare] t :=
    .line (.entry .sampleBusy) .both (by decide) (.line code .lineFeed (by decide)
      (.last (.entry .sampleBare)))
  exact ⟨written, inText_of_isFileOf written "a.rs".toList⟩

end Backlog
