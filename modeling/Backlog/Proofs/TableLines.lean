import Backlog.Proofs.FoundFiles
import Backlog.Proofs.IdleLines
import Backlog.Proofs.RemarkSpans
import Backlog.Proofs.TableLayout
import Mathlib.Algebra.BigOperators.Group.List.Basic

set_option relaxedAutoImplicit false
set_option autoImplicit false

/-!
# The lines of a table

The blocks of a table are its lines as long as no cell shows a line feed. A field of a todo has
none: it is cut out of a remark, which is the end of one line. The name of a file may have one, and
then its cell breaks the row in two, unless the name is cut before it.

## Main definitions

* `Backlog.Table.strayIn` — the line feeds that the cells of a todo show.
* `Backlog.Table.IsLined` — the lines of a table are its blocks.
* `Backlog.Todo.IsOneLine` — a todo whose fields have no line feeds, its file apart.

## Main results

* `Backlog.Table.count_render` — the line feeds of a table.
* `Backlog.Table.isLined_iff_strayIn` — which tables have their blocks as lines.
* `Backlog.Remark.notMem_content_of_mem_inText` — the content of a remark has no line feed.
* `Backlog.Session.isLined_listing_iff` — the tables of a session over the findings of a search.
-/

namespace Backlog

open Text

/-! ## The line feeds of a table -/

namespace Table

/-- A value shows no character that it does not have, apart from spaces and dots. -/
lemma notMem_fitted {c : Char} {v : Text} (space : c ≠ ' ') (dot : c ≠ '.') (h : c ∉ v)
    (width : ℕ) : c ∉ fitted width v := by
  unfold fitted
  split
  · have taken : c ∉ v.take (width - 3) := fun mem => h (List.mem_of_mem_take mem)
    simp [taken, dot]
  · simp [List.rightpad, h, List.mem_replicate, space]

/-- The number of line feeds that the cells of a todo show. -/
def strayIn (todos : List Todo) (todo : Todo) : ℕ :=
  (Column.all.map fun column => (fitted (column.width todos) (column.value todo)).count '\n').sum

/-- A line has its own line feed and those of its cells. -/
lemma count_line (todos : List Todo) (important : Bool) (value : Column → Text) :
    (line (widths todos) important (Column.all.map value)).count '\n' =
      (Column.all.map fun column => (fitted (column.width todos) (value column)).count '\n').sum +
        1 := by
  have marked : (mark important).count '\n' = 0 := by cases important <;> decide
  have edge : margin.count '\n' = 0 := by decide
  have held (column : Column) :
      ('|' :: cell (column.width todos) (value column)).count '\n' =
        (fitted (column.width todos) (value column)).count '\n' := by
    rw [List.count_cons_of_ne (by decide), cell, List.count_append, List.count_append, edge]
    omega
  rw [line_eq, List.count_append, List.count_append, marked, cells, List.count_flatMap,
    Nat.zero_add]
  simp only [Function.comp_def, held, List.count_singleton_self]

/-- The header shows no line feeds but its own. -/
lemma count_header (todos : List Todo) : (header (widths todos)).count '\n' = 1 := by
  have none : ∀ n ∈ Column.all.map fun column : Column =>
      (fitted (column.width todos) column.title).count '\n', n = 0 := by
    rw [List.forall_mem_map]
    intro column _
    have title : '\n' ∉ column.title := by cases column <;> decide
    exact List.count_eq_zero.mpr (notMem_fitted (by decide) (by decide) title _)
  rw [header, count_line, List.sum_eq_zero_iff_forall_eq_nat.mpr none]

/-- A rule has no line feeds but its own. -/
lemma count_rule (todos : List Todo) : (rule (widths todos)).count '\n' = 1 := by
  rw [rule, List.count_append, List.count_eq_zero.mpr, List.count_singleton_self]
  intro mem
  exact absurd (List.eq_of_mem_replicate mem) (by decide)

/-- **The line feeds of a table** are those at the ends of its blocks and those of its cells. -/
theorem count_render (todos : List Todo) :
    (render todos).count '\n' =
      (if todos = [] then 2 else todos.length + 3) + (todos.map (strayIn todos)).sum := by
  have rows : ((todos.map (row (widths todos))).flatten).count '\n' =
      todos.length + (todos.map (strayIn todos)).sum := by
    have each (todo : Todo) : (row (widths todos) todo).count '\n' = strayIn todos todo + 1 :=
      count_line todos todo.isImportant (·.value todo)
    rw [List.count_flatten, List.map_map]
    simp only [Function.comp_def, each, List.sum_map_add, List.map_const',
      List.sum_replicate_nat, Nat.mul_one]
    exact Nat.add_comm _ _
  rw [render_eq, List.count_append, List.count_append, List.count_append, count_header, count_rule,
    rows]
  split_ifs with empty
  · subst empty
    rfl
  · rw [count_rule]
    omega

/-! ## Blocks as lines -/

/-- **The blocks of a table are its lines**: the table has as many line feeds as blocks, and cut
behind each of them it falls into the header, the rule, the rows and the rule again. -/
structure IsLined (todos : List Todo) : Prop where
  count : (render todos).count '\n' = if todos = [] then 2 else todos.length + 3
  cut : ∃ header rule rows, IsLayout todos header rule rows ∧
    IsCutAfter '\n' (render todos)
      (header :: rule :: rows ++ if todos = [] then [] else [rule])

/-- Blocks whose cells show no line feeds have one at their end and no other. -/
lemma exists_body {todos : List Todo} (clean : ∀ todo ∈ todos, strayIn todos todo = 0)
    {block : Text} (mem : block ∈ blocks todos) :
    ∃ body, '\n' ∉ body ∧ block = body ++ ['\n'] := by
  have once : ∀ block ∈ header (widths todos) :: rule (widths todos) ::
      todos.map (row (widths todos)), block.count '\n' = 1 := by
    simp only [List.forall_mem_cons, List.forall_mem_map]
    refine ⟨count_header todos, count_rule todos, fun todo mem => ?_⟩
    rw [row, count_line, ← strayIn, clean todo mem]
  have count := once block (mem_blocks mem)
  have ends := (isLayout todos).ends block (mem_blocks mem)
  obtain ⟨body, rfl⟩ := List.getLast?_eq_some_iff.mp ends
  refine ⟨body, ?_, rfl⟩
  rw [List.count_append, List.count_singleton_self] at count
  rw [← List.count_eq_zero]
  omega

/-- **The tables with blocks as lines** are those with no other line feeds than those of the blocks.

**Proof sketch.** If there are no more line feeds than blocks, none is left for the cells. If no
cell shows a line feed, every block has its only one at its end, so the blocks are the pieces of the
cut. -/
lemma isLined_iff_strayIn {todos : List Todo} :
    IsLined todos ↔ ∀ todo ∈ todos, strayIn todos todo = 0 := by
  have total : (∀ todo ∈ todos, strayIn todos todo = 0) ↔ (todos.map (strayIn todos)).sum = 0 := by
    rw [List.sum_eq_zero_iff_forall_eq_nat, List.forall_mem_map]
  constructor
  · intro lined
    have count := lined.count
    rw [count_render] at count
    rw [total]
    omega
  · intro clean
    refine ⟨?_, _, _, _, isLayout todos, ?_⟩
    · rw [count_render, total.mp clean, Nat.add_zero]
    · rw [← flatten_blocks]
      exact isCutAfter_flatten fun block mem => exists_body clean mem

end Table

/-! ## Remarks and todos of one line -/

/-- The content of a text whose only line feed is at its end has no line feed. -/
lemma Text.notMem_content {t : Text} (h : '\n' ∉ t.dropLast) : '\n' ∉ content t := by
  have without : '\n' ∉ withoutLast '\n' t := by
    unfold withoutLast
    split
    · exact h
    · next last =>
      intro mem
      obtain ⟨front, c, rfl⟩ := List.eq_nil_or_concat' t |>.resolve_left (List.ne_nil_of_mem mem)
      rw [List.dropLast_concat] at h
      rw [List.getLast?_concat, Option.some.injEq] at last
      rcases List.mem_append.mp mem with mem | mem
      · exact h mem
      · exact last (List.mem_singleton.mp mem).symm
  exact fun mem => without ((withoutLast_isPrefix '\r' _).mem mem)

/-- **The content of a remark has no line feed.** -/
lemma Remark.notMem_content_of_mem_inText {t remark : Text} (h : remark ∈ inText t) :
    '\n' ∉ content remark := by
  obtain ⟨line, hline, found⟩ := List.mem_filterMap.mp h
  have once := (isCutAfter_cutAfter '\n' t).notMem_dropLast hline
  obtain ⟨front, rfl⟩ := isSuffix_of_inLine? found
  refine notMem_content fun mem => once ?_
  rw [List.dropLast_append_of_ne_nil]
  · exact List.mem_append_right _ mem
  · rintro rfl
    cases mem

namespace Todo

/-- No field of the todo has a line feed, its file apart. -/
structure IsOneLine (todo : Todo) : Prop where
  user : '\n' ∉ todo.user
  date : '\n' ∉ todo.date
  comment : '\n' ∉ todo.comment

/-- **The todos of a text are of one line each.** -/
lemma isOneLine_of_mem_inText {file t : Text} {todo : Todo} (h : todo ∈ inText file t) :
    todo.IsOneLine := by
  obtain ⟨remark, mem, rfl⟩ := List.mem_map.mp h
  have content := Remark.notMem_content_of_mem_inText mem
  have free :
      '\n' ∉ (Remark.freeText? (Text.content remark)).getD (trim (Text.content remark)) := by
    cases read : Remark.freeText? (Text.content remark) with
    | none => exact fun mem => content (mem_of_mem_trim mem)
    | some free =>
      obtain ⟨head, whole, -⟩ := Remark.freeText?_eq_some_iff.mp read
      rw [whole] at content
      exact fun mem => content (List.mem_append_right _ mem)
  obtain ⟨user, date, comment⟩ := Fields.notMem_ofFreeText free
  exact ⟨user, date, comment⟩

/-- The todos of a text are in its file. -/
lemma file_of_mem_inText {file t : Text} {todo : Todo} (h : todo ∈ inText file t) :
    todo.file = file := by
  obtain ⟨remark, -, rfl⟩ := List.mem_map.mp h
  rfl

end Todo

/-- A todo of one line shows line feeds only in the cell of its file. -/
lemma Table.strayIn_of_isOneLine {todo : Todo} (h : todo.IsOneLine) (todos : List Todo) :
    strayIn todos todo = (fitted (Column.file.width todos) todo.file).count '\n' := by
  have clean (column : Column) (absent : '\n' ∉ column.value todo) :
      (fitted (column.width todos) (column.value todo)).count '\n' = 0 :=
    List.count_eq_zero.mpr (notMem_fitted (by decide) (by decide) absent _)
  have file : Column.file.value todo = todo.file := rfl
  simp only [strayIn, Column.all, List.map_cons, List.map_nil, List.sum_cons, List.sum_nil,
    clean .user h.user, clean .date h.date, clean .comment h.comment, file, Nat.zero_add,
    Nat.add_zero]

/-! ## The tables of a session -/

/-- **The todos of a search** are of one line each, and their files are stems of source files. -/
lemma Search.Finds.isOneLine_and_eligible {search : Search} {path : Text} {entries : Entries}
    {found : Findings} (finds : search.Finds path entries found) {todo : Todo}
    (mem : todo ∈ found.todos) :
    todo.IsOneLine ∧ ∃ file, search.IsEligible entries file ∧ todo.file = file.stem := by
  obtain ⟨⟨sources, memSources, -, todos, -⟩, -⟩ := finds
  rw [todos] at mem
  obtain ⟨⟨file, t⟩, source, mem⟩ := List.mem_flatMap.mp mem
  exact ⟨Todo.isOneLine_of_mem_inText mem, file, ((memSources file t).mp source).1,
    Todo.file_of_mem_inText mem⟩

namespace Session

open Table

variable {todos shown : List Todo} {lines : List Text} {step : List Todo × Reply}

/-- A command shows only todos that it replies about. -/
lemma subset_of_reply_eq_listing {command : Command} (h : command.reply todos = .listing shown) :
    shown ⊆ todos := by
  cases command with
  | exit => cases h
  | showAll | sort _ =>
    cases h
    exact List.Subset.refl todos
  | showImportant | showUser _ | showSince _ =>
    cases h
    exact List.filter_sublist.subset

/-- A session shows only its own todos. -/
lemma subset_of_mem_steps (mem : step ∈ steps todos lines) (reply : step.2 = .listing shown) :
    shown ⊆ todos := by
  obtain ⟨i, hi⟩ := List.mem_iff_getElem?.mp mem
  have same := perm_of_mem_steps mem
  rw [getElem?_steps, Option.map_eq_some_iff] at hi
  obtain ⟨line, -, rfl⟩ := hi
  unfold answer at reply same
  cases read : Command.read line with
  | error why => simp [read] at reply
  | ok command =>
    simp only [read] at reply same
    exact List.Subset.trans (subset_of_reply_eq_listing reply) same.subset

/-- **The lines of the tables over the findings of a search.** Whatever source files are looked for
in a tree, and whatever lines the session has answered, a table that it shows has one line feed for
each block, and besides those that the cells of the files show. Its blocks are its lines if and only
if these cells show none, so in particular if no source file has a line feed in its stem. -/
theorem isLined_listing_iff {fs : FileSystem} {search : Search} {path : Text} {entries : Entries}
    {found : Findings} (opened : fs.opened? path = some entries) (tree : entries.IsTree)
    (hfound : fs.found? search path = some found) (mem : step ∈ steps found.todos lines)
    (reply : step.2 = .listing shown) :
    (render shown).count '\n' = (if shown = [] then 2 else shown.length + 3) +
        (shown.map fun todo => (fitted (Column.file.width shown) todo.file).count '\n').sum ∧
      (IsLined shown ↔ ∀ todo ∈ shown, '\n' ∉ fitted (Column.file.width shown) todo.file) ∧
      ((∀ file, search.IsEligible entries file → '\n' ∉ file.stem) → IsLined shown) := by
  have finds : search.Finds path entries found := by
    rw [FileSystem.found?, opened, Option.map_some, Option.some.injEq] at hfound
    exact hfound ▸ search.finds_ofDirectory tree (FileSystem.inReach_of_opened? opened)
  have origin : ∀ todo ∈ shown, todo.IsOneLine ∧
      ∃ file, search.IsEligible entries file ∧ todo.file = file.stem := fun todo h =>
    finds.isOneLine_and_eligible (subset_of_mem_steps mem reply h)
  have stray : ∀ todo ∈ shown, strayIn shown todo =
      (fitted (Column.file.width shown) todo.file).count '\n' := fun todo h =>
    strayIn_of_isOneLine (origin todo h).1 shown
  have lined : IsLined shown ↔
      ∀ todo ∈ shown, '\n' ∉ fitted (Column.file.width shown) todo.file := by
    rw [isLined_iff_strayIn]
    exact forall₂_congr fun todo h => by rw [stray todo h, List.count_eq_zero]
  refine ⟨?_, lined, fun unbroken => lined.mpr fun todo h => ?_⟩
  · rw [count_render, List.map_congr_left stray]
  · obtain ⟨-, file, eligible, same⟩ := origin todo h
    exact notMem_fitted (by decide) (by decide) (same ▸ unbroken file eligible) _

/-- A directory with one source file, in which two todos stand, one below the other. -/
theorem isLined_listing_iff_plain :
    let t := "// TODO w; 2021; x\n// TODO: y!\n".toList
    let fs : FileSystem :=
      ⟨[("t".toList, .directory [("main.js".toList, .file (toUtf8 t))])], []⟩
    ∃ found shown, fs.found? .default "/t".toList = some found ∧
      (found.todos, .listing shown) ∈ steps found.todos ["show".toList] ∧ shown.length = 2 ∧
      (render shown).count '\n' = 5 ∧ IsLined shown := by
  intro t fs
  let file : SourceFile := ⟨[], "main".toList, "js".toList, toUtf8 t⟩
  let todos := Todo.inText file.stem t
  have isName : IsEntryName file.name := ⟨by decide, by decide⟩
  have named : Search.default.IsSourceName file.stem file.extension :=
    ⟨by decide, by decide, "js".toList, by decide, by decide⟩
  have opened : fs.opened? "/t".toList = some [(file.name, .file file.bytes)] :=
    FileSystem.opened?_top rfl ⟨by decide, by decide⟩ (by decide)
  have found : fs.found? .default "/t".toList = some ⟨todos, 1, 0⟩ :=
    FileSystem.found?_single opened isName named ⟨⟨by decide, rfl⟩, by decide⟩
  have shown : (todos, Reply.listing todos) ∈ steps todos ["show".toList] := by decide +kernel
  have lined := isLined_listing_iff opened (Entries.isTree_singleton isName nofun) found shown rfl
  exact ⟨_, todos, found, shown, by decide +kernel, by decide +kernel,
    lined.2.1.mpr (by decide +kernel)⟩

/-- A directory with one source file, whose name has a line feed before the dot. A single todo
stands in it, but its row takes two lines. -/
theorem not_isLined_listing_broken :
    let t := "// TODO w; 2021; x\n".toList
    let entries : Entries := [("a\nb.js".toList, .file (toUtf8 t))]
    let fs : FileSystem := ⟨[("t".toList, .directory entries)], []⟩
    fs.opened? "/t".toList = some entries ∧ entries.IsTree ∧
      ∃ found shown, fs.found? .default "/t".toList = some found ∧
        (found.todos, .listing shown) ∈ steps found.todos ["show".toList] ∧ shown.length = 1 ∧
        (render shown).count '\n' = 5 ∧ ¬ IsLined shown := by
  intro t entries fs
  let file : SourceFile := ⟨[], "a\nb".toList, "js".toList, toUtf8 t⟩
  let todos := Todo.inText file.stem t
  have isName : IsEntryName file.name := ⟨by decide, by decide⟩
  have named : Search.default.IsSourceName file.stem file.extension :=
    ⟨by decide, by decide, "js".toList, by decide, by decide⟩
  have opened : fs.opened? "/t".toList = some entries :=
    FileSystem.opened?_top rfl ⟨by decide, by decide⟩ (by decide)
  have found : fs.found? .default "/t".toList = some ⟨todos, 1, 0⟩ :=
    FileSystem.found?_single opened isName named ⟨⟨by decide, rfl⟩, by decide⟩
  have shown : (todos, Reply.listing todos) ∈ steps todos ["show".toList] := by decide +kernel
  have count : (render todos).count '\n' = 5 := by decide +kernel
  have unlined : ¬ IsLined todos := fun lined => by
    have four : (render todos).count '\n' = 4 := lined.count
    omega
  exact ⟨opened, Entries.isTree_singleton isName nofun, _, todos, found, shown, by decide +kernel,
    count, unlined⟩

end Session

end Backlog
