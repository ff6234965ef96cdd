import Backlog.Proofs.OwnUser
import Backlog.Proofs.PrefixSelection
import Backlog.Proofs.SortedParts

set_option relaxedAutoImplicit false
set_option autoImplicit false

/-!
# Users in alphabetical order

In alphabetical order the texts with a common beginning stand together, as in a dictionary. The sort
by user and the selection by the beginning of a user both look at the lower case of the user, so
after the sort every selection is one block of the todos. The todos of nobody, which the sort puts
last, are in no such block: their user is empty.

## Main definitions

* `Backlog.IsBlock` — the elements of a list with a property are one part of it.

## Main results

* `Backlog.exists_isBlock` — a property that fills the gaps between its elements gives a block.
* `Backlog.Text.isPrefix_of_between` — the texts with a common beginning have no gaps.
* `Backlog.exists_isBlock_thoseOf` — the selections of todos that are sorted by user.
-/

namespace Backlog

open Text

/-! ## Blocks of a list -/

section Block

variable {α : Type} {p : α → Bool} {s front block back : List α}

/-- The list falls into a front, a block and a back, and the elements with the property are those of
the block. -/
structure IsBlock (p : α → Bool) (s front block back : List α) : Prop where
  parts : s = front ++ block ++ back
  holds : ∀ a ∈ block, p a = true
  fails : ∀ a ∈ front ++ back, p a = false

/-- The elements with the property are the block. -/
lemma IsBlock.filter_eq (h : IsBlock p s front block back) : s.filter p = block := by
  have outside {t : List α} (fails : ∀ a ∈ t, p a = false) : t.filter p = [] := by
    rw [List.filter_eq_nil_iff]
    intro a ha
    simp [fails a ha]
  have fails := List.forall_mem_append.mp h.fails
  rw [h.parts, List.filter_append, List.filter_append, outside fails.1, outside fails.2,
    List.filter_eq_self.mpr h.holds, List.nil_append, List.append_nil]

/-- **A property without gaps gives a block** of a list in order: it holds of whatever stands
between two elements that have it.

**Proof sketch.** Induction on the list. An element without the property goes to the front. Behind
one that has it, the property is handed on towards the front, so it cuts the list. -/
theorem exists_isBlock {cmp : α → α → Ordering} (ordered : s.Pairwise fun a b => (cmp a b).isLE)
    (between : ∀ a ∈ s, ∀ b ∈ s, ∀ c ∈ s, (cmp a b).isLE → (cmp b c).isLE → p a = true →
      p c = true → p b = true) :
    ∃ front block back, IsBlock p s front block back := by
  induction s with
  | nil => exact ⟨[], [], [], rfl, nofun, nofun⟩
  | cons a s ih =>
    rw [List.pairwise_cons] at ordered
    cases ha : p a with
    | false =>
      obtain ⟨front, block, back, parts, holds, fails⟩ := ih ordered.2
        fun x hx y hy z hz => between x (List.mem_cons_of_mem a hx) y (List.mem_cons_of_mem a hy)
          z (List.mem_cons_of_mem a hz)
      refine ⟨a :: front, block, back, ?_, holds, ?_⟩
      · rw [parts, List.cons_append, List.cons_append]
      · rw [List.cons_append, List.forall_mem_cons]
        exact ⟨ha, fails⟩
    | true =>
      have later : s.Pairwise fun b c => p c = true → p b = true := by
        refine ordered.2.imp_of_mem fun {b c} hb hc h => ?_
        exact between a List.mem_cons_self b (List.mem_cons_of_mem a hb) c
          (List.mem_cons_of_mem a hc) (ordered.1 b hb) h ha
      obtain ⟨k, cut⟩ := exists_isCut (List.pairwise_cons.mpr ⟨fun b hb _ => ha, later⟩)
      refine ⟨[], (a :: s).take k, (a :: s).drop k, ?_, cut.holds, cut.fails⟩
      rw [List.nil_append, List.take_append_drop]

end Block

/-! ## Beginnings in alphabetical order -/

/-- **What stands between two texts with a common beginning** begins in the same way.

**Proof sketch.** Induction on the beginning. A text between two that begin with one character is
not empty and begins with this character, since it is neither less nor greater. -/
lemma Text.isPrefix_of_between {start s t u : Text} (hs : start <+: s) (hu : start <+: u)
    (hst : (compare s t).isLE) (htu : (compare t u).isLE) : start <+: t := by
  induction start generalizing s t u with
  | nil => exact List.nil_prefix
  | cons c start ih =>
    obtain ⟨s, rfl, begins⟩ := List.cons_prefix_iff.mp hs
    obtain ⟨u, rfl, behind⟩ := List.cons_prefix_iff.mp hu
    cases t with
    | nil => exact absurd hst Bool.false_ne_true
    | cons d t =>
      rw [List.compare_cons_cons] at hst htu
      obtain rfl : c = d := by
        have below := Ordering.isLE_left_of_isLE_then hst
        have above := Ordering.isLE_left_of_isLE_then htu
        exact Std.LawfulEqOrd.eq_of_compare (Std.OrientedCmp.isLE_antisymm below above)
      rw [Std.ReflOrd.compare_self] at hst htu
      exact List.cons_prefix_cons.mpr ⟨rfl, ih begins behind hst htu⟩

/-! ## Todos that are sorted by user -/

variable {todos : List Todo} {start : Text}

namespace Todo

/-- Nobody belongs to any text but the empty one, among todos that were read from remarks. -/
lemma isAnonymous_of_belongsTo {todo : Todo} (trimmed : IsTrimmed todo.user)
    (nonempty : start ≠ []) (belongs : todo.belongsTo start = true) :
    todo.isAnonymous = false := by
  by_contra anonymous
  have user : todo.user = [] := by
    rwa [Bool.not_eq_false, isAnonymous, isTrimmed_iff.mp trimmed, List.isEmpty_iff] at anonymous
  rw [belongsTo_iff, user] at belongs
  exact nonempty (lower_eq_nil_iff.mp (List.prefix_nil.mp belongs))

/-- **Between two users that belong to a text** in the order by user there are only others that
belong to it. -/
lemma belongsTo_of_between {a b c : Todo} (ha : a.isAnonymous = false) (hc : c.isAnonymous = false)
    (hab : (compareUsers a b).isLE) (hbc : (compareUsers b c).isLE)
    (belongs : a.belongsTo start = true) (behind : c.belongsTo start = true) :
    b.belongsTo start = true := by
  cases hb : b.isAnonymous with
  | true =>
    -- nobody comes behind all others
    simp only [compareUsers, hb, hc] at hbc
    exact absurd hbc Bool.false_ne_true
  | false =>
    rw [compareUsers_of_named ha hb] at hab
    rw [compareUsers_of_named hb hc] at hbc
    rw [belongsTo_iff] at belongs behind ⊢
    exact isPrefix_of_between belongs behind hab hbc

end Todo

/-- **Sorted by user, the todos of users with a common beginning stand together.** Let the todos be
read from remarks. In the order by user, the todos that are selected by a text are one block, before
and behind which there are none. If the text is not empty, nobody is in the block. -/
theorem exists_isBlock_thoseOf
    (built : ∀ todo ∈ todos, ∃ file remark, todo = Todo.ofRemark file remark) (start : Text) :
    ∃ front back, IsBlock (Todo.belongsTo start) (SortKey.user.sort todos) front
        (thoseOf start (SortKey.user.sort todos)) back ∧
      (start ≠ [] →
        ∀ todo ∈ thoseOf start (SortKey.user.sort todos), todo.isAnonymous = false) := by
  have named : start ≠ [] → ∀ todo ∈ SortKey.user.sort todos, todo.belongsTo start = true →
      todo.isAnonymous = false := by
    intro nonempty todo mem
    obtain ⟨file, remark, rfl⟩ := built todo ((SortKey.user.sort_perm todos).mem_iff.mp mem)
    exact Todo.isAnonymous_of_belongsTo (Todo.isTrimmed_user file remark) nonempty
  have between : ∀ a ∈ SortKey.user.sort todos, ∀ b ∈ SortKey.user.sort todos,
      ∀ c ∈ SortKey.user.sort todos, (SortKey.user.compareBy a b).isLE →
        (SortKey.user.compareBy b c).isLE → a.belongsTo start = true → c.belongsTo start = true →
        b.belongsTo start = true := by
    intro a ha b _ c hc hab hbc belongs behind
    by_cases nonempty : start = []
    · rw [Todo.belongsTo_iff, nonempty]
      exact List.nil_prefix
    · exact Todo.belongsTo_of_between (named nonempty a ha belongs) (named nonempty c hc behind)
        hab hbc belongs behind
  obtain ⟨front, block, back, isBlock⟩ := exists_isBlock (SortKey.user.sort_ordered todos) between
  refine ⟨front, back, ?_, fun nonempty todo mem => ?_⟩
  · rwa [thoseOf, isBlock.filter_eq]
  · obtain ⟨sorted, belongs⟩ := mem_thoseOf_iff.mp mem
    exact named nonempty todo sorted belongs

/-- Two users that begin alike but for case, with a third one between them in the given order, and
nobody. -/
theorem exists_isBlock_thoseOf_names :
    let long := Todo.ofRemark "a".toList "// TODO anna K.; ; x!".toList
    let other := Todo.ofRemark "a".toList "// TODO Änne; 2020; y".toList
    let nobody := Todo.ofRemark "b".toList "// TODO: just text".toList
    let short := Todo.ofRemark "b".toList "// todo ANN; 2021; z".toList
    ∃ front back, IsBlock (Todo.belongsTo "An".toList)
        (SortKey.user.sort [long, other, nobody, short]) front [short, long] back ∧
      long.isAnonymous = false := by
  intro long other nobody short
  have built : ∀ todo ∈ [long, other, nobody, short], ∃ file remark,
      todo = Todo.ofRemark file remark := by
    simp [long, other, nobody, short]
  have kept : thoseOf "An".toList (SortKey.user.sort [long, other, nobody, short]) =
      [short, long] := by
    rw [thoseOf, SortKey.filter_sort]
    exact (isStableSort_iff.mp ⟨by decide +kernel, by decide +kernel, by decide +kernel⟩).symm
  obtain ⟨front, back, isBlock, named⟩ := exists_isBlock_thoseOf built "An".toList
  rw [kept] at isBlock named
  exact ⟨front, back, isBlock, named (by decide) long (by simp)⟩

end Backlog
