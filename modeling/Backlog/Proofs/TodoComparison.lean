import Backlog.Proofs.StableSort
import Backlog.Todo.Order
import Mathlib.Data.List.Dedup

set_option relaxedAutoImplicit false
set_option autoImplicit false

/-!
# The comparisons of todos

Each of the three comparisons is a total preorder, and so is the comparison by several keys in a
row. Sorts by several keys are therefore sorts by one comparison.

## Main definitions

* `Backlog.compareNoneLast` — a comparison of values that may be missing.
* `Backlog.compareByAll` — the comparison by the first of some keys, then by the second, and so on.

## Main results

* `Backlog.transCmp_compareBy`, `Backlog.transCmp_compareByAll` — the comparisons are total
  preorders.
* `Backlog.compareBy_swap_trans_congr` — their laws one by one, and which todos are equal.
* `Backlog.foldl_sort_eq_sortBy` — sorts in a row are one sort by the latest key first.
-/

namespace Backlog

open Text

variable {α β : Type}

/-! ## Total preorders -/

/-- Values that are there are compared, and one that is missing comes after them. -/
def compareNoneLast (cmp : α → α → Ordering) : Option α → Option α → Ordering
  | some s, some t => cmp s t
  | some _, none => .lt
  | none, some _ => .gt
  | none, none => .eq

instance (cmp : α → α → Ordering) [Std.TransCmp cmp] : Std.TransCmp (compareNoneLast cmp) where
  eq_swap {a b} := by
    cases a <;> cases b
    case some.some => exact @Std.OrientedCmp.eq_swap _ cmp _ _ _
    all_goals rfl
  isLE_trans {a b c} hab hbc := by
    cases a <;> cases b <;> cases c
    case some.some.some => exact @Std.TransCmp.isLE_trans _ cmp _ _ _ _ hab hbc
    all_goals first
      | rfl
      | exact absurd hab Bool.false_ne_true
      | exact absurd hbc Bool.false_ne_true

/-- What is compared through a value of it is compared as the values are. -/
lemma transCmp_comap (cmp : β → β → Ordering) [Std.TransCmp cmp] (f : α → β) :
    Std.TransCmp fun a b => cmp (f a) (f b) where
  eq_swap := Std.OrientedCmp.eq_swap
  isLE_trans := Std.TransCmp.isLE_trans

instance : Std.TransOrd Date :=
  inferInstanceAs (Std.TransCmp (compareLex (compareOn Date.year)
    (compareLex (compareOn Date.month) (compareOn Date.day))))

namespace Todo

/-- The name by which a todo is put in order, if it has one. -/
def sortName? (todo : Todo) : Option Text :=
  if todo.isAnonymous then none else some (lower todo.user)

/-- Users are compared by their names, and nobody comes last. -/
lemma compareUsers_eq (a b : Todo) :
    compareUsers a b = compareNoneLast compare a.sortName? b.sortName? := by
  cases ha : a.isAnonymous <;> cases hb : b.isAnonymous <;>
    simp [compareUsers, sortName?, compareNoneLast, ha, hb]

/-- Days are compared from late to early, and no day comes last. -/
lemma compareDays_eq (a b : Todo) :
    compareDays a b = compareNoneLast (fun s t => compare t s) a.day? b.day? := by
  cases ha : a.day? <;> cases hb : b.day? <;> simp [compareDays, compareNoneLast, ha, hb]

end Todo

/-- **The comparisons are total preorders.** -/
instance transCmp_compareBy (key : SortKey) : Std.TransCmp key.compareBy := by
  cases key with
  | importance => exact @Std.TransCmp.opposite _ (compareOn Todo.importance) _
  | user =>
    rw [SortKey.compareBy, funext₂ Todo.compareUsers_eq]
    exact transCmp_comap _ _
  | date =>
    have late : Std.TransCmp fun s t : Date => compare t s := Std.TransCmp.opposite
    rw [SortKey.compareBy, funext₂ Todo.compareDays_eq]
    exact transCmp_comap _ _

/-! ## Ties -/

instance : Std.LawfulEqOrd Date where
  eq_of_compare {a b} h := by
    have compared : Date.order a b = .eq := h
    obtain ⟨year, month, day⟩ : a.year = b.year ∧ a.month = b.month ∧ a.day = b.day := by
      simpa [Date.order, Ordering.then_eq_eq] using compared
    cases a
    cases b
    simp only at year month day
    simp only [year, month, day]

/-- Values that may be missing are equal if both are missing, or both are there and equal. -/
lemma compareNoneLast_eq_eq_iff {cmp : α → α → Ordering} (lawful : ∀ s t, cmp s t = .eq ↔ s = t)
    (a b : Option α) : compareNoneLast cmp a b = .eq ↔ a = b := by
  cases a <;> cases b <;> simp [compareNoneLast, lawful]

namespace Todo

variable {a b : Todo}

/-- Todos are equal in importance if they have equally many exclamation marks. -/
lemma compareImportance_eq_eq_iff : compareImportance a b = .eq ↔ a.importance = b.importance := by
  rw [compareImportance, Std.LawfulEqOrd.compare_eq_iff_eq, eq_comm]

/-- Todos are equal by user if they have the same name in this order, or both none. -/
lemma compareUsers_eq_eq_iff : compareUsers a b = .eq ↔ a.sortName? = b.sortName? := by
  rw [compareUsers_eq]
  exact compareNoneLast_eq_eq_iff (fun s t => Std.LawfulEqOrd.compare_eq_iff_eq) _ _

/-- Todos are equal by day if they have the same day, or both none. -/
lemma compareDays_eq_eq_iff : compareDays a b = .eq ↔ a.day? = b.day? := by
  rw [compareDays_eq]
  refine compareNoneLast_eq_eq_iff (fun s t => ?_) _ _
  rw [Std.LawfulEqOrd.compare_eq_iff_eq, eq_comm]

end Todo

/-- **The laws of the comparisons.** Turned round, a comparison gives the opposite. A todo that does
not come after a second one, which does not come after a third one, does not come after the third
one either. Todos that are equal in a key are compared alike with every other one, and they are
equal if what the key looks at is the same: the number of exclamation marks; the lower case of the
user, if there is one; the day, if there is one. -/
theorem compareBy_swap_trans_congr (a b c : Todo) :
    (∀ key : SortKey, key.compareBy b a = (key.compareBy a b).swap ∧
      (key.compareBy a b ≠ .gt → key.compareBy b c ≠ .gt → key.compareBy a c ≠ .gt) ∧
      (key.compareBy a b = .eq → key.compareBy a c = key.compareBy b c ∧
        key.compareBy c a = key.compareBy c b)) ∧
      (SortKey.importance.compareBy a b = .eq ↔ a.importance = b.importance) ∧
      (SortKey.user.compareBy a b = .eq ↔ a.sortName? = b.sortName?) ∧
      (SortKey.date.compareBy a b = .eq ↔ a.day? = b.day?) := by
  refine ⟨fun key => ⟨Std.OrientedCmp.eq_swap, fun hab hbc => ?_, fun tied => ?_⟩,
    Todo.compareImportance_eq_eq_iff, Todo.compareUsers_eq_eq_iff, Todo.compareDays_eq_eq_iff⟩
  · have first := Ordering.ne_gt_iff_isLE.mp hab
    have second := Ordering.ne_gt_iff_isLE.mp hbc
    exact Ordering.ne_gt_iff_isLE.mpr (Std.TransCmp.isLE_trans first second)
  · exact ⟨Std.TransCmp.congr_left tied, Std.TransCmp.congr_right tied⟩

/-- A user, another one behind it and nobody, and the same user in other letters. -/
theorem compareBy_swap_trans_congr_nobody :
    let adam := Todo.ofRemark "a".toList "// TODO adam; 2020; x".toList
    let zed := Todo.ofRemark "b".toList "// todo: Zed; soon; y!".toList
    let nobody := Todo.ofRemark "c".toList "// TODO ; 2020; z".toList
    let other := Todo.ofRemark "d".toList "// TODO ADAM; ; w".toList
    SortKey.user.compareBy adam nobody ≠ .gt ∧
      SortKey.user.compareBy adam nobody = SortKey.user.compareBy other nobody ∧
      SortKey.date.compareBy adam zed = SortKey.date.compareBy nobody zed := by
  intro adam zed nobody other
  obtain ⟨users, -⟩ := compareBy_swap_trans_congr adam zed nobody
  obtain ⟨letters, -⟩ := compareBy_swap_trans_congr adam other nobody
  obtain ⟨days, -⟩ := compareBy_swap_trans_congr adam nobody zed
  have first : SortKey.user.compareBy adam zed ≠ .gt := by decide +kernel
  have second : SortKey.user.compareBy zed nobody ≠ .gt := by decide +kernel
  have sameUser : SortKey.user.compareBy adam other = .eq := by decide +kernel
  have sameDay : SortKey.date.compareBy adam nobody = .eq := by decide +kernel
  exact ⟨(users .user).2.1 first second, ((letters .user).2.2 sameUser).1,
    ((days .date).2.2 sameDay).1⟩

/-! ## Sorts by a key -/

namespace SortKey

variable {key : SortKey} {todos : List Todo}

/-- A sort holds the same todos. -/
lemma sort_perm (key : SortKey) (todos : List Todo) : (key.sort todos).Perm todos :=
  sortBy_perm key.compareBy todos

/-- A sort is in the order of its key. -/
lemma sort_ordered (key : SortKey) (todos : List Todo) :
    (key.sort todos).Pairwise fun a b => (key.compareBy a b).isLE := sortBy_ordered todos

/-- **A selection of sorted todos** is the sort of the selection. -/
lemma filter_sort (key : SortKey) (p : Todo → Bool) (todos : List Todo) :
    (key.sort todos).filter p = key.sort (todos.filter p) := filter_sortBy p todos

/-- Todos that are equal in the key stay in their order. -/
lemma sort_of_tied (tied : ∀ a ∈ todos, ∀ b ∈ todos, key.compareBy a b = .eq) :
    key.sort todos = todos := sortBy_of_forall_eq tied

end SortKey

/-! ## Several keys -/

/-- The comparison by the first of the keys, by the second where the first finds todos equal, and
so on. -/
def compareByAll : List SortKey → Todo → Todo → Ordering
  | [], _, _ => .eq
  | key :: keys, a, b => (key.compareBy a b).then (compareByAll keys a b)

/-- The comparison by several keys is the comparison by the first, then by the others. -/
lemma compareByAll_cons (key : SortKey) (keys : List SortKey) :
    compareByAll (key :: keys) = compareLex key.compareBy (compareByAll keys) := rfl

instance transCmp_compareByAll (keys : List SortKey) : Std.TransCmp (compareByAll keys) := by
  induction keys with
  | nil => exact { eq_swap := rfl, isLE_trans := fun _ _ => rfl }
  | cons key keys ih =>
    rw [compareByAll_cons]
    infer_instance

/-- Keys that are added at the end decide last. -/
lemma compareByAll_append (keys more : List SortKey) (a b : Todo) :
    compareByAll (keys ++ more) a b = (compareByAll keys a b).then (compareByAll more a b) := by
  induction keys with
  | nil => rfl
  | cons key keys ih => rw [List.cons_append, compareByAll, ih, compareByAll, Ordering.then_assoc]

/-- Several keys find two todos equal if each of them does. -/
lemma compareByAll_eq_eq_iff {keys : List SortKey} {a b : Todo} :
    compareByAll keys a b = .eq ↔ ∀ key ∈ keys, key.compareBy a b = .eq := by
  induction keys with
  | nil => simp [compareByAll]
  | cons key keys ih => simp [compareByAll, Ordering.then_eq_eq, ih]

/-- **A key that has been asked before decides nothing.** -/
lemma compareByAll_append_singleton_of_mem {keys : List SortKey} {key : SortKey}
    (h : key ∈ keys) : compareByAll (keys ++ [key]) = compareByAll keys := by
  funext a b
  rw [compareByAll_append]
  cases compared : compareByAll keys a b with
  | lt => rfl
  | gt => rfl
  | eq => simp [compareByAll, compareByAll_eq_eq_iff.mp compared key h]

/-- Only the last occurrence of a key decides.

**Proof sketch.** Induction on the keys. The first key is compared last. If it occurs again, it has
been asked before then. -/
lemma compareByAll_reverse_dedup (keys : List SortKey) :
    compareByAll keys.dedup.reverse = compareByAll keys.reverse := by
  induction keys with
  | nil => rfl
  | cons key keys ih =>
    by_cases h : key ∈ keys
    · rw [List.dedup_cons_of_mem h, ih, List.reverse_cons,
        compareByAll_append_singleton_of_mem (List.mem_reverse.mpr h)]
    · funext a b
      rw [List.dedup_cons_of_notMem h, List.reverse_cons, List.reverse_cons, compareByAll_append,
        compareByAll_append, ih]

/-- **Sorts in a row** are one sort, by the latest key first and by the earliest last.

**Proof sketch.** Induction on the keys. The first sort is followed by the others, which together
are one sort by the reversed keys; the first key comes last among them. -/
theorem foldl_sort_eq_sortBy (keys : List SortKey) (todos : List Todo) :
    keys.foldl (fun current key => key.sort current) todos =
      sortBy (compareByAll keys.reverse) todos := by
  induction keys generalizing todos with
  | nil => exact (sortBy_of_forall_eq fun _ _ _ _ => rfl).symm
  | cons key keys ih =>
    rw [List.foldl_cons, ih, List.reverse_cons]
    refine (sortBy_sortBy todos).trans (sortBy_congr fun a _ b _ => ?_)
    rw [compareByAll_append, compareLex]
    simp [compareByAll]

end Backlog
