import Backlog.Proofs.SessionOrder
import Backlog.Session.Transcript

set_option relaxedAutoImplicit false
set_option autoImplicit false

/-!
# Where a selection cuts the order

To show important todos, or those since a day, a session first puts the todos in order and then
selects. The order and the selection look at the same thing, so the todos that are shown are the
first ones of the new order, and a single place separates them from the others.

## Main definitions

* `Backlog.IsCut` — a property holds of the first elements of a list, and of no others.
* `Backlog.SortKey.Favours` — a key never puts a todo without a property before one that has it.
* `Backlog.Session.ShowsFirst` — a line is answered with the first todos of the order it leaves.

## Main results

* `Backlog.exists_isCut` — a property that is handed on towards the front cuts the list.
* `Backlog.SortKey.exists_isCut_sort` — so does a property that the key of a sort favours.
* `Backlog.Session.exists_showsFirst` — what is shown, and what is not, by importance and by day.
-/

namespace Backlog

/-! ## Cuts of a list -/

section Cut

variable {α : Type} {p q : α → Bool} {s : List α} {k l : ℕ}

/-- The first `k` elements have the property, and the others do not. -/
structure IsCut (p : α → Bool) (s : List α) (k : ℕ) : Prop where
  holds : ∀ a ∈ s.take k, p a = true
  fails : ∀ a ∈ s.drop k, p a = false

/-- The elements with the property are the first ones. -/
lemma IsCut.filter_eq (h : IsCut p s k) : s.filter p = s.take k := by
  have front : (s.take k).filter p = s.take k := List.filter_eq_self.mpr h.holds
  have back : (s.drop k).filter p = [] := by
    rw [List.filter_eq_nil_iff]
    intro a ha
    simp [h.fails a ha]
  conv_lhs => rw [← List.take_append_drop k s]
  rw [List.filter_append, front, back, List.append_nil]

/-- The elements without the property are the others. -/
lemma IsCut.filter_not_eq (h : IsCut p s k) : s.filter (!p ·) = s.drop k := by
  have front : (s.take k).filter (!p ·) = [] := by
    rw [List.filter_eq_nil_iff]
    intro a ha
    simp [h.holds a ha]
  have back : (s.drop k).filter (!p ·) = s.drop k := by
    rw [List.filter_eq_self]
    intro a ha
    simp [h.fails a ha]
  conv_lhs => rw [← List.take_append_drop k s]
  rw [List.filter_append, front, back, List.nil_append]

/-- **A property that is handed on towards the front cuts the list.**

**Proof sketch.** Induction on the list. If the first element has the property, the cut of the rest
moves one place on. If it has not, no later element can have it. -/
theorem exists_isCut (h : s.Pairwise fun a b => p b = true → p a = true) : ∃ k, IsCut p s k := by
  induction s with
  | nil => exact ⟨0, nofun, nofun⟩
  | cons a s ih =>
    rw [List.pairwise_cons] at h
    cases ha : p a with
    | true =>
      obtain ⟨k, cut⟩ := ih h.2
      refine ⟨k + 1, ?_, ?_⟩
      · intro b hb
        rw [List.take_succ_cons, List.mem_cons] at hb
        rcases hb with rfl | hb
        · exact ha
        · exact cut.holds b hb
      · intro b hb
        rw [List.drop_succ_cons] at hb
        exact cut.fails b hb
    | false =>
      refine ⟨0, nofun, ?_⟩
      intro b hb
      rw [List.drop_zero, List.mem_cons] at hb
      rcases hb with rfl | hb
      · exact ha
      · by_contra hpb
        rw [Bool.not_eq_false] at hpb
        simp [h.1 b hb hpb] at ha

/-- The elements with the stronger of two properties come first. -/
lemma IsCut.take_isPrefix (hp : IsCut p s k) (hq : IsCut q s l) (h : ∀ a, p a = true → q a = true) :
    s.take k <+: s.take l := by
  refine List.prefix_of_prefix_length_le (List.take_prefix k s) (List.take_prefix l s) ?_
  rw [← hp.filter_eq, ← hq.filter_eq]
  exact (List.monotone_filter_right s h).length_le

end Cut

/-! ## Keys and properties -/

variable {todos : List Todo} {p : Todo → Bool} {threshold other : Date}

/-- With the key no todo without the property comes before one that has it. -/
def SortKey.Favours (key : SortKey) (p : Todo → Bool) : Prop :=
  ∀ a b, (key.compareBy a b).isLE = true → p b = true → p a = true

/-- **A property that the key favours cuts the sorted todos.** -/
lemma SortKey.exists_isCut_sort {key : SortKey} (favours : key.Favours p) (todos : List Todo) :
    ∃ k, IsCut p (key.sort todos) k :=
  exists_isCut ((key.sort_ordered todos).imp fun {a b} h => favours a b h)

namespace Todo

/-- The remark of an important todo has an exclamation mark. -/
lemma isImportant_iff {todo : Todo} : todo.isImportant = true ↔ '!' ∈ todo.remark := by
  rw [isImportant, decide_eq_true_eq, importance, List.count_pos_iff]

/-- A todo that is not important has none. -/
lemma importance_eq_zero_iff {todo : Todo} : todo.importance = 0 ↔ todo.isImportant = false := by
  simp [isImportant]

/-- The todo has a day, and the threshold is not after it. -/
def IsDatedSince (threshold : Date) (todo : Todo) : Prop :=
  ∃ day, todo.day? = some day ∧ threshold ≤ day

/-- The selection by day decides whether a todo is dated since the threshold. -/
lemma isSince_iff {todo : Todo} : todo.isSince threshold = true ↔ todo.IsDatedSince threshold := by
  rw [isSince, Option.any_eq_true]
  simp [IsDatedSince]

end Todo

/-- No day is after itself. -/
lemma Date.le_refl (d : Date) : d ≤ d := by
  have same : compare d d = .eq := Std.ReflCmp.compare_self
  show (compare d d).isLE = true
  rw [same]
  rfl

/-- What is not after a day is not after a later one. -/
lemma Date.le_trans {a b c : Date} (hab : a ≤ b) (hbc : b ≤ c) : a ≤ c := by
  show (compare a c).isLE = true
  exact Std.TransCmp.isLE_trans hab hbc

/-- The order by importance favours important todos. -/
lemma favours_isImportant : SortKey.importance.Favours Todo.isImportant := by
  intro a b h hb
  have more : b.importance ≤ a.importance := Nat.isLE_compare.mp h
  simp only [Todo.isImportant, decide_eq_true_eq] at hb ⊢
  omega

/-- The order by day favours the todos since a day: what comes before one of them has a day that is
not before its day. -/
lemma favours_isSince (threshold : Date) : SortKey.date.Favours (Todo.isSince threshold) := by
  intro a b h hb
  obtain ⟨day, hday, since⟩ := Todo.isSince_iff.mp hb
  have compared : (Todo.compareDays a b).isLE = true := h
  rw [Todo.compareDays_eq, hday] at compared
  rw [Todo.isSince_iff]
  cases ha : a.day? with
  | none =>
    -- a todo without a day would come after `b`
    rw [ha] at compared
    exact absurd compared Bool.false_ne_true
  | some earlier =>
    rw [ha] at compared
    exact ⟨earlier, ha, Date.le_trans since compared⟩

/-- A todo that is dated since a day is dated since every earlier one. -/
lemma Todo.isSince_mono (h : threshold ≤ other) (todo : Todo) (since : todo.isSince other = true) :
    todo.isSince threshold = true := by
  obtain ⟨day, hday, le⟩ := isSince_iff.mp since
  exact isSince_iff.mpr ⟨day, hday, Date.le_trans h le⟩

/-- Todos that are not important are equal in importance, so sorting by it does not move them. -/
lemma filter_not_isImportant_sort (todos : List Todo) :
    (SortKey.importance.sort todos).filter (!·.isImportant) = todos.filter (!·.isImportant) := by
  have zero {todo : Todo} (h : todo ∈ todos.filter (!·.isImportant)) : todo.importance = 0 := by
    rw [Todo.importance_eq_zero_iff]
    simpa using (List.mem_filter.mp h).2
  rw [SortKey.filter_sort]
  refine SortKey.sort_of_tied fun a ha b hb => ?_
  rw [SortKey.compareBy, Todo.compareImportance, zero ha, zero hb]
  rfl

/-! ## What a session shows -/

namespace Session

variable {line : Text} {k : ℕ}

/-- The line is answered with the first `k` todos of the order it leaves, and the table of these is
printed. They have the property, and the todos behind them do not. -/
structure ShowsFirst (property : Todo → Prop) (todos : List Todo) (line : Text) (k : ℕ) : Prop where
  reply : (answer todos line).2 = .listing ((answer todos line).1.take k)
  printed : ∀ coloured, (answer todos line).2.written coloured =
    Table.render ((answer todos line).1.take k) ++ ['\n']
  holds : ∀ todo ∈ (answer todos line).1.take k, property todo
  fails : ∀ todo ∈ (answer todos line).1.drop k, ¬ property todo

/-- Where a cut separates the todos that are shown, they are the first ones. -/
lemma showsFirst_of_isCut {property : Todo → Prop} (decides : ∀ todo, p todo = true ↔ property todo)
    (reply : (answer todos line).2 = .listing ((answer todos line).1.filter p))
    (cut : IsCut p (answer todos line).1 k) : ShowsFirst property todos line k := by
  rw [cut.filter_eq] at reply
  refine ⟨reply, fun coloured => ?_, fun todo h => ?_, fun todo h => ?_⟩
  · rw [reply]
    rfl
  · exact (decides todo).mp (cut.holds todo h)
  · rw [← decides, cut.fails todo h]
    exact Bool.false_ne_true

/-- The answer to a request for the important todos. -/
lemma answer_of_showImportant (h : Command.read line = .ok .showImportant) (todos : List Todo) :
    answer todos line = (SortKey.importance.sort todos,
      .listing ((SortKey.importance.sort todos).filter Todo.isImportant)) := by
  rw [answer, h]
  rfl

/-- The answer to a request for the todos since a day. -/
lemma answer_of_showSince (h : Command.read line = .ok (.showSince threshold))
    (todos : List Todo) :
    answer todos line = (SortKey.date.sort todos,
      .listing ((SortKey.date.sort todos).filter (Todo.isSince threshold))) := by
  rw [answer, h]
  rfl

/-- **What is shown is the beginning of the new order.** A request for the important todos shows the
first ones of the order it leaves, those whose remark has an exclamation mark, and leaves the others
behind them in the order they had. A request for the todos since a day shows the first ones of the
order it leaves, those whose day is not before that day. Two such requests leave the same order, and
the one for the later day shows a beginning of what the other shows. -/
theorem exists_showsFirst (todos : List Todo) :
    (∀ line, Command.read line = .ok .showImportant →
      ∃ k, ShowsFirst (fun todo => '!' ∈ todo.remark) todos line k ∧
        (answer todos line).1.drop k = todos.filter fun todo => '!' ∉ todo.remark) ∧
    (∀ line threshold, Command.read line = .ok (.showSince threshold) →
      ∃ k, ShowsFirst (Todo.IsDatedSince threshold) todos line k) ∧
    ∀ line lineLater threshold later, Command.read line = .ok (.showSince threshold) →
      Command.read lineLater = .ok (.showSince later) → threshold ≤ later →
      (answer todos line).1 = (answer todos lineLater).1 ∧
        ∃ shown shownLater, (answer todos line).2 = .listing shown ∧
          (answer todos lineLater).2 = .listing shownLater ∧ shownLater <+: shown := by
  refine ⟨fun line h => ?_, fun line threshold h => ?_,
    fun line lineLater threshold later h hlater le => ?_⟩
  · obtain ⟨k, cut⟩ := SortKey.exists_isCut_sort favours_isImportant todos
    have hanswer := answer_of_showImportant h todos
    have behind : (SortKey.importance.sort todos).drop k =
        todos.filter fun todo => '!' ∉ todo.remark := by
      rw [← cut.filter_not_eq, filter_not_isImportant_sort]
      refine List.filter_congr fun todo _ => ?_
      rw [Bool.eq_iff_iff, decide_eq_true_eq, ← Todo.isImportant_iff]
      simp
    refine ⟨k, showsFirst_of_isCut (fun todo => Todo.isImportant_iff) ?_ ?_, ?_⟩
    · rw [hanswer]
    · rwa [hanswer]
    · rwa [hanswer]
  · obtain ⟨k, cut⟩ := SortKey.exists_isCut_sort (favours_isSince threshold) todos
    have hanswer := answer_of_showSince h todos
    refine ⟨k, showsFirst_of_isCut (fun todo => Todo.isSince_iff) ?_ ?_⟩
    · rw [hanswer]
    · rwa [hanswer]
  · obtain ⟨k, cut⟩ := SortKey.exists_isCut_sort (favours_isSince threshold) todos
    obtain ⟨l, cutLater⟩ := SortKey.exists_isCut_sort (favours_isSince later) todos
    rw [answer_of_showSince h, answer_of_showSince hlater]
    refine ⟨rfl, _, _, rfl, rfl, ?_⟩
    rw [cut.filter_eq, cutLater.filter_eq]
    exact cutLater.take_isPrefix cut (Todo.isSince_mono le)

/-- The requests over todos with and without marks and days. One of them asks for the very day on
which a todo is dated, and one for a later day. -/
theorem exists_showsFirst_requests :
    let todos := [Todo.ofRemark "a".toList "// TODO x; 2020-02-31; calm".toList,
      Todo.ofRemark "a".toList "// TODO y; soon; loud!".toList,
      Todo.ofRemark "a".toList "// TODO z; 2021; louder!!".toList]
    (∃ k, ShowsFirst (fun todo => '!' ∈ todo.remark) todos "important now".toList k) ∧
      (∃ threshold k, Command.read "date 2020-03-02".toList = .ok (.showSince threshold) ∧
        ShowsFirst (Todo.IsDatedSince threshold) todos "date 2020-03-02".toList k) ∧
      ∃ shown shownLater, (answer todos "date 2020-03-02".toList).2 = .listing shown ∧
        (answer todos "date 2021".toList).2 = .listing shownLater ∧ shownLater <+: shown := by
  intro todos
  have important : Command.read "important now".toList = .ok .showImportant := by decide +kernel
  have since : Command.read "date 2020-03-02".toList =
      .ok (.showSince ⟨2020, 3, 2, by decide, by decide, by decide, by decide⟩) := by decide +kernel
  have later : Command.read "date 2021".toList =
      .ok (.showSince ⟨2021, 1, 1, by decide, by decide, by decide, by decide⟩) := by decide +kernel
  obtain ⟨showImportant, showSince, both⟩ := exists_showsFirst todos
  obtain ⟨k, first, -⟩ := showImportant _ important
  obtain ⟨l, dated⟩ := showSince _ _ since
  exact ⟨⟨k, first⟩, ⟨_, l, since, dated⟩, (both _ _ _ _ since later (by decide)).2⟩

end Session

end Backlog
