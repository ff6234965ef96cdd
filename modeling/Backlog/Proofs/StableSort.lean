import Mathlib.Data.List.Basic

set_option relaxedAutoImplicit false
set_option autoImplicit false

/-!
# Stable sorts

The stable sort of a list by a comparison is the only list that holds the same elements, in order,
with equal elements in the order of the list. From this follows what becomes of several sorts in a
row: the last one counts first, and those before it only decide where it finds elements equal.

## Main definitions

* `Backlog.sortBy` — the sort that a comparison gives.
* `Backlog.IsStableSort` — its description.

## Main results

* `Backlog.isStableSort_iff` — a list has one stable sort, and `sortBy` computes it.
* `Backlog.filter_sortBy` — a part of a list is sorted as the list is.
* `Backlog.sortBy_sortBy` — two sorts in a row are one by the combined comparison.
-/

namespace Backlog

variable {α : Type} {cmp cmp₁ cmp₂ : α → α → Ordering} {s r r₁ r₂ : List α}

/-- The elements in the order of the comparison; those that are equal in it keep their order. -/
def sortBy (cmp : α → α → Ordering) (s : List α) : List α := s.mergeSort fun a b => (cmp a b).isLE

/-- `sorted` holds the elements of `s`, none before one that is less, and those that are equal to
any one of them in the order of `s`. -/
structure IsStableSort (cmp : α → α → Ordering) (s sorted : List α) : Prop where
  perm : sorted.Perm s
  ordered : sorted.Pairwise fun a b => (cmp a b).isLE
  ties : ∀ a ∈ s, sorted.filter (cmp a · == .eq) = s.filter (cmp a · == .eq)

/-- A sort holds the elements of the list. -/
lemma sortBy_perm (cmp : α → α → Ordering) (s : List α) : (sortBy cmp s).Perm s :=
  List.mergeSort_perm s _

/-- A list is sorted alike by comparisons that agree on it. -/
lemma sortBy_congr (h : ∀ a ∈ s, ∀ b ∈ s, cmp₁ a b = cmp₂ a b) : sortBy cmp₁ s = sortBy cmp₂ s := by
  have same := List.map_mergeSort (f := id) (l := s) (r := fun a b => (cmp₁ a b).isLE)
    (s := fun a b => (cmp₂ a b).isLE) fun a ha b hb => by rw [h a ha b hb]; rfl
  rwa [List.map_id, List.map_id] at same

/-- In a list that is in order nothing moves. -/
lemma sortBy_of_pairwise (h : s.Pairwise fun a b => (cmp a b).isLE) : sortBy cmp s = s :=
  List.mergeSort_of_pairwise h

/-- Where all are equal nothing moves. -/
lemma sortBy_of_forall_eq (h : ∀ a ∈ s, ∀ b ∈ s, cmp a b = .eq) : sortBy cmp s = s := by
  apply sortBy_of_pairwise
  refine List.pairwise_of_forall_mem_list fun a ha b hb => ?_
  rw [h a ha b hb]
  rfl

/-- A part of a stable sort is the stable sort of the part. -/
lemma IsStableSort.filter (h : IsStableSort cmp s r) (p : α → Bool) :
    IsStableSort cmp (s.filter p) (r.filter p) := by
  refine ⟨h.perm.filter p, h.ordered.filter p, fun a ha => ?_⟩
  have ties := congrArg (List.filter p) (h.ties a (List.mem_of_mem_filter ha))
  simpa only [List.filter_filter, Bool.and_comm] using ties

section Preorder

variable [Std.TransCmp cmp] [Std.TransCmp cmp₁] [Std.TransCmp cmp₂]

/-- Of two elements one is not greater than the other. -/
lemma isLE_or_isLE (a b : α) : ((cmp a b).isLE || (cmp b a).isLE) = true := by
  rw [@Std.OrientedCmp.eq_swap _ cmp _ b a]
  cases cmp a b <;> rfl

/-- A sort is ordered. -/
lemma sortBy_ordered (s : List α) : (sortBy cmp s).Pairwise fun a b => (cmp a b).isLE :=
  List.pairwise_mergeSort (fun _ _ _ => Std.TransCmp.isLE_trans) isLE_or_isLE s

/-- The lists that a sort keeps are those that are in order. -/
lemma sortBy_eq_self_iff : sortBy cmp s = s ↔ s.Pairwise fun a b => (cmp a b).isLE := by
  refine ⟨fun same => ?_, sortBy_of_pairwise⟩
  rw [← same]
  exact sortBy_ordered s

/-- **A sort is stable.**

**Proof sketch.** The elements equal to one of them are an ordered part of the list, so a part of
the sort. They are no smaller part than the equal elements of the sort, because the sort holds the
same elements. -/
lemma isStableSort_sortBy (s : List α) : IsStableSort cmp s (sortBy cmp s) := by
  refine ⟨sortBy_perm cmp s, sortBy_ordered s, fun a _ => ?_⟩
  set p : α → Bool := (cmp a · == .eq)
  have ordered : (s.filter p).Pairwise fun b c => (cmp b c).isLE := by
    refine List.pairwise_of_forall_mem_list fun b hb c hc => ?_
    have hab := beq_iff_eq.mp (List.mem_filter.mp hb).2
    have hac := beq_iff_eq.mp (List.mem_filter.mp hc).2
    rw [← Std.TransCmp.congr_left hab, hac]
    rfl
  have part : (s.filter p).Sublist (sortBy cmp s) :=
    List.sublist_mergeSort (fun _ _ _ => Std.TransCmp.isLE_trans) isLE_or_isLE ordered
      List.filter_sublist
  have inside : (s.filter p).Sublist ((sortBy cmp s).filter p) := by
    simpa using part.filter p
  exact (inside.eq_of_length ((sortBy_perm cmp s).filter p).length_eq.symm).symm

/-- Ordered lists with the same elements, and equal elements in the same order, are equal.

**Proof sketch.** Induction on the first list. The first elements of the two lists are not greater
than each other, so they are equal in the comparison, and then they are the first of the same list
of equal elements. -/
lemma eq_of_ordered_of_ties (perm : r₁.Perm r₂) (h₁ : r₁.Pairwise fun a b => (cmp a b).isLE)
    (h₂ : r₂.Pairwise fun a b => (cmp a b).isLE)
    (ties : ∀ a ∈ r₁, r₁.filter (cmp a · == .eq) = r₂.filter (cmp a · == .eq)) : r₁ = r₂ := by
  induction r₁ generalizing r₂ with
  | nil => exact perm.nil_eq
  | cons a r₁ ih =>
    cases r₂ with
    | nil => exact absurd perm.length_eq (by simp)
    | cons b r₂ =>
      rw [List.pairwise_cons] at h₁ h₂
      have self : cmp a a = .eq := Std.ReflCmp.compare_self
      have tied : cmp a b = .eq := by
        by_cases same : a = b
        · rw [← same, self]
        · have hb := (List.mem_cons.mp (perm.mem_iff.mpr List.mem_cons_self)).resolve_left
            (Ne.symm same)
          have ha := (List.mem_cons.mp (perm.mem_iff.mp List.mem_cons_self)).resolve_left same
          exact Std.OrientedCmp.isLE_antisymm (h₁.1 b hb) (h₂.1 a ha)
      have heads := ties a List.mem_cons_self
      rw [List.filter_cons_of_pos (by simp [self]), List.filter_cons_of_pos (by simp [tied])]
        at heads
      obtain rfl : a = b := (List.cons.inj heads).1
      refine congrArg (a :: ·) (ih perm.cons_inv h₁.2 h₂.2 fun c hc => ?_)
      have rest := ties c (List.mem_cons_of_mem a hc)
      simp only [List.filter_cons] at rest
      split_ifs at rest
      · exact (List.cons.inj rest).2
      · exact rest

/-- **A list has one stable sort**, which `sortBy` computes. -/
theorem isStableSort_iff : IsStableSort cmp s r ↔ r = sortBy cmp s := by
  constructor
  · intro h
    have sorted : IsStableSort cmp s (sortBy cmp s) := isStableSort_sortBy s
    refine eq_of_ordered_of_ties (h.perm.trans sorted.perm.symm) h.ordered sorted.ordered ?_
    intro a ha
    have hs := h.perm.mem_iff.mp ha
    rw [h.ties a hs, sorted.ties a hs]
  · rintro rfl
    exact isStableSort_sortBy s

/-! ## Parts of a list, and sorts in a row -/

/-- A part of a list is sorted as the list is. -/
theorem filter_sortBy (p : α → Bool) (s : List α) :
    (sortBy cmp s).filter p = sortBy cmp (s.filter p) :=
  isStableSort_iff.mp ((isStableSort_sortBy s).filter p)

/-- **Two sorts in a row** are one sort, by the second comparison first and then by the first.

**Proof sketch.** The combined sort is a stable sort, by the second comparison, of what the first
one leaves: among elements that are equal in the second comparison, the combined comparison is the
first. -/
theorem sortBy_sortBy (s : List α) :
    sortBy cmp₁ (sortBy cmp₂ s) = sortBy (compareLex cmp₁ cmp₂) s := by
  refine (isStableSort_iff.mp ⟨?_, ?_, fun a _ => ?_⟩).symm
  · exact (sortBy_perm _ s).trans (sortBy_perm cmp₂ s).symm
  · refine (sortBy_ordered s).imp fun {a b} h => ?_
    simp only [compareLex] at h
    exact Ordering.isLE_left_of_isLE_then h
  · rw [filter_sortBy, filter_sortBy]
    refine sortBy_congr fun b hb c hc => ?_
    have hab := beq_iff_eq.mp (List.mem_filter.mp hb).2
    have hac := beq_iff_eq.mp (List.mem_filter.mp hc).2
    rw [compareLex, ← Std.TransCmp.congr_left hab, hac]
    rfl

end Preorder

end Backlog
