import Backlog.Proofs.VisitOrder
import Mathlib.Data.List.Flatten

set_option relaxedAutoImplicit false
set_option autoImplicit false

/-!
# Parts of what is found

What is found depends on the visits alone, and the order of the visits on their places alone. So
searches can be compared by their visits. Where one comes across some of the visits of another one,
it finds a part of what the other one finds. Where two searches share the visits of a third one, and
have at most skipped places in common, their findings can be put together to those of the third one.

## Main definitions

* `Backlog.IsInterleaving` — a list that is put together from two lists, each in its order.
* `Backlog.Findings.IsPartOf`, `Backlog.Findings.IsJoint` — findings that are a part of others, or
  put together from them.

## Main results

* `Backlog.Findings.IsGathered.isPartOf` — what is found at some of the visits.
* `Backlog.Findings.IsGathered.isJoint` — what is found at the visits of two searches.
-/

namespace Backlog

/-! ## Interleavings -/

/-- **The whole list is put together from the two others**: its elements are taken from the front of
the one or the other, one after the other, until nothing is left of both. -/
inductive IsInterleaving {α : Type} : List α → List α → List α → Prop
  | nil : IsInterleaving [] [] []
  | first {a : α} {whole first second : List α} (rest : IsInterleaving whole first second) :
      IsInterleaving (a :: whole) (a :: first) second
  | second {a : α} {whole first second : List α} (rest : IsInterleaving whole first second) :
      IsInterleaving (a :: whole) first (a :: second)

namespace IsInterleaving

variable {α : Type} {whole first second : List α}

/-- More elements may be taken from the first list. -/
lemma append_first (h : IsInterleaving whole first second) (part : List α) :
    IsInterleaving (part ++ whole) (part ++ first) second := by
  induction part with
  | nil => exact h
  | cons a part ih => exact .first ih

/-- More elements may be taken from the second list. -/
lemma append_second (h : IsInterleaving whole first second) (part : List α) :
    IsInterleaving (part ++ whole) first (part ++ second) := by
  induction part with
  | nil => exact h
  | cons a part ih => exact .second ih

end IsInterleaving

namespace Findings

variable {part whole first second shared : Findings} {P Q : Visit → Prop}

/-! ## Some of the visits -/

/-- **The findings are a part of the others**: the todos are among them, in the same order, and no
more files are counted. -/
structure IsPartOf (part whole : Findings) : Prop where
  todos : part.todos.Sublist whole.todos
  scanned : part.scanned ≤ whole.scanned
  skipped : part.skipped ≤ whole.skipped

/-- What is found at some visits is a part of what is found at all. -/
lemma isPartOf_total {some visits : List Visit} (h : some.Sublist visits) :
    (total (some.map Visit.findings)).IsPartOf (total (visits.map Visit.findings)) := by
  rw [total_findings, total_findings]
  exact ⟨(h.filterMap _).flatMap _, (h.filterMap _).length_le, (h.filterMap _).length_le⟩

/-- What is gathered from some of the visits in a list, which is ordered by places, is found at
these visits of the list. -/
lemma IsGathered.eq_total_filter [DecidablePred P] {visits : List Visit} (h : part.IsGathered P)
    (ordered : visits.Pairwise Visit.Before) (mem : ∀ visit, P visit → visit ∈ visits) :
    part = total ((visits.filter P).map Visit.findings) := by
  refine h.unique ⟨visits.filter P, fun visit => ?_, ordered.filter _, rfl⟩
  rw [List.mem_filter, decide_eq_true_eq, and_iff_right_of_imp (mem visit)]

/-- **What is found at some of the visits** is a part of what is found at all. -/
lemma IsGathered.isPartOf (h : part.IsGathered P) (hwhole : whole.IsGathered Q)
    (among : ∀ visit, P visit → Q visit) : part.IsPartOf whole := by
  classical
  obtain ⟨visits, mem, ordered, rfl⟩ := hwhole
  rw [h.eq_total_filter ordered fun visit hvisit => (mem visit).mpr (among visit hvisit)]
  exact isPartOf_total List.filter_sublist

/-! ## The visits of two searches -/

/-- **The findings are put together from two others**, where what is shared by these is counted
once. The shared findings have no todos and no files that were read. -/
structure IsJoint (whole first second shared : Findings) : Prop where
  todos : IsInterleaving whole.todos first.todos second.todos
  scanned : whole.scanned = first.scanned + second.scanned
  skipped : whole.skipped + shared.skipped = first.skipped + second.skipped

/-- What is found in one more place of the first search is found in one more place. -/
lemma IsJoint.append_first (h : whole.IsJoint first second shared) (part : Findings) :
    (part.append whole).IsJoint (part.append first) second shared where
  todos := h.todos.append_first part.todos
  scanned := by simp only [append, h.scanned, Nat.add_assoc]
  skipped := by simp only [append, Nat.add_assoc, h.skipped]

/-- What is found in one more place of the second search is found in one more place. -/
lemma IsJoint.append_second (h : whole.IsJoint first second shared) (part : Findings) :
    (part.append whole).IsJoint first (part.append second) shared where
  todos := h.todos.append_second part.todos
  scanned := by simp only [append, h.scanned, Nat.add_left_comm]
  skipped := by simp only [append, Nat.add_assoc, h.skipped, Nat.add_left_comm]

/-- One more place that cannot be read may be shared by both searches. -/
lemma IsJoint.append_unreadable (h : whole.IsJoint first second shared) :
    (unreadable.append whole).IsJoint (unreadable.append first) (unreadable.append second)
      (unreadable.append shared) where
  todos := h.todos
  scanned := by simp only [append, unreadable, h.scanned, Nat.zero_add]
  skipped := by
    have skipped := h.skipped
    simp only [append, unreadable]
    omega

/-- What is found at visits is put together from what is found at those of the one kind and those of
the other, if every visit is of one of the kinds and only skipped ones are of both. -/
lemma isJoint_total (p q : Visit → Bool) {visits : List Visit}
    (either : ∀ visit ∈ visits, p visit = true ∨ q visit = true)
    (skips : ∀ visit, p visit = true → q visit = true → visit.findings = unreadable) :
    (total (visits.map Visit.findings)).IsJoint (total ((visits.filter p).map Visit.findings))
      (total ((visits.filter q).map Visit.findings))
      (total ((visits.filter fun visit => p visit && q visit).map Visit.findings)) := by
  induction visits with
  | nil => exact ⟨.nil, rfl, rfl⟩
  | cons visit visits ih =>
    rw [List.forall_mem_cons] at either
    have rest := ih either.2
    have more (others : List Visit) : total ((visit :: others).map Visit.findings) =
        visit.findings.append (total (others.map Visit.findings)) := rfl
    cases hp : p visit <;> cases hq : q visit
    case false.false => simp [hp, hq] at either
    case true.false =>
      simp only [List.filter_cons, hp, hq, more, Bool.and_false, Bool.false_eq_true, if_true,
        if_false]
      exact rest.append_first _
    case false.true =>
      simp only [List.filter_cons, hp, hq, more, Bool.false_and, Bool.false_eq_true, if_true,
        if_false]
      exact rest.append_second _
    case true.true =>
      simp only [List.filter_cons, hp, hq, more, Bool.and_self, if_true, skips visit hp hq]
      exact rest.append_unreadable

/-- **What is found at the visits of two searches** is put together from what each of them finds, if
they have at most skipped places in common. -/
lemma IsGathered.isJoint (hwhole : whole.IsGathered fun visit => P visit ∨ Q visit)
    (hfirst : first.IsGathered P) (hsecond : second.IsGathered Q)
    (hshared : shared.IsGathered fun visit => P visit ∧ Q visit)
    (skips : ∀ visit, P visit → Q visit → visit.findings = unreadable) :
    whole.IsJoint first second shared := by
  classical
  obtain ⟨visits, mem, ordered, rfl⟩ := hwhole
  rw [hfirst.eq_total_filter ordered fun visit h => (mem visit).mpr (.inl h),
    hsecond.eq_total_filter ordered fun visit h => (mem visit).mpr (.inr h),
    hshared.eq_total_filter ordered fun visit h => (mem visit).mpr (.inl h.1)]
  simp only [Bool.decide_and]
  refine isJoint_total _ _ (fun visit h => ?_) fun visit hp hq => ?_
  · simpa only [decide_eq_true_eq] using (mem visit).mp h
  · exact skips visit (of_decide_eq_true hp) (of_decide_eq_true hq)

end Findings

end Backlog
