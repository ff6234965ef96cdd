import Backlog.Proofs.FullDateEnd

set_option relaxedAutoImplicit false
set_option autoImplicit false

/-!
# Full dates by their places

A full date is told by ten places: dashes in the fifth and the eighth, digits in all others. The
places can be looked up in the characters of a text or in its bytes. The answer is the same, and a
cut that falls inside a character needs no rule of its own: such a text ends in no full date.

## Main definitions

* `Backlog.HasDatePlaces`, `Backlog.EndsInDatePlaces` — the places of a full date in a list, and in
  the last ten elements of a list.
* `Backlog.EndsInDateCharacters`, `Backlog.EndsInDateBytes` — the last ten characters of a text, and
  the last ten bytes, have the places of a full date.

## Main results

* `Backlog.writesFullDate_iff` — the full dates by their places.
* `Backlog.endsInDateBytes_iff` — what the bytes say is what the characters say.
* `Backlog.endsInFullDate_iff_endsInDateCharacters` — full dates at the end of a text, by places.
* `Backlog.not_endsInDateCharacters_of_cut` — texts that are too short or cut inside a character.
-/

namespace Backlog

open Text

/-! ## Places -/

section Places

variable {α β : Type} {dash digit : α → Prop} {s : List α}

/-- The fifth and the eighth element of the list are dashes, and all others digits. -/
def HasDatePlaces (dash digit : α → Prop) (s : List α) : Prop :=
  ∀ i (h : i < s.length), if i = 4 ∨ i = 7 then dash s[i] else digit s[i]

/-- The list has ten elements or more, and the last ten have the places of a full date. -/
def EndsInDatePlaces (dash digit : α → Prop) (s : List α) : Prop :=
  10 ≤ s.length ∧ HasDatePlaces dash digit (s.drop (s.length - 10))

instance [DecidablePred dash] [DecidablePred digit] : Decidable (HasDatePlaces dash digit s) :=
  inferInstanceAs (Decidable (∀ i (h : i < s.length),
    if i = 4 ∨ i = 7 then dash s[i] else digit s[i]))

instance [DecidablePred dash] [DecidablePred digit] : Decidable (EndsInDatePlaces dash digit s) :=
  inferInstanceAs (Decidable (_ ∧ _))

/-- The last ten elements are the end of the list that has this length. -/
lemma endsInDatePlaces_iff : EndsInDatePlaces dash digit s ↔
    ∃ date, date <:+ s ∧ date.length = 10 ∧ HasDatePlaces dash digit date := by
  constructor
  · rintro ⟨enough, places⟩
    refine ⟨s.drop (s.length - 10), List.drop_suffix _ s, ?_, places⟩
    rw [List.length_drop]
    omega
  · rintro ⟨date, last, length, places⟩
    refine ⟨length ▸ last.length_le, ?_⟩
    rwa [← length, ← List.suffix_iff_eq_drop.mp last]

/-- Nothing else stands in the places. -/
lemma HasDatePlaces.dash_or_digit (h : HasDatePlaces dash digit s) {x : α} (hx : x ∈ s) :
    dash x ∨ digit x := by
  obtain ⟨i, hi, rfl⟩ := List.mem_iff_getElem.mp hx
  have place := h i hi
  split_ifs at place
  · exact .inl place
  · exact .inr place

/-- Places are kept where dashes and digits are. -/
lemma hasDatePlaces_map_iff {f : α → β} {dash' digit' : β → Prop}
    (hdash : ∀ x ∈ s, dash' (f x) ↔ dash x) (hdigit : ∀ x ∈ s, digit' (f x) ↔ digit x) :
    HasDatePlaces dash' digit' (s.map f) ↔ HasDatePlaces dash digit s := by
  unfold HasDatePlaces
  simp only [List.length_map, List.getElem_map]
  refine forall₂_congr fun i hi => ?_
  rw [hdash _ (List.getElem_mem hi), hdigit _ (List.getElem_mem hi)]

end Places

/-! ## Characters -/

variable {t : Text} {c : Char}

/-- The last ten characters of the text are a dash in the fifth and the eighth place and ASCII
digits in the others. -/
def EndsInDateCharacters (t : Text) : Prop :=
  EndsInDatePlaces (· = '-') (·.isDigit = true) t

instance : Decidable (EndsInDateCharacters t) := inferInstanceAs (Decidable (EndsInDatePlaces ..))

/-- **Full dates by their places.**

**Proof sketch.** The parts of a full date have four, two and two characters, so the dashes between
them are in their places. A text with these places is cut at them into the three parts. -/
lemma writesFullDate_iff : WritesFullDate t ↔
    t.length = 10 ∧ HasDatePlaces (· = '-') (·.isDigit = true) t := by
  constructor
  · rintro ⟨year, month, day, rfl, ⟨hyear, hmonth, hday⟩, digits⟩
    obtain ⟨y₁, y₂, y₃, y₄, rfl⟩ := List.length_eq_four.mp hyear
    obtain ⟨m₁, m₂, rfl⟩ := List.length_eq_two.mp hmonth
    obtain ⟨d₁, d₂, rfl⟩ := List.length_eq_two.mp hday
    refine ⟨rfl, fun i hi => ?_⟩
    replace hi : i < 10 := hi
    simp only [List.cons_append, List.nil_append, List.forall_mem_cons] at digits
    interval_cases i <;> simp [digits]
  · rintro ⟨length, places⟩
    have dashed {i : ℕ} (hi : i = 4 ∨ i = 7) : t.drop i = '-' :: t.drop (i + 1) := by
      have inside : i < t.length := by omega
      have place := places i inside
      rw [if_pos hi] at place
      rw [List.drop_eq_getElem_cons inside, place]
    have digit {i : ℕ} (hi : i < t.length) (other : ¬ (i = 4 ∨ i = 7)) : t[i].isDigit = true := by
      have place := places i hi
      rwa [if_neg other] at place
    refine ⟨t.take 4, (t.drop 5).take 2, t.drop 8, ?_, by simp [length], ?_⟩
    · calc t = t.take 4 ++ t.drop 4 := (List.take_append_drop 4 t).symm
        _ = t.take 4 ++ '-' :: ((t.drop 5).take 2 ++ (t.drop 5).drop 2) := by
          rw [dashed (.inl rfl), List.take_append_drop]
        _ = t.take 4 ++ '-' :: (t.drop 5).take 2 ++ '-' :: t.drop 8 := by
          rw [List.drop_drop, dashed (.inr rfl), List.append_assoc, List.cons_append]
    · intro c hc
      rw [List.mem_append, List.mem_append, List.mem_take_iff_getElem, List.mem_take_iff_getElem,
        List.mem_drop_iff_getElem] at hc
      rcases hc with (⟨i, hi, rfl⟩ | ⟨i, hi, rfl⟩) | ⟨i, hi, rfl⟩
      · exact digit _ (by omega)
      · rw [List.length_drop] at hi
        rw [List.getElem_drop]
        exact digit _ (by omega)
      · exact digit _ (by omega)

/-- A full date stands at the end of a text if the last ten characters before the blanks there have
its places. -/
lemma endsInFullDate_iff_endsInDateCharacters :
    EndsInFullDate t ↔ EndsInDateCharacters (trimEnd t) := by
  rw [EndsInDateCharacters, endsInDatePlaces_iff]
  simp only [EndsInFullDate, writesFullDate_iff]

/-- **Where there are no last ten bytes**, because the text is shorter or the cut before them falls
inside a character, the last ten characters are no full date.

**Proof sketch.** A full date takes ten bytes. So if the text ends in one, it has an end that takes
ten bytes. -/
lemma not_endsInDateCharacters_of_cut (h : byteLength t < 10 ∨ CutsCharacter 10 t) :
    ¬ EndsInDateCharacters t := by
  rw [EndsInDateCharacters, endsInDatePlaces_iff]
  rintro ⟨date, last, form⟩
  have ends : lastBytes? 10 t = some date :=
    lastBytes?_eq_some_iff.mpr ⟨last, (writesFullDate_iff.mpr form).byteLength_eq⟩
  rw [lastBytes?_eq_none_iff.mpr h] at ends
  cases ends

/-! ## Bytes -/

/-- The last ten bytes of the text are that of a dash in the fifth and the eighth place and those of
ASCII digits in the others. It is not asked whether a character begins with the first of them. -/
def EndsInDateBytes (t : Text) : Prop :=
  EndsInDatePlaces (· = 0x2D) (fun x => 0x30 ≤ x ∧ x ≤ 0x39) (toUtf8 t)

/-- The byte of the dash. -/
lemma toUInt8_eq_dash_iff (one : c.utf8Size = 1) : c.toUInt8 = 0x2D ↔ c = '-' := by
  rw [← UInt8.toNat_inj, toNat_toUInt8 one, ← Char.toNat_inj]
  rfl

/-- The bytes of the digits. -/
lemma toUInt8_isDigit_iff (one : c.utf8Size = 1) :
    (0x30 ≤ c.toUInt8 ∧ c.toUInt8 ≤ 0x39) ↔ c.isDigit = true := by
  rw [UInt8.le_iff_toNat_le, UInt8.le_iff_toNat_le, toNat_toUInt8 one]
  simp only [Char.isDigit, Bool.and_eq_true, decide_eq_true_eq, ge_iff_le, UInt32.le_iff_toNat_le]
  rfl

/-- **What the bytes say is what the characters say.**

**Proof sketch.** Dashes and digits have bytes below `0x80`, and such bytes at the end of a text are
characters of one byte there. These have the places in the text that their bytes have among the
bytes. -/
theorem endsInDateBytes_iff : EndsInDateBytes t ↔ EndsInDateCharacters t := by
  have same {date : Text} (small : ∀ c ∈ date, c.utf8Size = 1) :
      HasDatePlaces (· = 0x2D) (fun x => 0x30 ≤ x ∧ x ≤ 0x39) (date.map Char.toUInt8) ↔
        HasDatePlaces (· = '-') (·.isDigit = true) date :=
    hasDatePlaces_map_iff (fun c hc => toUInt8_eq_dash_iff (small c hc))
      fun c hc => toUInt8_isDigit_iff (small c hc)
  rw [EndsInDateBytes, EndsInDateCharacters, endsInDatePlaces_iff, endsInDatePlaces_iff]
  constructor
  · rintro ⟨bytes, last, length, places⟩
    have low : ∀ x ∈ bytes, x < 0x80 := by
      intro x hx
      rcases places.dash_or_digit hx with rfl | digit
      · decide
      · exact UInt8.lt_of_le_of_lt digit.2 (by decide)
    obtain ⟨date, hdate, small, rfl⟩ := exists_isSuffix_of_low low last
    rw [List.length_map] at length
    exact ⟨date, hdate, length, (same small).mp places⟩
  · rintro ⟨date, ⟨before, rfl⟩, length, places⟩
    have small : ∀ c ∈ date, c.utf8Size = 1 := by
      intro c hc
      rcases places.dash_or_digit hc with rfl | digit
      · rfl
      · exact utf8Size_of_isDigit digit
    refine ⟨date.map Char.toUInt8, ?_, ?_, (same small).mpr places⟩
    · rw [toUtf8_append, toUtf8_of_forall small]
      exact List.suffix_append _ _
    · rw [List.length_map, length]

end Backlog
