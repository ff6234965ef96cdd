import Backlog.Invocation.Argument
import Backlog.Proofs.FieldDivision

set_option relaxedAutoImplicit false
set_option autoImplicit false

/-!
# The kinds of arguments, described

Each kind of argument is spelled in its own way, and every word is the spelling of exactly one
argument. So a word can be told from its kind, and not only the kind from the word.

## Main definitions

* `Backlog.Flag.longName` — the long name of a flag.
* `Backlog.withValue` — a name with the value that is joined to it, if there is one.
* `Backlog.IsPlain` — the words that are no options.
* `Backlog.Argument.IsSpelled` — how the arguments are spelled.

## Main results

* `Backlog.nameAndValue_withValue` — a name and the value joined to it are told apart.
* `Backlog.Argument.isSpelled_iff` — `ofText` finds the only argument that a word spells.
-/

namespace Backlog

open Text

/-! ## Long names -/

/-- The long name of a flag. -/
def Flag.longName : Flag → Text
  | .noIgnore => "no-ignore".toList
  | .verbose => "verbose".toList
  | .help => "help".toList
  | .version => "version".toList

variable {word name : Text}

/-- A flag is found by its long name. -/
lemma Flag.ofName?_eq_some_iff {flag : Flag} :
    Flag.ofName? name = some flag ↔ name = flag.longName := by
  constructor
  · unfold Flag.ofName?
    split_ifs <;> rintro ⟨⟩ <;> assumption
  · rintro rfl
    cases flag <;> decide

/-- No long name of a flag holds an equals sign. -/
lemma Flag.notMem_longName (flag : Flag) : '=' ∉ flag.longName := by
  cases flag <;> decide

/-! ## Values -/

/-- A name, and behind it an equals sign and the value if there is one. -/
def withValue (name : Text) : Option Text → Text
  | none => name
  | some value => name ++ '=' :: value

/-- **A name and the value joined to it are told apart**, since a name holds no equals sign. -/
lemma nameAndValue_withValue (h : '=' ∉ name) (value? : Option Text) :
    nameAndValue (withValue name value?) = (name, value?) := by
  cases value? with
  | none => rw [withValue, nameAndValue, cutAt?_eq_none h]
  | some value => rw [withValue, nameAndValue, cutAt?_eq_some_iff.mpr ⟨rfl, h⟩]

/-- Every text is a name with or without a value. -/
lemma exists_eq_withValue (t : Text) : ∃ name value?, '=' ∉ name ∧ t = withValue name value? := by
  by_cases h : '=' ∈ t
  · obtain ⟨name, value, rfl, absent⟩ := List.eq_append_cons_of_mem h
    exact ⟨name, some value, absent, rfl⟩
  · exact ⟨t, none, h, rfl⟩

/-! ## Words -/

/-- The word is no option: it does not begin with a dash, or is a dash by itself. -/
def IsPlain (word : Text) : Prop := word.head? ≠ some '-' ∨ word = ['-']

/-- Whether a word is plain can be decided. -/
instance (word : Text) : Decidable (IsPlain word) := inferInstanceAs (Decidable (_ ∨ _))

/-- A plain word does not separate options from other words. -/
lemma IsPlain.ne_dashes (h : IsPlain word) (long : Text) : word ≠ '-' :: '-' :: long := by
  rintro rfl
  rcases h with h | h
  · exact h rfl
  · cases h

namespace Argument

/-- **How the arguments are spelled.** A long option is a name behind two dashes, with or without a
value. Short flags stand behind one dash. All other words are plain. -/
inductive IsSpelled : Argument → Text → Prop
  | flag (flag : Flag) (value? : Option Text) :
      IsSpelled (.flag flag value?) ('-' :: '-' :: withValue flag.longName value?)
  | extension (value? : Option Text) :
      IsSpelled (.extension value?) ('-' :: '-' :: withValue "ext".toList value?)
  | unknown {name : Text} (value? : Option Text) :
      '=' ∉ name → name ≠ "ext".toList → (∀ flag : Flag, name ≠ flag.longName) →
        IsSpelled .unknown ('-' :: '-' :: withValue name value?)
  | letters {first : Char} (others : Text) :
      first ≠ '-' → IsSpelled (.letters (first :: others)) ('-' :: first :: others)
  | plain {word : Text} : IsPlain word → IsSpelled (.plain word) word

/-- A long option is what its name says. -/
lemma ofText_long (h : '=' ∉ name) (value? : Option Text) :
    ofText ('-' :: '-' :: withValue name value?) = ofLong name value? := by
  rw [ofText, nameAndValue_withValue h]

/-- A word behind two dashes spells the argument that is found. -/
lemma isSpelled_ofLong (h : '=' ∉ name) (value? : Option Text) :
    IsSpelled (ofLong name value?) ('-' :: '-' :: withValue name value?) := by
  unfold ofLong
  split_ifs with extension
  · rw [extension]
    exact .extension value?
  · cases known : Flag.ofName? name with
    | some flag =>
      rw [Flag.ofName?_eq_some_iff.mp known]
      exact .flag flag value?
    | none =>
      refine .unknown value? h extension fun flag same => ?_
      rw [Flag.ofName?_eq_some_iff.mpr same] at known
      cases known

/-- Words with one dash in front are short flags. -/
lemma ofText_letters {first : Char} (h : first ≠ '-') (others : Text) :
    ofText ('-' :: first :: others) = .letters (first :: others) := by
  unfold ofText
  split
  · next same =>
    cases same
    exact absurd rfl h
  · next same =>
    cases same
    rfl
  · next different => exact absurd rfl (different first others)

/-- Plain words are what they are. -/
lemma ofText_plain (h : IsPlain word) : ofText word = .plain word := by
  unfold ofText
  split
  · next long => exact absurd rfl (h.ne_dashes long)
  · next first others _ =>
    rcases h with h | h
    · exact absurd rfl h
    · cases h
  · rfl

/-- A word spells the argument that is found. -/
lemma isSpelled_ofText (word : Text) : IsSpelled (ofText word) word := by
  unfold ofText
  split
  · next long =>
    obtain ⟨name, value?, absent, rfl⟩ := exists_eq_withValue long
    rw [nameAndValue_withValue absent]
    exact isSpelled_ofLong absent value?
  · next first others different =>
    refine .letters others ?_
    rintro rfl
    exact different rfl
  · next noLong noLetters =>
    refine .plain ?_
    match word with
    | [] => exact .inl nofun
    | [c] => by_cases dash : c = '-' <;> simp [IsPlain, dash]
    | c :: first :: others =>
      refine .inl fun dash => ?_
      obtain rfl := Option.some.inj dash
      exact noLetters first others rfl

/-- **A word spells exactly one argument**, the one that `ofText` finds. -/
theorem isSpelled_iff {argument : Argument} : IsSpelled argument word ↔ ofText word = argument := by
  constructor
  · intro h
    cases h with
    | flag flag value? =>
      rw [ofText_long flag.notMem_longName, ofLong, Flag.ofName?_eq_some_iff.mpr rfl]
      cases flag <;> rfl
    | extension value? => rw [ofText_long (by decide), ofLong, if_pos rfl]
    | @unknown name value? absent extension unknown =>
      have none : Flag.ofName? name = none := by
        rw [Option.eq_none_iff_forall_ne_some]
        exact fun flag known => unknown flag (Flag.ofName?_eq_some_iff.mp known)
      rw [ofText_long absent, ofLong, if_neg extension, none]
    | letters others dash => exact ofText_letters dash others
    | plain h => exact ofText_plain h
  · rintro rfl
    exact isSpelled_ofText word

end Argument

end Backlog
