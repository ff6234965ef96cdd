import Backlog.Text.Basic

set_option relaxedAutoImplicit false
set_option autoImplicit false

/-!
# Arguments

The kinds of words in an invocation: long options with or without a value, clusters of short flags,
and plain words.

## Main definitions

* `Backlog.Flag` — the options that take no value, with their long and short names.
* `Backlog.Argument` — the kinds of words.
* `Backlog.Argument.ofText` — the kind of a word.
-/

namespace Backlog

open Text

/-- The options that take no value. -/
inductive Flag
  | noIgnore
  | verbose
  | help
  | version
deriving DecidableEq

/-- The flag with a long name. -/
def Flag.ofName? (name : Text) : Option Flag :=
  if name = "no-ignore".toList then some .noIgnore
  else if name = "verbose".toList then some .verbose
  else if name = "help".toList then some .help
  else if name = "version".toList then some .version
  else none

/-- The flag with a short name. -/
def Flag.ofLetter? : Char → Option Flag
  | 'v' => some .verbose
  | 'h' => some .help
  | 'V' => some .version
  | _ => none

/-- The kinds of words: a flag by its long name, with the value that was wrongly given to it if
there is one; the option for extensions, with its value if that is part of the word; an unknown
long name; short flags; and a plain word. -/
inductive Argument
  | flag (flag : Flag) (value? : Option Text)
  | extension (value? : Option Text)
  | unknown
  | letters (letters : Text)
  | plain (word : Text)
deriving DecidableEq

/-- The name of a long option and the value that follows it after an equals sign. -/
def nameAndValue (t : Text) : Text × Option Text :=
  match cutAt? '=' t with
  | none => (t, none)
  | some (name, value) => (name, some value)

/-- The kind of a long option with the name and the value. -/
def Argument.ofLong (name : Text) (value? : Option Text) : Argument :=
  if name = "ext".toList then .extension value?
  else match Flag.ofName? name with
    | some known => .flag known value?
    | none => .unknown

/-- The kind of a word. A lone dash is plain. -/
def Argument.ofText : Text → Argument
  | '-' :: '-' :: long => Argument.ofLong (nameAndValue long).1 (nameAndValue long).2
  | '-' :: first :: others => .letters (first :: others)
  | word => .plain word

end Backlog
