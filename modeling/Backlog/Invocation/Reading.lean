import Backlog.Invocation.Argument
import Backlog.Invocation.Configuration

set_option relaxedAutoImplicit false
set_option autoImplicit false

/-!
# Reading an invocation

The arguments are read from left to right. Each may set a part of the configuration once, add an
extension, end the reading with a request for help or for the version, or be wrong. A value is
looked at only when the reading goes on to the next option or comes to its end. After the word `--`
all words are plain.

## Main definitions

* `Backlog.UsageError`, `Backlog.Interruption` — why a reading ends early.
* `Backlog.Reading` — what has been read.
* `Backlog.Configuration.read` — the configuration of an invocation.
-/

namespace Backlog

/-- What is wrong with an invocation. -/
inductive UsageError
  | unknownArgument
  | invalidValue
  | tooManyValues
  | argumentConflict
deriving DecidableEq

/-- Why a reading ends before the last argument. -/
inductive Interruption
  | help
  | version
  | misuse (error : UsageError)
deriving DecidableEq

/-- What has been read: the path if there was one, the extensions in their order, the flags, and
whether the option for extensions still waits for its value. -/
structure Reading where
  path? : Option Text
  extensions : List Text
  noIgnore : Bool
  verbose : Bool
  awaitsExtension : Bool
deriving DecidableEq

namespace Reading

/-- Nothing has been read. -/
def start : Reading := ⟨none, [], false, false, false⟩

/-- The reading, if no value is missing and the path is not empty. -/
def settled (reading : Reading) : Except Interruption Reading :=
  if reading.awaitsExtension || reading.path? == some [] then .error (.misuse .invalidValue)
  else .ok reading

/-- The reading after a flag, which may stand only once. -/
def raise (reading : Reading) : Flag → Except Interruption Reading
  | .noIgnore =>
    if reading.noIgnore then .error (.misuse .argumentConflict)
    else .ok { reading with noIgnore := true }
  | .verbose =>
    if reading.verbose then .error (.misuse .argumentConflict)
    else .ok { reading with verbose := true }
  | .help => .error .help
  | .version => .error .version

/-- The reading after a short flag. -/
def letter (reading : Reading) (c : Char) : Except Interruption Reading :=
  match Flag.ofLetter? c with
  | none => .error (.misuse .unknownArgument)
  | some flag => reading.settled.bind (·.raise flag)

/-- The reading after an extension. -/
def adding (reading : Reading) (extension : Text) : Reading :=
  { reading with extensions := reading.extensions ++ [extension], awaitsExtension := false }

/-- The reading after a word that can only be the path, of which there is one. -/
def place (reading : Reading) (word : Text) : Except Interruption Reading :=
  if reading.path?.isSome then .error (.misuse .unknownArgument)
  else reading.settled.map fun settled => { settled with path? := some word }

/-- The reading after an argument. -/
def next (reading : Reading) : Argument → Except Interruption Reading
  | .flag _ (some _) => .error (.misuse .tooManyValues)
  | .flag flag none => reading.settled.bind (·.raise flag)
  | .extension (some value) => reading.settled.map (·.adding value)
  | .extension none => reading.settled.map fun settled => { settled with awaitsExtension := true }
  | .unknown => .error (.misuse .unknownArgument)
  | .letters letters => letters.foldlM letter reading
  | .plain word => if reading.awaitsExtension then .ok (reading.adding word) else reading.place word

/-- The configuration that has been read. The current directory is searched for one kind of source
files where nothing else is said. -/
def configuration (reading : Reading) : Configuration where
  path := reading.path?.getD ['.']
  extensions :=
    if reading.extensions.isEmpty then Search.default.extensions else reading.extensions
  noIgnore := reading.noIgnore
  verbose := reading.verbose

end Reading

/-- The word after which all words are plain. -/
def delimiter : Text := ['-', '-']

/-- The configuration that the arguments ask for. -/
def Configuration.read (arguments : List Text) : Except Interruption Configuration := do
  let options := arguments.takeWhile (· ≠ delimiter)
  let places := (arguments.dropWhile (· ≠ delimiter)).drop 1
  let reading ← options.foldlM (fun reading word => reading.next (.ofText word)) Reading.start
  let reading ← places.foldlM Reading.place reading
  let reading ← reading.settled
  return reading.configuration

end Backlog
