import Backlog.Source.Node
import Backlog.Text.Utf8

set_option relaxedAutoImplicit false
set_option autoImplicit false

/-!
# Paths

A path is followed step by step. `.` and an empty step stay in a directory, `..` leads to the
directory above, and a symbolic link leads on along its target. The place where a path ends is
given by names alone, with no links on the way.

Names and paths take a limited number of bytes. A place may lie so deep that its own path is too
long; then only a shorter path along links leads there.

## Main definitions

* `Backlog.PathFault` — why a path leads nowhere, with `message`.
* `Backlog.Entries.follow` — the place that steps lead to.
* `Backlog.FileSystem.resolve` — the place that a path leads to, if it has a path of its own.
* `Backlog.FileSystem.opened?` — the entries of the directory that a path leads to.
-/

namespace Backlog

open Text

/-! ## Faults -/

/-- Why a path leads nowhere: it is empty; there is nothing at a place that it passes, with these
steps still to go; it goes on behind something else than a directory; it asks for a name that is too
long; or it leads along too many symbolic links. -/
inductive PathFault
  | empty
  | missing (place rest : List Text)
  | notDirectory
  | nameTooLong
  | tooManyLinks
deriving DecidableEq

/-- The wording of a fault. -/
def PathFault.message : PathFault → Text
  | .empty | .missing _ _ => "No such file or directory (os error 2)".toList
  | .notDirectory => "Not a directory (os error 20)".toList
  | .nameTooLong => "File name too long (os error 36)".toList
  | .tooManyLinks => "Too many levels of symbolic links (os error 40)".toList

/-! ## Steps -/

/-- The path starts at the root. -/
def isAbsolute (path : Text) : Bool := path.head? == some '/'

/-- The steps of a path, the parts between its slashes. -/
def stepsOf (path : Text) : List Text := path.splitOn '/'

/-- The path that leads from the root to a place. -/
def absolutePath : List Text → Text
  | [] => ['/']
  | place => place.flatMap ('/' :: ·)

/-- The greatest number of bytes of a name. -/
def maxNameBytes : Nat := 255

/-- The greatest number of bytes of a path. -/
def maxPathBytes : Nat := 4095

/-- The place can be named by a path of its own. -/
def hasPath (place : List Text) : Bool := byteLength (absolutePath place) ≤ maxPathBytes

/-- The step names an entry, and does not merely stay or lead up. -/
def isName (step : Text) : Bool := step ≠ [] && step ≠ ['.'] && step ≠ ['.', '.']

/-- The place that steps lead to from the place `here`, along at most `links` symbolic links, where
each entry that is named on the way must be at a place that `allowed` admits. -/
def Entries.follow (root : Entries) (allowed : List Text → Bool) (links : Nat) (here : List Text)
    (steps : List Text) : Except PathFault (List Text) :=
  match steps with
  | [] => .ok here
  | step :: rest =>
    if isName step && !allowed (here ++ [step]) then .error .nameTooLong
    else
      match (root.node? here).bind Node.entries? with
      | none => .error .notDirectory
      | some entries =>
        if step = [] ∨ step = ['.'] then root.follow allowed links here rest
        else if step = ['.', '.'] then root.follow allowed links here.dropLast rest
        else if maxNameBytes < byteLength step then .error .nameTooLong
        else
          match entries.lookup step with
          | none => .error (.missing (here ++ [step]) rest)
          | some (.link target) =>
            match links with
            | 0 => .error .tooManyLinks
            | links + 1 =>
              root.follow allowed links (if isAbsolute target then [] else here)
                (stepsOf target ++ rest)
          | some _ => root.follow allowed links (here ++ [step]) rest
termination_by (links, steps.length)

/-- The number of symbolic links that a path may lead along. -/
def maxLinks : Nat := 40

/-! ## File systems -/

/-- The entries of the root, and the place of the working directory. -/
structure FileSystem where
  root : Entries
  workingDirectory : List Text

namespace FileSystem

/-- The place where a path starts. -/
def startOf (fs : FileSystem) (path : Text) : List Text :=
  if isAbsolute path then [] else fs.workingDirectory

/-- The place that a path leads to, where all places on the way must have paths of their own. An
empty path leads nowhere. -/
def resolve (fs : FileSystem) (path : Text) : Except PathFault (List Text) :=
  if path = [] then .error .empty
  else fs.root.follow hasPath maxLinks (fs.startOf path) (stepsOf path)

/-- The entries of the directory at a place, if there is a directory. -/
def directory? (fs : FileSystem) (place : List Text) : Option Entries :=
  (fs.root.node? place).bind Node.entries?

/-- The entries of the directory that a path leads to, if the path is not empty, short enough and
leads to a directory, however deep. -/
def opened? (fs : FileSystem) (path : Text) : Option Entries :=
  if path = [] ∨ maxPathBytes < byteLength path then none
  else (fs.root.follow (fun _ => true) maxLinks (fs.startOf path) (stepsOf path)).toOption.bind
    fs.directory?

end FileSystem

end Backlog
