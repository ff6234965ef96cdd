import Backlog.Source.Path

set_option relaxedAutoImplicit false
set_option autoImplicit false

/-!
# Creating entries

A file system grows by one entry after another. Directories that are missing on the way to an entry
are made, and links on the way are followed. A file that is written under the name of a link is
written where the link leads, also if nothing was there.

## Main definitions

* `Backlog.Entries.reaching` — a tree in which steps lead to a directory.
* `Backlog.FileSystem.withDirectory`, `Backlog.FileSystem.withFile`, `Backlog.FileSystem.withLink` —
  a file system with one more entry.
-/

namespace Backlog

namespace Entries

/-- The place that a step leads to, or to which it would lead if there were something. -/
def site? (root : Entries) (here : List Text) (step : Text) : Option (List Text) :=
  match root.follow (fun _ => true) maxLinks here [step] with
  | .ok place => some place
  | .error (.missing place []) => some place
  | .error _ => none

/-- The tree with a directory at each place that the steps pass and that was empty, and the place to
which they lead. -/
def reaching (root : Entries) (here : List Text) : List Text → Entries × List Text
  | [] => (root, here)
  | step :: rest =>
    match root.site? here step with
    | none => (root, here)
    | some place =>
      if (root.node? place).isSome then root.reaching place rest
      else (root.placing (.directory []) place).reaching place rest

end Entries

namespace FileSystem

/-- The file system with a directory where the path leads. -/
def withDirectory (fs : FileSystem) (path : Text) : FileSystem :=
  { fs with root := (fs.root.reaching fs.workingDirectory (stepsOf path)).1 }

/-- The tree with a directory for the last step of the path, the place of that directory, and the
last step. -/
def parentOf (fs : FileSystem) (path : Text) : (Entries × List Text) × Text :=
  (fs.root.reaching fs.workingDirectory (stepsOf path).dropLast, (stepsOf path).getLast?.getD [])

/-- The file system with a file of the bytes where the path leads. -/
def withFile (fs : FileSystem) (path : Text) (bytes : List UInt8) : FileSystem :=
  let ((root, parent), name) := fs.parentOf path
  match root.site? parent name with
  | none => { fs with root }
  | some place => { fs with root := root.placing (.file bytes) place }

/-- The file system with a symbolic link under the last name of the path. -/
def withLink (fs : FileSystem) (path target : Text) : FileSystem :=
  let ((root, parent), name) := fs.parentOf path
  { fs with root := root.placing (.link target) (parent ++ [name]) }

end FileSystem

end Backlog
