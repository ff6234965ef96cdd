import Backlog.Source.Path
import Backlog.Todo.Basic

set_option relaxedAutoImplicit false
set_option autoImplicit false

/-!
# Searching a tree

A search goes through a directory and all directories below it, in the order of the names, and
collects the todos of the source files. A source file is known by the extension of its name. Links
are left alone, and directories that hold no sources of one's own are passed over unless asked for.

Entries are read by their paths, which begin with the path of the directory where the search
started. What lies so deep that its path is too long cannot be read.

## Main definitions

* `Backlog.nameParts?` — stem and extension of a file name.
* `Backlog.Search` — what to look for.
* `Backlog.Findings` — what a search finds.
* `Backlog.Search.ofDirectory` — the search through a directory.
* `Backlog.FileSystem.found?` — the search through the directory that a path leads to.
-/

namespace Backlog

open Text

/-! ## Names -/

/-- The parts of a file name before and after its last dot, if something stands before the dot. -/
def nameParts? (name : Text) : Option (Text × Text) :=
  match cutAt? '.' name.reverse with
  | none => none
  | some (extension, stem) =>
    if stem.isEmpty then none else some (stem.reverse, extension.reverse)

/-- The names of directories that hold version control data, other people's sources or the results
of a build. -/
def ignoredNames : List Text :=
  [".git", ".hg", ".svn", "node_modules", "target", "vendor", "__pycache__", ".venv", "venv", "dist",
    "build"].map String.toList

/-! ## What to look for -/

/-- The extensions of source files, without a dot, and whether no directory is passed over. -/
structure Search where
  extensions : List Text
  includeIgnored : Bool
deriving DecidableEq

namespace Search

/-- The search for one kind of source files. -/
def default : Search := ⟨["js".toList], false⟩

/-- The extension is one of those looked for, up to the case of ASCII letters. -/
def wants (search : Search) (extension : Text) : Bool :=
  search.extensions.any (sameButForCase · extension)

/-- The stem of a file name with an extension that is looked for. -/
def stem? (search : Search) (name : Text) : Option Text :=
  match nameParts? name with
  | none => none
  | some (stem, extension) => if search.wants extension then some stem else none

/-- A directory with this name is not searched. -/
def passesOver (search : Search) (name : Text) : Bool :=
  !search.includeIgnored && ignoredNames.contains name

end Search

/-! ## What is found -/

/-- The todos that were found, the number of source files that were read, and the number of those
that could not be. -/
structure Findings where
  todos : List Todo
  scanned : Nat
  skipped : Nat
deriving DecidableEq

namespace Findings

/-- What an empty directory yields. -/
def nothing : Findings := ⟨[], 0, 0⟩

/-- What a source file or a directory yields that cannot be read. -/
def unreadable : Findings := ⟨[], 0, 1⟩

/-- What is found in one place and then in another. -/
def append (first second : Findings) : Findings :=
  ⟨first.todos ++ second.todos, first.scanned + second.scanned, first.skipped + second.skipped⟩

/-- What is found under several names, in the order of the names. -/
def byName (named : List (Text × Findings)) : Findings :=
  ((named.mergeSort fun a b => (compare a.1 b.1).isLE).map (·.2)).foldr append nothing

end Findings

/-! ## Searching -/

/-- The greatest number of bytes of a source file that is read. -/
def maxFileSize : Nat := 1048576

/-- The text of a source file, which must be UTF-8 and not too large. -/
def sourceText? (bytes : List UInt8) : Option Text :=
  if maxFileSize < bytes.length then none else ofUtf8? bytes

/-- The number of bytes that a name may take in the directory with the path. -/
def roomBelow (path : Text) : Nat :=
  maxPathBytes - byteLength (if path.getLast? = some '/' then path else path ++ ['/'])

namespace Search

/-- What is found in a file whose name may take `room` bytes. -/
def ofFile (search : Search) (room : Nat) (name : Text) (bytes : List UInt8) : Findings :=
  match search.stem? name with
  | none => .nothing
  | some stem =>
    if room < byteLength name then .unreadable
    else
      match sourceText? bytes with
      | none => .unreadable
      | some t => ⟨Todo.inText stem t, 1, 0⟩

mutual

/-- What is found in an entry whose name may take `room` bytes. -/
def ofNode (search : Search) (room : Nat) (name : Text) : Node → Findings
  | .file bytes => search.ofFile room name bytes
  | .link _ => .nothing
  | .directory entries =>
    if search.passesOver name then .nothing
    else if room < byteLength name then .unreadable
    else .byName (search.ofEntries (room - byteLength name - 1) entries)

/-- What is found in each entry of a directory where names may take `room` bytes. -/
def ofEntries (search : Search) (room : Nat) : List (Text × Node) → List (Text × Findings)
  | [] => []
  | (name, node) :: rest => (name, search.ofNode room name node) :: search.ofEntries room rest

end

/-- What is found in the directory with the path, whatever its own name. -/
def ofDirectory (search : Search) (path : Text) (entries : Entries) : Findings :=
  .byName (search.ofEntries (roomBelow path) entries)

end Search

/-- What is found in the directory that the path leads to, if it leads to one. -/
def FileSystem.found? (fs : FileSystem) (search : Search) (path : Text) : Option Findings :=
  (fs.opened? path).map (search.ofDirectory path)

end Backlog
