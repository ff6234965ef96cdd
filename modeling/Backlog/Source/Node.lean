import Backlog.Text.Basic

set_option relaxedAutoImplicit false
set_option autoImplicit false

/-!
# Directory trees

A directory has entries with names, and an entry is a file, a symbolic link or a directory again.

## Main definitions

* `Backlog.Node` — what an entry is.
* `Backlog.Entries` — the entries of a directory.
* `Backlog.Entries.node?` — the node that names lead to.
* `Backlog.Entries.placing` — a directory with one more node in it.
-/

namespace Backlog

/-- A file with its bytes, a symbolic link with the path it stands for, or a directory with its
named entries. -/
inductive Node
  | file (bytes : List UInt8)
  | link (target : Text)
  | directory (entries : List (Text × Node))

/-- The entries of a directory. -/
abbrev Entries := List (Text × Node)

/-- The entries of a node, which only a directory has. -/
def Node.entries? : Node → Option Entries
  | .directory entries => some entries
  | _ => none

namespace Entries

/-- The node that the names lead to, through directories only. -/
def node? (entries : Entries) : List Text → Option Node
  | [] => some (.directory entries)
  | [name] => entries.lookup name
  | name :: rest => ((entries.lookup name).bind Node.entries?).bind (node? · rest)

/-- The entries with `node` under `name`, in the place of what had that name. -/
def put (name : Text) (node : Node) (entries : Entries) : Entries :=
  if entries.any (·.1 == name) then
    entries.map fun entry => if entry.1 == name then (name, node) else entry
  else entries ++ [(name, node)]

/-- The entries with `node` where the names lead to. What is no directory on the way becomes one. -/
def placing (node : Node) : List Text → Entries → Entries
  | [], entries => entries
  | [name], entries => entries.put name node
  | name :: rest, entries =>
    let inner := ((entries.lookup name).bind Node.entries?).getD []
    entries.put name (.directory (placing node rest inner))

end Entries

end Backlog
