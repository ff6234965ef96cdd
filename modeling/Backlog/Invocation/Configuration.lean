import Backlog.Source.Search

set_option relaxedAutoImplicit false
set_option autoImplicit false

/-!
# Configurations

What the arguments of the program decide.

## Main definitions

* `Backlog.Configuration` — where to search, for what, and how much to report.
* `Backlog.Configuration.search` — the search that it asks for.
-/

namespace Backlog

/-- Where to search, the extensions to look for, whether no directory is passed over, and whether
the progress is reported. -/
structure Configuration where
  path : Text
  extensions : List Text
  noIgnore : Bool
  verbose : Bool
deriving DecidableEq

/-- The search of a configuration. An extension may be given with dots before it. -/
def Configuration.search (configuration : Configuration) : Search :=
  ⟨configuration.extensions.map (·.dropWhile (· = '.')), configuration.noIgnore⟩

end Backlog
