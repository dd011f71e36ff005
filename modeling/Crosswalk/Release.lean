/-!
# The release

* `programName`, `version` — how the program calls itself, and which release of it this is.
-/

namespace Crosswalk

/-- How the program calls itself. -/
def programName : String := "datamingle"

/-- **The release.** -/
def version : String := "0.3.0"

end Crosswalk
