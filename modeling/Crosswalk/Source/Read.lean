import Crosswalk.Source.Delimited
import Crosswalk.Source.Leaves
import Crosswalk.Source.Worksheet

/-!
# Reading sources

* `Source.read` — **the stream of pairs of a source**, with two positions for the key and the
  value. -/

namespace Crosswalk

/-- **The stream of pairs of a source.**  A relational database has none. -/
def Source.read (fs : Files) (keyPosition valuePosition : String) : Source → Traced Stream
  | csv file delimiter hasHeadings =>
    Delimited.read fs file delimiter hasHeadings keyPosition valuePosition
  | xml file => Leaves.read fs file
  | excel file sheet hasHeadings =>
    Worksheet.read fs file sheet hasHeadings keyPosition valuePosition
  | db d =>
    Traced.of (.error (.source (.relational d.system d.connection d.database) (some d.name)))

end Crosswalk
