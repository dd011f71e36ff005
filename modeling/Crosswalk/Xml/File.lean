import Crosswalk.Files
import Crosswalk.Xml.Document

/-!
# Documents in files

* `readDocument` — **the root of the document in a file.**
* `tag` — the tag of a child; a reference to an entity has none.
* `childText` — **the text of the first child with a tag.**
-/

namespace Crosswalk.Xml

/-- **The root of the document in a file.** -/
def readDocument (fs : Files) (path : Path) : Except Error Node :=
  match fs.readBytes path with
  | .error cause => .error (.source (.unreadableFile path.text cause) none)
  | .ok bytes =>
    match (Reading.ofBytes .keep bytes).root? with
    | some root => .ok root
    | none => .error (.parse .malformedFile (some path.text))

/-- The tag of a child, which has to be an element. -/
def Node.tag : Node → Except Error String
  | .element t _ _ => .ok t
  | _ => .error (.plain (.fault .wrongValue))

/-- The text of the first of some nodes with a tag, if there is one. -/
def textOfFirst (wanted : String) : List Node → Except Error (Option String)
  | [] => .ok none
  | n :: ns =>
    if n.isChild then do
      if (← n.tag) = wanted then .ok (some n.ownText) else textOfFirst wanted ns
    else textOfFirst wanted ns

/-- **The text of the first child with a tag**, without the blanks around it. -/
def childText (n : Node) (wanted : String) : Except Error (Option String) := do
  .ok ((← textOfFirst wanted n.children).map trim)

/-- The text of the first child with a tag as it stands. -/
def rawChildText (n : Node) (wanted : String) : Except Error (Option String) :=
  textOfFirst wanted n.children

end Crosswalk.Xml
