import Crosswalk.Text.Utf8

/-!
# Text in chunks and lines

A file of text is read in chunks of bytes.  A chunk that is no text ends the text in front of it,
and a character that is cut by the end of a chunk is completed by the next one.

* `readText` — **the text of bytes**, and whether it goes to their end.
* `unifyLineEnds` — a text whose lines all end with a line feed.
* `splitLines` — the lines of a text with their ends: a line feed, a carriage return, or both.
* `completeLines` — the lines that are known to be complete when more may follow.
-/

namespace Crosswalk

/-- How many bytes are read at once. -/
def chunkSize : Nat := 8192

/-- Bytes in chunks. -/
def chunks (bytes : List UInt8) : List (List UInt8) :=
  if _h : bytes = [] then []
  else bytes.take chunkSize :: chunks (bytes.drop chunkSize)
termination_by bytes.length
decreasing_by
  have : 0 < bytes.length := List.length_pos_iff.mpr _h
  simp only [List.length_drop, chunkSize]
  omega

/-- The text of chunks behind bytes that are pending. -/
def readChunks (pending : List UInt8) : List (List UInt8) → List Char × Bool
  | [] => ([], pending.isEmpty)
  | chunk :: rest =>
    let (cs, pending) := Utf8.decode (pending ++ chunk)
    if pending.isEmpty || Utf8.isCutShort pending then
      let (more, whole) := readChunks pending rest
      (cs ++ more, whole)
    else ([], false)

/-- **The text of bytes**, up to the first chunk that is no text, and whether there is none. -/
def readText (bytes : List UInt8) : List Char × Bool := readChunks [] (chunks bytes)

/-- **Line ends in their one form**, a line feed. -/
def unifyLineEnds : List Char → List Char
  | [] => []
  | '\r' :: '\n' :: rest => '\n' :: unifyLineEnds rest
  | '\r' :: rest => '\n' :: unifyLineEnds rest
  | c :: rest => c :: unifyLineEnds rest

/-- A text with a character in front of its first line. -/
def onFirstLine (c : Char) : List (List Char) → List (List Char)
  | line :: lines => (c :: line) :: lines
  | [] => [[c]]

/-- **The lines of a text with their ends.** -/
def splitLines : List Char → List (List Char)
  | [] => []
  | '\r' :: '\n' :: cs => ['\r', '\n'] :: splitLines cs
  | c :: cs =>
    if c = '\n' || c = '\r' then [c] :: splitLines cs else onFirstLine c (splitLines cs)

/-- The lines without the last one, unless that has an end that nothing can be added to. -/
def completeLines (lines : List (List Char)) : List (List Char) :=
  match lines.getLast? with
  | some line => if line.getLast? = some '\n' then lines else lines.dropLast
  | none => []

end Crosswalk
