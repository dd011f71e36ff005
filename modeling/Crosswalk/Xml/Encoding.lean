import Crosswalk.Text.Utf8

/-!
# The encoding of a document

A document says how its bytes are to be read: by its first bytes, or by the name of an encoding in
its declaration.  Without either it is UTF-8.

* `Encoding` — the encodings that are known.
* `Encoding.ofName?` — the encoding of a name, whose case does not count.
* `charsOfBytes` — **the characters of a document.**  Where the bytes are no text, the null
  character stands, which no document may hold.
-/

namespace Crosswalk.Xml

/-- **How bytes are read as characters.** -/
inductive Encoding where
  | utf8
  | utf16 (bigEndian : Bool)
  | utf32 (bigEndian : Bool)
  /-- One byte a character, with the code of the byte. -/
  | latin1
  /-- One byte a character, below 128. -/
  | ascii
  /-- One byte a character, with the codes of some bytes given by a table. -/
  | table (codes : List (Nat × Nat))

/-- The bytes of Windows-1252 whose codes differ from the byte. -/
def windowsWestern : List (Nat × Nat) :=
  [(0x80, 0x20AC), (0x82, 0x201A), (0x83, 0x0192), (0x84, 0x201E), (0x85, 0x2026), (0x86, 0x2020),
   (0x87, 0x2021), (0x88, 0x02C6), (0x89, 0x2030), (0x8A, 0x0160), (0x8B, 0x2039), (0x8C, 0x0152),
   (0x8E, 0x017D), (0x91, 0x2018), (0x92, 0x2019), (0x93, 0x201C), (0x94, 0x201D), (0x95, 0x2022),
   (0x96, 0x2013), (0x97, 0x2014), (0x98, 0x02DC), (0x99, 0x2122), (0x9A, 0x0161), (0x9B, 0x203A),
   (0x9C, 0x0153), (0x9E, 0x017E), (0x9F, 0x0178), (0x81, 0), (0x8D, 0), (0x8F, 0), (0x90, 0),
   (0x9D, 0)]

/-- The bytes of ISO-8859-15 whose codes differ from the byte. -/
def latin9 : List (Nat × Nat) :=
  [(0xA4, 0x20AC), (0xA6, 0x0160), (0xA8, 0x0161), (0xB4, 0x017D), (0xB8, 0x017E), (0xBC, 0x0152),
   (0xBD, 0x0153), (0xBE, 0x0178)]

/-- **The encoding of a name.** -/
def Encoding.ofName? (name : String) : Option Encoding :=
  match name.map Char.toUpper with
  | "UTF-8" | "UTF8" => some .utf8
  | "UTF-16" | "UTF16" | "UTF-16LE" => some (.utf16 false)
  | "UTF-16BE" => some (.utf16 true)
  | "UTF-32" | "UCS-4" | "UTF-32LE" => some (.utf32 false)
  | "UTF-32BE" => some (.utf32 true)
  | "ISO-8859-1" | "ISO8859-1" | "ISO_8859-1" | "ISO-LATIN-1" | "ISO LATIN 1" | "LATIN1" | "L1"
  | "LATIN-1" | "CP819" => some .latin1
  | "ASCII" | "US-ASCII" | "US_ASCII" | "ANSI_X3.4-1968" | "ISO646-US" => some .ascii
  | "WINDOWS-1252" | "CP1252" | "MS-ANSI" => some (.table windowsWestern)
  | "ISO-8859-15" | "ISO8859-15" | "ISO_8859-15" | "LATIN-9" => some (.table latin9)
  | _ => none

/-- The character that stands for bytes that are no text. -/
def invalidMark : Char := Char.ofNat 0

/-- The characters of units of sixteen bits. -/
def charsOfUnits : List Nat → List Char
  | [] => []
  | n :: rest =>
    if 0xD800 ≤ n && n ≤ 0xDBFF then
      match rest with
      | m :: rest =>
        if 0xDC00 ≤ m && m ≤ 0xDFFF then
          Char.ofNat (0x10000 + (n - 0xD800) * 0x400 + (m - 0xDC00)) :: charsOfUnits rest
        else [invalidMark]
      | [] => [invalidMark]
    else if 0xDC00 ≤ n && n ≤ 0xDFFF then [invalidMark]
    else Char.ofNat n :: charsOfUnits rest

/-- The units of sixteen bits of bytes; a byte that is left over is no text. -/
def unitsOfBytes (bigEndian : Bool) : List UInt8 → List Nat
  | a :: b :: rest =>
    (if bigEndian then a.toNat * 0x100 + b.toNat else b.toNat * 0x100 + a.toNat) ::
      unitsOfBytes bigEndian rest
  | [_] => [0xDC00]
  | [] => []

/-- The characters of units of four bytes. -/
def charsOfWords (bigEndian : Bool) : List UInt8 → List Char
  | a :: b :: c :: d :: rest =>
    let (a, b, c, d) := if bigEndian then (a, b, c, d) else (d, c, b, a)
    let n := ((a.toNat * 0x100 + b.toNat) * 0x100 + c.toNat) * 0x100 + d.toNat
    Char.ofNat n :: charsOfWords bigEndian rest
  | [] => []
  | _ => [invalidMark]

/-- **The characters of bytes in an encoding.** -/
def Encoding.decode : Encoding → List UInt8 → List Char
  | utf8, bytes =>
    let (cs, rest) := Utf8.decode bytes
    if rest.isEmpty then cs else cs ++ [invalidMark]
  | utf16 bigEndian, bytes => charsOfUnits (unitsOfBytes bigEndian bytes)
  | utf32 bigEndian, bytes => charsOfWords bigEndian bytes
  | latin1, bytes => bytes.map fun b => Char.ofNat b.toNat
  | ascii, bytes => bytes.map fun b => if b < 0x80 then Char.ofNat b.toNat else invalidMark
  | table codes, bytes => bytes.map fun b => Char.ofNat ((codes.lookup b.toNat).getD b.toNat)

/-- The encoding that the first bytes show, and what comes after a byte order mark. -/
def encodingOfStart? : List UInt8 → Option (Encoding × List UInt8)
  | 0xEF :: 0xBB :: 0xBF :: rest => some (.utf8, rest)
  | 0xFF :: 0xFE :: rest => some (.utf16 false, rest)
  | 0xFE :: 0xFF :: rest => some (.utf16 true, rest)
  | 0x3C :: 0x00 :: 0x3F :: 0x00 :: rest =>
    some (.utf16 false, 0x3C :: 0x00 :: 0x3F :: 0x00 :: rest)
  | 0x00 :: 0x3C :: 0x00 :: 0x3F :: rest =>
    some (.utf16 true, 0x00 :: 0x3C :: 0x00 :: 0x3F :: rest)
  | 0x3C :: 0x00 :: 0x00 :: 0x00 :: rest =>
    some (.utf32 false, 0x3C :: 0x00 :: 0x00 :: 0x00 :: rest)
  | 0x00 :: 0x00 :: 0x00 :: 0x3C :: rest =>
    some (.utf32 true, 0x00 :: 0x00 :: 0x00 :: 0x3C :: rest)
  | _ => none

/-- What comes after a word, if a text begins with it. -/
def after? (word : String) (cs : List Char) : Option (List Char) :=
  if word.toList.isPrefixOf cs then some (cs.drop word.length) else none

/-- The text between quotes at the start of a text. -/
def quotedStart? : List Char → Option (List Char)
  | '"' :: rest => some (rest.takeWhile (· != '"'))
  | '\'' :: rest => some (rest.takeWhile (· != '\''))
  | _ => none

/-- The name of the encoding in the attributes of a declaration. -/
def encodingName? : List Char → Option String
  | [] => none
  | c :: cs =>
    match after? "encoding" (c :: cs) with
    | some rest =>
      match (rest.dropWhile Char.isWhitespace) with
      | '=' :: rest => (quotedStart? (rest.dropWhile Char.isWhitespace)).map String.ofList
      | _ => none
    | none => if c = '>' then none else encodingName? cs

/-- The name of the encoding that a document declares. -/
def declaredEncoding? (bytes : List UInt8) : Option String :=
  let start := (bytes.take 1024).map fun b => Char.ofNat b.toNat
  (after? "<?xml" start).bind encodingName?

/-- **The characters of a document**, or none if it declares an encoding that is not known. -/
def charsOfBytes (bytes : List UInt8) : Option (List Char) :=
  match encodingOfStart? bytes with
  | some (encoding, rest) => some (encoding.decode rest)
  | none =>
    match declaredEncoding? bytes with
    | none => some (Encoding.utf8.decode bytes)
    | some name =>
      match Encoding.ofName? name with
      | some (.utf16 _) | some (.utf32 _) => none
      | some encoding => some (encoding.decode bytes)
      | none => none

end Crosswalk.Xml
