/-!
# UTF-8

Bytes are read as text by the strict rules: the shortest form of every character, no surrogates and
nothing above U+10FFFF.

* `Utf8.decode` — **the longest text that bytes begin with**, and the bytes that are left.
* `Utf8.text?` — the text of bytes that are text to their end.
* `Utf8.isCutShort` — whether bytes could be the start of one more character.
-/

namespace Crosswalk.Utf8

/-- A byte that continues a character. -/
def isTail (b : UInt8) : Bool := 0x80 ≤ b && b ≤ 0xBF

/-- A character of two bytes. -/
def two? (a b : UInt8) : Option Char :=
  if 0xC2 ≤ a && a ≤ 0xDF && isTail b then
    some (Char.ofNat ((a.toNat - 0xC0) * 0x40 + (b.toNat - 0x80)))
  else none

/-- A character of three bytes. -/
def three? (a b c : UInt8) : Option Char :=
  let n := ((a.toNat - 0xE0) * 0x40 + (b.toNat - 0x80)) * 0x40 + (c.toNat - 0x80)
  if 0xE0 ≤ a && a ≤ 0xEF && isTail b && isTail c && 0x800 ≤ n &&
      !(0xD800 ≤ n && n ≤ 0xDFFF) then
    some (Char.ofNat n)
  else none

/-- A character of four bytes. -/
def four? (a b c d : UInt8) : Option Char :=
  let n := (((a.toNat - 0xF0) * 0x40 + (b.toNat - 0x80)) * 0x40 + (c.toNat - 0x80)) * 0x40
    + (d.toNat - 0x80)
  if 0xF0 ≤ a && a ≤ 0xF4 && isTail b && isTail c && isTail d && 0x10000 ≤ n &&
      n ≤ 0x10FFFF then
    some (Char.ofNat n)
  else none

/-- The first character of bytes, and how many bytes it takes. -/
def first? : List UInt8 → Option (Char × Nat)
  | [] => none
  | a :: rest =>
    if a < 0x80 then some (Char.ofNat a.toNat, 1)
    else match rest with
      | [] => none
      | b :: rest =>
        match two? a b with
        | some ch => some (ch, 2)
        | none =>
          match rest with
          | [] => none
          | c :: rest =>
            match three? a b c with
            | some ch => some (ch, 3)
            | none =>
              match rest with
              | [] => none
              | d :: _ => (four? a b c d).map fun ch => (ch, 4)

/-- Characters in reverse, while the bytes go on as text. -/
def decodeFrom : Nat → List Char → List UInt8 → List Char × List UInt8
  | 0, acc, bytes => (acc, bytes)
  | fuel + 1, acc, bytes =>
    match first? bytes with
    | some (c, size) => decodeFrom fuel (c :: acc) (bytes.drop size)
    | none => (acc, bytes)

/-- **The longest text that bytes begin with**, and the bytes that are left. -/
def decode (bytes : List UInt8) : List Char × List UInt8 :=
  let (reversed, rest) := decodeFrom bytes.length [] bytes
  (reversed.reverse, rest)

/-- The text of bytes that are text to their end. -/
def text? (bytes : List UInt8) : Option (List Char) :=
  match decode bytes with
  | (cs, []) => some cs
  | _ => none

/-- Whether bytes could be the start of one more character, so that only the end is missing. -/
def isCutShort : List UInt8 → Bool
  | [a] => 0xC2 ≤ a && a ≤ 0xF4
  | [a, b] =>
    (0xE0 ≤ a && a ≤ 0xEF && (three? a b 0x80).isSome) ||
      (0xF0 ≤ a && a ≤ 0xF4 && (four? a b 0x80 0x80).isSome)
  | [a, b, c] => 0xF0 ≤ a && a ≤ 0xF4 && (four? a b c 0x80).isSome
  | _ => false

end Crosswalk.Utf8
