import Crosswalk.Number.Decimal
import Crosswalk.Text.Blank
import Crosswalk.Text.Digits

/-!
# Reading and writing numerals

Whole numbers and doubles as they are written in data: digits of any script, single underscores
between digits, blanks around.

* `integerText?` — the decimal text of a whole number, within `maxDigits`.
* `readInteger?` — a whole number in a base from 2 to 36, or with its base told by a prefix.
* `readDouble?` — a decimal number, an infinity or the undefined number.
-/

namespace Crosswalk

/-- The most decimal digits that are converted between text and whole numbers. -/
def maxDigits : Nat := 4300

/-- The least whole number with more digits than `maxDigits`. -/
def digitBound : Nat := Nat.pow 10 maxDigits

/-- **The decimal text of a whole number**; nothing when it has too many digits. -/
def integerText? (i : Int) : Option String :=
  if i.natAbs < digitBound then
    some ((if i < 0 then "-" else "") ++ digitText i.natAbs)
  else none

/-! ## Plain characters -/

/-- The ASCII blanks that numerals may stand between. -/
def isAsciiSpace (c : Char) : Bool := c = ' ' || (9 ≤ c.toNat && c.toNat ≤ 13)

/-- A character as it counts in a numeral: blanks above ASCII as a space, digits of other scripts
as ASCII digits, anything else above ASCII as a mark that stands in no numeral. -/
def plainNumeralChar (c : Char) : Char :=
  if c.toNat < 0x7f then c
  else if isBlank c then ' '
  else match decimalValue? c with
    | some d => Char.ofNat (0x30 + d)
    | none => '?'

/-- The characters of a numeral between its blanks. -/
def numeralBody (s : String) : List Char :=
  let cs := (s.toList.map plainNumeralChar).dropWhile isAsciiSpace
  (cs.reverse.dropWhile isAsciiSpace).reverse

/-- A sign in front, `true` for minus, and the rest. -/
def takeSign : List Char → Bool × List Char
  | '-' :: rest => (true, rest)
  | '+' :: rest => (false, rest)
  | cs => (false, cs)

/-! ## Whole numbers -/

/-- The value of a digit up to `z`, in either case. -/
def digitValue? (c : Char) : Option Nat :=
  if '0' ≤ c ∧ c ≤ '9' then some (c.toNat - 48)
  else if 'a' ≤ c ∧ c ≤ 'z' then some (c.toNat - 87)
  else if 'A' ≤ c ∧ c ≤ 'Z' then some (c.toNat - 55)
  else none

/-- The digits of a base, single underscores standing between two of them. -/
def basedDigits? (base : Nat) : List Char → Option (List Nat)
  | [] => some []
  | '_' :: c :: rest =>
    if c = '_' then none else basedDigits? base (c :: rest)
  | ['_'] => none
  | c :: rest => do
    let d ← digitValue? c
    if d < base then (d :: ·) <$> basedDigits? base rest else none

/-- The number that a list of digits denotes. -/
def digitsValue (base : Nat) (ds : List Nat) : Nat := ds.foldl (fun n d => n * base + d) 0

/-- Bases that are powers of two have no bound on their digits. -/
def isPowerOfTwoBase (base : Nat) : Bool := base ∈ [2, 4, 8, 16, 32]

/-- The base that a prefix tells, in either case. -/
def prefixBase? : List Char → Option Nat
  | '0' :: c :: _ =>
    if c = 'x' ∨ c = 'X' then some 16
    else if c = 'o' ∨ c = 'O' then some 8
    else if c = 'b' ∨ c = 'B' then some 2
    else none
  | _ => none

/-- The value of an unsigned numeral in a base: the digits may not start with an underscore, and
there are not too many of them. -/
def readDigits? (base : Nat) (cs : List Char) : Option Nat := do
  if cs.isEmpty || cs.head? = some '_' then none
  let ds ← basedDigits? base cs
  if ds.length ≤ maxDigits || isPowerOfTwoBase base then some (digitsValue base ds) else none

/-- An unsigned numeral behind the prefix of its base; one underscore may follow the prefix. -/
def readPrefixed? (base : Nat) (cs : List Char) : Option Nat :=
  match cs.drop 2 with
  | '_' :: rest => readDigits? base rest
  | rest => readDigits? base rest

/-- **A whole number in a base from 2 to 36**; base 0 takes the base from the prefix, and then a
decimal numeral may start with a zero only if it is zero. -/
def readInteger? (base : Nat) (s : String) : Option Int := do
  let (negative, body) := takeSign (numeralBody s)
  let told := prefixBase? body
  let n ← match base, told with
    | 0, some b => readPrefixed? b body
    | 0, none => do
      let n ← readDigits? 10 body
      if body.head? = some '0' && n ≠ 0 then none else some n
    | b, told => if told = some b then readPrefixed? b body else readDigits? b body
  some (if negative then -n else n)

/-! ## Doubles -/

/-- A numeral without its underscores, each of which stands between two digits. -/
def withoutUnderscores? : List Char → Option (List Char)
  | [] => some []
  | [c] => if c = '_' then none else some [c]
  | a :: '_' :: c :: rest =>
    if a.isDigit && c.isDigit then (a :: ·) <$> withoutUnderscores? (c :: rest) else none
  | a :: rest => if a = '_' then none else (a :: ·) <$> withoutUnderscores? rest

/-- Digits, a point and digits: the digits of both parts and the number of places. -/
def takeMantissa (cs : List Char) : List Char × Nat × List Char :=
  let whole := cs.takeWhile Char.isDigit
  match cs.dropWhile Char.isDigit with
  | '.' :: rest =>
    let fraction := rest.takeWhile Char.isDigit
    (whole ++ fraction, fraction.length, rest.dropWhile Char.isDigit)
  | rest => (whole, 0, rest)

/-- The exponent that ends a numeral. -/
def readExponent? : List Char → Option Int
  | [] => some 0
  | c :: rest =>
    if c = 'e' ∨ c = 'E' then
      let (negative, ds) := takeSign rest
      if ds.isEmpty || !ds.all Char.isDigit then none
      else
        let n : Int := digitsValue 10 (ds.map fun d => d.toNat - 48)
        some (if negative then -n else n)
    else none

/-- The decimal number written by digits with at most one point, and an exponent. -/
def readDecimal? (cs : List Char) : Option Decimal := do
  let (digits, places, rest) := takeMantissa cs
  if digits.isEmpty then none
  let e ← readExponent? rest
  some ⟨digitsValue 10 (digits.map fun d => d.toNat - 48), e - places⟩

/-- **A double**: a sign, then a decimal number or the name of an infinity or of the undefined
number, in either case. -/
def readDouble? (s : String) : Option Binary64 := do
  let body ← withoutUnderscores? (numeralBody s)
  let (negative, rest) := takeSign body
  let word := rest.map Char.toLower
  if word = "inf".toList ∨ word = "infinity".toList then some (.infinite negative)
  else if word = "nan".toList then some .nan
  else .ofDecimal negative <$> readDecimal? rest

end Crosswalk
