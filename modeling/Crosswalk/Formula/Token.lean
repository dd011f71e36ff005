import Crosswalk.Formula.Syntax
import Crosswalk.Text.Identifier
import Crosswalk.Text.Lines

/-!
# Tokens of formulas

A formula text is cut into words, numerals, quotations, symbols and line ends.  Line ends inside
brackets, comments and blanks between tokens are dropped; a line outside brackets has to start at
the margin.

* `Token`, `Quotation` — what a text is cut into.
* `scanNumeral` — numerals in bases ten, two, eight and sixteen, with single underscores between
  digits, and what may follow one directly.
* `scanQuotation` — quotations with their marks, and `decodeText`, `decodeOctets` for the escapes
  in them.
* `Token.ofText?` — **the whole text**, or nothing when it holds a character or a numeral that no
  token starts with, an unfinished quotation, too many open brackets or a null character.
-/

namespace Crosswalk.Formula

/-- A quotation. -/
inductive Quotation where
  /-- A text, its escapes read. -/
  | text (s : String) (marked : Bool)
  /-- A string of octets, its escapes read. -/
  | octets (bytes : List Nat)
  /-- A text with fields in braces, as it is written between its quotes. -/
  | fields (raw : Bool) (body : List Char)

/-- **A token.** -/
inductive Token where
  /-- A name or a reserved word. -/
  | word (w : String)
  /-- A numeral. -/
  | numeral (l : Literal)
  /-- A quotation. -/
  | quotation (q : Quotation)
  /-- A symbol of one to three characters. -/
  | symbol (s : String)
  /-- The end of a line outside brackets. -/
  | lineEnd

/-! ## Numerals -/

/-- Digits of a base behind each other, an underscore standing between two of them only; the text
has to start with a digit. -/
def scanDigits (isDigit : Char → Bool) : List Char → Option (List Char × List Char)
  | [] => none
  | '_' :: _ => none
  | c :: '_' :: rest => do
    let (ds, tail) ← if isDigit c then scanDigits isDigit rest else none
    some (c :: ds, tail)
  | c :: d :: rest =>
    if isDigit c then
      if isDigit d then do
        let (ds, tail) ← scanDigits isDigit (d :: rest)
        some (c :: ds, tail)
      else some ([c], d :: rest)
    else none
  | [c] => if isDigit c then some ([c], []) else none

/-- A hexadecimal digit. -/
def isHexDigit (c : Char) : Bool :=
  c.isDigit || ('a' ≤ c && c ≤ 'f') || ('A' ≤ c && c ≤ 'F')

/-- A character that could belong to a name. -/
def isWordChar (c : Char) : Bool := c.isAlphanum || c = '_' || 0x80 ≤ c.toNat

/-- **What may follow a numeral directly**: the end, a character that no name holds, or one of the
words that can follow a number. -/
def endsNumeral : List Char → Bool
  | 'a' :: 'n' :: 'd' :: _ => true
  | 'e' :: 'l' :: 's' :: 'e' :: _ => true
  | 'f' :: 'o' :: 'r' :: _ => true
  | 'i' :: 'f' :: _ => true
  | 'i' :: 'n' :: _ => true
  | 'i' :: 's' :: _ => true
  | 'o' :: 'r' :: _ => true
  | 'n' :: 'o' :: 't' :: _ => true
  | c :: _ => !isWordChar c
  | [] => true

/-- The value of digits in a base. -/
def valueOfDigits (base : Nat) (ds : List Char) : Nat :=
  digitsValue base (ds.map fun d => (digitValue? d).getD 0)

/-- A numeral behind the mark of its base; one underscore may follow the mark. -/
def scanBased (base : Nat) (isDigit : Char → Bool) (cs : List Char) :
    Option (Literal × List Char) := do
  let (ds, rest) ← scanDigits isDigit (match cs with | '_' :: r => r | r => r)
  if rest.head?.any Char.isDigit || !endsNumeral rest then none
  some (.int (valueOfDigits base ds), rest)

/-- Digits in front of a point or an exponent; none are needed in front of a point. -/
def scanWhole : List Char → Option (List Char × List Char)
  | '.' :: rest => some ([], '.' :: rest)
  | cs => scanDigits Char.isDigit cs

/-- The fraction behind a point. -/
def scanFraction : List Char → Option (Option (List Char) × List Char)
  | '.' :: rest =>
    if rest.head?.any Char.isDigit then do
      let (ds, tail) ← scanDigits Char.isDigit rest
      some (some ds, tail)
    else some (some [], rest)
  | cs => some (none, cs)

/-- The exponent of a numeral.  A letter `e` that no digit follows is not one. -/
def scanExponent : List Char → Option (Option Int × List Char)
  | c :: rest =>
    if c = 'e' ∨ c = 'E' then
      match rest with
      | '+' :: more => do
        let (ds, tail) ← scanDigits Char.isDigit more
        some (some (valueOfDigits 10 ds), tail)
      | '-' :: more => do
        let (ds, tail) ← scanDigits Char.isDigit more
        some (some (-(valueOfDigits 10 ds : Int)), tail)
      | more =>
        if more.head?.any Char.isDigit then do
          let (ds, tail) ← scanDigits Char.isDigit more
          some (some (valueOfDigits 10 ds), tail)
        else some (none, c :: rest)
    else some (none, c :: rest)
  | [] => some (none, [])

/-- A decimal numeral: a whole number has no leading zeros and at most `maxDigits` digits; a point,
an exponent or the mark of an imaginary number make it a double. -/
def scanDecimal (cs : List Char) : Option (Literal × List Char) := do
  let (whole, rest) ← scanWhole cs
  let (fraction?, rest) ← scanFraction rest
  let (exponent?, rest) ← scanExponent rest
  let fraction := fraction?.getD []
  let value := Binary64.ofDecimal false
    ⟨valueOfDigits 10 (whole ++ fraction), exponent?.getD 0 - fraction.length⟩
  match rest with
  | c :: tail =>
    if c = 'j' ∨ c = 'J' then
      if endsNumeral tail then some (.imaginary value, tail) else none
    else finish whole fraction? exponent? value rest
  | [] => finish whole fraction? exponent? value rest
where
  finish (whole : List Char) (fraction? : Option (List Char)) (exponent? : Option Int)
      (value : Binary64) (rest : List Char) : Option (Literal × List Char) :=
    if !endsNumeral rest then none
    else if fraction?.isSome || exponent?.isSome then some (.float value, rest)
    else if whole.head? = some '0' && whole.any (· != '0') then none
    else if maxDigits < whole.length then none
    else some (.int (valueOfDigits 10 whole), rest)

/-- **A numeral** and what follows it. -/
def scanNumeral : List Char → Option (Literal × List Char)
  | '0' :: c :: rest =>
    if c = 'x' ∨ c = 'X' then scanBased 16 isHexDigit rest
    else if c = 'o' ∨ c = 'O' then scanBased 8 (fun d => '0' ≤ d && d ≤ '7') rest
    else if c = 'b' ∨ c = 'B' then scanBased 2 (fun d => d = '0' || d = '1') rest
    else scanDecimal ('0' :: c :: rest)
  | cs => scanDecimal cs

/-! ## Quotations -/

/-- The characters up to the closing quote and what follows it; a backslash keeps the character
behind it from closing, and a quotation between single quotes ends on its line. -/
def scanToQuote (quote : Char) (triple : Bool) : List Char → Option (List Char × List Char)
  | [] => none
  | '\\' :: c :: rest => do
    let (body, tail) ← scanToQuote quote triple rest
    some ('\\' :: c :: body, tail)
  | c :: rest =>
    if c = quote && (!triple || rest.take 2 == [quote, quote]) then
      some ([], if triple then rest.drop 2 else rest)
    else if c = '\n' && !triple then none
    else if c = '\\' then none
    else do
      let (body, tail) ← scanToQuote quote triple rest
      some (c :: body, tail)

/-- The character with a code point.  Texts hold whole characters only: half of a surrogate pair is
read as the replacement character. -/
def charOfCode? (n : Nat) : Option Char :=
  if h : n.isValidChar then some (Char.ofNatAux n h)
  else if n < 0x110000 then some (Char.ofNat 0xfffd) else none

/-- The number that hexadecimal digits write; nothing if one is no digit. -/
def hexValue? (ds : List Char) : Option Nat :=
  if ds.all isHexDigit then some (valueOfDigits 16 ds) else none

/-- An octal digit. -/
def isOctal (c : Char) : Bool := '0' ≤ c && c ≤ '7'

/-- The escapes of one letter. -/
def namedEscape? : Char → Option Char
  | 'a' => some '\x07'
  | 'b' => some '\x08'
  | 'f' => some '\x0c'
  | 'n' => some '\n'
  | 'r' => some '\r'
  | 't' => some '\t'
  | 'v' => some '\x0b'
  | '\\' => some '\\'
  | '\'' => some '\''
  | '"' => some '"'
  | _ => none

/-- **The characters that a quotation denotes.**  A backslash in front of anything that is no
escape stands for itself.  Escapes that name a character are not read: there is no table of the
names here, and a quotation with such an escape has no text. -/
def decodeText : List Char → Option (List Char)
  | [] => some []
  | '\\' :: '\n' :: rest => decodeText rest
  | '\\' :: 'x' :: a :: b :: rest => do
    let c ← (hexValue? [a, b]).bind charOfCode?
    (c :: ·) <$> decodeText rest
  | '\\' :: 'u' :: a :: b :: c :: d :: rest => do
    let c ← (hexValue? [a, b, c, d]).bind charOfCode?
    (c :: ·) <$> decodeText rest
  | '\\' :: 'U' :: a :: b :: c :: d :: e :: f :: g :: h :: rest => do
    let c ← (hexValue? [a, b, c, d, e, f, g, h]).bind charOfCode?
    (c :: ·) <$> decodeText rest
  | '\\' :: c :: rest =>
    if isOctal c then octal [c] rest
    else if c = 'x' ∨ c = 'u' ∨ c = 'U' ∨ c = 'N' then none
    else match namedEscape? c with
      | some e => (e :: ·) <$> decodeText rest
      | none => ('\\' :: c :: ·) <$> decodeText rest
  | c :: rest => (c :: ·) <$> decodeText rest
where
  octal (ds : List Char) : List Char → Option (List Char)
    | a :: b :: rest =>
      if isOctal a then
        if isOctal b then put (ds ++ [a, b]) (decodeText rest)
        else put (ds ++ [a]) (decodeText (b :: rest))
      else put ds (decodeText (a :: b :: rest))
    | [a] =>
      if isOctal a then put (ds ++ [a]) (some []) else put ds (decodeText [a])
    | [] => put ds (some [])
  put (ds : List Char) (rest : Option (List Char)) : Option (List Char) := do
    let c ← charOfCode? (valueOfDigits 8 ds)
    (c :: ·) <$> rest

/-- The octets that a quotation denotes; it holds ASCII characters only. -/
def decodeOctets : List Char → Option (List Nat)
  | [] => some []
  | '\\' :: '\n' :: rest => decodeOctets rest
  | '\\' :: 'x' :: a :: b :: rest => do
    let n ← hexValue? [a, b]
    (n :: ·) <$> decodeOctets rest
  | '\\' :: c :: rest =>
    if isOctal c then octal [c] rest
    else if c = 'x' || 0x80 ≤ c.toNat then none
    else match namedEscape? c with
      | some e => (e.toNat :: ·) <$> decodeOctets rest
      | none => (0x5c :: c.toNat :: ·) <$> decodeOctets rest
  | c :: rest => if 0x80 ≤ c.toNat then none else (c.toNat :: ·) <$> decodeOctets rest
where
  octal (ds : List Char) : List Char → Option (List Nat)
    | a :: b :: rest =>
      if isOctal a then
        if isOctal b then put (ds ++ [a, b]) (decodeOctets rest)
        else put (ds ++ [a]) (decodeOctets (b :: rest))
      else put ds (decodeOctets (a :: b :: rest))
    | [a] =>
      if isOctal a then put (ds ++ [a]) (some []) else put ds (decodeOctets [a])
    | [] => put ds (some [])
  put (ds : List Char) (rest : Option (List Nat)) : Option (List Nat) :=
    (valueOfDigits 8 ds % 256 :: ·) <$> rest

/-- A mark of quotations in its one form; only the small `u` shows in canonical layout. -/
def markForm (c : Char) : Char := if c = 'U' then 'U' else c.toLower

/-- The marks in front of a quotation, its quote and what follows the quote. -/
def quotationStart? : List Char → Option (List Char × Char × List Char)
  | a :: b :: q :: rest =>
    if a = '"' || a = '\'' then some ([], a, b :: q :: rest)
    else if b = '"' || b = '\'' then
      if a.toLower ∈ ['r', 'u', 'b', 'f'] then some ([markForm a], b, q :: rest) else none
    else if q = '"' || q = '\'' then
      if [a.toLower, b.toLower] ∈ [['b', 'r'], ['r', 'b'], ['f', 'r'], ['r', 'f']] then
        some ([a.toLower, b.toLower], q, rest)
      else none
    else none
  | a :: b :: [] =>
    if a = '"' || a = '\'' then some ([], a, [b])
    else if (b = '"' || b = '\'') && a.toLower ∈ ['r', 'u', 'b', 'f'] then
      some ([markForm a], b, [])
    else none
  | [a] => if a = '"' || a = '\'' then some ([], a, []) else none
  | [] => none

/-- **A quotation**, given its marks and its quote, and what follows it. -/
def scanQuotation (marks : List Char) (quote : Char) (cs : List Char) :
    Option (Quotation × List Char) := do
  let triple := cs.take 2 == [quote, quote]
  let (body, rest) ← scanToQuote quote triple (if triple then cs.drop 2 else cs)
  let raw := marks.contains 'r'
  if marks.contains 'f' then some (.fields raw body, rest)
  else if marks.contains 'b' then do
    let bytes ← if raw then
        (if body.any (0x80 ≤ ·.toNat) then none else some (body.map Char.toNat))
      else decodeOctets body
    some (.octets bytes, rest)
  else do
    let cs ← if raw then some body else decodeText body
    some (.text (String.ofList cs) (marks.contains 'u'), rest)

/-! ## Words and symbols -/

/-- A word and what follows it; above ASCII it has to be made of characters of names. -/
def scanWord (cs : List Char) : Option (String × List Char) :=
  let w := cs.takeWhile isWordChar
  match w with
  | [] => none
  | c :: more =>
    if startsName c && more.all continuesName then
      some (String.ofList w, cs.dropWhile isWordChar)
    else none

/-- The symbols, longer ones first. -/
def symbols : List String :=
  ["**=", "//=", ">>=", "<<=", "...",
   "**", "//", ">>", "<<", ">=", "<=", "==", "!=", "->", "+=", "-=", "*=", "/=", "%=", "&=", "|=",
   "^=", "@=", ":=", "<>",
   "(", ")", "[", "]", "\x7b", "\x7d", ",", ":", ".", ";", "@", "=", "+", "-", "*", "/", "%", "&",
   "|", "^", "~", "<", ">"]

/-- A symbol and what follows it. -/
def scanSymbol (cs : List Char) : Option (String × List Char) :=
  (symbols.find? fun s => s.toList.isPrefixOf cs).map fun s => (s, cs.drop s.length)

/-! ## The text -/

/-- The distance of a line from the margin and the line from there on.  A form feed returns to the
margin; of a line carried on by backslashes the first part counts. -/
def margin (column : Nat) (first : Nat) : List Char → Option (Nat × List Char)
  | ' ' :: rest => margin (column + 1) first rest
  | '\t' :: rest => margin (column / 8 * 8 + 8) first rest
  | '\x0c' :: rest => margin 0 first rest
  | '\\' :: '\n' :: rest =>
    if rest.isEmpty then none else margin column (if first = 0 then column else first) rest
  | '\\' :: _ => none
  | cs => some (if first = 0 then column else first, cs)

/-- How many brackets may be open at once. -/
def maxBrackets : Nat := 200

/-- The change of bracket depth that a symbol brings. -/
def bracketDepth (depth : Nat) (s : String) : Option Nat :=
  if s ∈ ["(", "[", "\x7b"] then (if depth < maxBrackets then some (depth + 1) else none)
  else if s ∈ [")", "]", "\x7d"] then (if depth = 0 then none else some (depth - 1))
  else some depth

/-- The tokens of a text, by a bound on their number; `fresh` says that a line starts here. -/
def tokensWithin : Nat → (depth : Nat) → (fresh : Bool) → List Char → Option (List Token)
  | 0, _, _, _ => none
  | fuel + 1, depth, fresh, cs =>
    if fresh then
      match margin 0 0 cs with
      | none => none
      | some (_, []) => some []
      | some (column, c :: rest) =>
        if c = '\n' then tokensWithin fuel depth true rest
        else if c = '#' then tokensWithin fuel depth true ((rest.dropWhile (· != '\n')).drop 1)
        else if column = 0 then tokensWithin fuel depth false (c :: rest) else none
    else match cs with
      | [] => some []
      | '\\' :: '\n' :: rest => if rest.isEmpty then none else tokensWithin fuel depth false rest
      | c :: rest =>
        if c = ' ' || c = '\t' || c = '\x0c' then tokensWithin fuel depth false rest
        else if c = '#' then tokensWithin fuel depth false (rest.dropWhile (· != '\n'))
        else if c = '\n' then
          if depth = 0 then (.lineEnd :: ·) <$> tokensWithin fuel depth true rest
          else tokensWithin fuel depth false rest
        else if c.isDigit || (c = '.' && rest.head?.any Char.isDigit) then do
          let (l, tail) ← scanNumeral (c :: rest)
          (.numeral l :: ·) <$> tokensWithin fuel depth false tail
        else match quotationStart? (c :: rest) with
          | some (marks, quote, tail) => do
            let (q, tail) ← scanQuotation marks quote tail
            (.quotation q :: ·) <$> tokensWithin fuel depth false tail
          | none =>
            if isWordChar c then do
              let (w, tail) ← scanWord (c :: rest)
              (.word w :: ·) <$> tokensWithin fuel depth false tail
            else do
              let (s, tail) ← scanSymbol (c :: rest)
              let depth ← bracketDepth depth s
              (.symbol s :: ·) <$> tokensWithin fuel depth false tail

/-- **The tokens of a text**, which holds no null character. -/
def Token.ofText? (cs : List Char) : Option (List Token) :=
  let cs := unifyLineEnds cs
  if cs.contains '\x00' then none else tokensWithin (2 * cs.length + 2) 0 true cs

end Crosswalk.Formula
