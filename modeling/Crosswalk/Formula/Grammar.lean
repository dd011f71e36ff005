import Crosswalk.Formula.Token
import Crosswalk.Text.NormalForm

/-!
# The grammar of formulas

Tokens are read into trees by recursive descent.  Every function takes a bound on the depth of its
calls, gives a tree with the tokens behind it, and gives nothing where no tree stands; the wrapper
`Syntax.ofText?` computes the bound from the size of the tokens.

* `expression` to `atom` — the levels of binding, from conditions down to literals and names.
* `arguments`, `items`, `clauses`, `targets`, `parameters` — the lists that constructs hold.
* `joinedFields` — the fields in the braces of a quotation.
* `Syntax.ofText?` — **the tree of a whole text.**
-/

namespace Crosswalk.Formula

/-- The words that no name may be. -/
def reservedWords : List String :=
  ["False", "None", "True", "and", "as", "assert", "async", "await", "break", "class", "continue",
   "def", "del", "elif", "else", "except", "finally", "for", "from", "global", "if", "import",
   "in", "is", "lambda", "nonlocal", "not", "or", "pass", "raise", "return", "try", "while",
   "with", "yield"]

/-- The tokens behind a given symbol. -/
def symbol? (s : String) : List Token → Option (List Token)
  | .symbol t :: rest => if t = s then some rest else none
  | _ => none

/-- The tokens behind a given word. -/
def word? (w : String) : List Token → Option (List Token)
  | .word v :: rest => if v = w then some rest else none
  | _ => none

/-- A name in its normal form and the tokens behind it. -/
def name? : List Token → Option (String × List Token)
  | .word w :: rest => if w ∈ reservedWords then none else some (normalForm w, rest)
  | _ => none

/-- The operators of one level, weakest first. -/
def binaryOps : List (List (String × BinaryOp)) :=
  [[("|", .bitOr)], [("^", .bitXor)], [("&", .bitAnd)], [("<<", .shiftLeft), (">>", .shiftRight)],
   [("+", .add), ("-", .sub)],
   [("*", .mul), ("/", .div), ("//", .floorDiv), ("%", .mod), ("@", .matMul)]]

/-- An operator out of a list, and the tokens behind it. -/
def operator? (ops : List (String × BinaryOp)) : List Token → Option (BinaryOp × List Token)
  | .symbol s :: rest => (ops.lookup s).map fun op => (op, rest)
  | _ => none

/-- A comparison and the tokens behind it. -/
def relation? : List Token → Option (Relation × List Token)
  | .symbol s :: rest =>
    ([("==", .eq), ("!=", .notEq), ("<=", .lessEq), ("<", .less), (">=", .greaterEq),
      (">", .greater)].lookup s).map fun op => (op, rest)
  | .word "not" :: .word "in" :: rest => some (.notIn, rest)
  | .word "in" :: rest => some (.isIn, rest)
  | .word "is" :: .word "not" :: rest => some (.isNot, rest)
  | .word "is" :: rest => some (.is, rest)
  | _ => none

/-- A sign in front of an operand, and the tokens behind it. -/
def sign? : List Token → Option (UnaryOp × List Token)
  | .symbol "+" :: rest => some (.plus, rest)
  | .symbol "-" :: rest => some (.minus, rest)
  | .symbol "~" :: rest => some (.invert, rest)
  | _ => none

/-- A clause of a comprehension begins here. -/
def startsClause : List Token → Bool
  | .word "for" :: _ => true
  | .word "async" :: .word "for" :: _ => true
  | _ => false

/-- The quotations that stand behind each other. -/
def quotations : List Token → List Quotation × List Token
  | .quotation q :: rest => let (qs, tail) := quotations rest; (q :: qs, tail)
  | ts => ([], ts)

/-! ## Texts of foreign constructs -/

/-- The items of a tuple; a single one is followed by a comma. -/
def itemsText (items : List Syntax) : Layout :=
  match items with
  | [e] => e.render Level.test ++ ","
  | es => .intercalate ", " (Syntax.renderAll es)

/-- A tuple. -/
def tupleOf (items : List Syntax) : Syntax :=
  if items.isEmpty then .foreign .tuple "()" Level.atom
  else .foreign .tuple (itemsText items) Level.tuple

/-- A starred item. -/
def starredOf (e : Syntax) : Syntax := .foreign .starred ("*" ++ e.render Level.bitOr) Level.atom

/-- Items between brackets. -/
def bracketed (construct : Construct) (left right : String) (items : List Syntax) : Syntax :=
  .foreign construct (left ++ .intercalate ", " (Syntax.renderAll items) ++ right) Level.atom

/-- A single subscript; a tuple stands there without brackets. -/
def elementText : Syntax → Layout
  | .foreign .tuple text _ => text
  | e => e.render Level.test

/-- A dictionary of pairs. -/
def dictOf (pairs : List Layout) : Syntax :=
  .foreign .dict ("\x7b" ++ .intercalate ", " pairs ++ "\x7d") Level.atom

/-- A comprehension between brackets. -/
def comprehensionOf (construct : Construct) (left : String) (head clauses : Layout)
    (right : String) :
    Syntax :=
  .foreign construct (left ++ head ++ clauses ++ right) Level.atom

/-- A member of a value; a whole number and its point are kept apart. -/
def attributeOf (e : Syntax) (member : String) : Syntax :=
  let apart := match e with
    | .literal (.int _) | .literal (.bool _) => " "
    | _ => ""
  .foreign .member (e.render Level.atom ++ apart ++ "." ++ member) Level.atom

/-- A name that is given an expression begins here; without brackets it is neither a key nor a
bound. -/
def startsNamed : List Token → Bool
  | .word _ :: .symbol ":=" :: _ => true
  | _ => false

/-- A starred item. -/
def isStarred : Syntax → Bool
  | .foreign .starred _ _ => true
  | _ => false

/-- A string of octets. -/
def Quotation.isOctets : Quotation → Bool
  | .octets _ => true
  | _ => false

/-- A text with fields. -/
def Quotation.hasFields : Quotation → Bool
  | .fields _ _ => true
  | _ => false

/-! ## Lists of parameters -/

/-- How far a list of parameters has come: whether a parameter, a default, a slash, a star and a
parameter behind the star were seen. -/
structure ParameterState where
  given : Bool := false
  defaulted : Bool := false
  slashed : Bool := false
  starred : Bool := false
  bare : Bool := false

/-! ## Fields of quotations -/

/-- The blanks that make no expression. -/
def isFieldBlank (c : Char) : Bool :=
  c = ' ' || c = '\t' || c = '\n' || c = '\x0c' || c = '\r'

/-- The closing bracket of an opening one. -/
def closing : Char → Char
  | '(' => ')'
  | '[' => ']'
  | _ => '\x7d'

/-- The expression of a field: the characters up to a conversion, a specification, the equals sign
or the closing brace outside brackets and quotations. -/
def fieldExpression (quote : Option (Char × Bool)) (stack : List Char) :
    List Char → Option (List Char × List Char)
  | [] => none
  | c :: rest =>
    if c = '\\' then none
    else match quote with
      | some (q, true) =>
        match rest with
        | d :: e :: more =>
          if c = q && d = q && e = q then keep [c, d, e] (fieldExpression none stack more)
          else keep [c] (fieldExpression quote stack (d :: e :: more))
        | more => keep [c] (fieldExpression quote stack more)
      | some (q, false) =>
        keep [c] (fieldExpression (if c = q then none else quote) stack rest)
      | none =>
        if c = '\'' || c = '"' then
          match rest with
          | d :: e :: more =>
            if d = c && e = c then keep [c, d, e] (fieldExpression (some (c, true)) stack more)
            else keep [c] (fieldExpression (some (c, false)) stack (d :: e :: more))
          | more => keep [c] (fieldExpression (some (c, false)) stack more)
        else if c = '(' || c = '[' || c = '\x7b' then
          keep [c] (fieldExpression none (c :: stack) rest)
        else if c = '#' then none
        else if stack.isEmpty && ['!', ':', '\x7d', '='].contains c then
          match rest with
          | d :: more =>
            if d = '=' && (c = '!' || c = '=') then
              keep [c, d] (fieldExpression none stack more)
            else some ([], c :: rest)
          | [] => some ([], c :: rest)
        else if stack.isEmpty && (c = '<' || c = '>') then
          match rest with
          | d :: more =>
            if d = '=' then keep [c, d] (fieldExpression none stack more)
            else keep [c] (fieldExpression none stack (d :: more))
          | [] => keep [c] (fieldExpression none stack [])
        else if c = ')' || c = ']' || c = '\x7d' then
          match stack with
          | o :: stack => if closing o = c then keep [c] (fieldExpression none stack rest) else none
          | [] => none
        else keep [c] (fieldExpression none stack rest)
termination_by cs => cs.length
where
  keep (cs : List Char) (r : Option (List Char × List Char)) : Option (List Char × List Char) :=
    r.map fun (ds, tail) => (cs ++ ds, tail)

/-- The literal part of a quotation with fields, up to a brace; doubled braces outside a
specification stand for single ones. -/
def fieldLiteral (raw top : Bool) : List Char → Option (List Char × List Char)
  | [] => some ([], [])
  | '\\' :: 'N' :: rest => if raw then keep ['\\', 'N'] (fieldLiteral raw top rest) else none
  | '\\' :: c :: rest =>
    if raw || c = '\x7b' || c = '\x7d' then keep ['\\'] (fieldLiteral raw top (c :: rest))
    else keep ['\\', c] (fieldLiteral raw top rest)
  | c :: rest =>
    if c = '\x7b' || c = '\x7d' then
      match rest with
      | d :: more =>
        if top && d = c then keep [c] (fieldLiteral raw top more)
        else if top && c = '\x7d' then none
        else some ([], c :: rest)
      | [] => if top && c = '\x7d' then none else some ([], c :: rest)
    else keep [c] (fieldLiteral raw top rest)
where
  keep (cs : List Char) (r : Option (List Char × List Char)) : Option (List Char × List Char) :=
    r.map fun (ds, tail) => (cs ++ ds, tail)

/-- The characters of a literal part, braces doubled. -/
def literalPart (raw : Bool) (cs : List Char) : Option (List Char) := do
  let ds ← if raw then some cs else decodeText cs
  some (ds.flatMap fun c => if c = '\x7b' || c = '\x7d' then [c, c] else [c])

/-- A field with an expression in canonical layout, its conversion and its specification.  Where
the expression needs a backslash the field has no text; a brace that it begins with is kept apart
from the one of the field. -/
def fieldOf (e : Syntax) (conversion : List Char) (spec : List Stretch) : Stretch :=
  let cs := (e.render Level.test.next).inside.toList
  if cs.contains '\\' || cs.contains unwritable || spec.any Stretch.isUnwritten then .unwritten
  else
    let shown := if cs.head? = some '\x7b' then ' ' :: cs else cs
    .field ('\x7b' :: shown ++ conversion ++ spec.flatMap Stretch.chars ++ ['\x7d'])

/-! ## Expressions -/

mutual

/-- A condition, a function without a name, or anything tighter. -/
def expression : Nat → List Token → Option (Syntax × List Token)
  | 0, _ => none
  | n + 1, .word "lambda" :: ts => do
    let (ps, ts) ← parameters n {} ts
    let ts ← symbol? ":" ts
    let (body, ts) ← expression n ts
    let head : Layout := if ps.isEmpty then "lambda" else "lambda " ++ .intercalate ", " ps
    some (.foreign .lambda (head ++ ": " ++ body.render Level.test) Level.test, ts)
  | n + 1, ts => do
    let (yes, rest) ← disjunction n ts
    let whole : Option (Syntax × List Token) := do
      let ts ← word? "if" rest
      let (test, ts) ← disjunction n ts
      let ts ← word? "else" ts
      let (no, ts) ← expression n ts
      some (.choice test yes no, ts)
    whole.or (some (yes, rest))

/-- An expression, or a name with the expression it is given. -/
def namedExpression : Nat → List Token → Option (Syntax × List Token)
  | 0, _ => none
  | n + 1, ts =>
    match ts with
    | .word w :: .symbol ":=" :: rest =>
      if w ∈ reservedWords then none
      else do
        let (e, rest) ← expression n rest
        some (.foreign .named (normalForm w ++ " := " ++ e.render Level.atom) Level.named, rest)
    | _ => do
      let (e, rest) ← expression n ts
      if (symbol? ":=" rest).isSome then none else some (e, rest)

/-- Conditions joined by `or`. -/
def disjunction : Nat → List Token → Option (Syntax × List Token)
  | 0, _ => none
  | n + 1, ts => do
    let (e, ts) ← conjunction n ts
    let (es, ts) := alternatives n ts
    some (if es.isEmpty then e else .junction .or (e :: es), ts)

/-- The operands behind the first of a chain of `or`. -/
def alternatives : Nat → List Token → List Syntax × List Token
  | 0, ts => ([], ts)
  | n + 1, ts =>
    match (do conjunction n (← word? "or" ts)) with
    | some (e, rest) => let (es, rest) := alternatives n rest; (e :: es, rest)
    | none => ([], ts)

/-- Conditions joined by `and`. -/
def conjunction : Nat → List Token → Option (Syntax × List Token)
  | 0, _ => none
  | n + 1, ts => do
    let (e, ts) ← inversion n ts
    let (es, ts) := requirements n ts
    some (if es.isEmpty then e else .junction .and (e :: es), ts)

/-- The operands behind the first of a chain of `and`. -/
def requirements : Nat → List Token → List Syntax × List Token
  | 0, ts => ([], ts)
  | n + 1, ts =>
    match (do inversion n (← word? "and" ts)) with
    | some (e, rest) => let (es, rest) := requirements n rest; (e :: es, rest)
    | none => ([], ts)

/-- A negated condition or a comparison. -/
def inversion : Nat → List Token → Option (Syntax × List Token)
  | 0, _ => none
  | n + 1, .word "not" :: ts => do
    let (e, ts) ← inversion n ts
    some (.unary .not e, ts)
  | n + 1, ts => do
    let (e, ts) ← binary n binaryOps ts
    let (ops, es, ts) := relations n ts
    some (if ops.isEmpty then e else .comparison e ops es, ts)

/-- The comparisons behind the first operand of a chain. -/
def relations : Nat → List Token → List Relation × List Syntax × List Token
  | 0, ts => ([], [], ts)
  | n + 1, ts =>
    match (do
      let (op, rest) ← relation? ts
      let (e, rest) ← binary n binaryOps rest
      some (op, e, rest)) with
    | some (op, e, rest) =>
      let (ops, es, rest) := relations n rest
      (op :: ops, e :: es, rest)
    | none => ([], [], ts)

/-- Operators of the given levels, weakest first; each level associates to the left. -/
def binary : Nat → List (List (String × BinaryOp)) → List Token →
    Option (Syntax × List Token)
  | 0, _, _ => none
  | n + 1, [], ts => factor n ts
  | n + 1, ops :: tighter, ts => do
    let (e, ts) ← binary n tighter ts
    some (operands n ops tighter e ts)

/-- The operators of one level behind a left operand. -/
def operands : Nat → List (String × BinaryOp) → List (List (String × BinaryOp)) → Syntax →
    List Token → Syntax × List Token
  | 0, _, _, left, ts => (left, ts)
  | n + 1, ops, tighter, left, ts =>
    match (do
      let (op, rest) ← operator? ops ts
      let (right, rest) ← binary n tighter rest
      some (op, right, rest)) with
    | some (op, right, rest) => operands n ops tighter (.binary op left right) rest
    | none => (left, ts)

/-- A signed operand or a power. -/
def factor : Nat → List Token → Option (Syntax × List Token)
  | 0, _ => none
  | n + 1, ts =>
    match sign? ts with
    | some (op, rest) => do
      let (e, rest) ← factor n rest
      some (.unary op e, rest)
    | none => do
      let (base, ts) ← awaited n ts
      let whole : Option (Syntax × List Token) := do
        let (exponent, ts) ← factor n (← symbol? "**" ts)
        some (.binary .pow base exponent, ts)
      whole.or (some (base, ts))

/-- A primary, or one that is waited for. -/
def awaited : Nat → List Token → Option (Syntax × List Token)
  | 0, _ => none
  | n + 1, .word "await" :: ts => do
    let (e, ts) ← primary n ts
    some (.foreign .await ("await " ++ e.render Level.atom) Level.await, ts)
  | n + 1, ts => primary n ts

/-- An atom with calls, members and elements behind it. -/
def primary : Nat → List Token → Option (Syntax × List Token)
  | 0, _ => none
  | n + 1, ts => do
    let (e, ts) ← atom n ts
    some (trailers n e ts)

/-- The calls, members and elements behind a primary. -/
def trailers : Nat → Syntax → List Token → Syntax × List Token
  | 0, e, ts => (e, ts)
  | n + 1, e, ts =>
    match trailer n e ts with
    | some (e, rest) => trailers n e rest
    | none => (e, ts)

/-- One call, member or element behind a primary. -/
def trailer : Nat → Syntax → List Token → Option (Syntax × List Token)
  | 0, _, _ => none
  | _ + 1, e, .symbol "." :: ts => do
    let (member, ts) ← name? ts
    some (attributeOf e member, ts)
  | n + 1, e, .symbol "(" :: ts => do
    let (args, keywords, ts) ← arguments n 0 ts
    some (.call e args keywords, ts)
  | n + 1, e, .symbol "[" :: ts => do
    let (text, ts) ← subscripts n ts
    let ts ← symbol? "]" ts
    some (.foreign .element (e.render Level.atom ++ "[" ++ text ++ "]") Level.atom, ts)
  | _ + 1, _, _ => none

/-- Arguments up to the closing bracket.  The phase tells what was given before: nothing (0), one
by place (1), one by name (2), a doubly starred one (3).  A generator without brackets stands alone;
behind an argument by name none by place follows, and behind a doubly starred one none that is
starred. -/
def arguments :
    Nat → (phase : Nat) → List Token → Option (List Syntax × List Layout × List Token)
  | 0, _, _ => none
  | n + 1, phase, ts =>
    match ts with
    | .symbol ")" :: rest => some ([], [], rest)
    | .symbol "**" :: rest => do
      let (e, rest) ← expression n rest
      let (args, keywords, rest) ← moreArguments n 3 rest
      some (args, ("**" ++ e.render Level.test) :: keywords, rest)
    | .symbol "*" :: rest =>
      if phase = 3 then none
      else do
        let (e, rest) ← expression n rest
        let (args, keywords, rest) ← moreArguments n (max phase 1) rest
        some (starredOf e :: args, keywords, rest)
    | .word w :: .symbol "=" :: rest =>
      if w ∈ reservedWords then none
      else do
        let (e, rest) ← expression n rest
        let (args, keywords, rest) ← moreArguments n (max phase 2) rest
        some (args, (normalForm w ++ "=" ++ e.render Level.test) :: keywords, rest)
    | _ =>
      if 1 < phase then none
      else do
        let (e, rest) ← namedExpression n ts
        if phase = 0 && startsClause rest then
          let (text, rest) ← clauses n rest
          let rest ← symbol? ")" rest
          some ([comprehensionOf .generator "(" (e.render Level.test) text ")"], [], rest)
        else
          let (args, keywords, rest) ← moreArguments n 1 rest
          some (e :: args, keywords, rest)

/-- The arguments behind a comma, or the closing bracket. -/
def moreArguments : Nat → (phase : Nat) → List Token →
    Option (List Syntax × List Layout × List Token)
  | 0, _, _ => none
  | _ + 1, _, .symbol ")" :: rest => some ([], [], rest)
  | n + 1, phase, .symbol "," :: rest => arguments n phase rest
  | _ + 1, _, _ => none

/-- What stands between the brackets of an element. -/
def subscripts : Nat → List Token → Option (Layout × List Token)
  | 0, _ => none
  | n + 1, ts => do
    let (e, ts) ← subscript n ts
    if (symbol? "," ts).isSome || isStarred e then
      let (es, ts) ← moreSubscripts n ts
      some (itemsText (e :: es), ts)
    else some (elementText e, ts)

/-- The subscripts behind a first one. -/
def moreSubscripts : Nat → List Token → Option (List Syntax × List Token)
  | 0, _ => none
  | n + 1, ts =>
    match symbol? "," ts with
    | none => some ([], ts)
    | some rest =>
      if (symbol? "]" rest).isSome then some ([], rest)
      else do
        let (e, rest) ← subscript n rest
        let (es, rest) ← moreSubscripts n rest
        some (e :: es, rest)

/-- One subscript: a starred one, a slice or an expression. -/
def subscript : Nat → List Token → Option (Syntax × List Token)
  | 0, _ => none
  | n + 1, .symbol "*" :: ts => do
    let (e, ts) ← expression n ts
    some (starredOf e, ts)
  | n + 1, .symbol ":" :: ts => do
    let (text, ts) := slice n ts
    some (.foreign .slice (":" ++ text) Level.atom, ts)
  | n + 1, ts => do
    let (e, rest) ← namedExpression n ts
    match symbol? ":" rest with
    | some rest =>
      if startsNamed ts then none
      else
        let (text, rest) := slice n rest
        some (.foreign .slice (e.render Level.test ++ ":" ++ text) Level.atom, rest)
    | none => some (e, rest)

/-- The upper bound and the step of a slice; either may be missing. -/
def slice : Nat → List Token → Layout × List Token
  | 0, ts => ("", ts)
  | n + 1, ts =>
    let (upper, ts) := bound n ts
    match symbol? ":" ts with
    | none => (upper, ts)
    | some ts =>
      let (step, ts) := bound n ts
      (if step.outside.isEmpty then upper else upper ++ ":" ++ step, ts)

/-- A bound of a slice, if there is one. -/
def bound : Nat → List Token → Layout × List Token
  | 0, ts => ("", ts)
  | n + 1, ts =>
    match expression n ts with
    | some (e, rest) => (e.render Level.test, rest)
    | none => ("", ts)

/-- A starred item or an expression. -/
def item : Nat → List Token → Option (Syntax × List Token)
  | 0, _ => none
  | n + 1, .symbol "*" :: ts => do
    let (e, ts) ← binary n binaryOps ts
    some (starredOf e, ts)
  | n + 1, ts => namedExpression n ts

/-- Items separated by commas up to a closing symbol; the last may be followed by a comma. -/
def items : Nat → (closing : String) → List Token → Option (List Syntax × List Token)
  | 0, _, _ => none
  | n + 1, closing, ts =>
    match symbol? closing ts with
    | some rest => some ([], rest)
    | none => do
      let (e, ts) ← item n ts
      let (es, ts) ← moreItems n closing ts
      some (e :: es, ts)

/-- The items behind a comma, or the closing symbol. -/
def moreItems : Nat → (closing : String) → List Token → Option (List Syntax × List Token)
  | 0, _, _ => none
  | n + 1, closing, ts =>
    match symbol? closing ts with
    | some rest => some ([], rest)
    | none => do items n closing (← symbol? "," ts)

/-- A literal, a name or something in brackets. -/
def atom : Nat → List Token → Option (Syntax × List Token)
  | 0, _ => none
  | n + 1, ts =>
    match ts with
    | .word "True" :: rest => some (.literal (.bool true), rest)
    | .word "False" :: rest => some (.literal (.bool false), rest)
    | .word "None" :: rest => some (.literal .absent, rest)
    | .word w :: rest => if w ∈ reservedWords then none else some (.name (normalForm w), rest)
    | .numeral l :: rest => some (.literal l, rest)
    | .quotation _ :: _ => do
      let (qs, rest) := quotations ts
      let e ← joined n qs
      some (e, rest)
    | .symbol "..." :: rest => some (.literal .ellipsis, rest)
    | .symbol "(" :: rest => group n rest
    | .symbol "[" :: rest =>
      match symbol? "]" rest with
      | some rest => some (bracketed .list "[" "]" [], rest)
      | none => do
        let (e, more) ← item n rest
        if startsClause more && !isStarred e then
          let (text, more) ← clauses n more
          let more ← symbol? "]" more
          some (comprehensionOf .listComp "[" (e.render Level.test) text "]", more)
        else
          let (es, rest) ← moreItems n "]" more
          some (bracketed .list "[" "]" (e :: es), rest)
    | .symbol "\x7b" :: rest => braces n rest
    | _ => none

/-- Something in round brackets: an expression, a tuple, a generator or a yield. -/
def group : Nat → List Token → Option (Syntax × List Token)
  | 0, _ => none
  | _ + 1, .symbol ")" :: rest => some (tupleOf [], rest)
  | n + 1, .word "yield" :: .word "from" :: ts => do
    let (e, ts) ← expression n ts
    let ts ← symbol? ")" ts
    some (.foreign .yieldFrom ("yield from " ++ e.render Level.atom) Level.yield, ts)
  | n + 1, .word "yield" :: ts =>
    match symbol? ")" ts with
    | some rest => some (.foreign .yield "yield" Level.yield, rest)
    | none => do
      let (e, ts) ← bare n ts
      let ts ← symbol? ")" ts
      some (.foreign .yield ("yield " ++ e.render Level.atom) Level.yield, ts)
  | n + 1, ts => do
    let (e, rest) ← item n ts
    if startsClause rest && !isStarred e then
      let (text, rest) ← clauses n rest
      let rest ← symbol? ")" rest
      some (comprehensionOf .generator "(" (e.render Level.test) text ")", rest)
    else match symbol? ")" rest with
      | some rest => if isStarred e then none else some (e, rest)
      | none => do
        let (es, rest) ← moreItems n ")" rest
        some (tupleOf (e :: es), rest)

/-- An expression or a tuple without brackets; its items may be starred. -/
def bare : Nat → List Token → Option (Syntax × List Token)
  | 0, _ => none
  | n + 1, ts => do
    let (e, rest) ← bareItem n ts
    match symbol? "," rest with
    | none => some (e, rest)
    | some rest => do
      let (es, rest) := bareItems n rest
      some (tupleOf (e :: es), rest)

/-- A starred item or an expression, without brackets around it. -/
def bareItem : Nat → List Token → Option (Syntax × List Token)
  | 0, _ => none
  | n + 1, .symbol "*" :: ts => do
    let (e, ts) ← binary n binaryOps ts
    some (starredOf e, ts)
  | n + 1, ts => expression n ts

/-- The items behind the first comma of a tuple without brackets. -/
def bareItems : Nat → List Token → List Syntax × List Token
  | 0, ts => ([], ts)
  | n + 1, ts =>
    match bareItem n ts with
    | none => ([], ts)
    | some (e, rest) =>
      match symbol? "," rest with
      | none => ([e], rest)
      | some rest => let (es, rest) := bareItems n rest; (e :: es, rest)

/-- Something in braces: a dictionary, a set or a comprehension of either. -/
def braces : Nat → List Token → Option (Syntax × List Token)
  | 0, _ => none
  | n + 1, ts =>
    if (symbol? "\x7d" ts).isSome || (symbol? "**" ts).isSome then do
      let (ps, rest) ← pairs n ts
      some (dictOf ps, rest)
    else do
      let (e, rest) ← item n ts
      match symbol? ":" rest with
      | some rest =>
        if startsNamed ts || isStarred e then none
        else do
          let (value, rest) ← expression n rest
          let head := e.render Level.test ++ ": " ++ value.render Level.test
          if startsClause rest then
            let (text, rest) ← clauses n rest
            let rest ← symbol? "\x7d" rest
            some (comprehensionOf .dictComp "\x7b" head text "\x7d", rest)
          else
            let (ps, rest) ← morePairs n rest
            some (dictOf (head :: ps), rest)
      | none =>
        if startsClause rest && !isStarred e then
          let (text, rest) ← clauses n rest
          let rest ← symbol? "\x7d" rest
          some (comprehensionOf .setComp "\x7b" (e.render Level.test) text "\x7d", rest)
        else
          let (es, rest) ← moreItems n "\x7d" rest
          some (bracketed .set "\x7b" "\x7d" (e :: es), rest)

/-- The pairs of a dictionary up to the closing brace. -/
def pairs : Nat → List Token → Option (List Layout × List Token)
  | 0, _ => none
  | n + 1, ts =>
    match symbol? "\x7d" ts with
    | some rest => some ([], rest)
    | none => do
      let (p, ts) ← pair n ts
      let (ps, ts) ← morePairs n ts
      some (p :: ps, ts)

/-- The pairs behind a comma, or the closing brace. -/
def morePairs : Nat → List Token → Option (List Layout × List Token)
  | 0, _ => none
  | n + 1, ts =>
    match symbol? "\x7d" ts with
    | some rest => some ([], rest)
    | none => do pairs n (← symbol? "," ts)

/-- A key with its value, or a dictionary to be spread. -/
def pair : Nat → List Token → Option (Layout × List Token)
  | 0, _ => none
  | n + 1, .symbol "**" :: ts => do
    let (e, ts) ← binary n binaryOps ts
    some ("**" ++ e.render Level.bitOr, ts)
  | n + 1, ts => do
    let (key, ts) ← expression n ts
    let ts ← symbol? ":" ts
    let (value, ts) ← expression n ts
    some (key.render Level.test ++ ": " ++ value.render Level.test, ts)

/-- The clauses of a comprehension: at least one. -/
def clauses : Nat → List Token → Option (Layout × List Token)
  | 0, _ => none
  | n + 1, ts => do
    let (head, ts) ← match ts with
      | .word "async" :: .word "for" :: rest => some (" async for ", rest)
      | .word "for" :: rest => some (" for ", rest)
      | _ => none
    let (target, ts) ← targets n ts
    let ts ← word? "in" ts
    let (source, ts) ← disjunction n ts
    let (tests, ts) := tests n ts
    let text := head ++ target.render Level.tuple ++ " in " ++ source.render Level.test.next ++
      tests
    if startsClause ts then
      let (more, ts) ← clauses n ts
      some (text ++ more, ts)
    else some (text, ts)

/-- The conditions of a clause. -/
def tests : Nat → List Token → Layout × List Token
  | 0, ts => ("", ts)
  | n + 1, ts =>
    match (do disjunction n (← word? "if" ts)) with
    | some (e, rest) =>
      let (more, rest) := tests n rest
      (" if " ++ e.render Level.test.next ++ more, rest)
    | none => ("", ts)

/-- What a clause binds: one target, or several as a tuple. -/
def targets : Nat → List Token → Option (Syntax × List Token)
  | 0, _ => none
  | n + 1, ts => do
    let (e, rest) ← target n ts
    match symbol? "," rest with
    | none => some (e, rest)
    | some rest =>
      let (es, rest) := moreTargets n rest
      some (tupleOf (e :: es), rest)

/-- The targets behind a comma; the last may be followed by a comma. -/
def moreTargets : Nat → List Token → List Syntax × List Token
  | 0, ts => ([], ts)
  | n + 1, ts =>
    match target n ts with
    | none => ([], ts)
    | some (e, rest) =>
      match symbol? "," rest with
      | none => ([e], rest)
      | some rest => let (es, rest) := moreTargets n rest; (e :: es, rest)

/-- One target: a name, a member, an element, or targets in brackets; it may be starred. -/
def target : Nat → List Token → Option (Syntax × List Token)
  | 0, _ => none
  | n + 1, .symbol "*" :: ts =>
    if (symbol? "*" ts).isSome then none
    else do
      let (e, ts) ← target n ts
      some (starredOf e, ts)
  | n + 1, ts =>
    match primary n ts with
    | some (.name w, rest) => some (.name w, rest)
    | some (.foreign c text level, rest) =>
      if c = .member ∨ c = .element then
        some (.foreign c text level, rest)
      else bracketedTargets n ts
    | _ => bracketedTargets n ts

/-- Targets in brackets. -/
def bracketedTargets : Nat → List Token → Option (Syntax × List Token)
  | 0, _ => none
  | n + 1, .symbol "(" :: ts =>
    match symbol? ")" ts with
    | some rest => some (tupleOf [], rest)
    | none => do
      let (e, rest) ← targets n ts
      let rest ← symbol? ")" rest
      if isStarred e then none else some (e, rest)
  | n + 1, .symbol "[" :: ts =>
    match symbol? "]" ts with
    | some rest => some (bracketed .list "[" "]" [], rest)
    | none => do
      let (e, rest) ← target n ts
      let (es, rest) := (match symbol? "," rest with
        | none => ([], rest)
        | some rest => moreTargets n rest)
      let rest ← symbol? "]" rest
      some (bracketed .list "[" "]" (e :: es), rest)
  | _ + 1, _ => none

/-- The parameters of a function without a name, each as its text. -/
def parameters : Nat → ParameterState → List Token → Option (List Layout × List Token)
  | 0, _, _ => none
  | n + 1, st, ts =>
    match ts with
    | .symbol ":" :: _ => if st.bare then none else some ([], ts)
    | .symbol "/" :: rest =>
      if st.slashed || st.starred || !st.given then none
      else nextParameter n "/" { st with slashed := true } rest
    | .symbol "**" :: rest =>
      if st.bare then none
      else do
        let (w, rest) ← name? rest
        let rest := (symbol? "," rest).getD rest
        if (symbol? ":" rest).isSome then some (["**" ++ w], rest) else none
    | .symbol "*" :: rest =>
      if st.starred then none
      else match name? rest with
        | some (w, rest) => nextParameter n ("*" ++ w) { st with starred := true } rest
        | none =>
          if (symbol? "," rest).isNone then none
          else nextParameter n "*" { st with starred := true, bare := true } rest
    | _ => do
      let (w, rest) ← name? ts
      match symbol? "=" rest with
      | some rest => do
        let (e, rest) ← expression n rest
        nextParameter n (w ++ "=" ++ e.render Level.test)
          { st with given := true, bare := false, defaulted := st.defaulted || !st.starred } rest
      | none =>
        if st.defaulted && !st.starred then none
        else nextParameter n w { st with given := true, bare := false } rest

/-- The parameters behind one whose text is given. -/
def nextParameter : Nat → Layout → ParameterState → List Token →
    Option (List Layout × List Token)
  | 0, _, _, _ => none
  | n + 1, text, st, ts =>
    match ts with
    | .symbol "," :: rest => do
      let (more, rest) ← parameters n st rest
      some (text :: more, rest)
    | .symbol ":" :: _ => if st.bare then none else some ([text], ts)
    | _ => none

/-- The value of quotations behind each other: texts join, octets join, and fields make the whole
a construct of its own. -/
def joined : Nat → List Quotation → Option Syntax
  | 0, _ => none
  | n + 1, qs =>
    if qs.all Quotation.isOctets then
      some (.literal (.octets (qs.flatMap fun q => match q with | .octets b => b | _ => [])))
    else if qs.any Quotation.isOctets then none
    else if qs.any Quotation.hasFields then do
      let ss ← joinedStretches n qs
      some (.foreign .joined (.ofStretches (ss.foldr Stretch.before [])) Level.atom)
    else
      let s := String.join (qs.map fun q => match q with | .text s _ => s | _ => "")
      let marked := match qs with
        | .text _ m :: _ => m
        | _ => false
      some (.literal (.text s marked))

/-- The stretches of quotations of which some have fields. -/
def joinedStretches : Nat → List Quotation → Option (List Stretch)
  | 0, _ => none
  | _ + 1, [] => some []
  | n + 1, q :: qs => do
    let first ← match q with
      | .fields raw body => do
        let (ss, rest) ← joinedFields n raw 0 body
        if rest.isEmpty then some ss else none
      | .text s _ => do some [Stretch.text (← literalPart true s.toList)]
      | .octets _ => none
    let more ← joinedStretches n qs
    some (first ++ more)

/-- **The fields of a quotation**: literal parts and expressions in braces, each with its
conversion and specification; a specification may hold fields once more. -/
def joinedFields : Nat → (raw : Bool) → (level : Nat) → List Char →
    Option (List Stretch × List Char)
  | 0, _, _, _ => none
  | n + 1, raw, level, cs => do
    let (literal, rest) ← fieldLiteral raw (level == 0) cs
    let text ← literalPart raw literal
    match rest with
    | [] => some ([.text text], [])
    | c :: rest =>
      if c = '\x7b' then
        if 2 ≤ level then none
        else do
          let (field, rest) ← joinedField n raw level rest
          let (more, rest) ← joinedFields n raw level rest
          some (.text text :: field ++ more, rest)
      else some ([.text text], c :: rest)

/-- One field behind its opening brace.  With an equals sign the expression also stands in front of
its value as it was written. -/
def joinedField : Nat → (raw : Bool) → (level : Nat) → List Char →
    Option (List Stretch × List Char)
  | 0, _, _, _ => none
  | n + 1, raw, level, cs => do
    let (inner, rest) ← fieldExpression none [] cs
    if inner.all isFieldBlank then none
    let ts ← Token.ofText? ('(' :: inner ++ [')'])
    let (e, left) ← atom n ts
    if !left.isEmpty then none
    let (label, rest) := (match rest with
      | '=' :: rest => (inner ++ '=' :: rest.takeWhile isAsciiSpace, rest.dropWhile isAsciiSpace)
      | rest => ([], rest))
    let label ← literalPart true label
    let (conversion, rest) ← match rest with
      | '!' :: c :: rest => if c = 's' || c = 'r' || c = 'a' then some (['!', c], rest) else none
      | rest => some ([], rest)
    let (spec, rest) ← match rest with
      | ':' :: rest => do
        let (ss, rest) ← joinedFields n raw (level + 1) rest
        some (.text [':'] :: ss, rest)
      | rest => some ([], rest)
    match rest with
    | c :: rest =>
      let conversion :=
        if conversion.isEmpty && spec.isEmpty && !label.isEmpty then ['!', 'r'] else conversion
      if c = '\x7d' then some ([.text label, fieldOf e conversion spec], rest) else none
    | [] => none

end

/-! ## The whole text -/

/-- The expressions behind a comma; the last may be followed by a comma. -/
def moreExpressions (bound : Nat) : Nat → List Token → List Syntax × List Token
  | 0, ts => ([], ts)
  | n + 1, ts =>
    match expression bound ts with
    | none => ([], ts)
    | some (e, rest) =>
      match symbol? "," rest with
      | none => ([e], rest)
      | some rest => let (es, rest) := moreExpressions bound n rest; (e :: es, rest)

/-- Only line ends are left. -/
def onlyLineEnds (ts : List Token) : Bool :=
  ts.all fun t => match t with | .lineEnd => true | _ => false

/-- The size of a token.  Tokens stand in the fields of a quotation, as many as characters at
most. -/
def Token.size : Token → Nat
  | .quotation (.fields _ body) => body.length + 1
  | _ => 1

/-- The tree of the tokens of a whole text: one expression, or several as a tuple. -/
def Syntax.ofTokens? (ts : List Token) : Option Syntax := do
  let bound := 32 * (ts.map Token.size).foldl (· + ·) 2
  let (e, rest) ← expression bound ts
  match symbol? "," rest with
  | none => if onlyLineEnds rest then some e else none
  | some rest =>
    let (es, rest) := moreExpressions bound (ts.length + 1) rest
    if onlyLineEnds rest then some (tupleOf (e :: es)) else none

/-- **The tree of a text**; nothing when the text is no expression. -/
def Syntax.ofText? (s : String) : Option Syntax := (Token.ofText? s.toList).bind Syntax.ofTokens?

end Crosswalk.Formula
