import Crosswalk.Text.Digits
import Crosswalk.Text.Split

/-!
# Arguments

The arguments of a command line are options and operands.  An option starts with a dash and may have
a value, behind an equals sign or as the next argument.  A long name may be cut short as long as
it fits one name only, and short ones without values may share a dash.  Behind two dashes there are
operands alone.

* `OptionSpec`, `Grammar` — **what a command line may hold.**
* `Mark` — what an argument is, seen on its own.
* `Event` — **what an argument says**, seen among the others.
* `Grammar.events` — the events of a command line in order, and whether all of it was understood.
-/

namespace Crosswalk.Arguments

/-- **An option**: its names, and whether it has a value. -/
structure OptionSpec (κ : Type) where
  key : κ
  names : List String
  hasValue : Bool

/-- **What a command line may hold.** -/
structure Grammar (κ : Type) where
  options : List (OptionSpec κ)
  /-- How many operands there are; without a number, the first one takes all that follow it. -/
  operands : Option Nat

/-- **What an argument says.** -/
inductive Event (κ : Type) where
  | option (key : κ) (value : String)
  | operand (text : String)
  /-- An operand with all arguments that follow it. -/
  | rest (text : String) (arguments : List String)

/-- A value that is part of the argument of its option. -/
structure Attached where
  /-- It stands behind an equals sign. -/
  isBehindSign : Bool
  text : List Char

/-- What an argument is, seen on its own. -/
inductive Mark (κ : Type) where
  /-- An option, under the name that was meant. -/
  | option (spec : OptionSpec κ) (name : String) (value : Option Attached)
  /-- An option that nobody knows. -/
  | unknown
  | operand
  /-- Two dashes. -/
  | dashes

namespace Grammar

variable {κ : Type}

/-! ## Arguments on their own -/

/-- All options by their names. -/
def byName (g : Grammar κ) : List (String × OptionSpec κ) :=
  g.options.flatMap fun o => o.names.map fun name => (name, o)

/-- What stands in front of the first equals sign, and what behind it. -/
def cutAtSign (argument : String) : String × Option Attached :=
  let (before, behind) := splitFirst '=' argument.toList
  (String.ofList before, behind.map (.mk true))

/-- The names that begin with a text. -/
def startingWith (g : Grammar κ) (start : String) (value : Option Attached) : List (Mark κ) :=
  (g.byName.filter fun (name, _) => start.toList.isPrefixOf name.toList).map fun (name, o) =>
    .option o name value

/-- What an argument may stand for when its name is cut short or shares a dash. -/
def candidates (g : Grammar κ) (argument : String) : List (Mark κ) :=
  if "--".toList.isPrefixOf argument.toList then
    let (start, value) := cutAtSign argument
    g.startingWith start value
  else
    let short := String.ofList (argument.toList.take 2)
    let shared := (g.byName.filter fun (name, _) => name = short).map fun (name, o) =>
      Mark.option o name (some ⟨false, argument.toList.drop 2⟩)
    shared ++ g.startingWith argument none

/-- Whether a text without its dash is a number. -/
def isNumber (cs : List Char) : Bool :=
  match cs.dropWhile isDecimal with
  | [] => !cs.isEmpty
  | '.' :: fraction => !fraction.isEmpty && fraction.all isDecimal
  | _ => false

/-- **What an argument is, seen on its own**; nothing if its name fits more than one option. -/
def mark? (g : Grammar κ) (argument : String) : Option (Mark κ) :=
  match argument.toList with
  | '-' :: c :: cs =>
    match g.byName.lookup argument with
    | some o => some (.option o argument none)
    | none =>
      let (name, value) := cutAtSign argument
      match value, g.byName.lookup name with
      | some v, some o => some (.option o name (some v))
      | _, _ =>
        match g.candidates argument with
        | [m] => some m
        | _ :: _ :: _ => none
        | [] => some (if isNumber (c :: cs) || (c :: cs).contains ' ' then .operand else .unknown)
  | _ => some .operand

/-- All arguments with their marks. -/
def marks? (g : Grammar κ) : List String → Option (List (String × Mark κ))
  | [] => some []
  | "--" :: rest => some (("--", .dashes) :: rest.map fun a => (a, .operand))
  | a :: rest => do
    let m ← g.mark? a
    some ((a, m) :: (← g.marks? rest))

/-! ## Arguments among others -/

/-- What an option says: its events, the arguments behind it, and whether all of it was
understood. -/
structure Understood (κ : Type) where
  events : List (Event κ)
  behind : List (String × Mark κ)
  isSound : Bool := true

/-- What is left of options that share a dash, as a value of the next of them. -/
def attached? : List Char → Option Attached
  | [] => none
  | '=' :: cs => some ⟨true, cs⟩
  | cs => some ⟨false, cs⟩

/-- **What an option says**, given its name and its value; nothing if its value is wrong.  What is
attached to an option without a value goes on with the next of the options that share the dash. -/
def understood? (g : Grammar κ) (behind : List (String × Mark κ)) :
    (o : OptionSpec κ) → (name : String) → Option Attached → (fuel : Nat) →
      Option (Understood κ)
  | o, _, none, _ =>
    if o.hasValue then
      match behind with
      | (v, .operand) :: behind => some { events := [.option o.key v], behind }
      | _ => none
    else some { events := [.option o.key ""], behind }
  | _, _, some _, 0 => none
  | o, name, some v, fuel + 1 =>
    if o.hasValue then some { events := [.option o.key (String.ofList v.text)], behind }
    else match v.text with
      | [] => none
      | c :: cs =>
        if "--".toList.isPrefixOf name.toList || v.isBehindSign || c = '-' then none
        else
          let next := String.ofList ['-', c]
          match g.byName.lookup next with
          | none => some { events := [.option o.key ""], behind, isSound := false }
          | some p =>
            (g.understood? behind p next (attached? cs) fuel).map fun u =>
              { u with events := .option o.key "" :: u.events }

/-- The events of marked arguments, with a number of operands that are still to come, by a bound on
the arguments.  What is not understood is passed over, and a wrong value ends it. -/
def eventsUpTo (g : Grammar κ) :
    (fuel : Nat) → (missing : Option Nat) → List (String × Mark κ) → List (Event κ) × Bool
  | 0, _, _ => ([], false)
  | _ + 1, missing, [] => ([], missing.getD 0 = 0)
  | fuel + 1, missing, (a, m) :: rest =>
    match m, missing with
    | .operand, none => ([.rest a (rest.map Prod.fst)], true)
    | .operand, some (n + 1) =>
      let rest := match rest with
        | (_, .dashes) :: rest => rest
        | rest => rest
      let (es, isSound) := g.eventsUpTo fuel (some n) rest
      (.operand a :: es, isSound)
    | .operand, some 0 | .unknown, _ => ((g.eventsUpTo fuel missing rest).1, false)
    | .dashes, none => ([.rest a (rest.map Prod.fst)], false)
    | .dashes, some n =>
      let (es, isSound) := g.eventsUpTo fuel missing rest
      (es, isSound && n != 0 && !rest.isEmpty)
    | .option o name value, _ =>
      match g.understood? rest o name value a.length with
      | none => ([], false)
      | some u =>
        let (more, isSound) := g.eventsUpTo fuel missing u.behind
        (u.events ++ more, u.isSound && isSound)

/-- **The events of a command line in order**, and whether all of it was understood. -/
def events (g : Grammar κ) (arguments : List String) : List (Event κ) × Bool :=
  match g.marks? arguments with
  | none => ([], false)
  | some marked => g.eventsUpTo (marked.length + 1) g.operands marked

end Grammar

end Crosswalk.Arguments
