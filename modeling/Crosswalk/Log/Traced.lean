import Crosswalk.Error

/-!
# Computations that leave a log

A computation of the library may note what it does.  What it has noted stays, whether it succeeds or
fails afterwards.

* `Severity` — how much an entry of the log matters.
* `LogEntry` — **one entry of the log.**
* `Traced` — **a result or a failure, with the entries noted on the way.**
-/

namespace Crosswalk

/-- How much an entry matters: the higher, the more. -/
structure Severity where
  rank : Nat
  deriving DecidableEq, Repr

namespace Severity

/-- The finest steps. -/
def trace : Severity := ⟨5⟩
/-- Steps. -/
def debug : Severity := ⟨10⟩
/-- Stages. -/
def info : Severity := ⟨20⟩
/-- Something to look at. -/
def warning : Severity := ⟨30⟩
/-- A failure. -/
def error : Severity := ⟨40⟩
/-- A failure that ends everything. -/
def critical : Severity := ⟨50⟩

/-- The name of a severity. -/
def name (s : Severity) : String :=
  match s.rank with
  | 0 => "NOTSET"
  | 5 => "TRACE"
  | 10 => "DEBUG"
  | 20 => "INFO"
  | 30 => "WARNING"
  | 40 => "ERROR"
  | 50 => "CRITICAL"
  | n => "Level " ++ toString n

end Severity

/-- **One entry of the log.** -/
structure LogEntry where
  severity : Severity
  /-- The part of the library that speaks. -/
  source : String
  message : String
  /-- The label of the node that is being evaluated. -/
  node : Option String := none
  deriving DecidableEq, Repr

/-- An entry in short: its severity and its message. -/
def LogEntry.short (e : LogEntry) : String := e.severity.name ++ " " ++ e.message

/-- **A result or a failure, with the entries noted on the way.** -/
structure Traced (α : Type) where
  log : List LogEntry
  result : Except Error α

namespace Traced

/-- A result without entries. -/
def done {α : Type} (a : α) : Traced α := ⟨[], .ok a⟩

/-- One computation after another: entries are kept, and a failure ends it. -/
def andThen {α β : Type} (t : Traced α) (f : α → Traced β) : Traced β :=
  match t.result with
  | .ok a => ⟨t.log ++ (f a).log, (f a).result⟩
  | .error e => ⟨t.log, .error e⟩

instance : Monad Traced where
  pure := done
  bind := andThen

/-- A result that leaves no entry. -/
def of {α : Type} (r : Except Error α) : Traced α := ⟨[], r⟩

/-- An entry. -/
def note (severity : Severity) (source message : String) : Traced Unit :=
  ⟨[{ severity, source, message }], .ok ()⟩

/-- The entries of a computation marked with the label of a node. -/
def atNode {α : Type} (label : String) (t : Traced α) : Traced α :=
  ⟨t.log.map fun e => { e with node := some (e.node.getD label) }, t.result⟩

/-- A result without entries is a success. -/
@[simp] theorem result_done {α : Type} (a : α) : (done a).result = .ok a := rfl

/-- The same, as it is written in a sequence of computations. -/
@[simp] theorem result_pure {α : Type} (a : α) : (pure a : Traced α).result = .ok a := rfl

/-- A computation without entries comes to what it is. -/
@[simp] theorem result_of {α : Type} (r : Except Error α) : (of r).result = r := rfl

/-- Noting something succeeds. -/
@[simp] theorem result_note (s : Severity) (source message : String) :
    (note s source message).result = .ok () := rfl

/-- Where entries are noted does not matter for the result. -/
@[simp] theorem result_atNode {α : Type} (label : String) (t : Traced α) :
    (t.atNode label).result = t.result := rfl

/-- Entries do not matter for the result. -/
@[simp] theorem result_bind {α β : Type} (t : Traced α) (f : α → Traced β) :
    (t >>= f).result = t.result >>= fun a => (f a).result := by
  show (t.andThen f).result = _
  unfold andThen
  cases h : t.result <;> rfl

end Traced

end Crosswalk
