/-
DoubleEntry/Envelope.lean

The envelope in which an operation reports its outcome as JSON: whether it
succeeded, its data or its error, and perhaps some context.
-/
import DoubleEntry.Error
import DoubleEntry.Json.Record

namespace DoubleEntry

open DoubleEntry.Json

/-- Reads the kind of an error. -/
def ErrorKind.ofWritten? (w : Written) : Option ErrorKind :=
  w.name?.bind ErrorKind.ofName?

/-- The kind of an error as JSON. -/
def ErrorKind.toJson (k : ErrorKind) : Json :=
  .string k.name

/-- The outcome of an operation, whose data are JSON unless they are said to be
of another type. -/
structure Envelope (α : Type := Json) where
  success : Bool
  data : Option α := none
  error : Option String := none
  errorKind : Option ErrorKind := none
  context : Option (List (String × Json)) := none
  deriving Repr

namespace Envelope

/-! ### Building envelopes -/

section Building

variable {α : Type}

/-- A success. -/
def ok (data : α) : Envelope α :=
  { success := true, data := some data }

/-- A failure with a message. -/
def fail (message : String) : Envelope α :=
  { success := false, error := some message }

/-- A failure by an error, with its kind. -/
def ofError (e : Error) : Envelope α :=
  { fail e.message with errorKind := some e.kind }

/-- The envelope of a result. -/
def ofResult : Except Error α → Envelope α
  | .ok data => ok data
  | .error e => ofError e

/-- Adds a value to the context; a key that is there already gets the new
value. -/
def withContext (e : Envelope α) (key : String) (value : Json) : Envelope α :=
  { e with context := some (put key value (e.context.getD [])) }

end Building

/-! ### Envelopes as JSON -/

/-- The fields of an envelope. -/
def fieldNames : List String :=
  ["success", "data", "error", "error_kind", "context"]

/-- An envelope as JSON; the kind is left out where there is none.  Data that
are null count as none. -/
def toJson (e : Envelope) : Json :=
  .object <|
    [("success", .bool e.success), ("data", e.data.getD .null), ("error", .ofOption .string e.error)]
      ++ (e.errorKind.map fun k => ("error_kind", k.toJson)).toList
      ++ [("context", .ofOption .object e.context)]

/-- Reads a context: an object of values nested as deep as `depth`. -/
def readContext? (depth : Nat) : Written → Option (List (String × Json))
  | .object members => Written.membersToJson? depth [] members
  | _ => none

/-- Reads an envelope.  The envelope itself is one level of nesting, and so
is its context. -/
def ofWritten? (w : Written) : Option Envelope :=
  match w.fields? fieldNames with
  | some [success, data, error, errorKind, context] => do
      return {
        success := ← required Written.bool? success
        data := ← optional (Written.toJson? (maxDepth - 1)) data
        error := ← optional Written.string? error
        errorKind := ← optional ErrorKind.ofWritten? errorKind
        context := ← optional (readContext? (maxDepth - 2)) context }
  | _ => none

end Envelope

end DoubleEntry
