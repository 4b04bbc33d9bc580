import RowSql.Codec
import RowSql.Context
import RowSql.Expr.Eval
import RowSql.Function.Builtin
import RowSql.Plan
/-!
# Transform — records to texts

A transform decodes a record, evaluates a plan on every row that its condition admits, and writes the values of
each.  Rows are taken in order, and nothing of one row reaches another.  The first failure is the result of the
whole record, but the policy may put nothing in the place of a faulting value, or leave the row out; a row whose
condition faults is never admitted.  Where the program halts, the record ends with that under every policy.
-/
namespace RowSql

/-- **What becomes of a row on which an expression faults.** -/
inductive FaultPolicy where
  /-- The record fails. -/
  | abort
  /-- The value is nothing. -/
  | nullField
  /-- The row is left out. -/
  | skipRow
deriving DecidableEq, Repr, Inhabited

namespace FaultPolicy

def name : FaultPolicy → String
  | .abort => "abort"
  | .nullField => "null_field"
  | .skipRow => "skip_row"

def all : List FaultPolicy := [.abort, .nullField, .skipRow]

def ofName? (s : String) : Option FaultPolicy := all.find? fun p => p.name == s

end FaultPolicy

/-- **A failure of a transform**, when it is built or on a record. -/
inductive TransformFault where
  | compile (cause : CompileFault)
  | decode (cause : CodecFault)
  | encode (cause : CodecFault)
  /-- The expression of a field, or the condition, faulted on a row. -/
  | eval (field : String) (row : Nat) (cause : EvalFault)
  /-- The program halts. -/
  | halt
deriving DecidableEq, Repr, Inhabited

def TransformFault.message : TransformFault → String
  | .compile cause => s!"compile error: {cause.message}"
  | .decode cause => s!"decode error: {cause.message}"
  | .encode cause => s!"encode error: {cause.message}"
  | .eval field row cause => s!"evaluation of '{field}' failed at row {row}: {cause.message}"
  | .halt => haltMessage

def TransformFault.ofCompile : CompileFault → TransformFault
  | .halt => .halt
  | cause => .compile cause

def TransformFault.ofEncode : CodecFault → TransformFault
  | .halt => .halt
  | cause => .encode cause

def TransformFault.ofDecode : CodecFault → TransformFault
  | .halt => .halt
  | cause => .decode cause

/-- **A transform**: how records are read, what is evaluated on each row, what becomes of faults, how rows are
written, and parameters for all records. -/
structure Transform where
  decoder : Decoder
  plan : Plan
  policy : FaultPolicy
  encoder : Encoder
  params : List (String × Value)

namespace Transform

/-- **The transform of a statement** between the fields of a decoder and of an encoder. -/
def build (decoder : Decoder) (encoder : Encoder) (sql : String) (policy : FaultPolicy)
    (params : List (String × Value)) :
    Except TransformFault Transform :=
  match Plan.compile Builtin.registry decoder.fields encoder.fields sql with
  | .ok plan => .ok ⟨decoder, plan, policy, encoder, params⟩
  | .error cause => .error (.ofCompile cause)

/-- What stands for a value that faulted: a value, or none when the row is left out. -/
def onFault (policy : FaultPolicy) (field : String) (row : Nat) (cause : EvalFault) :
    Except TransformFault (Option Value) :=
  match cause, policy with
  | .halt, _ => .error .halt
  | cause, .abort => .error (.eval field row cause)
  | _, .nullField => .ok (some .null)
  | _, .skipRow => .ok none

/-- The field that a fault of the condition is told of. -/
def conditionField : String := "where"

/-- Whether a condition admits a row; only truth does. -/
def admits (policy : FaultPolicy) (context : Context) (index : Nat) (cells : List Value) :
    Option Expr → Except TransformFault Bool
  | none => .ok true
  | some condition =>
    match condition.eval context cells with
    | .ok (.bool true) => .ok true
    | .ok _ => .ok false
    | .error cause => (onFault policy conditionField index cause).map fun _ => false

/-- The value of a column on a row; none when the row is left out. -/
def columnValue (policy : FaultPolicy) (context : Context) (index : Nat) (cells : List Value) (column : OutputColumn) :
    Except TransformFault (Option Value) :=
  match column.expr.eval context cells with
  | .ok v => .ok (some v)
  | .error cause => onFault policy column.name index cause

/-- The named values of the columns on a row, in order; none when the row is left out. -/
def columnValues (policy : FaultPolicy) (context : Context) (index : Nat) (cells : List Value) :
    List OutputColumn → Except TransformFault (Option NamedRow)
  | [] => .ok (some [])
  | column :: columns =>
    match columnValue policy context index cells column with
    | .error e => .error e
    | .ok none => .ok none
    | .ok (some v) => (columnValues policy context index cells columns).map (·.map ((column.name, v) :: ·))

/-- The named values of a row; none when the row is left out. -/
def rowValues (plan : Plan) (policy : FaultPolicy) (context : Context) (index : Nat) (cells : List Value) :
    Except TransformFault (Option NamedRow) :=
  match admits policy context index cells plan.condition with
  | .error e => .error e
  | .ok false => .ok none
  | .ok true => columnValues policy context index cells plan.columns

/-- **The text of a row**; none when the row is left out. -/
def rowText (t : Transform) (context : Context) (index : Nat) (cells : List Value) :
    Except TransformFault (Option String) :=
  match rowValues t.plan t.policy context index cells with
  | .error e => .error e
  | .ok none => .ok none
  | .ok (some values) =>
    match t.encoder.encode values with
    | .ok text => .ok (some text)
    | .error cause => .error (.ofEncode (cause.located (.row index)))

/-- **The texts of rows** from a row on, up to the first failure. -/
def rowTexts (t : Transform) (context : Context) :
    (index : Nat) → List (List Value) → Except TransformFault (List String)
  | _, [] => .ok []
  | index, cells :: rows =>
    match rowText t context index cells with
    | .error e => .error e
    | .ok text => (rowTexts t context (index + 1) rows).map (text.toList ++ ·)

/-- The texts of a record in a context that is complete. -/
def recordTexts (t : Transform) (context : Context) (bytes : List UInt8) : Except TransformFault (List String) :=
  match t.decoder.decode bytes with
  | .error cause => .error (.ofDecode cause)
  | .ok decoded => rowTexts t context 0 decoded.rows

/-- **The texts of a record at a time**, with parameters over those of the transform. -/
def run (t : Transform) (time : Calendar.Moment) (params : List (String × Value)) (bytes : List UInt8) :
    Except TransformFault (List String) :=
  recordTexts t (((Context.start time).withParams t.params).withParams params) bytes

/-- **The texts of a record in a context**, whose parameters are over those of the transform. -/
def runIn (t : Transform) (context : Context) (bytes : List UInt8) : Except TransformFault (List String) :=
  run t context.time context.params bytes

end Transform
end RowSql
