import RowSql.Calendar.Writer
import RowSql.Value
/-!
# Context — what a pass over rows is given

A context has the processing time of the pass and its parameters.  Layers of parameters are put one over another; the
parameter of the processing time is on top of all of them.
-/
namespace RowSql

/-- **The processing time and the parameters of a pass.** -/
structure Context where
  time : Calendar.Moment
  params : List (String × Value)
deriving Inhabited

namespace Context

/-- The parameter that holds the processing time. -/
def timeParam : String := "processing_time"

/-- Parameters with one set: in place if it is there, else at the end. -/
def set (name : String) (v : Value) : List (String × Value) → List (String × Value)
  | [] => [(name, v)]
  | (n, w) :: rest => if n == name then (n, v) :: rest else (n, w) :: set name v rest

/-- The context of a time, without parameters of its own. -/
def start (time : Calendar.Moment) : Context := ⟨time, [(timeParam, .text time.text)]⟩

/-- **The context with a layer of parameters over those it has**, under the processing time. -/
def withParams (c : Context) (layer : List (String × Value)) : Context :=
  { c with params := layer.foldl (fun ps p => if p.1 == timeParam then ps else set p.1 p.2 ps) c.params }

/-- The value of a parameter. -/
def param? (c : Context) (name : String) : Option Value := c.params.lookup name

end Context
end RowSql
