import RowSql.Config.Node
import RowSql.Toml
import RowSql.Transform
/-!
# Config — configurations

A run has a statement with its settings, how its input is cut into records, a source and a sink.  Members that
are not known are passed over.
-/
namespace RowSql
namespace Config

/-- **The settings of a statement.** -/
structure TransformConfig where
  sql : String
  policy : FaultPolicy
  /-- Parameters in ascending order of their names. -/
  params : List (String × Setting)
deriving Inhabited

/-- **How input is cut into records.** -/
inductive Framing where
  /-- A record is a line that is not blank. -/
  | lines
  /-- All input is one record. -/
  | whole
deriving DecidableEq, Repr, Inhabited

namespace Framing

def name : Framing → String
  | .lines => "lines"
  | .whole => "whole"

def all : List Framing := [.lines, .whole]

def ofName? (s : String) : Option Framing := all.find? fun f => f.name == s

end Framing

/-- **A source or a sink.** -/
structure CodecConfig where
  format : Format
  fields : List Field
  options : Options
deriving Inhabited

/-- **The configuration of a run.** -/
structure RunConfig where
  transform : TransformConfig
  framing : Framing
  source : CodecConfig
  sink : CodecConfig
deriving Inhabited

/-- Settings in ascending order of their names. -/
def byName (settings : List (String × Setting)) : List (String × Setting) := settings.mergeSort fun a b => a.1 ≤ b.1

/-- The fault policy that a node names. -/
def policy? (style : Style) (v : Node) : Option FaultPolicy := (v.choice? style).bind FaultPolicy.ofName?

/-- The framing that a node names. -/
def framing? (style : Style) (v : Node) : Option Framing := (v.choice? style).bind Framing.ofName?

/-- **The settings of a statement in a document.** -/
def transform? (style : Style) (v : Node) : Option TransformConfig := do
  let ms ← v.members? style ["sql", "fault_policy", "params"]
  let sql ← (← ms.lookup "sql").text?
  let policy ← optional .abort (policy? style) (ms.lookup "fault_policy")
  let params ← optional [] Node.settings? (ms.lookup "params")
  return ⟨sql, policy, byName params⟩

/-- The type of a field. -/
def fieldType? (v : Node) : Option FieldType := (v.choice? .nested).bind FieldType.ofName?

/-- The path of a field, which may be nothing. -/
def path? : Node → Option (Option String)
  | .nothing => some none
  | v => v.text?.map some

/-- A field in a document. -/
def field? (v : Node) : Option Field := do
  let ms ← v.members? .nested ["name", "type", "path"]
  let name ← (← ms.lookup "name").text?
  let type ← optional .text fieldType? (ms.lookup "type")
  let path? ← optional none path? (ms.lookup "path")
  return ⟨name, type, path?⟩

/-- The fields in a document. -/
def fields? : Node → Option (List Field)
  | .list items => items.mapM field?
  | _ => none

/-- The options in a document. -/
def options? (v : Node) : Option Options := v.settings?.map Options.ofPairs

/-- The format of a codec's section and the members after it; in a list the format is the first item. -/
def section? : Node → Option (Format × List (String × Node))
  | .table ms => do
    let format ← (← ms.lookup "format").text?
    return (← Format.ofName? format, ms)
  | .list (tag :: items) => do
    let format ← Format.ofName? (← tag.text?)
    return (format, ← (Node.list items).members? .nested ["fields", "options"])
  | _ => none

/-- **A source in a document.** -/
def source? (v : Node) : Option CodecConfig := do
  let (format, ms) ← section? v
  let fields ← optional [] fields? (ms.lookup "fields")
  let options ← optional .empty options? (ms.lookup "options")
  return ⟨format, fields, options⟩

/-- **A sink in a document**; no rows are written as Avro data. -/
def sink? (v : Node) : Option CodecConfig := do
  let codec ← source? v
  if codec.format == .avro then none else return codec

/-- **The configuration of a run in a document.** -/
def run? (style : Style) (v : Node) : Option RunConfig := do
  let ms ← v.members? style ["transform", "framing", "source", "sink"]
  let transform ← transform? style (← ms.lookup "transform")
  let framing ← optional .lines (framing? style) (ms.lookup "framing")
  let source ← source? (← ms.lookup "source")
  let sink ← sink? (← ms.lookup "sink")
  return ⟨transform, framing, source, sink⟩

/-- **The settings of a statement in a text.** -/
def TransformConfig.parse? (text : String) : Option TransformConfig := do transform? .toml (← Toml.parse? text)

/-- **The configuration of a run in a text.** -/
def RunConfig.parse? (text : String) : Option RunConfig := do run? .toml (← Toml.parse? text)

end Config
end RowSql
