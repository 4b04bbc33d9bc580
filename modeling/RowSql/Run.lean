import RowSql.Config
import RowSql.Files
import RowSql.Text.Space
/-!
# Run — inputs to outputs

A run builds its transform, cuts its input into records and writes the texts of each record on lines of their
own.  A record that fails contributes nothing, and the run goes on.  Where the program halts over a record, the
run ends.
-/
namespace RowSql

/-- **A failure of a run.** -/
inductive RunFault where
  /-- The configuration is not there, or is none. -/
  | config (concern detail : String)
  | codec (cause : CodecFault)
  | transform (cause : TransformFault)
  | io (why : String)
  /-- The program halts. -/
  | halt
deriving DecidableEq, Repr, Inhabited

def RunFault.message : RunFault → String
  | .config concern detail => s!"config ({concern}): {detail}"
  | .codec cause => s!"codec: {cause.message}"
  | .transform cause => cause.message
  | .io why => s!"io: {why}"
  | .halt => haltMessage

def RunFault.ofTransform : TransformFault → RunFault
  | .halt => .halt
  | cause => .transform cause

namespace Run

open Config

/-- What is said of a text that is no configuration. -/
def noConfig : RunFault := .config "parse" "the text is not a configuration"

/-- **The configuration at a path.** -/
def load (files : Files) (path : String) : Except RunFault RunConfig :=
  match files.text path with
  | .error why => .error (.config "read" s!"'{path}': {why}")
  | .ok text =>
    match RunConfig.parse? text with
    | some c => .ok c
    | none => .error noConfig

/-- The decoder of a source. -/
def decoder (files : Files) (c : CodecConfig) : Except RunFault Decoder :=
  (Decoder.build files c.format c.fields c.options).mapError .codec

/-- The encoder of a sink. -/
def encoder (c : CodecConfig) : Except RunFault Encoder :=
  match Encoder.build? c.format c.fields c.options with
  | some built => built.mapError .codec
  | none => .error noConfig

/-- **The transform of a configuration.** -/
def transform (files : Files) (c : RunConfig) : Except RunFault Transform := do
  let decoder ← decoder files c.source
  let encoder ← encoder c.sink
  let params := c.transform.params.map fun p => (p.1, p.2.toValue)
  (Transform.build decoder encoder c.transform.sql c.transform.policy params).mapError .ofTransform

def lineFeed : UInt8 := 10

def carriageReturn : UInt8 := 13

/-- The line that ends in a line feed, from its bytes, the last one first. -/
def endedLine : List UInt8 → List UInt8
  | [] => []
  | b :: bs => if b == carriageReturn then bs.reverse else (b :: bs).reverse

/-- The lines of some bytes after the bytes of a line so far, the last one first. -/
def linesAfter (taken : List UInt8) : List UInt8 → List (List UInt8)
  | [] => if taken.isEmpty then [] else [taken.reverse]
  | b :: bs => if b == lineFeed then endedLine taken :: linesAfter [] bs else linesAfter (b :: taken) bs

/-- **The lines of some bytes**, without the line ends.  After the last line feed there is a line only if
anything follows. -/
def lines (bytes : List UInt8) : List (List UInt8) := linesAfter [] bytes

/-- The texts of a record, none if it fails; there is no result if the program halts over it. -/
def texts? (t : Transform) (time : Calendar.Moment) (record : List UInt8) : Option (List String) :=
  match t.run time [] record with
  | .ok texts => some texts
  | .error .halt => none
  | .error _ => some []

/-- What is written for texts. -/
def written (texts : List String) : List Char := texts.flatMap fun s => s.toList ++ ['\n']

/-- What is written for a list of lines, and why the run stopped before the end.  A line that is no text stops it. -/
def overLines (t : Transform) (time : Calendar.Moment) : List (List UInt8) → List Char × Option RunFault
  | [] => ([], none)
  | line :: rest =>
    match Text.decode line with
    | .error _ => ([], some (.io Files.notText))
    | .ok cs =>
      if cs.all Text.isSpace then overLines t time rest
      else
        match texts? t time line with
        | none => ([], some .halt)
        | some texts =>
          let (after, fault) := overLines t time rest
          (written texts ++ after, fault)

/-- **What is written for an input**, and why the run stopped before its end. -/
def output (t : Transform) (time : Calendar.Moment) (framing : Framing) (input : List UInt8) :
    List Char × Option RunFault :=
  match framing with
  | .whole =>
    match texts? t time input with
    | none => ([], some .halt)
    | some texts => (written texts, none)
  | .lines => overLines t time (lines input)

end Run
end RowSql
