import RowSql.Page
import RowSql.Run
/-!
# Command — the command line

Two commands: one runs a configuration over an input, one lists the functions.  Every option has a value, in the
same word after an equals sign or in the next word, and is given once at most.
-/
namespace RowSql

/-- **A command.** -/
inductive Command where
  /-- Run the configuration at a path over a file or, without one, over standard input. -/
  | run (config : String) (input : Option String)
  /-- List the functions of a category or of all, one page of them. -/
  | functions (category : Option String) (page size : Nat)
deriving DecidableEq, Repr, Inhabited

/-- **Why words are no command.** -/
inductive Refusal where
  | misused
  | helpWanted
deriving DecidableEq, Repr, Inhabited

/-- **What a command finds**: files, standard input and the time. -/
structure Surroundings where
  files : Files
  input : List UInt8
  time : Calendar.Moment

/-- **What a command leaves**: an exit code, what it wrote, and what is said of a failure. -/
structure Outcome where
  exit : Nat
  output : String
  message : Option String
deriving DecidableEq, Repr, Inhabited

/-- How the command line is used. -/
def Command.usage : String :=
  "usage: rowsql run [--config FILE] [--input FILE]\n       rowsql functions [--category NAME] [--page N] [--size N]\n"

/-- **What is left where words are no command.** -/
def Refusal.outcome : Refusal → Outcome
  | .misused => ⟨2, "", some Command.usage⟩
  | .helpWanted => ⟨0, Command.usage, none⟩

namespace Command

/-- An option: its name, and the values it accepts. -/
structure Switch where
  name : String
  accepts : String → Bool

/-- Options and their values. -/
abbrev Given := List (String × String)

/-- A word where an option may stand. -/
inductive Word where
  | ending
  | help
  | switch (s : Switch) (value : Option String)
  | other

/-- The word that a text is, among known options. -/
def word (known : List Switch) (text : String) : Word :=
  match text.toList with
  | ['-', '-'] => .ending
  | '-' :: '-' :: cs =>
    let (name, rest) := cs.span (· != '=')
    let value := match rest with
      | '=' :: v => some (String.ofList v)
      | _ => none
    if String.ofList name == "help" then (if value.isNone then .help else .other)
    else
      match known.find? fun s => s.name.toList == name with
      | some s => .switch s value
      | none => .other
  | '-' :: 'h' :: _ => .help
  | _ => .other

/-- Whether a word can be a value: it does not begin like an option. -/
def isValue (text : String) : Bool :=
  match text.toList with
  | '-' :: _ :: _ => false
  | _ => true

/-- The options with one more. -/
def give (s : Switch) (value : String) (given : Given) : Except Refusal Given :=
  if (given.lookup s.name).isSome || !s.accepts value then .error .misused else .ok ((s.name, value) :: given)

/-- **The options that words give.** -/
def options (known : List Switch) : Given → List String → Except Refusal Given
  | given, [] => .ok given
  | given, text :: rest =>
    match word known text with
    | .help => .error .helpWanted
    | .ending => if rest.isEmpty then .ok given else .error .misused
    | .other => .error .misused
    | .switch s (some value) =>
      match give s value given with
      | .ok given => options known given rest
      | .error e => .error e
    | .switch s none =>
      match rest with
      | [] => .error .misused
      | value :: rest =>
        if isValue value then
          match give s value given with
          | .ok given => options known given rest
          | .error e => .error e
        else .error .misused

/-- The first number that does not count anything here. -/
def countLimit : Nat := 18446744073709551616

/-- A count: decimal digits, with a plus sign or without. -/
def count? (text : String) : Option Nat :=
  let ds := match text.toList with
    | '+' :: ds => ds
    | ds => ds
  if ds.isEmpty then none else (Text.number? 10 ds).filter (· < countLimit)

/-- A count that is given, or one that stands for none. -/
def countOf (given : Given) (name : String) (default : Nat) : Nat := ((given.lookup name).bind count?).getD default

def runSwitches : List Switch := [⟨"config", fun _ => true⟩, ⟨"input", fun _ => true⟩]

def functionSwitches : List Switch :=
  [⟨"category", fun _ => true⟩, ⟨"page", fun v => (count? v).isSome⟩, ⟨"size", fun v => (count? v).isSome⟩]

/-- **The command that words give**, with the path of the configuration if they do not name one. -/
def ofWords (config : String) : List String → Except Refusal Command
  | [] => .error .misused
  | verb :: rest =>
    if verb == "run" then do
      let given ← options runSwitches [] rest
      return .run ((given.lookup "config").getD config) (given.lookup "input")
    else if verb == "functions" then do
      let given ← options functionSwitches [] rest
      return .functions (given.lookup "category") (countOf given "page" 1) (countOf given "size" 0)
    else if verb == "help" then .error .helpWanted
    else
      match word [] verb with
      | .help => .error .helpWanted
      | _ => .error .misused

/-! ## Performing -/

/-- The exit code of a program that halts. -/
def haltCode : Nat := 101

/-- A failure, after some output.  A program that halts does not tell of it. -/
def failed (output : String) : RunFault → Outcome
  | .halt => ⟨haltCode, output, none⟩
  | fault => ⟨1, output, some s!"Error: {fault.message}"⟩

/-- A page of the functions' documentation. -/
def listing (category : Option String) (page size : Nat) : Except RunFault (Page Doc) :=
  match category with
  | none => .ok (Page.ofList (Builtin.registry.docs none) page size)
  | some s =>
    match Category.ofName? s with
    | some c => .ok (Page.ofList (Builtin.registry.docs (some c)) page size)
    | none => .error (.config "category" (Category.unknown s))

/-- The width of the column of categories. -/
def categoryWidth : Nat := 12

/-- The lines of one form of a function. -/
def shownDoc (d : Doc) : String :=
  s!"{d.category.padded categoryWidth} {d.name}\n    {d.explanation}\n    e.g. {d.sample}\n"

/-- The lines of a page. -/
def shownPage (p : Page Doc) : String :=
  s!"page {p.number} ({p.size} per page), {p.total} functions in total\n" ++ String.join (p.items.map shownDoc)

/-- The bytes of the input of a run. -/
def inputOf (around : Surroundings) : Option String → Except RunFault (List UInt8)
  | none => .ok around.input
  | some path => (around.files path).mapError .io

/-- **What a run leaves.** -/
def performRun (around : Surroundings) (config : String) (input : Option String) : Outcome :=
  let made : Except RunFault (Transform × Config.Framing × List UInt8) := do
    let c ← Run.load around.files config
    let t ← Run.transform around.files c
    return (t, c.framing, ← inputOf around input)
  match made with
  | .error e => failed "" e
  | .ok (t, framing, bytes) =>
    match Run.output t around.time framing bytes with
    | (output, none) => ⟨0, String.ofList output, none⟩
    | (output, some e) => failed (String.ofList output) e

/-- **What a command leaves.** -/
def perform (around : Surroundings) : Command → Outcome
  | .run config input => performRun around config input
  | .functions category page size =>
    match listing category page size with
    | .ok p => ⟨0, shownPage p, none⟩
    | .error e => failed "" e

/-- The configuration that is run if none is named. -/
def defaultConfig : String := "transform.toml"

/-- The environment variable that names another one. -/
def configVariable : String := "TRANSFORM_CONFIG"

/-- **What words on the command line leave.** -/
def performWords (around : Surroundings) (config : String) (words : List String) : Outcome :=
  match ofWords config words with
  | .ok c => c.perform around
  | .error r => r.outcome

/-- Whether a command reads standard input. -/
def readsInput : Command → Bool
  | .run _ none => true
  | _ => false

/-- The paths at which a command looks for files, of those that it knows from the files it has. -/
def paths (files : Files) : Command → List String
  | .functions _ _ _ => []
  | .run config input =>
    let schema := match Run.load files config with
      | .ok c => c.source.options.text? "schema_path"
      | .error _ => none
    config :: (input.toList ++ schema.toList)

end Command
end RowSql
