import RowSql.Json
import RowSql.Codec.Fault
import RowSql.Number.DecimalText
import RowSql.Text.Quoted
/-!
# Path — places inside documents

A path is a list of segments joined by points.  A segment is a key and any number of indices, each in round or square
brackets.  The prefix `$root.` anchors a path at the whole document.
-/
namespace RowSql
namespace Json

/-- One step into a document. -/
inductive Step where
  | key (name : String)
  | index (n : Nat)
deriving DecidableEq, Repr

/-- **A place inside documents.** -/
structure Path where
  steps : List Step
  /-- The path starts at the whole document, not at one of its rows. -/
  fromRoot : Bool
deriving DecidableEq, Repr

namespace Path

def rootPrefix : List Char := ['$', 'r', 'o', 'o', 't', '.']

/-- The pieces of a text between the characters that `p` accepts. -/
def split (p : Char → Bool) : List Char → List (List Char)
  | [] => [[]]
  | c :: cs =>
    if p c then [] :: split p cs
    else
      match split p cs with
      | [] => [[c]]
      | w :: ws => (c :: w) :: ws

def isOpening (c : Char) : Bool := c == '(' || c == '['

/-- The bracket that closes another. -/
def closing? : Char → Option Char
  | '(' => some ')'
  | '[' => some ']'
  | _ => none

/-- The first number that is too large for an index. -/
def indexLimit : Nat := 18446744073709551616

/-- An index between its brackets. -/
def readIndex? (cs : List Char) : Option Nat :=
  let ds := Text.trim cs
  let ds := match ds with
    | '+' :: ds => ds
    | ds => ds
  (Decimal.readPlain ds).filter fun n => n < indexLimit

/-- The indices of a segment, after its key. -/
def readIndices? : Nat → List Char → Option (List Step)
  | _, [] => some []
  | 0, _ => none
  | fuel + 1, c :: cs => do
    let close ← closing? c
    let (inner, rest) ← Decimal.splitAt? (· == close) cs
    let n ← readIndex? inner
    return .index n :: (← readIndices? fuel rest)

/-- The steps of one segment. -/
def readSegment? (cs : List Char) : Option (List Step) := do
  let key := cs.takeWhile fun c => !isOpening c
  let rest := cs.dropWhile fun c => !isOpening c
  let indices ← readIndices? rest.length rest
  return if key.isEmpty then indices else .key (String.ofList key) :: indices

/-- The path without its prefix, and whether it had one. -/
def stripRoot (cs : List Char) : Bool × List Char :=
  if rootPrefix.isPrefixOf cs then (true, cs.drop rootPrefix.length) else (false, cs)

/-- The path that a text spells, if it has at least one step. -/
def read? (cs : List Char) : Option Path := do
  let (fromRoot, body) := stripRoot cs
  let steps := (← (split (· == '.') body).mapM readSegment?).flatten
  if steps.isEmpty then none else some ⟨steps, fromRoot⟩

/-- **The path that a text spells.** -/
def parse (s : String) : Except CodecFault Path :=
  match read? s.toList with
  | some p => .ok p
  | none => .error (.badOption .json "path" s!"invalid field path {Text.quoted s}")

def stepInto? (j : Json) : Step → Option Json
  | .key k => j.member? k
  | .index n => j.element? n

/-- **The place in a document**, if it is there. -/
def resolve? (p : Path) (j : Json) : Option Json := p.steps.foldlM stepInto? j

end Path
end Json
end RowSql
