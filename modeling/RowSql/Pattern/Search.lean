import RowSql.Pattern.Program
import RowSql.Pattern.Reader
/-!
# Search — matches of patterns in texts

A search tries the places of the text in order, and at each place the alternatives in order of preference; the first one
that succeeds is the match.  A pair of an instruction and a place is tried once only, so the work of a search is bounded
by their product.
-/
namespace RowSql
namespace Pattern

/-- **A pattern that is ready to be searched for.** -/
structure Compiled where
  program : Array Instr
  /-- The number of captures, the whole match not counted. -/
  captures : Nat
  names : List (String × Nat)

/-- The program of a pattern: its ends are remembered as those of capture 0. -/
def Tree.program (t : Tree) : List Instr := .save 0 :: (t.code ++ [.save 1, .done])

/-- **The pattern of a text** under some flags; nothing if it is no pattern, or one that is too heavy. -/
def compileWith? (flags : Flags) (text : List Char) : Option Compiled := do
  let source ← read? flags text
  if source.tree.weight ≤ weightLimit then some ⟨source.tree.program.toArray, source.tree.captures, source.names⟩
  else none

/-- The pattern of a text without flags. -/
def compile? (text : List Char) : Option Compiled := compileWith? {} text

def isAsciiWord (c : Char) : Bool := c.isAlphanum || c == '_'

/-- Whether a condition holds between two characters, either of which may be missing. -/
def Look.holds (l : Look) (asciiWords : Bool) (before after : Option Char) : Bool :=
  let inWord (c : Option Char) : Bool := c.elim false (if asciiWords then isAsciiWord else Unicode.isWord)
  match l with
  | .textStart => before.isNone
  | .textEnd => after.isNone
  | .lineStart => before.isNone || before == some '\n'
  | .lineEnd => after.isNone || after == some '\n'
  | .anyLineStart => before.isNone || before == some '\n' || (before == some '\r' && after != some '\n')
  | .anyLineEnd => after.isNone || after == some '\r' || (after == some '\n' && before != some '\r')
  | .wordBoundary => inWord before != inWord after
  | .notWordBoundary => inWord before == inWord after
  | .wordStart => !inWord before && inWord after
  | .wordEnd => inWord before && !inWord after
  | .wordStartHalf => !inWord before
  | .wordEndHalf => !inWord after

/-- The places that a match remembers; the slots 0 and 1 are its ends, `2 i` and `2 i + 1` those of capture `i`. -/
abbrev Slots := List (Nat × Nat)

/-- The place in a slot. -/
def Slots.get? (slots : Slots) (slot : Nat) : Option Nat := slots.lookup slot

/-- A point of a search that is still to be tried. -/
structure Thread where
  address : Nat
  place : Nat
  slots : Slots

/-- The threads that an instruction leads to, the preferred one first; none if it fails. -/
def step (text : Array Char) (instr : Instr) (t : Thread) : List Thread :=
  match instr with
  | .take s =>
    match text[t.place]? with
    | some c => if s.contains c then [⟨t.address + 1, t.place + 1, t.slots⟩] else []
    | none => []
  | .look l asciiWords =>
    let before := if t.place = 0 then none else text[t.place - 1]?
    if l.holds asciiWords before text[t.place]? then [⟨t.address + 1, t.place, t.slots⟩] else []
  | .save slot => [⟨t.address + 1, t.place, (slot, t.place) :: t.slots⟩]
  | .split a b => [⟨(t.address + a).toNat, t.place, t.slots⟩, ⟨(t.address + b).toNat, t.place, t.slots⟩]
  | .jump d => [⟨(t.address + d).toNat, t.place, t.slots⟩]
  | .done => []

/-- Tries threads in order; `seen` marks the pairs of an address and a place that were tried. -/
def run (program : Array Instr) (text : Array Char) : Nat → List Thread → ByteArray → Option Slots × ByteArray
  | 0, _, seen => (none, seen)
  | _, [], seen => (none, seen)
  | fuel + 1, t :: threads, seen =>
    let pair := t.address * (text.size + 1) + t.place
    if seen[pair]? != some 0 then run program text fuel threads seen
    else
      match program[t.address]? with
      | none => run program text fuel threads (seen.set! pair 1)
      | some .done => (some t.slots, seen)
      | some instr => run program text fuel (step text instr t ++ threads) (seen.set! pair 1)

/-- Searches at `count` places from `place` on. -/
def searchFrom (program : Array Instr) (text : Array Char) : Nat → Nat → ByteArray → Option Slots
  | 0, _, _ => none
  | count + 1, place, seen =>
    match run program text (2 * seen.size + 2) [⟨0, place, []⟩] seen with
    | (some slots, _) => some slots
    | (none, seen) => searchFrom program text count (place + 1) seen

namespace Compiled

/-- **The first match** at or after a place. -/
def find? (p : Compiled) (text : Array Char) (place : Nat) : Option Slots :=
  searchFrom p.program text (text.size + 1 - place) place ⟨Array.replicate (p.program.size * (text.size + 1)) 0⟩

def isMatch (p : Compiled) (text : List Char) : Bool := (p.find? text.toArray 0).isSome

/-- The part of a text between two slots. -/
def between? (text : Array Char) (slots : Slots) (index : Nat) : Option (List Char) := do
  let a ← slots.get? (2 * index)
  let b ← slots.get? (2 * index + 1)
  return (text.extract a b).toList

/-- The text of a capture of the first match; capture 0 is the whole match. -/
def extract? (p : Compiled) (text : List Char) (index : Nat) : Option (List Char) := do
  let text := text.toArray
  between? text (← p.find? text 0) index

/-- All matches at or after a place that do not overlap.  An empty match right after another match does not count. -/
def findAll (p : Compiled) (text : Array Char) : Nat → Nat → Option Nat → List Slots
  | 0, _, _ => []
  | fuel + 1, place, last =>
    match p.find? text place with
    | none => []
    | some slots =>
      let a := (slots.get? 0).getD 0
      let b := (slots.get? 1).getD 0
      if a == b && last == some b then findAll p text fuel (place + 1) last
      else slots :: findAll p text fuel b (some b)

end Compiled
end Pattern
end RowSql
