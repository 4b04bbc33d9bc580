/-!
# Streams — cursors over shared bytes

Any number of cursors read one list of bytes.  A position may lie past the end, where nothing is read; it is
always a number of 64 bits.
-/
namespace RowSql

/-- The first number that is no position. -/
def positionLimit : Nat := 18446744073709551616

/-- **A step of one cursor.** -/
inductive StreamStep where
  /-- Reads at most `n` bytes. -/
  | read (n : Nat)
  | seekStart (n : Nat)
  | seekEnd (n : Int)
  | seekCurrent (n : Int)
  | length
  /-- A new cursor at the start. -/
  | fresh
  /-- A new cursor at the same position. -/
  | clone
deriving DecidableEq, Repr

/-- **What a step gives.** -/
inductive StreamAnswer where
  | bytes (bs : List UInt8)
  /-- A position or a length. -/
  | count (n : Nat)
  /-- The number of a new cursor. -/
  | cursor (index : Nat)
  /-- A position below zero or beyond 64 bits; nothing has changed. -/
  | badSeek
deriving DecidableEq, Repr

def StreamAnswer.badSeekMessage : String := "invalid seek to a negative or overflowing position"

/-- **Bytes, and the positions of the cursors over them.** -/
structure Streams where
  bytes : List UInt8
  positions : List Nat
deriving DecidableEq, Repr

namespace Streams

/-- One cursor at the start. -/
def start (bytes : List UInt8) : Streams := ⟨bytes, [0]⟩

def position (s : Streams) (cursor : Nat) : Nat := (s.positions[cursor]?).getD 0

/-- At most `n` bytes from a position on. -/
def bytesAt (s : Streams) (position n : Nat) : List UInt8 := (s.bytes.drop position).take n

def moveTo (s : Streams) (cursor position : Nat) : Streams := { s with positions := s.positions.set cursor position }

/-- The position at a distance from another, if it is one. -/
def target? (base : Nat) (offset : Int) : Option Nat :=
  let n := (base : Int) + offset
  if 0 ≤ n ∧ n < positionLimit then some n.toNat else none

/-- A move to a distance from a position. -/
def seekFrom (s : Streams) (cursor base : Nat) (offset : Int) : Streams × StreamAnswer :=
  match target? base offset with
  | some n => (s.moveTo cursor n, .count n)
  | none => (s, .badSeek)

/-- One more cursor. -/
def add (s : Streams) (position : Nat) : Streams × StreamAnswer :=
  ({ s with positions := s.positions ++ [position] }, .cursor s.positions.length)

/-- **One step of a cursor.** -/
def step (s : Streams) (cursor : Nat) : StreamStep → Streams × StreamAnswer
  | .read n =>
    let bs := s.bytesAt (s.position cursor) n
    (s.moveTo cursor (s.position cursor + bs.length), .bytes bs)
  | .seekStart n => (s.moveTo cursor n, .count n)
  | .seekEnd n => s.seekFrom cursor s.bytes.length n
  | .seekCurrent n => s.seekFrom cursor (s.position cursor) n
  | .length => (s, .count s.bytes.length)
  | .fresh => s.add 0
  | .clone => s.add (s.position cursor)

/-- The streams after some steps, and what each of them gave. -/
def run (s : Streams) : List (Nat × StreamStep) → Streams × List StreamAnswer
  | [] => (s, [])
  | (cursor, st) :: rest =>
    let (s, a) := s.step cursor st
    let (s, as) := s.run rest
    (s, a :: as)

end Streams
end RowSql
