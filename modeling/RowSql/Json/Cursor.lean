/-!
# Cursor — a place in a document

What is left of the text, and the place: lines are counted from one, columns are the bytes of the line that were taken.
-/
namespace RowSql
namespace Json

/-- **A place in a document and the text after it.** -/
structure Cursor where
  rest : List Char
  line : Nat
  column : Nat

/-- Why and where a document was given up. -/
structure Fault where
  /-- The text ended inside the document. -/
  atEnd : Bool
  line : Nat
  column : Nat
deriving DecidableEq, Repr

namespace Cursor

def start (text : List Char) : Cursor := ⟨text, 1, 0⟩

/-- The place after a character was taken. -/
def skip (c : Cursor) (ch : Char) (rest : List Char) : Cursor :=
  if ch == '\n' then ⟨rest, c.line + 1, 0⟩ else ⟨rest, c.line, c.column + ch.utf8Size⟩

/-- The next character and the place after it. -/
def next? (c : Cursor) : Option (Char × Cursor) :=
  match c.rest with
  | [] => none
  | ch :: rest => some (ch, c.skip ch rest)

/-- The next character; the text ends with endless NULs. -/
def peek (c : Cursor) : Char := c.rest.headD '\x00'

/-- A fault at this place. -/
def fault (c : Cursor) (atEnd : Bool) : Fault := ⟨atEnd, c.line, c.column⟩

/-- A fault in the next byte: the text has ended, or this byte cannot stand here. -/
def faultAhead (c : Cursor) (atEnd : Bool) : Fault :=
  match c.rest with
  | [] => c.fault atEnd
  | '\n' :: _ => ⟨atEnd, c.line + 1, 0⟩
  | _ => ⟨atEnd, c.line, c.column + 1⟩

/-- The place `n` bytes ahead, which may be inside a character; the text after it begins with the next whole one. -/
def skipBytes : Nat → Nat → Cursor → Cursor
  | 0, _, c => c
  | _, 0, c => c
  | fuel + 1, n, c =>
    match c.rest with
    | [] => c
    | ch :: rest =>
      if ch.utf8Size ≤ n then skipBytes fuel (n - ch.utf8Size) (c.skip ch rest)
      else ⟨rest, c.line, c.column + n⟩

/-- The place after the next byte. -/
def skipByte (c : Cursor) : Cursor := skipBytes 1 1 c

def isBlank (ch : Char) : Bool := ch == ' ' || ch == '\n' || ch == '\t' || ch == '\r'

/-- The place after the blanks in `rest`. -/
def skipBlanksFrom (line column : Nat) : List Char → Cursor
  | [] => ⟨[], line, column⟩
  | ch :: rest =>
    if ch == '\n' then skipBlanksFrom (line + 1) 0 rest
    else if isBlank ch then skipBlanksFrom line (column + 1) rest
    else ⟨ch :: rest, line, column⟩

/-- The next place with a character that is not blank. -/
def skipBlanks (c : Cursor) : Cursor := skipBlanksFrom c.line c.column c.rest

end Cursor
end Json
end RowSql
