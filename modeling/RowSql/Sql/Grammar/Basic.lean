import RowSql.Sql.Text
import RowSql.Sql.Token
/-!
# Basic — reading tokens

A reader takes tokens from the front of a list.  `attempt` goes back to where it began when its reader fails, unless the
statement is nested too deep, which is a failure of the whole statement.
-/
namespace RowSql
namespace Sql

/-- Why reading stops. -/
inductive Stop where
  | unexpected
  | tooDeep
deriving DecidableEq, Repr, Inhabited

/-- **A reader of tokens.** -/
abbrev Read := StateT (List Lexeme) (Except Stop)

namespace Read

def fail {α : Type} : Read α := throw .unexpected

/-- The next token, which stays where it is. -/
def peek? : Read (Option Token) := do return (← get).head?.map Lexeme.token

/-- The token `n` places after the next one. -/
def peekAt? (n : Nat) : Read (Option Token) := do return (← get)[n]?.map Lexeme.token

/-- Takes the next token. -/
def next? : Read (Option Token) := fun ts => .ok (ts.head?.map Lexeme.token, ts.tail)

/-- Passes over a token. -/
def skip : Read Unit := modify List.tail

/-- The number of tokens that are left, a bound for loops. -/
def left : Read Nat := do return (← get).length

/-- The result of a reader, or why it stopped; then nothing has been taken. -/
def outcome {α : Type} (p : Read α) : Read (Except Stop α) := fun ts =>
  match p ts with
  | .ok (a, rest) => .ok (.ok a, rest)
  | .error e => .ok (.error e, ts)

/-- The result of a reader that may fail. -/
def attempt {α : Type} (p : Read α) : Read (Option α) := do
  match ← outcome p with
  | .ok a => return some a
  | .error .tooDeep => throw .tooDeep
  | .error .unexpected => return none

def isSymbol (s : String) (t : Option Token) : Bool := t == some (.symbol s)

/-- A word as a keyword; a quoted word is none. -/
def keywordOf : Token → Option String
  | .word w none => some (String.ofList (w.toList.map Char.toUpper))
  | _ => none

def isKeyword (k : String) (t : Option Token) : Bool := t.bind keywordOf == some k

/-- The next token is one of these keywords. -/
def peekKeyword (ks : List String) : Read Bool := do
  let t ← peek?
  return ks.any fun k => isKeyword k t

/-- Takes a symbol if it is next. -/
def symbol (s : String) : Read Bool := do
  if isSymbol s (← peek?) then skip; return true else return false

def expectSymbol (s : String) : Read Unit := do if !(← symbol s) then fail

/-- Takes a keyword if it is next. -/
def keyword (k : String) : Read Bool := do
  if isKeyword k (← peek?) then skip; return true else return false

def expectKeyword (k : String) : Read Unit := do if !(← keyword k) then fail

/-- Takes several keywords if they all are next, in order. -/
def keywords (ks : List String) : Read Bool := do
  let ts ← get
  if ts.length < ks.length then return false
  else if (ks.zip ts).all fun (k, t) => isKeyword k (some t.token) then
    set (ts.drop ks.length)
    return true
  else return false

def expectKeywords (ks : List String) : Read Unit := do if !(← keywords ks) then fail

/-- Takes one of some keywords. -/
def oneOf (ks : List String) : Read (Option String) := do
  let t ← peek?
  match ks.find? fun k => isKeyword k t with
  | some k => skip; return some k
  | none => return none

/-- What a reader reads at least once and again after every comma, at most `fuel` times. -/
def commasFrom {α : Type} (p : Read α) : Nat → Read (List α)
  | 0 => fail
  | fuel + 1 => do
    let a ← p
    if ← symbol "," then return a :: (← commasFrom p fuel) else return [a]

/-- What a reader reads, with commas between. -/
def commas {α : Type} (p : Read α) : Read (List α) := do commasFrom p ((← left) + 1)

/-- The same, where nothing at all may stand before the closing symbol. -/
def commasUntil {α : Type} (close : String) (p : Read α) : Read (List α) := do
  if isSymbol close (← peek?) then return [] else commas p

/-- What a reader reads, in parentheses. -/
def parens {α : Type} (p : Read α) : Read α := do
  expectSymbol "("
  let a ← p
  expectSymbol ")"
  return a

/-- A name. -/
def name : Read Name := do
  match ← next? with
  | some (.word w q) => return ⟨w, q⟩
  | some (.text s) => return ⟨s, some '\''⟩
  | _ => fail

def pathFrom : Nat → Read (List Name)
  | 0 => fail
  | fuel + 1 => do
    let n ← name
    if ← symbol "." then return n :: (← pathFrom fuel) else return [n]

/-- Names with points between them. -/
def path : Read (List Name) := do pathFrom ((← left) + 1)

/-- The name or number that ends a placeholder, right after its mark. -/
def placeholderName : Read String := do
  match (← get).head? with
  | some ⟨.word w _, false⟩ => skip; return w
  | some ⟨.number n false, false⟩ => skip; return n
  | _ => fail

/-- **A literal value.** -/
def literal : Read Literal := do
  match ← next? with
  | some (.word w q) =>
    match keywordOf (.word w q), q with
    | some "TRUE", _ => return .bool true
    | some "FALSE", _ => return .bool false
    | some "NULL", _ => return .null
    | _, some '"' => return .quotedText w
    | _, _ => fail
  | some (.number n long) => return .number n long
  | some (.text s) => return .text s
  | some (.national s) => return .national s
  | some (.hex ds) => return .hex ds
  | some (.dollar tag s) => return .dollar tag s
  | some (.placeholder n) => return .placeholder n
  | some (.symbol ":") => return .placeholder (":" ++ (← placeholderName))
  | some (.symbol "@") => return .placeholder ("@" ++ (← placeholderName))
  | _ => fail

/-- A number without sign, point or exponent. -/
def wholeNumber : Read String := do
  match ← next? with
  | some (.number n _) => if n.toList.all Char.isDigit then return n else fail
  | _ => fail

def quotedText : Read String := do
  match ← next? with
  | some (.text s) => return s
  | _ => fail

end Read
end Sql
end RowSql
