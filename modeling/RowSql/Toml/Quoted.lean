import RowSql.Text.Digits
/-!
# Quoted — texts in quotes

A text stands in double quotes, with escapes, or in apostrophes, without.  With one quote on each side it ends
on its line; with three it may go over lines, and the line end after the first three is not part of it.
-/
namespace RowSql
namespace Toml

/-- A step of reading: what was read, and the text after it. -/
abbrev Reader (α : Type) := List Char → Option (α × List Char)

/-- A blank inside a line. -/
def isBlank (c : Char) : Bool := c == ' ' || c == '\t'

/-- A character that may stand in a line. -/
def isPlain (c : Char) : Bool := c == '\t' || (0x20 ≤ c.toNat && c.toNat != 0x7F)

def skipBlanks (cs : List Char) : List Char := cs.dropWhile isBlank

/-- The text after a line end. -/
def lineEnd? : List Char → Option (List Char)
  | '\n' :: cs => some cs
  | '\r' :: '\n' :: cs => some cs
  | _ => none

/-- The text after blanks and line ends. -/
def skipLines : List Char → List Char
  | '\r' :: '\n' :: cs => skipLines cs
  | c :: cs => if isBlank c || c == '\n' then skipLines cs else c :: cs
  | [] => []

/-- The character of a code of some hexadecimal digits. -/
def codeEscape? (digits : Nat) : Reader Char := fun cs => do
  let ds := cs.take digits
  let n ← Text.number? 16 ds
  if ds.length = digits && n.isValidChar then some (Char.ofNat n, cs.drop digits) else none

/-- The character of an escape, after the backslash. -/
def escape? : Reader Char
  | 'b' :: cs => some ('\x08', cs)
  | 't' :: cs => some ('\t', cs)
  | 'n' :: cs => some ('\n', cs)
  | 'f' :: cs => some ('\x0c', cs)
  | 'r' :: cs => some ('\r', cs)
  | '"' :: cs => some ('"', cs)
  | '\\' :: cs => some ('\\', cs)
  | 'u' :: cs => codeEscape? 4 cs
  | 'U' :: cs => codeEscape? 8 cs
  | _ => none

/-- The rest of a text in double quotes, after the characters `taken` so far, last first. -/
def basicRest : Nat → List Char → Reader String
  | 0, _, _ => none
  | _, _, [] => none
  | fuel + 1, taken, c :: cs =>
    if c == '"' then some (String.ofList taken.reverse, cs)
    else if c == '\\' then
      match escape? cs with
      | some (e, cs) => basicRest fuel (e :: taken) cs
      | none => none
    else if isPlain c then basicRest fuel (c :: taken) cs
    else none

/-- A text in double quotes, after the first one. -/
def basic? : Reader String := fun cs => basicRest (cs.length + 1) [] cs

/-- A text in apostrophes, after the first one. -/
def literal? : Reader String := fun cs =>
  let (body, rest) := cs.span fun c => isPlain c && c != '\''
  match rest with
  | '\'' :: rest => some (String.ofList body, rest)
  | _ => none

/-- Three quotes or more end a text: the last three are its end, and up to two before them are part of it. -/
def endQuotes? (quote : Char) (cs : List Char) : Option (List Char × List Char) :=
  let count := min (cs.takeWhile (· == quote)).length 5
  if count < 3 then none else some (List.replicate (count - 3) quote, cs.drop count)

/-- The text after an escaped line end: blanks, the line end, and all blanks and line ends after it. -/
def escapedLineEnd? (cs : List Char) : Option (List Char) := (lineEnd? (skipBlanks cs)).map skipLines

/-- The rest of a text between three quotes, after the characters `taken` so far, last first. -/
def multilineRest (quote : Char) : Nat → List Char → Reader String
  | 0, _, _ => none
  | _, _, [] => none
  | fuel + 1, taken, c :: cs =>
    match endQuotes? quote (c :: cs) with
    | some (quotes, rest) => some (String.ofList (taken.reverse ++ quotes), rest)
    | none =>
      if c == '\\' && quote == '"' then
        match escapedLineEnd? cs with
        | some rest => multilineRest quote fuel taken rest
        | none =>
          match escape? cs with
          | some (e, rest) => multilineRest quote fuel (e :: taken) rest
          | none => none
      else
        match lineEnd? (c :: cs) with
        | some rest => multilineRest quote fuel ('\n' :: taken) rest
        | none => if isPlain c then multilineRest quote fuel (c :: taken) cs else none

/-- A text between three quotes, after the first three. -/
def multiline? (quote : Char) : Reader String := fun cs =>
  multilineRest quote (cs.length + 1) [] ((lineEnd? cs).getD cs)

/-- **A text in quotes.** -/
def quoted? : Reader String
  | '"' :: '"' :: '"' :: cs => multiline? '"' cs
  | '"' :: cs => basic? cs
  | '\'' :: '\'' :: '\'' :: cs => multiline? '\'' cs
  | '\'' :: cs => literal? cs
  | _ => none

end Toml
end RowSql
