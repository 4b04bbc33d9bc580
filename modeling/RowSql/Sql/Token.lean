import RowSql.Text.Digits
import RowSql.Text.Space
import RowSql.Unicode.Category
/-!
# Token — the words of a statement

A statement is cut into words, numbers, quoted texts and symbols.  White space and comments separate tokens; comments in
`/* … */` nest.  A quote that is not closed is an error of the whole statement.
-/
namespace RowSql
namespace Sql

/-- **A token of a statement.** -/
inductive Token where
  /-- A keyword or a name; the quote that it is written in, if any. -/
  | word (text : String) (quote : Option Char)
  /-- A number as it is written, and whether a capital L ends it. -/
  | number (text : String) (long : Bool)
  | text (s : String)
  /-- A text with an `N` before it. -/
  | national (s : String)
  | hex (digits : String)
  /-- A text between two tags in dollar signs. -/
  | dollar (tag s : String)
  | placeholder (name : String)
  | symbol (s : String)
  /-- A character that begins no token. -/
  | stray (c : Char)
deriving DecidableEq, Repr, Inhabited

/-- **A token in its place**: `apart` if something that is no token stands before it. -/
structure Lexeme where
  token : Token
  apart : Bool
deriving DecidableEq, Repr, Inhabited

namespace Lexer

def isNameStart (c : Char) : Bool := c.isAlpha || c == '_'

def isNamePart (c : Char) : Bool := isNameStart c || c.isDigit

/-- The characters of a name. -/
def name (cs : List Char) : List Char := cs.takeWhile isNamePart

/-- The character that a backslash and `c` stand for in a quoted text. -/
def unescape (c : Char) : Char :=
  match c with
  | '0' => '\x00'
  | 'a' => '\x07'
  | 'b' => '\x08'
  | 'f' => '\x0c'
  | 'n' => '\n'
  | 'r' => '\r'
  | 't' => '\t'
  | 'Z' => '\x1a'
  | c => c

/-- The text up to the closing apostrophe, which is written twice to stand for itself, and the rest after it. -/
def quoted? : List Char → Option (List Char × List Char)
  | [] => none
  | ['\\'] => none
  | '\'' :: '\'' :: cs => (quoted? cs).map fun (s, rest) => ('\'' :: s, rest)
  | '\'' :: cs => some ([], cs)
  | '\\' :: c :: cs => (quoted? cs).map fun (s, rest) => (unescape c :: s, rest)
  | c :: cs => (quoted? cs).map fun (s, rest) => (c :: s, rest)

/-- The name up to the closing quote, which is written twice to stand for itself, and the rest after it. -/
def quotedName? (quote : Char) : List Char → Option (List Char × List Char)
  | [] => none
  | [c] => if c == quote then some ([], []) else none
  | c :: d :: cs =>
    if c == quote then
      if d == quote then (quotedName? quote cs).map fun (s, rest) => (quote :: s, rest) else some ([], d :: cs)
    else (quotedName? quote (d :: cs)).map fun (s, rest) => (c :: s, rest)

/-- The text after a comment that is open `depth + 1` times. -/
def afterComment? (depth : Nat) : List Char → Option (List Char)
  | '/' :: '*' :: cs => afterComment? (depth + 1) cs
  | '*' :: '/' :: cs =>
    match depth with
    | 0 => some cs
    | depth + 1 => afterComment? depth cs
  | _ :: cs => afterComment? depth cs
  | [] => none

/-- A run of digits, and the text after it.  An underscore belongs to it if a hexadecimal digit follows. -/
def digits (isDigit : Char → Bool) : List Char → List Char × List Char
  | [] => ([], [])
  | c :: cs =>
    if isDigit c || (c == '_' && (cs.head?.map (Text.isDigitIn 16)).getD false) then
      let (ds, rest) := digits isDigit cs
      (c :: ds, rest)
    else ([], c :: cs)

/-- An exponent, and the text after it; no exponent if no digit follows the letter and its sign. -/
def exponent (cs : List Char) : List Char × List Char :=
  let cut (mark : List Char) (rest : List Char) :=
    let ds := rest.takeWhile Char.isDigit
    if ds.isEmpty then ([], cs) else (mark ++ ds, rest.drop ds.length)
  match cs with
  | e :: s :: rest =>
    if e == 'e' || e == 'E' then if s == '+' || s == '-' then cut [e, s] rest else cut [e] (s :: rest) else ([], cs)
  | _ => ([], cs)

/-- The number or the period at the start of a text that begins with a digit or a period. -/
def number (cs : List Char) : Token × List Char :=
  let (whole, rest) := digits Char.isDigit cs
  if whole == ['0'] && rest.head? == some 'x' then
    let (ds, rest) := digits (Text.isDigitIn 16) rest.tail
    (.hex (String.ofList ds), rest)
  else
    let (point, rest) := if rest.head? == some '.' then (['.'], rest.tail) else ([], rest)
    let (fraction, rest) := digits Char.isDigit rest
    if whole.isEmpty && fraction.isEmpty then (.symbol ".", rest)
    else
      let (e, rest) := exponent rest
      let text := String.ofList (whole ++ point ++ fraction ++ e)
      if rest.head? == some 'L' then (.number text true, rest.tail) else (.number text false, rest)

/-- The text up to the closing tag, and the rest after it. -/
def untilTag? (tag : List Char) : List Char → Option (List Char × List Char)
  | [] => none
  | c :: cs =>
    if tag.isPrefixOf (c :: cs) then some ([], (c :: cs).drop tag.length)
    else (untilTag? tag cs).map fun (s, rest) => (c :: s, rest)

def isTagPart (c : Char) : Bool := Unicode.isAlphanumeric c || c == '_'

/-- The token after a dollar sign: a placeholder, or a text between two tags. -/
def dollar? (cs : List Char) : Option (Token × List Char) :=
  let tag := cs.takeWhile isTagPart
  match cs.drop tag.length with
  | '$' :: rest =>
    (untilTag? ('$' :: (tag ++ ['$'])) rest).map fun (s, rest) =>
      (.dollar (String.ofList tag) (String.ofList s), rest)
  | rest => some (.placeholder (String.ofList ('$' :: tag)), rest)

/-- The symbols, a symbol before those that it begins with. -/
def symbols : List String :=
  ["!~~*", "||/", "->>", "<=>", "#>>", "!~*", "!~~", "~~*", "|/", "||", "->", "=>", "==", "!=", "!!", "!~", "<=", "<>",
   "<<", "<@", ">=", ">>", "::", ":=", "&&", "^@", "~*", "~~", "#-", "#>", "@>", "@?", "@@", "(", ")", ",", "-", "/",
   "+", "*", "%", "|", "=", "!", "<", ">", ":", ";", "\\", "[", "]", "&", "^", "\x7b", "\x7d", "~", "#", "@"]

/-- The symbol at the start of a text. -/
def symbol? (cs : List Char) : Option (Token × List Char) :=
  (symbols.find? fun s => s.toList.isPrefixOf cs).map fun s => (.symbol s, cs.drop s.length)

/-- A name, or a text with a letter before it. -/
def wordOr? (mark : Char) (make : String → Token) (cs : List Char) : Option (Token × List Char) :=
  match cs with
  | '\'' :: rest => (quoted? rest).map fun (s, rest) => (make (String.ofList s), rest)
  | _ =>
    let w := name cs
    some (.word (String.ofList (mark :: w)) none, cs.drop w.length)

/-- The token at the start of a text, and the text after it.  `afterWord` if a word ends where the text begins. -/
def token? (afterWord : Bool) : List Char → Option (Token × List Char)
  | [] => none
  | c :: cs =>
    if c == 'n' || c == 'N' then wordOr? c .national cs
    else if c == 'x' || c == 'X' then wordOr? c .hex cs
    else if isNameStart c then some (.word (String.ofList (c :: name cs)) none, cs.drop (name cs).length)
    else if c == '\'' then (quoted? cs).map fun (s, rest) => (.text (String.ofList s), rest)
    else if c == '"' || c == '\x60' then
      (quotedName? c cs).map fun (s, rest) => (.word (String.ofList s) (some c), rest)
    else if c == '.' && cs.head? == some '_' then if afterWord then some (.symbol ".", cs) else none
    else if c.isDigit || c == '.' then some (number (c :: cs))
    else if c == '$' then dollar? cs
    else if c == '?' then
      let ds := cs.takeWhile Unicode.isNumeric
      some (.placeholder (String.ofList (c :: ds)), cs.drop ds.length)
    else (symbol? (c :: cs)).or (some (.stray c, cs))

def isWord : Token → Bool
  | .word _ _ => true
  | _ => false

/-- The tokens of a text of at most `fuel` characters. -/
def tokens? : Nat → (afterWord apart : Bool) → List Char → Option (List Lexeme)
  | _, _, _, [] => some []
  | 0, _, _, _ => none
  | fuel + 1, afterWord, apart, c :: cs =>
    if Text.isSpace c then tokens? fuel false true cs
    else if c == '-' && cs.head? == some '-' then
      tokens? fuel false true ((cs.dropWhile (· != '\n')).drop 1)
    else if c == '/' && cs.head? == some '*' then
      match afterComment? 0 cs.tail with
      | some rest => tokens? fuel false true rest
      | none => none
    else
      match token? afterWord (c :: cs) with
      | some (t, rest) => (tokens? fuel (isWord t) false rest).map (⟨t, apart⟩ :: ·)
      | none => none

end Lexer

/-- **The tokens of a statement.** -/
def tokenize? (s : String) : Option (List Lexeme) := Lexer.tokens? s.length false false s.toList

end Sql
end RowSql
