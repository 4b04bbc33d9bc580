import RowSql.Pattern.Search
/-!
# Replace — replacement of matches

In a replacement a dollar sign refers to a capture: `$name`, with the longest name of letters, digits and
underscores, or the name in braces.  A number is the index of a capture.  A capture that is not there is the
empty text, and two dollar signs are one.
-/
namespace RowSql
namespace Pattern

/-- A piece of a replacement. -/
inductive Piece where
  | char (c : Char)
  | capture (name : List Char)

/-- The reference after a dollar sign, and the text after it. -/
def reference? (cs : List Char) : Option (List Char × List Char) :=
  match cs with
  | '\x7b' :: rest => Decimal.splitAt? (· == '\x7d') rest
  | _ =>
    let name := cs.takeWhile isAsciiWord
    if name.isEmpty then none else some (name, cs.drop name.length)

/-- The pieces of a replacement. -/
def pieces : Nat → List Char → List Piece
  | 0, _ => []
  | _, [] => []
  | fuel + 1, c :: cs =>
    if c == '$' then
      if cs.head? == some '$' then .char '$' :: pieces fuel cs.tail
      else
        match reference? cs with
        | some (name, rest) => .capture name :: pieces fuel rest
        | none => .char '$' :: pieces fuel cs
    else .char c :: pieces fuel cs

/-- The index that a name refers to. -/
def Compiled.index? (p : Compiled) (name : List Char) : Option Nat :=
  let digits := match name with
    | '+' :: ds => ds
    | ds => ds
  match Decimal.readPlain digits with
  | some n => if n < 18446744073709551616 then some n else p.names.lookup (String.ofList name)
  | none => p.names.lookup (String.ofList name)

/-- The text of a piece for one match. -/
def Piece.render (p : Compiled) (text : Array Char) (slots : Slots) : Piece → List Char
  | .char c => [c]
  | .capture name => ((p.index? name).bind (Compiled.between? text slots)).getD []

/-- The text from a place on, with the matches replaced. -/
def replaceMatches (p : Compiled) (text : Array Char) (replacement : List Piece) : Nat → List Slots → List Char
  | place, [] => (text.extract place text.size).toList
  | place, slots :: more =>
    let a := (slots.get? 0).getD 0
    let b := (slots.get? 1).getD 0
    (text.extract place a).toList ++ replacement.flatMap (Piece.render p text slots)
      ++ replaceMatches p text replacement b more

/-- **The text with every match replaced.** -/
def Compiled.replaceAll (p : Compiled) (text replacement : List Char) : List Char :=
  let chars := text.toArray
  replaceMatches p chars (pieces replacement.length replacement) 0 (p.findAll chars (2 * chars.size + 2) 0 none)

end Pattern
end RowSql
