/-!
# Parts — occurrences of a text in a text

The first occurrence, and the pieces between occurrences.  Occurrences are found from left to right and do not overlap.
-/
namespace RowSql
namespace Text

/-- **The position of the first occurrence of `part`.** -/
def find? (part : List Char) : List Char → Option Nat
  | [] => if part.isEmpty then some 0 else none
  | c :: cs => if part.isPrefixOf (c :: cs) then some 0 else (find? part cs).map (· + 1)

/-- A list of pieces with a character put before the first one. -/
def consFirst (c : Char) : List (List Char) → List (List Char)
  | [] => [[c]]
  | p :: ps => (c :: p) :: ps

/-- The pieces of a text of which the first `skip` characters are still of the separator before. -/
def splitFrom (separator : List Char) (skip : Nat) : List Char → List (List Char)
  | [] => [[]]
  | c :: cs =>
    match skip with
    | skip + 1 => splitFrom separator skip cs
    | 0 =>
      if separator.isPrefixOf (c :: cs) then [] :: splitFrom separator (separator.length - 1) cs
      else consFirst c (splitFrom separator 0 cs)

/-- **The pieces between the occurrences of a separator** that is not empty; one piece if it does not occur. -/
def split (separator cs : List Char) : List (List Char) := splitFrom separator 0 cs

/-- **The pieces with a separator between them.** -/
def join (separator : List Char) : List (List Char) → List Char
  | [] => []
  | [p] => p
  | p :: ps => p ++ separator ++ join separator ps

/-- The text with every occurrence of a text that is not empty replaced. -/
def replace (part replacement cs : List Char) : List Char := join replacement (split part cs)

/-- The text before and after the first occurrence of a separator. -/
def splitOnce? (separator cs : List Char) : Option (List Char × List Char) :=
  (find? separator cs).map fun n => (cs.take n, cs.drop (n + separator.length))

end Text
end RowSql
