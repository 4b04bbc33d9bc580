import RowSql.Pattern.Search
/-!
# Like — patterns of comparisons

In a pattern a percent sign stands for any run of characters and an underscore for one character.  A backslash
takes the next character as itself, and one at the end stands for itself.  A text matches as a whole.  Such a
pattern is searched for as one of the other kind, between conditions for the two ends of the text.
-/
namespace RowSql
namespace Like

/-- A character as a pattern that takes it alone. -/
def quote (c : Char) : List Char := if Pattern.isMeta c then ['\\', c] else [c]

/-- What a pattern takes, from its first character to its last one. -/
def body : List Char → List Char
  | [] => []
  | '%' :: cs => '.' :: '*' :: body cs
  | '_' :: cs => '.' :: body cs
  | '\\' :: c :: cs => quote c ++ body cs
  | c :: cs => quote c ++ body cs

/-- **A pattern of a comparison as a pattern to search for.** -/
def regex (pattern : List Char) : List Char := '^' :: (body pattern ++ ['$'])

/-- The flags of the pattern: a dot takes every character, line ends too. -/
def flags (ignoreCase : Bool) : Pattern.Flags := { ignoreCase, dotAll := true }

/-- **The pattern of a comparison, ready to be searched for**; nothing if it is too heavy. -/
def compile? (ignoreCase : Bool) (pattern : List Char) : Option Pattern.Compiled :=
  Pattern.compileWith? (flags ignoreCase) (regex pattern)

end Like
end RowSql
