import RowSql.Unicode.Category
/-!
# Quoted — texts in messages

A text in a message stands in double quotes, and every character that has no picture of its own is escaped.
-/
namespace RowSql
namespace Text

/-- A code point in lower-case hexadecimal digits, in braces. -/
def codeEscape (c : Char) : List Char := '\\' :: 'u' :: '\x7b' :: (Nat.toDigits 16 c.toNat ++ ['\x7d'])

/-- One character inside the quotes. -/
def quotedChar (c : Char) : List Char :=
  if c == '\x00' then ['\\', '0']
  else if c == '\t' then ['\\', 't']
  else if c == '\r' then ['\\', 'r']
  else if c == '\n' then ['\\', 'n']
  else if c == '\\' || c == '"' then ['\\', c]
  else if Unicode.isExtending c || !Unicode.isPrintable c then codeEscape c
  else [c]

/-- **The text in quotes.** -/
def quoted (s : String) : String := String.ofList ('"' :: (s.toList.flatMap quotedChar ++ ['"']))

end Text
end RowSql
