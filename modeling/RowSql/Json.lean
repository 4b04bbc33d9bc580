import RowSql.Number.FloatText
/-!
# Json — documents

A number of a document is a whole number of the signed or unsigned 64-bit range, or a finite float.  The members of an
object are in ascending order of their keys, each key once; `Json.insert` keeps both.
-/
namespace RowSql

/-- **A JSON document.** -/
inductive Json where
  | null
  | bool (b : Bool)
  | int (n : Int)
  | float (x : Float)
  | text (s : String)
  | array (items : List Json)
  | object (members : List (String × Json))
deriving Inhabited

namespace Json

/-- **The members with the one of key `k` set to `v`**, in ascending order of keys. -/
def insert (k : String) (v : Json) : List (String × Json) → List (String × Json)
  | [] => [(k, v)]
  | (j, w) :: rest =>
    if k < j then (k, v) :: (j, w) :: rest
    else if k == j then (k, v) :: rest
    else (j, w) :: insert k v rest

/-- The object of a list of members, of which the last of each key counts. -/
def ofPairs (pairs : List (String × Json)) : Json := .object (pairs.foldl (fun ms p => insert p.1 p.2 ms) [])

/-- The member of a key. -/
def member? (k : String) : Json → Option Json
  | .object ms => (ms.find? fun p => p.1 == k).map (·.2)
  | _ => none

/-- The element at a position of an array, counted from zero. -/
def element? (i : Nat) : Json → Option Json
  | .array items => items[i]?
  | _ => none

/-- The two hexadecimal digits, in lower case, of a code below 256. -/
def hexPair (n : Nat) : List Char := [Nat.digitChar (n / 16), Nat.digitChar (n % 16)]

/-- A character inside a quoted text. -/
def escapeChar (c : Char) : List Char :=
  if c == '"' then ['\\', '"']
  else if c == '\\' then ['\\', '\\']
  else if c == '\x08' then ['\\', 'b']
  else if c == '\x0c' then ['\\', 'f']
  else if c == '\n' then ['\\', 'n']
  else if c == '\r' then ['\\', 'r']
  else if c == '\t' then ['\\', 't']
  else if c.toNat < 0x20 then '\\' :: 'u' :: '0' :: '0' :: hexPair c.toNat
  else [c]

/-- A quoted text: quotes, backslashes and control characters are escaped, all other characters stand for themselves. -/
def quote (s : String) : List Char := '"' :: (s.toList.flatMap escapeChar ++ ['"'])

mutual

/-- **The compact text of a document.** -/
def render : Json → List Char
  | .null => ['n', 'u', 'l', 'l']
  | .bool true => ['t', 'r', 'u', 'e']
  | .bool false => ['f', 'a', 'l', 's', 'e']
  | .int n => (toString n).toList
  | .float x => FloatText.render .json x
  | .text s => quote s
  | .array [] => ['[', ']']
  | .array (v :: vs) => '[' :: (render v ++ renderItems vs)
  | .object [] => ['\x7b', '\x7d']
  | .object ((k, v) :: ms) => '\x7b' :: (quote k ++ ':' :: (render v ++ renderMembers ms))

/-- The elements after the first one, and the closing bracket. -/
def renderItems : List Json → List Char
  | [] => [']']
  | v :: vs => ',' :: (render v ++ renderItems vs)

/-- The members after the first one, and the closing brace. -/
def renderMembers : List (String × Json) → List Char
  | [] => ['\x7d']
  | (k, v) :: ms => ',' :: (quote k ++ ':' :: (render v ++ renderMembers ms))

end

def toText (j : Json) : String := String.ofList j.render

end Json
end RowSql
