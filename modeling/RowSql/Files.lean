import RowSql.Text.Utf8
/-!
# Files — what is found at paths
-/
namespace RowSql

/-- **The contents of files**: the bytes at a path, or why there are none. -/
abbrev Files := String → Except String (List UInt8)

namespace Files

/-- What is said of contents that are no text. -/
def notText : String := "stream did not contain valid UTF-8"

/-- What is said of a path at which there is nothing. -/
def notFound : String := "No such file or directory (os error 2)"

/-- **The text at a path**, or why there is none. -/
def text (files : Files) (path : String) : Except String String :=
  match files path with
  | .error why => .error why
  | .ok bytes =>
    match Text.decode bytes with
    | .ok cs => .ok (String.ofList cs)
    | .error _ => .error notText

end Files
end RowSql
