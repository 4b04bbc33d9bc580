import RowSql.Fault
import RowSql.Pattern.Replace
import RowSql.Value
/-!
# Matches — functions on patterns

A text is searched for what a pattern describes.  A pattern that does not read is a fault.
-/
namespace RowSql

inductive MatchFunction where
  | occurs
  | replace
  | extract
deriving DecidableEq, Repr, Inhabited

namespace MatchFunction

/-- The index of the group that is extracted: the first one of a pattern that has groups, unless another is chosen. -/
def group? (p : Pattern.Compiled) (group : Option Value) : Option Nat :=
  match group with
  | none => some (if 0 < p.captures then 1 else 0)
  | some v => v.toWhole?.bind fun n => if n.toInt < 0 then none else some n.toInt.toNat

/-- The result of a function for a pattern, the text and the arguments after them. -/
def onText (f : MatchFunction) (p : Pattern.Compiled) (s : String) (args : List Value) : Value :=
  match f, args with
  | .occurs, _ => .bool (p.isMatch s.toList)
  | .replace, [replacement] =>
    .ofText? (replacement.toText?.map fun r => String.ofList (p.replaceAll s.toList r.toList))
  | .extract, group =>
    .ofText? (((group? p group.head?).bind (p.extract? s.toList)).map String.ofList)
  | _, _ => .null

/-- **The result of a function on patterns.** -/
def apply (f : MatchFunction) (args : List Value) : Eval Value :=
  match args with
  | v :: pattern :: rest =>
    match v.toText?, pattern.toText? with
    | some s, some text =>
      match Pattern.compile? text.toList with
      | some p => .ok (onText f p s rest)
      | none => .error (.badPattern text)
    | _, _ => .ok .null
  | _ => .ok .null

/-- The program halts over the group that is extracted; it is read after the pattern. -/
def halts (f : MatchFunction) (args : List Value) : Bool :=
  match f, args with
  | .extract, [_, pattern, group] =>
    group.halts && (pattern.toText?.bind fun p => Pattern.compile? p.toList).isSome
  | _, _ => false

end MatchFunction
end RowSql
