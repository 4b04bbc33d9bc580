import RowSql.Position
import RowSql.Value
/-!
# Arrays — functions on arrays

Elements are compared by `Value.same` where nothing matches nothing, and by `Value.equal` where it does not.  Positions
count from one, and from the end when they are negative.
-/
namespace RowSql

inductive ArrayFunction where
  | build
  | except
  | position
  | contains
  | distinct
  | intersect
  | union
  | concat
  | append
  | prepend
  | remove
  | reverse
  | slice
  | max
  | min
  | join
  | count
  | elementAt
deriving DecidableEq, Repr, Inhabited

namespace ArrayFunction

/-- Some element is the same as `v`. -/
def has (items : List Value) (v : Value) : Bool := items.any fun w => w.same v

/-- The elements that are not the same as one before them, or as one of `seen`. -/
def distinctFrom (seen : List Value) : List Value → List Value
  | [] => []
  | v :: vs => if has seen v then distinctFrom seen vs else v :: distinctFrom (seen ++ [v]) vs

/-- The first occurrences. -/
def firsts (items : List Value) : List Value := distinctFrom [] items

/-- The position from zero of a position from one, or from the end. -/
def index? (i : Int) (length : Nat) : Option Nat :=
  let n := Position.place i length
  if i ≠ 0 ∧ 0 ≤ n ∧ n < length then some n.toNat else none

/-- The elements that are left of the first array, which must not be none, when neither array is empty. -/
def exceptOf (a b : List Value) : Value :=
  if a.isEmpty || b.isEmpty then .null
  else
    let rest := firsts (a.filter fun v => !has b v)
    if rest.isEmpty then .null else .array rest

/-- The position of the first element that is equal to `v`, zero if there is none. -/
def positionOf (items : List Value) (v : Value) : Value :=
  if items.isEmpty then .null
  else
    match items.findIdx? fun w => w.equal v with
    | some i => .ofNat (i + 1)
    | none => .ofNat 0

/-- The elements from a position on, at most `length` of them. -/
def sliceOf (items : List Value) (start : Value) (length : Option Value) : Value :=
  match start.toWhole? with
  | none => .null
  | some s =>
    match index? s.toInt items.length with
    | none => .array []
    | some i =>
      match length with
      | none => .array (items.drop i)
      | some l =>
        match l.toWhole? with
        | none => .null
        | some n => if n.toInt < 0 then .null else .array ((items.drop i).take n.toInt.toNat)

/-- The first of the most extreme values after `best`; nothing if two of them have no order. -/
def extremeFrom (want : Ordering) (best : Value) : List Value → Value
  | [] => best
  | v :: vs =>
    match v.order? best with
    | none => .null
    | some o => extremeFrom want (if o == want then v else best) vs

/-- The program halts over one of the comparisons for the most extreme value. -/
def extremeHalts (want : Ordering) (best : Value) : List Value → Bool
  | [] => false
  | v :: vs =>
    v.orderHalts best ||
      (v.order? best).any fun o => extremeHalts want (if o == want then v else best) vs

/-- The first of the most extreme elements that are there. -/
def extreme (want : Ordering) (items : List Value) : Value :=
  match items.filter fun v => !v.isNull with
  | [] => .null
  | v :: vs => extremeFrom want v vs

/-- The texts of the elements with a delimiter between them; elements that are not there are replaced or left out. -/
def joinOf (items : List Value) (delimiter : String) (replacement : Option String) : String :=
  String.intercalate delimiter (items.filterMap fun v => if v.isNull then replacement else some v.render)

/-- The elements of all arrays. -/
def concatOf (args : List Value) : Value :=
  match args.mapM Value.items? with
  | some lists => .array lists.flatten
  | none => .null

/-- Nothing as an argument makes the result nothing. -/
def isStrict : ArrayFunction → Bool
  | .build => false
  | .append => false
  | .prepend => false
  | .join => false
  | _ => true

/-- **The result of a function on arrays.** -/
def apply (f : ArrayFunction) (args : List Value) : Value :=
  match f, args with
  | .build, args => .array args
  | .except, [.array a, .array b] => exceptOf a b
  | .position, [.array a, v] => positionOf a v
  | .contains, [.array a, v] => .bool (has a v)
  | .distinct, [.array a] => .array (firsts a)
  | .intersect, [.array a, .array b] => .array (firsts (a.filter (has b)))
  | .union, [.array a, .array b] => .array (firsts (a ++ b))
  | .concat, args => concatOf args
  | .append, [.array a, v] => .array (a ++ [v])
  | .prepend, [.array a, v] => .array (v :: a)
  | .remove, [.array a, v] => .array (a.filter fun w => !w.equal v)
  | .reverse, [.array a] => .array a.reverse
  | .slice, [.array a, start] => sliceOf a start none
  | .slice, [.array a, start, length] => sliceOf a start (some length)
  | .max, [.array a] => extreme .gt a
  | .min, [.array a] => extreme .lt a
  | .join, .array a :: d :: replacement =>
    match d.toText? with
    | some delimiter => .text (joinOf a delimiter (replacement.head?.bind Value.toText?))
    | none => .null
  | .count, [.array a] => .ofNat a.length
  | .elementAt, [.array a, i] =>
    match i.toWhole?.bind fun n => index? n.toInt a.length with
    | some n => a.getD n .null
    | none => .null
  | _, _ => .null

/-- The program halts over the numbers that the function reads. -/
def halts (f : ArrayFunction) (args : List Value) : Bool :=
  match f, args with
  | .slice, [.array a, start] => sliceHalts a start none
  | .slice, [.array a, start, length] => sliceHalts a start (some length)
  | .max, [.array a] => elementHalts .gt a
  | .min, [.array a] => elementHalts .lt a
  | .elementAt, [.array _, i] => i.halts
  | _, _ => false
where
  /-- The length is read if there is something at the start. -/
  sliceHalts (a : List Value) (start : Value) (length : Option Value) : Bool :=
    start.halts || length.any Value.halts && (start.toWhole?.bind fun s => index? s.toInt a.length).isSome
  elementHalts (want : Ordering) (a : List Value) : Bool :=
    match a.filter fun v => !v.isNull with
    | [] => false
    | v :: vs => extremeHalts want v vs

end ArrayFunction
end RowSql
