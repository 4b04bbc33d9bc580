import RowSql.Pattern.CharSet
/-!
# Tree — patterns

What a pattern denotes once its flags are resolved: sets of characters, conditions on a place, sequences, alternatives
in order of preference, repetitions and captures.
-/
namespace RowSql
namespace Pattern

/-- A condition on a place of a text. -/
inductive Look where
  | textStart
  | textEnd
  | lineStart
  | lineEnd
  /-- Lines that end in a line feed, a carriage return or both. -/
  | anyLineStart
  | anyLineEnd
  | wordBoundary
  | notWordBoundary
  | wordStart
  | wordEnd
  | wordStartHalf
  | wordEndHalf
deriving DecidableEq, Inhabited

/-- **A pattern.** -/
inductive Tree where
  | empty
  /-- A change of flags, which matches nothing and cannot be repeated. -/
  | setting
  | set (s : CharSet)
  /-- A class in brackets, and how deep its brackets nest. -/
  | class (s : CharSet) (depth : Nat)
  | look (l : Look) (asciiWords : Bool)
  | seq (items : List Tree)
  /-- The alternatives, the preferred one first. -/
  | alt (branches : List Tree)
  | repeat (body : Tree) (least : Nat) (most : Option Nat) (greedy : Bool)
  | capture (index : Nat) (body : Tree)
  | group (body : Tree)
deriving Inhabited

namespace Tree

mutual

/-- How deep a pattern nests. -/
def depth : Tree → Nat
  | .class _ d => d
  | .seq items => depthList items + 1
  | .alt branches => depthList branches + 1
  | .repeat body _ _ _ => body.depth + 1
  | .capture _ body => body.depth + 1
  | .group body => body.depth + 1
  | _ => 0

def depthList : List Tree → Nat
  | [] => 0
  | t :: ts => max t.depth (depthList ts)

end

/-- A sequence; one item stands for itself. -/
def ofItems : List Tree → Tree
  | [] => .empty
  | [t] => t
  | ts => .seq ts

/-- Alternatives; one branch stands for itself. -/
def ofBranches : List Tree → Tree
  | [t] => t
  | ts => .alt ts

mutual

/-- The pattern matches the empty text only. -/
def isEmptyOnly : Tree → Bool
  | .empty => true
  | .setting => true
  | .look _ _ => true
  | .seq items => isEmptyOnlyList items
  | .alt branches => isEmptyOnlyList branches
  | .repeat body _ most _ => most == some 0 || body.isEmptyOnly
  | .capture _ body => body.isEmptyOnly
  | .group body => body.isEmptyOnly
  | .set _ => false
  | .class _ _ => false

def isEmptyOnlyList : List Tree → Bool
  | [] => true
  | t :: ts => t.isEmptyOnly && isEmptyOnlyList ts

end

mutual

/-- **The pattern with trivial repetitions resolved**: none at all is the empty pattern, exactly one is the
body, and what matches the empty text only is repeated at most once. -/
def simplify : Tree → Tree
  | .seq items => .seq (simplifyList items)
  | .alt branches => .alt (simplifyList branches)
  | .repeat body least most greedy =>
    let body := body.simplify
    let (least, most) := if body.isEmptyOnly then (min least 1, some (min (most.getD 1) 1)) else (least, most)
    if least == 0 && most == some 0 then .empty
    else if least == 1 && most == some 1 then body
    else .repeat body least most greedy
  | .capture index body => .capture index body.simplify
  | .group body => body.simplify
  | .setting => .empty
  | .class s _ => .set s
  | t => t

def simplifyList : List Tree → List Tree
  | [] => []
  | t :: ts => t.simplify :: simplifyList ts

end

end Tree
end Pattern
end RowSql
