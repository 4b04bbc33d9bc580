import RowSql.Pattern.Tree
/-!
# Program — patterns as programs

A program is a list of instructions with relative jumps.  A split goes on at its first distance, and at the second one
when that fails; so the order of alternatives is the order of preference.
-/
namespace RowSql
namespace Pattern

/-- **An instruction.**  Distances count from the instruction itself. -/
inductive Instr where
  /-- Takes one character of a set. -/
  | take (s : CharSet)
  | look (l : Look) (asciiWords : Bool)
  /-- Remembers the place. -/
  | save (slot : Nat)
  | split (first second : Int)
  | jump (distance : Int)
  | done
deriving Inhabited

/-- A split between going on and a distance, of which the first is preferred when `greedy`. -/
def branch (greedy : Bool) (on away : Int) : Instr := if greedy then .split on away else .split away on

/-- `n` copies of a program, each of which may be left out with all after it. -/
def optionals (greedy : Bool) (body : List Instr) : Nat → List Instr
  | 0 => []
  | n + 1 => branch greedy 1 ((body.length + 1) * (n + 1) : Nat) :: (body ++ optionals greedy body n)

/-- A program once or more often. -/
def plus (greedy : Bool) (body : List Instr) : List Instr := body ++ [branch greedy (-(body.length : Int)) 1]

/-- The repetition of a program. -/
def repeated (body : List Instr) (least : Nat) (most : Option Nat) (greedy : Bool) : List Instr :=
  match most with
  | some m => (List.replicate least body).flatten ++ optionals greedy body (m - least)
  | none =>
    match least with
    | 0 =>
      let once := plus greedy body
      branch greedy 1 (once.length + 1 : Nat) :: once
    | n + 1 => (List.replicate n body).flatten ++ plus greedy body

/-- Programs as alternatives in order. -/
def alternatives : List (List Instr) → List Instr
  | [] => []
  | [p] => p
  | p :: ps =>
    let rest := alternatives ps
    .split 1 (p.length + 2 : Nat) :: (p ++ .jump (rest.length + 1 : Nat) :: rest)

mutual

/-- **The program of a pattern.** -/
def Tree.code : Tree → List Instr
  | .set s => [.take s]
  | .class s _ => [.take s]
  | .look l asciiWords => [.look l asciiWords]
  | .seq items => (codes items).flatten
  | .alt branches => alternatives (codes branches)
  | .repeat body least most greedy => repeated body.code least most greedy
  | .capture index body => .save (2 * index) :: (body.code ++ [.save (2 * index + 1)])
  | .group body => body.code
  | .empty => []
  | .setting => []

/-- The programs of some patterns. -/
def codes : List Tree → List (List Instr)
  | [] => []
  | t :: ts => t.code :: codes ts

end

/-- The weight of a set in a program. -/
def setWeight : CharSet → Nat
  | .range first last => if last.toNat < 0x80 then 40 else if first == last then 100 else 300
  | .digit => 5000
  | .space => 700
  | .word => 45000
  | .group _ => 40000
  | .alphabetic => 45000
  | .category _ => 15000
  | .script _ => 1000
  | .uppercase => 15000
  | .lowercase => 15000
  | .assigned => 30000
  | .all => 500
  | .none => 40
  | .union a b => setWeight a + setWeight b
  | .inter a b => setWeight a + setWeight b
  | .complement a => setWeight a + 500
  | .folded a => 2 * setWeight a
  | .foldedAscii a => setWeight a

mutual

/-- The weight of a pattern, with its repetitions written out. -/
def Tree.weight : Tree → Nat
  | .set s => setWeight s
  | .class s _ => setWeight s
  | .look _ _ => 32
  | .seq items => weights items
  | .alt branches => weights branches + 32
  | .repeat body least most _ => (body.weight + 32) * max 1 (max least (most.getD 1))
  | .capture _ body => body.weight + 64
  | .group body => body.weight
  | .empty => 0
  | .setting => 0

def weights : List Tree → Nat
  | [] => 0
  | t :: ts => t.weight + weights ts

end

/-- The greatest weight of a pattern. -/
def weightLimit : Nat := 10485760

mutual

/-- The greatest index of a capture in a pattern. -/
def Tree.captures : Tree → Nat
  | .capture index body => max index body.captures
  | .seq items => capturesList items
  | .alt branches => capturesList branches
  | .repeat body _ _ _ => body.captures
  | .group body => body.captures
  | _ => 0

def capturesList : List Tree → Nat
  | [] => 0
  | t :: ts => max t.captures (capturesList ts)

end

end Pattern
end RowSql
