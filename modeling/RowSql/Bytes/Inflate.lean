/-!
# Inflate — compressed bytes

A compressed text is a run of blocks.  A block is stored bytes, or literals and copies of what has been written,
under prefix codes that are fixed or come with the block.  What follows the last block does not matter.
-/
namespace RowSql
namespace Inflate

/-- **A reader of bits**, the lowest bit of a byte first. -/
abbrev Bits := StateT (List Bool) Option

def fail {α : Type} : Bits α := fun _ => none

/-- The bits of a byte. -/
def bitsOf (b : UInt8) : List Bool := (List.range 8).map fun i => b.toNat.testBit i

def bit : Bits Bool
  | [] => none
  | b :: rest => some (b, rest)

/-- A number of some bits, the lowest first. -/
def number : Nat → Bits Nat
  | 0 => pure 0
  | n + 1 => do
    let b ← bit
    return b.toNat + 2 * (← number n)

/-! ## Prefix codes -/

/-- **A prefix code.** -/
inductive Code where
  | none
  | symbol (n : Nat)
  | branch (zero one : Code)
deriving Inhabited

namespace Code

/-- The code with one more word; nothing if the word is a prefix of another or the other way round. -/
def insert (n : Nat) : List Bool → Code → Option Code
  | [], .none => some (.symbol n)
  | b :: bs, .none =>
    if b then (insert n bs .none).map (.branch .none) else (insert n bs .none).map (.branch · .none)
  | b :: bs, .branch zero one =>
    if b then (insert n bs one).map (.branch zero) else (insert n bs zero).map (.branch · one)
  | _, _ => Option.none

/-- The next symbol. -/
def read : Code → Bits Nat
  | .none => fail
  | .symbol n => pure n
  | .branch zero one => do if ← bit then one.read else zero.read

/-- The word of a number in some bits, the highest first. -/
def word (length n : Nat) : List Bool := (List.range length).map fun i => n.testBit (length - 1 - i)

/-- The words of one length, which follow one another from `first` on, and the number after the last. -/
def insertLength (lengths : List Nat) (length first : Nat) (code : Code) : Option (Nat × Code) :=
  (lengths.zipIdx.filter fun p => p.1 == length).foldlM
    (fun (state : Nat × Code) p => do return (state.1 + 1, ← state.2.insert p.2 (word length state.1)))
    (first, code)

/-- The words of `count` lengths from `length` on. -/
def build (lengths : List Nat) : (count length first : Nat) → Code → Option Code
  | 0, _, _, code => some code
  | count + 1, length, first, code => do
    let (next, code) ← insertLength lengths length first code
    build lengths count (length + 1) (2 * next) code

/-- The greatest length of a word. -/
def greatestLength : Nat := 15

/-- **The code of the lengths of its words**, where zero is the length of a symbol that is not used. -/
def ofLengths (lengths : List Nat) : Option Code := build lengths greatestLength 1 0 .none

end Code

/-! ## Blocks -/

/-- The lengths of the fixed code of literals. -/
def fixedLengths : List Nat :=
  List.replicate 144 8 ++ List.replicate 112 9 ++ List.replicate 24 7 ++ List.replicate 8 8

/-- The lengths of the fixed code of distances. -/
def fixedDistances : List Nat := List.replicate 30 5

/-- The least lengths of copies, and how many bits are added. -/
def copyLengths : List (Nat × Nat) :=
  [(3, 0), (4, 0), (5, 0), (6, 0), (7, 0), (8, 0), (9, 0), (10, 0), (11, 1), (13, 1), (15, 1), (17, 1), (19, 2),
   (23, 2), (27, 2), (31, 2), (35, 3), (43, 3), (51, 3), (59, 3), (67, 4), (83, 4), (99, 4), (115, 4), (131, 5),
   (163, 5), (195, 5), (227, 5), (258, 0)]

/-- The least distances of copies, and how many bits are added. -/
def copyDistances : List (Nat × Nat) :=
  [(1, 0), (2, 0), (3, 0), (4, 0), (5, 1), (7, 1), (9, 2), (13, 2), (17, 3), (25, 3), (33, 4), (49, 4), (65, 5),
   (97, 5), (129, 6), (193, 6), (257, 7), (385, 7), (513, 8), (769, 8), (1025, 9), (1537, 9), (2049, 10), (3073, 10),
   (4097, 11), (6145, 11), (8193, 12), (12289, 12), (16385, 13), (24577, 13)]

/-- A number of a table. -/
def extended (table : List (Nat × Nat)) (index : Nat) : Bits Nat :=
  match table[index]? with
  | some (least, extra) => do return least + (← number extra)
  | none => fail

/-- What has been written with a copy of `length` bytes from `distance` back. -/
def copy (distance : Nat) : (length : Nat) → Array UInt8 → Option (Array UInt8)
  | 0, out => some out
  | length + 1, out =>
    if distance ≤ out.size then out[out.size - distance]?.bind fun b => copy distance length (out.push b) else none

/-- The order in which the lengths of the code of lengths are written. -/
def lengthOrder : List Nat := [16, 17, 18, 0, 8, 7, 9, 6, 10, 5, 11, 4, 12, 3, 13, 2, 14, 1, 15]

/-- Lengths of words until there are `count`, after those in `taken`, last first. -/
def lengths (code : Code) (count : Nat) : Nat → List Nat → Bits (List Nat)
  | 0, _ => fail
  | fuel + 1, taken => do
    if taken.length == count then return taken.reverse
    if count < taken.length then fail
    let n ← code.read
    if n < 16 then lengths code count fuel (n :: taken)
    else if n == 16 then
      match taken.head? with
      | none => fail
      | some last => lengths code count fuel (List.replicate (3 + (← number 2)) last ++ taken)
    else if n == 17 then lengths code count fuel (List.replicate (3 + (← number 3)) 0 ++ taken)
    else lengths code count fuel (List.replicate (11 + (← number 7)) 0 ++ taken)

/-- Numbers of some bits, one for each member of a list. -/
def numbers (bits : Nat) : List Nat → Bits (List (Nat × Nat))
  | [] => pure []
  | key :: keys => do
    let n ← number bits
    return (key, n) :: (← numbers bits keys)

def codeOf (lengths : List Nat) : Bits Code :=
  match Code.ofLengths lengths with
  | some code => pure code
  | none => fail

/-- The codes of literals and distances that come with a block. -/
def ownCodes : Bits (Code × Code) := do
  let literals := 257 + (← number 5)
  let distances := 1 + (← number 5)
  let given ← numbers 3 (lengthOrder.take (4 + (← number 4)))
  let code ← codeOf ((List.range 19).map fun i => (given.lookup i).getD 0)
  let all ← lengths code (literals + distances) (literals + distances + 1) []
  return (← codeOf (all.take literals), ← codeOf (all.drop literals))

/-- The symbol that ends a block. -/
def blockEnd : Nat := 256

/-- The literals and copies of a block. -/
def content (literals distances : Code) : Nat → Array UInt8 → Bits (Array UInt8)
  | 0, _ => fail
  | fuel + 1, out => do
    let n ← literals.read
    if n < blockEnd then content literals distances fuel (out.push (UInt8.ofNat n))
    else if n == blockEnd then return out
    else
      let length ← extended copyLengths (n - 257)
      let distance ← extended copyDistances (← distances.read)
      match copy distance length out with
      | some out => content literals distances fuel out
      | none => fail

/-- Some whole bytes. -/
def bytes : Nat → Array UInt8 → Bits (Array UInt8)
  | 0, out => pure out
  | n + 1, out => do
    let b ← number 8
    bytes n (out.push (UInt8.ofNat b))

/-- A stored block, which begins with the next byte. -/
def stored (out : Array UInt8) : Bits (Array UInt8) := do
  modify fun bits => bits.drop (bits.length % 8)
  let length ← number 16
  if length + (← number 16) == 65535 then bytes length out else fail

/-- The blocks up to the last one. -/
def blocks : Nat → Array UInt8 → Bits (Array UInt8)
  | 0, _ => fail
  | fuel + 1, out => do
    let isLast ← bit
    let kind ← number 2
    let out ← match kind with
      | 0 => stored out
      | 1 => do content (← codeOf fixedLengths) (← codeOf fixedDistances) ((← get).length + 1) out
      | 2 => do
        let (literals, distances) ← ownCodes
        content literals distances ((← get).length + 1) out
      | _ => fail
    if isLast then return out else blocks fuel out

end Inflate

/-- **The bytes that compressed bytes stand for**, if they are well formed. -/
def inflate? (compressed : List UInt8) : Option (List UInt8) :=
  let bits := compressed.flatMap Inflate.bitsOf
  ((Inflate.blocks (bits.length + 1) #[]).run bits).map fun p => p.1.toList

end RowSql
