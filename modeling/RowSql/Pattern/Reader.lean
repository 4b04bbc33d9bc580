import RowSql.Number.DecimalText
import RowSql.Pattern.Tree
import RowSql.Text.Digits
/-!
# Reader — patterns from text

`Pattern.read?` reads a pattern, or refuses it.  Flags are resolved on the way: a flag holds from where it is set to the
end of its group.
-/
namespace RowSql
namespace Pattern

/-- The flags of a place in a pattern. -/
structure Flags where
  ignoreCase : Bool := false
  multiLine : Bool := false
  dotAll : Bool := false
  swapGreed : Bool := false
  unicode : Bool := true
  anyLine : Bool := false
  /-- Blanks and comments stand for nothing. -/
  spaced : Bool := false
deriving Inhabited

/-- What is left of a pattern, and what was met so far. -/
structure State where
  rest : List Char
  flags : Flags
  /-- The index of the last capture. -/
  captures : Nat
  names : List (String × Nat)
deriving Inhabited

/-- A step of reading. -/
abbrev Reader := StateT State Option

namespace Reader

def peek? : Reader (Option Char) := do return (← get).rest.head?

/-- The next character, which has to be there. -/
def peek : Reader Char := do
  match (← get).rest with
  | [] => failure
  | c :: _ => return c

def atEnd : Reader Bool := do return (← get).rest.isEmpty

/-- Drops the next character. -/
def bump : Reader Unit := modify fun s => { s with rest := s.rest.tail }

/-- The text after the comment that begins here. -/
def dropComment : List Char → List Char
  | [] => []
  | c :: cs => if c == '\n' then cs else dropComment cs

/-- The text after blanks and comments. -/
def dropSpace : Nat → List Char → List Char
  | 0, cs => cs
  | _, [] => []
  | fuel + 1, c :: cs =>
    if Text.isSpace c then dropSpace fuel cs
    else if c == '#' then dropSpace fuel (dropComment cs)
    else c :: cs

/-- Drops blanks and comments where they stand for nothing. -/
def space : Reader Unit :=
  modify fun s => if s.flags.spaced then { s with rest := dropSpace s.rest.length s.rest } else s

/-- Drops the next character and blanks after it. -/
def bumpSpace : Reader Unit := do bump; space

/-- Drops the next character and blanks after it, which must not be the end. -/
def advance : Reader Unit := do
  bumpSpace
  if ← atEnd then failure

/-- The character after the next one, past blanks. -/
def peekNext? : Reader (Option Char) := do
  let s ← get
  let rest := s.rest.tail
  return (if s.flags.spaced then dropSpace rest.length rest else rest).head?

/-- Drops a text if it is next. -/
def accept (word : List Char) : Reader Bool := do
  let s ← get
  if word.isPrefixOf s.rest then
    set { s with rest := s.rest.drop word.length }
    return true
  else return false

end Reader

open Reader

/-- Characters with a meaning of their own. -/
def isMeta (c : Char) : Bool := "\\.+*?()|[]\x7b\x7d^$#&-~".toList.contains c

/-- Other characters that a backslash may precede without changing them. -/
def isEscapable (c : Char) : Bool := c.toNat < 0x80 && !c.isAlphanum && c != '<' && c != '>'

/-- What an escape or a character stands for. -/
inductive Atom where
  | char (c : Char)
  /-- A byte of two hexadecimal digits, which is a character only below 128 where texts are not Unicode. -/
  | byte (n : Nat)
  | set (s : CharSet)
  | look (l : Look)

/-- The number of a list of hexadecimal digits, of which there is one at least. -/
def hexDigits? (cs : List Char) : Option Nat := if cs.isEmpty then none else Text.number? 16 cs

/-- The character of a code point. -/
def charOf? (n : Nat) : Option Char := if n.isValidChar then some (Char.ofNat n) else none

/-- Characters up to a closing brace, which is dropped. -/
def untilBrace : Nat → List Char → Reader (List Char)
  | 0, _ => failure
  | fuel + 1, taken => do
    let c ← peek
    if c == '\x7d' then
      bump
      return taken.reverse
    else
      bumpSpace
      untilBrace fuel (c :: taken)

/-- A number of characters, which have to be there. -/
def takeChars : Nat → List Char → Reader (List Char)
  | 0, taken => return taken.reverse
  | n + 1, taken => do
    let c ← peek
    if n == 0 then bump else bumpSpace
    takeChars n (c :: taken)

/-- A hexadecimal escape whose letter is next. -/
def readHex : Reader Atom := do
  let kind ← peek
  advance
  let digits ← if (← peek) == '\x7b' then do bumpSpace; untilBrace (← get).rest.length []
    else takeChars (if kind == 'x' then 2 else if kind == 'u' then 4 else 8) []
  let n ← hexDigits? digits
  if (← get).flags.unicode then return .char (← charOf? n)
  else if n < 0x100 then return .byte n
  else return .char (← charOf? n)

/-- A class of a property whose letter is next. -/
def readProperty : Reader Atom := do
  let negated := (← peek) == 'P'
  advance
  if !(← get).flags.unicode then failure
  let c ← peek
  if c == '\x7b' then
    bumpSpace
    let name ← untilBrace (← get).rest.length []
    let (s, differs) ← match Decimal.splitAt? (fun c => c == '=' || c == ':') name with
      | none => (CharSet.ofName? name).map fun s => (s, false)
      | some (key, value) =>
        if key.getLast? == some '!' && name.contains '=' then (CharSet.ofKey? key.dropLast value).map fun s => (s, true)
        else (CharSet.ofKey? key value).map fun s => (s, false)
    return .set (if negated != differs then .complement s else s)
  else if c == '\\' then failure
  else
    bumpSpace
    let s ← CharSet.ofName? [c]
    return .set (if negated then .complement s else s)

/-- A class of one letter: digits, blanks, characters of words, or all others. -/
def readShorthand (c : Char) : Reader Atom := do
  bump
  let unicode := (← get).flags.unicode
  let s := if unicode then
      match c.toLower with
      | 'd' => CharSet.digit
      | 's' => CharSet.space
      | _ => CharSet.word
    else ((CharSet.ascii? (match c.toLower with
      | 'd' => "digit"
      | 's' => "space"
      | _ => "word")).getD .none)
  if c.isUpper then
    if !unicode then failure
    return .set (.complement s)
  else return .set s

/-- The name of a kind of word boundary in braces, if there is one. -/
def readBoundary : Reader Look := do
  let start := (← get).rest
  if start.head? == some '\x7b' then
    advance
    let c ← peek
    if c.isAlpha || c == '-' then
      let name ← untilBrace (← get).rest.length []
      match String.ofList name with
      | "start" => return .wordStart
      | "end" => return .wordEnd
      | "start-half" => return .wordStartHalf
      | "end-half" => return .wordEndHalf
      | _ => failure
    else
      modify fun s => { s with rest := start }
      return .wordBoundary
  else return .wordBoundary

/-- An escape whose backslash is next. -/
def readEscape : Reader Atom := do
  bump
  let c ← peek
  if c.isDigit then failure
  else if c == 'x' || c == 'u' || c == 'U' then readHex
  else if c == 'p' || c == 'P' then readProperty
  else if "dswDSW".toList.contains c then readShorthand c
  else
    bump
    if isMeta c || isEscapable c then return .char c
    else
      match c with
      | 'a' => return .char '\x07'
      | 'f' => return .char '\x0c'
      | 't' => return .char '\t'
      | 'n' => return .char '\n'
      | 'r' => return .char '\r'
      | 'v' => return .char '\x0b'
      | 'A' => return .look .textStart
      | 'z' => return .look .textEnd
      | 'b' => return .look (← readBoundary)
      | 'B' => return .look .notWordBoundary
      | '<' => return .look .wordStart
      | '>' => return .look .wordEnd
      | _ => failure

/-- The set under the flag that ignores case. -/
def foldSet (f : Flags) (s : CharSet) : CharSet :=
  if f.ignoreCase then (if f.unicode then .folded s else .foldedAscii s) else s

/-- The character of an atom of a class. -/
def Atom.literal? (f : Flags) : Atom → Option Char
  | .char c => if f.unicode || c.toNat < 0x80 then some c else none
  | .byte n => if n < 0x80 then some (Char.ofNat n) else none
  | _ => none

/-- The set of an atom of a class. -/
def Atom.set? (f : Flags) : Atom → Option CharSet
  | .set s => some s
  | a => (a.literal? f).map CharSet.single

/-- One character or escape inside a class. -/
def readClassAtom : Reader Atom := do
  let c ← peek
  if c == '\\' then readEscape
  else
    bump
    return .char c

/-- A character, a range or an escape inside a class. -/
def readClassRange : Reader CharSet := do
  let first ← readClassAtom
  space
  let c ← peek
  let next ← peekNext?
  let flags := (← get).flags
  if c != '-' || next == some ']' || next == some '-' then first.set? flags
  else
    advance
    let last ← readClassAtom
    let a ← first.literal? flags
    let b ← last.literal? flags
    if a ≤ b then return .range a b else failure

/-- A named ASCII class, if one is next. -/
def readAsciiClass : Reader (Option CharSet) := do
  let rest := (← get).rest
  match rest with
  | '[' :: ':' :: body =>
    let (negated, body) := match body with
      | '^' :: body => (true, body)
      | body => (false, body)
    let name := body.takeWhile (· != ':')
    match body.drop name.length with
    | ':' :: ']' :: after =>
      match CharSet.ascii? (String.ofList name) with
      | some s =>
        if negated && !(← get).flags.unicode then failure
        modify fun st => { st with rest := after }
        return some (if negated then .complement s else s)
      | none => return none
    | _ => return none
  | _ => return none

/-- How two parts of a class are combined. -/
inductive ClassOp where
  | inter
  | diff
  | symmetric

def ClassOp.apply : ClassOp → CharSet → CharSet → CharSet
  | .inter, a, b => .inter a b
  | .diff, a, b => a.diff b
  | .symmetric, a, b => a.symmetricDiff b

/-- The operator that is next in a class, if there is one. -/
def readClassOp : Reader (Option ClassOp) := do
  if ← accept ['&', '&'] then return some .inter
  else if ← accept ['-', '-'] then return some .diff
  else if ← accept ['~', '~'] then return some .symmetric
  else return none

/-- Hyphens at the beginning of a class, which stand for themselves. -/
def readHyphens : Nat → CharSet → Reader CharSet
  | 0, s => return s
  | fuel + 1, s => do
    if (← peek) == '-' then
      advance
      readHyphens fuel (.union s (.single '-'))
    else return s

/-- A class whose opening bracket is next, and how deep its brackets nest; `body` reads the rest of it, after the items
that are given. -/
def readClassWith (body : CharSet → Reader (CharSet × Nat)) : Reader (CharSet × Nat) := do
  advance
  let negated := (← peek) == '^'
  if negated then advance
  if negated && !(← get).flags.unicode then failure
  let begins ← peek
  let hyphens ← readHyphens (← get).rest.length .none
  let isBracket := begins != '-' && (← peek) == ']'
  if isBracket then advance
  let (s, d) ← body (if isBracket then .single ']' else hyphens)
  let s := foldSet (← get).flags s
  return (if negated then .complement s else s, d + 1)

/-- A class up to its closing bracket, and how deep brackets nest in it; `left` is what stands before the last operator,
`items` what stands after it. -/
def readClassBody : Nat → Option (CharSet × ClassOp) → CharSet → Nat → Reader (CharSet × Nat)
  | 0, _, _, _ => failure
  | fuel + 1, left, items, depth => do
    space
    let c ← peek
    let flags := (← get).flags
    let whole := match left with
      | some (a, op) => op.apply (foldSet flags a) (foldSet flags items)
      | none => items
    if c == ']' then
      bump
      return (whole, depth)
    else if c == '[' then
      match ← readAsciiClass with
      | some s => readClassBody fuel left (.union items s) depth
      | none =>
        let (s, d) ← readClassWith fun first => readClassBody fuel none first 0
        readClassBody fuel left (.union items s) (max depth d)
    else
      match ← readClassOp with
      | some op => readClassBody fuel (some (whole, op)) .none depth
      | none =>
        let s ← readClassRange
        readClassBody fuel left (.union items s) depth

/-- A class whose opening bracket is next. -/
def readClass : Reader Tree := do
  let (s, d) ← readClassWith fun first => do readClassBody ((← get).rest.length + 1) none first 0
  return .class s d

/-- One flag, switched on or off. -/
def Flags.set? (f : Flags) (on : Bool) : Char → Option Flags
  | 'i' => some { f with ignoreCase := on }
  | 'm' => some { f with multiLine := on }
  | 's' => some { f with dotAll := on }
  | 'U' => some { f with swapGreed := on }
  | 'u' => some { f with unicode := on }
  | 'R' => some { f with anyLine := on }
  | 'x' => some { f with spaced := on }
  | _ => none

/-- Flags up to a colon or a closing parenthesis, which stays; each flag and the minus sign stand at most once, and the
minus sign not last. -/
def readFlags : Nat → List Char → Flags → Reader (List Char × Flags)
  | 0, _, _ => failure
  | fuel + 1, taken, f => do
    let c ← peek
    if c == ':' || c == ')' then
      if taken.head? == some '-' then failure
      return (taken, f)
    else if taken.contains c then failure
    else
      let f ← if c == '-' then pure f else f.set? (!taken.contains '-') c
      bump
      readFlags fuel (c :: taken) f

/-- Characters of the name of a capture. -/
def isNameChar (c : Char) (first : Bool) : Bool :=
  c == '_' || (if first then Unicode.isAlphabetic c
    else c == '.' || c == '[' || c == ']' || Unicode.isAlphanumeric c)

/-- The name of a capture and the closing angle, and the index of the capture. -/
def readName : Reader Nat := do
  let s ← get
  let name := s.rest.takeWhile (· != '>')
  let first := name.head?
  if !(first.elim false fun c => isNameChar c true) || !(name.tail.all fun c => isNameChar c false) then failure
  if (s.rest.drop name.length).isEmpty then failure
  let text := String.ofList name
  if s.names.any fun p => p.1 == text then failure
  let index := s.captures + 1
  set { s with rest := s.rest.drop (name.length + 1), captures := index, names := s.names ++ [(text, index)] }
  return index

/-- What a parenthesis opens. -/
inductive Opening where
  | setting
  | capture (index : Nat)
  | group

/-- The opening of a group, whose parenthesis is next. -/
def readOpening : Reader Opening := do
  bumpSpace
  let rest := (← get).rest
  if ["?=", "?!", "?<=", "?<!"].any fun w => w.toList.isPrefixOf rest then failure
  else if ← accept ['?', 'P', '<'] then return .capture (← readName)
  else if ← accept ['?', '<'] then return .capture (← readName)
  else if ← accept ['?'] then
    let (taken, f) ← readFlags ((← get).rest.length + 1) [] (← get).flags
    let closing := (← peek) == ')'
    bump
    if closing && taken.isEmpty then failure
    modify fun s => { s with flags := f }
    return if closing then .setting else .group
  else
    let s ← get
    set { s with captures := s.captures + 1 }
    return .capture (s.captures + 1)

/-- The first number that is too large for a count of repetitions. -/
def countLimit : Nat := 4294967296

/-- Drops white space, whatever the flags. -/
def dropBlanks : Reader Unit := modify fun s => { s with rest := s.rest.dropWhile Text.isSpace }

/-- Digits, with blanks between them where blanks stand for nothing. -/
def readDigits : Nat → List Char → Reader (List Char)
  | 0, taken => return taken.reverse
  | fuel + 1, taken => do
    match ← peek? with
    | none => return taken.reverse
    | some c =>
      if c.isDigit then
        bumpSpace
        readDigits fuel (c :: taken)
      else return taken.reverse

/-- A count of repetitions, if one is next, in white space. -/
def readCount : Reader (Option Nat) := do
  dropBlanks
  let ds ← readDigits (← get).rest.length []
  dropBlanks
  space
  if ds.isEmpty then return none
  else
    let n ← Decimal.readPlain ds
    if n < countLimit then return some n else failure

/-- The bounds of a repetition in braces, whose opening brace is next. -/
def readBounds : Reader (Nat × Option Nat) := do
  advance
  let least? ← readCount
  if (← peek) == ',' then
    advance
    if (← peek) == '\x7d' then
      bumpSpace
      return (← least?, none)
    else
      let least ← least?
      let most ← (← readCount)
      if (← peek) != '\x7d' || most < least then failure
      bumpSpace
      return (least, some most)
  else
    let n ← least?
    if (← peek) != '\x7d' then failure
    bumpSpace
    return (n, some n)

/-- The repetition of the last item of a sequence, with a question mark that swaps its greed. -/
def readRepeat (items : List Tree) (least : Nat) (most : Option Nat) : Reader (List Tree) := do
  let lazy ← accept ['?']
  let swap := (← get).flags.swapGreed
  match items with
  | [] => failure
  | .setting :: _ => failure
  | .empty :: _ => failure
  | t :: ts => return .repeat t least most (lazy == swap) :: ts

/-- The tree of an atom outside classes. -/
def Atom.tree? (f : Flags) : Atom → Option Tree
  | .char c => some (.set (foldSet f (.single c)))
  | .byte n => if n < 0x80 then some (.set (foldSet f (.single (Char.ofNat n)))) else none
  | .set s => some (.set s)
  | .look l => some (.look l (!f.unicode))

/-- The tree of a character that is not escaped. -/
def charTree? (f : Flags) (c : Char) : Option Tree :=
  if c == '.' then
    if !f.unicode then none
    else if f.dotAll then some (.set .all)
    else if f.anyLine then some (.set (.complement (.union (.single '\r') (.single '\n'))))
    else some (.set (.complement (.single '\n')))
  else if c == '^' then
    some (.look (if f.multiLine then (if f.anyLine then .anyLineStart else .lineStart) else .textStart) false)
  else if c == '$' then
    some (.look (if f.multiLine then (if f.anyLine then .anyLineEnd else .lineEnd) else .textEnd) false)
  else some (.set (foldSet f (.single c)))

/-- The escape or the character that is next, which is `c`. -/
def readAtom (c : Char) : Reader Tree := do
  if c == '\\' then
    let a ← readEscape
    a.tree? (← get).flags
  else
    bump
    charTree? (← get).flags c

/-- The alternatives up to the end of the pattern or, in a group, to its closing parenthesis; `items` are those of the
present branch, `branches` the branches before it, both last first. -/
def readBranches : Nat → Bool → List Tree → List Tree → Reader Tree
  | 0, _, _, _ => failure
  | fuel + 1, inGroup, items, branches => do
    space
    match ← peek? with
    | none =>
      if inGroup then failure
      return .ofBranches (Tree.ofItems items.reverse :: branches).reverse
    | some c =>
      if c == ')' then
        if !inGroup then failure
        bump
        return .ofBranches (Tree.ofItems items.reverse :: branches).reverse
      else if c == '|' then
        bump
        readBranches fuel inGroup [] (Tree.ofItems items.reverse :: branches)
      else if c == '(' then
        let flags := (← get).flags
        match ← readOpening with
        | .setting => readBranches fuel inGroup (.setting :: items) branches
        | .group =>
          let body ← readBranches fuel true [] []
          modify fun s => { s with flags := flags }
          readBranches fuel inGroup (.group body :: items) branches
        | .capture index =>
          let body ← readBranches fuel true [] []
          modify fun s => { s with flags := flags }
          readBranches fuel inGroup (.capture index body :: items) branches
      else if c == '[' then
        let t ← readClass
        readBranches fuel inGroup (t :: items) branches
      else if c == '?' then
        bump
        let items ← readRepeat items 0 (some 1)
        readBranches fuel inGroup items branches
      else if c == '*' then
        bump
        let items ← readRepeat items 0 none
        readBranches fuel inGroup items branches
      else if c == '+' then
        bump
        let items ← readRepeat items 1 none
        readBranches fuel inGroup items branches
      else if c == '\x7b' then
        if items.isEmpty then failure
        let (least, most) ← readBounds
        let items ← readRepeat items least most
        readBranches fuel inGroup items branches
      else
        let t ← readAtom c
        readBranches fuel inGroup (t :: items) branches

/-- How deep a pattern may nest. -/
def depthLimit : Nat := 250

/-- **A pattern with the names of its captures.** -/
structure Source where
  tree : Tree
  names : List (String × Nat)

/-- **The pattern that a text spells** under some flags. -/
def read? (flags : Flags) (text : List Char) : Option Source := do
  let (t, s) ← (readBranches (text.length + 1) false [] []).run ⟨text, flags, 0, []⟩
  if t.depth ≤ depthLimit then some ⟨t.simplify, s.names⟩ else none

end Pattern
end RowSql
