import RowSql.Unicode.Case
import RowSql.Unicode.Script
import RowSql.Text.Space
/-!
# CharSet — sets of characters

The sets that classes of a pattern denote.  A set is data; `CharSet.contains` is its meaning.
-/
namespace RowSql

/-- **A set of characters.** -/
inductive CharSet where
  | none
  | all
  | range (first last : Char)
  /-- Decimal digits of every script. -/
  | digit
  /-- White space. -/
  | space
  /-- Characters of words. -/
  | word
  /-- A class of general categories. -/
  | group (g : Char)
  | category (k : Unicode.Category)
  | script (name : String)
  | alphabetic
  | uppercase
  | lowercase
  | assigned
  | union (a b : CharSet)
  | inter (a b : CharSet)
  | complement (a : CharSet)
  /-- The characters that differ from one of the set in case only. -/
  | folded (a : CharSet)
  /-- The same for ASCII letters only. -/
  | foldedAscii (a : CharSet)
deriving Inhabited

namespace CharSet

def single (c : Char) : CharSet := .range c c

/-- The elements of `a` that are not in `b`. -/
def diff (a b : CharSet) : CharSet := .inter a (.complement b)

/-- The elements of exactly one of the two. -/
def symmetricDiff (a b : CharSet) : CharSet := .union (diff a b) (diff b a)

def unions (sets : List CharSet) : CharSet := sets.foldl .union .none

/-- The ASCII letter in the other case; other characters are unchanged. -/
def swapAscii (c : Char) : Char := if c.isLower then c.toUpper else c.toLower

/-- **Membership.** -/
def contains : CharSet → Char → Bool
  | .none, _ => false
  | .all, _ => true
  | .range first last, c => first ≤ c && c ≤ last
  | .digit, c => Unicode.isDecimalDigit c
  | .space, c => Text.isSpace c
  | .word, c => Unicode.isWord c
  | .group g, c => (Unicode.category c).group == g
  | .category k, c => Unicode.category c == k
  | .script name, c => Unicode.script c == name
  | .alphabetic, c => Unicode.isAlphabetic c
  | .uppercase, c => Unicode.isUppercase c
  | .lowercase, c => Unicode.isLowercase c
  | .assigned, c => Unicode.category c != ⟨'C', 'n'⟩
  | .union a b, c => a.contains c || b.contains c
  | .inter a b, c => a.contains c && b.contains c
  | .complement a, c => !a.contains c
  | .folded a, c => (Unicode.caseVariants c).any a.contains
  | .foldedAscii a, c => a.contains c || a.contains (swapAscii c)

/-- The characters of an ASCII class by its name. -/
def ascii? : String → Option CharSet
  | "alnum" => some (unions [.range '0' '9', .range 'A' 'Z', .range 'a' 'z'])
  | "alpha" => some (unions [.range 'A' 'Z', .range 'a' 'z'])
  | "ascii" => some (.range '\x00' '\x7f')
  | "blank" => some (unions [single '\t', single ' '])
  | "cntrl" => some (unions [.range '\x00' '\x1f', single '\x7f'])
  | "digit" => some (.range '0' '9')
  | "graph" => some (.range '!' '~')
  | "lower" => some (.range 'a' 'z')
  | "print" => some (.range ' ' '~')
  | "punct" => some (unions [.range '!' '/', .range ':' '@', .range '[' '\x60', .range '\x7b' '~'])
  | "space" => some (unions [.range '\t' '\r', single ' '])
  | "upper" => some (.range 'A' 'Z')
  | "word" => some (unions [.range '0' '9', .range 'A' 'Z', single '_', .range 'a' 'z'])
  | "xdigit" => some (unions [.range '0' '9', .range 'A' 'F', .range 'a' 'f'])
  | _ => Option.none

/-- A name without case, blanks, underscores, hyphens and a leading `is`. -/
def looseName (cs : List Char) : List Char :=
  let cs := (Text.lowerAscii cs).filter fun c => !(c == ' ' || c == '_' || c == '-')
  match cs with
  | 'i' :: 's' :: rest => if rest.isEmpty || rest == ['c'] then cs else rest
  | _ => cs

/-- The long names of classes of categories and of categories. -/
def categoryNames : List (String × String) :=
  [("letter", "L"), ("casedletter", "LC"), ("uppercaseletter", "Lu"), ("lowercaseletter", "Ll"),
   ("titlecaseletter", "Lt"), ("modifierletter", "Lm"), ("otherletter", "Lo"), ("mark", "M"), ("combiningmark", "M"),
   ("nonspacingmark", "Mn"), ("spacingmark", "Mc"), ("enclosingmark", "Me"), ("number", "N"), ("decimalnumber", "Nd"),
   ("digit", "Nd"), ("letternumber", "Nl"), ("othernumber", "No"), ("punctuation", "P"), ("punct", "P"),
   ("connectorpunctuation", "Pc"), ("dashpunctuation", "Pd"), ("openpunctuation", "Ps"), ("closepunctuation", "Pe"),
   ("initialpunctuation", "Pi"), ("finalpunctuation", "Pf"), ("otherpunctuation", "Po"), ("symbol", "S"),
   ("mathsymbol", "Sm"), ("currencysymbol", "Sc"), ("modifiersymbol", "Sk"), ("othersymbol", "So"), ("separator", "Z"),
   ("spaceseparator", "Zs"), ("lineseparator", "Zl"), ("paragraphseparator", "Zp"), ("other", "C"), ("control", "Cc"),
   ("cntrl", "Cc"), ("format", "Cf"), ("surrogate", "Cs"), ("privateuse", "Co"), ("unassigned", "Cn")]

/-- The abbreviations of classes of categories and of categories. -/
def categoryCodes : List String := "Cn" :: (categoryNames.map (·.2)).eraseDups

/-- The set of a class of categories, or of a category, by its abbreviation. -/
def ofCode : List Char → CharSet
  | ['L', 'C'] => unions [.category ⟨'L', 'u'⟩, .category ⟨'L', 'l'⟩, .category ⟨'L', 't'⟩]
  | [g] => .group g
  | [g, k] => .category ⟨g, k⟩
  | _ => .none

/-- The set of a general category by its name. -/
def ofCategory? (name : List Char) : Option CharSet :=
  match categoryNames.find? fun p => p.1.toList == name with
  | some p => some (ofCode p.2.toList)
  | Option.none => (categoryCodes.find? fun code => Text.lowerAscii code.toList == name).map fun code =>
    ofCode code.toList

/-- Short names of scripts. -/
def scriptCodes : List (String × String) :=
  [("latn", "Latin"), ("grek", "Greek"), ("cyrl", "Cyrillic"), ("hani", "Han"), ("hira", "Hiragana"),
   ("kana", "Katakana"), ("hang", "Hangul"), ("arab", "Arabic"), ("hebr", "Hebrew"), ("thai", "Thai"),
   ("deva", "Devanagari"), ("armn", "Armenian"), ("geor", "Georgian"), ("zyyy", "Common"), ("zinh", "Inherited"),
   ("qaai", "Inherited"), ("zzzz", "Unknown")]

/-- The set of a script by its name. -/
def ofScript? (name : List Char) : Option CharSet :=
  match scriptCodes.find? fun p => p.1.toList == name with
  | some p => some (.script p.2)
  | Option.none => (Unicode.scripts.find? fun s => looseName s.toList == name).map .script

/-- The set of a property that a character has or has not. -/
def ofProperty? : String → Option CharSet
  | "alphabetic" => some .alphabetic
  | "alpha" => some .alphabetic
  | "uppercase" => some .uppercase
  | "upper" => some .uppercase
  | "lowercase" => some .lowercase
  | "lower" => some .lowercase
  | "whitespace" => some .space
  | "wspace" => some .space
  | "space" => some .space
  | "any" => some .all
  | "assigned" => some .assigned
  | "ascii" => ascii? "ascii"
  | "asciihexdigit" => ascii? "xdigit"
  | "ahex" => ascii? "xdigit"
  | _ => Option.none

/-- **The set that a name of a property denotes.** -/
def ofName? (name : List Char) : Option CharSet :=
  let name := looseName name
  (ofProperty? (String.ofList name)).or ((ofCategory? name).or (ofScript? name))

/-- The set of the characters whose property `key` has a value. -/
def ofKey? (key value : List Char) : Option CharSet :=
  match String.ofList (looseName key) with
  | "generalcategory" => (ofProperty? (String.ofList (looseName value))).or (ofCategory? (looseName value))
  | "gc" => (ofProperty? (String.ofList (looseName value))).or (ofCategory? (looseName value))
  | "script" => ofScript? (looseName value)
  | "sc" => ofScript? (looseName value)
  | "scriptextensions" => ofScript? (looseName value)
  | "scx" => ofScript? (looseName value)
  | _ => Option.none

end CharSet
end RowSql
