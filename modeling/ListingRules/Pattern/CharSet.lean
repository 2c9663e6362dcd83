import ListingRules.Character.Alphabetic
import ListingRules.Character.CaseFold
import ListingRules.Character.Whitespace

namespace ListingRules.Pattern

open Character (Stretch inStretches caseVariants)

inductive CharSet where
  | stretches (table : List Stretch)
  | union (a b : CharSet)
  | inter (a b : CharSet)
  | complement (a : CharSet)
  | caseless (a : CharSet)
  deriving DecidableEq, Repr

namespace CharSet

def contains : CharSet → Char → Bool
  | stretches table, c => inStretches table c
  | union a b, c => a.contains c || b.contains c
  | inter a b, c => a.contains c && b.contains c
  | complement a, c => !a.contains c
  | caseless a, c => (caseVariants c).any fun d => a.contains d

@[simp] theorem contains_union (a b : CharSet) (c : Char) :
    (union a b).contains c = (a.contains c || b.contains c) := rfl

@[simp] theorem contains_inter (a b : CharSet) (c : Char) :
    (inter a b).contains c = (a.contains c && b.contains c) := rfl

@[simp] theorem contains_complement (a : CharSet) (c : Char) :
    (complement a).contains c = !a.contains c := rfl

def none : CharSet := stretches []

def any : CharSet := complement none

def range (first last : Char) : CharSet := stretches [⟨first.toNat, last.toNat, 1⟩]

def single (c : Char) : CharSet := range c c

def unionAll : List CharSet → CharSet
  | [] => none
  | [a] => a
  | a :: more => union a (unionAll more)

def ofChars (cs : List Char) : CharSet := unionAll (cs.map single)

def diff (a b : CharSet) : CharSet := inter a (complement b)

def symmDiff (a b : CharSet) : CharSet := union (diff a b) (diff b a)

def negateIf (negative : Bool) (a : CharSet) : CharSet := if negative then complement a else a

def asciiDigits : CharSet := range '0' '9'

def asciiLetters : CharSet := union (range 'a' 'z') (range 'A' 'Z')

def asciiWord : CharSet := unionAll [asciiLetters, asciiDigits, single '_']

def asciiSpaces : CharSet := union (range '\t' '\r') (single ' ')

def digits : CharSet := stretches Character.decimalDigits

def spaces : CharSet := stretches Character.whitespace

def marks : CharSet :=
  stretches (Character.nonspacingMarks ++ Character.spacingMarks ++ Character.enclosingMarks)

def letters : CharSet :=
  stretches (Character.lowercaseLetters ++ Character.uppercaseLetters ++
    Character.titlecaseLetters ++ Character.modifierLetters ++ Character.otherLetters)

def alphabetic : CharSet :=
  union letters (stretches (Character.letterNumbers ++ Character.otherAlphabetic))

def word : CharSet :=
  unionAll [asciiWord, alphabetic, marks, digits, stretches Character.connectorPunctuation,
    range '\u200c' '\u200d']

def horizontalSpaces : CharSet :=
  unionAll [ofChars ['\t', ' ', '\u00a0', '\u1680', '\u180e', '\u202f', '\u205f', '\u3000'],
    range '\u2000' '\u200a']

def verticalSpaces : CharSet :=
  unionAll [range '\n' '\r', single '\u0085', range '\u2028' '\u2029']

def named? (name : Text) : Option CharSet :=
  match String.ofList name with
  | "alnum" => some (union asciiLetters asciiDigits)
  | "alpha" => some asciiLetters
  | "ascii" => some (range '\x00' '\x7f')
  | "blank" => some (ofChars ['\t', ' '])
  | "cntrl" => some (union (range '\x00' '\x1f') (single '\x7f'))
  | "digit" => some asciiDigits
  | "graph" => some (range '!' '~')
  | "lower" => some (range 'a' 'z')
  | "print" => some (range ' ' '~')
  | "punct" =>
      some (unionAll [range '!' '/', range ':' '@', range '[' '\x60', range '\x7b' '~'])
  | "space" => some asciiSpaces
  | "upper" => some (range 'A' 'Z')
  | "word" => some asciiWord
  | "xdigit" => some (unionAll [asciiDigits, range 'a' 'f', range 'A' 'F'])
  | _ => Option.none

end CharSet

end ListingRules.Pattern
