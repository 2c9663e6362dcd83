import ListingRules.Character.LetterCase
import ListingRules.Character.Script.HigherPlanes
import ListingRules.Pattern.CharSet

namespace ListingRules.Pattern.CharSet

open Character

def propertyKey (name : Text) : Text :=
  match (name.filter fun c => !(c == ' ' || c == '_' || c == '-')).map Char.toLower with
  | 'i' :: 's' :: rest => rest
  | key => key

def casedLetters : CharSet :=
  stretches (lowercaseLetters ++ uppercaseLetters ++ titlecaseLetters)

def numerals : CharSet :=
  stretches (decimalDigits ++ letterNumbers ++ otherNumbers)

def punctuation : CharSet :=
  stretches (connectorPunctuation ++ dashPunctuation ++ openPunctuation ++ closePunctuation ++
    initialPunctuation ++ finalPunctuation ++ otherPunctuation)

def signs : CharSet :=
  stretches (mathSymbols ++ currencySymbols ++ modifierSymbols ++ otherSymbols)

def separators : CharSet :=
  stretches (spaceSeparators ++ lineSeparators ++ paragraphSeparators)

def assigned : CharSet :=
  unionAll [letters, marks, numerals, punctuation, signs, separators,
    stretches (controls ++ formats ++ privateUse)]

def unassigned : CharSet := complement assigned

def category? (key : Text) : Option CharSet :=
  match String.ofList key with
  | "c" | "other" => some (union unassigned (stretches (controls ++ formats ++ privateUse)))
  | "cc" | "control" | "cntrl" => some (stretches controls)
  | "cf" | "format" => some (stretches formats)
  | "cn" | "unassigned" => some unassigned
  | "co" | "privateuse" => some (stretches privateUse)
  | "l" | "letter" => some letters
  | "lc" | "casedletter" | "l&" => some casedLetters
  | "ll" | "lowercaseletter" => some (stretches lowercaseLetters)
  | "lm" | "modifierletter" => some (stretches modifierLetters)
  | "lo" | "otherletter" => some (stretches otherLetters)
  | "lt" | "titlecaseletter" => some (stretches titlecaseLetters)
  | "lu" | "uppercaseletter" => some (stretches uppercaseLetters)
  | "m" | "mark" | "combiningmark" => some marks
  | "mc" | "spacingmark" => some (stretches spacingMarks)
  | "me" | "enclosingmark" => some (stretches enclosingMarks)
  | "mn" | "nonspacingmark" => some (stretches nonspacingMarks)
  | "n" | "number" => some numerals
  | "nd" | "decimalnumber" | "digit" => some digits
  | "nl" | "letternumber" => some (stretches letterNumbers)
  | "no" | "othernumber" => some (stretches otherNumbers)
  | "p" | "punctuation" | "punct" => some punctuation
  | "pc" | "connectorpunctuation" => some (stretches connectorPunctuation)
  | "pd" | "dashpunctuation" => some (stretches dashPunctuation)
  | "pe" | "closepunctuation" => some (stretches closePunctuation)
  | "pf" | "finalpunctuation" => some (stretches finalPunctuation)
  | "pi" | "initialpunctuation" => some (stretches initialPunctuation)
  | "po" | "otherpunctuation" => some (stretches otherPunctuation)
  | "ps" | "openpunctuation" => some (stretches openPunctuation)
  | "s" | "symbol" => some signs
  | "sc" | "currencysymbol" => some (stretches currencySymbols)
  | "sk" | "modifiersymbol" => some (stretches modifierSymbols)
  | "sm" | "mathsymbol" => some (stretches mathSymbols)
  | "so" | "othersymbol" => some (stretches otherSymbols)
  | "z" | "separator" => some separators
  | "zl" | "lineseparator" => some (stretches lineSeparators)
  | "zp" | "paragraphseparator" => some (stretches paragraphSeparators)
  | "zs" | "spaceseparator" => some (stretches spaceSeparators)
  | _ => Option.none

def script? (key : Text) : Option CharSet :=
  let isNamed (s : Script) := propertyKey s.name.toList == key || propertyKey s.short.toList == key
  ((basicPlaneScripts ++ higherPlaneScripts).find? isNamed).map (stretches ·.stretches)

def otherProperty? (key : Text) : Option CharSet :=
  match String.ofList key with
  | "any" => some any
  | "assigned" => some assigned
  | "ascii" => some (range '\x00' '\x7f')
  | "alphabetic" | "alpha" => some alphabetic
  | "lowercase" | "lower" => some (stretches (lowercaseLetters ++ otherLowercase))
  | "uppercase" | "upper" => some (stretches (uppercaseLetters ++ otherUppercase))
  | "whitespace" | "wspace" | "space" => some spaces
  | _ => Option.none

def property? (name : Text) : Option CharSet :=
  let key := propertyKey name
  ((category? key).or (otherProperty? key)).or (script? key)

def propertyValue? (name value : Text) : Option CharSet :=
  match String.ofList (propertyKey name) with
  | "gc" | "generalcategory" =>
      let key := propertyKey value
      (category? key).or <|
        if key = "any".toList then some any
        else if key = "assigned".toList then some assigned
        else if key = "ascii".toList then some (range '\x00' '\x7f')
        else Option.none
  | "sc" | "script" | "scx" | "scriptextensions" => script? (propertyKey value)
  | _ => Option.none

end ListingRules.Pattern.CharSet
