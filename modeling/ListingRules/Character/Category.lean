import ListingRules.Character.Category.CasedLetter
import ListingRules.Character.Category.UncasedLetter
import ListingRules.Character.Category.Mark
import ListingRules.Character.Category.Numeral
import ListingRules.Character.Category.Punctuation
import ListingRules.Character.Category.Sign
import ListingRules.Character.Category.Separator

namespace ListingRules.Character

def isNumeric (c : Char) : Bool :=
  if c.toNat < 0x80 then c.isDigit
  else inStretches decimalDigits c || inStretches letterNumbers c || inStretches otherNumbers c

def isMark (c : Char) : Bool :=
  inStretches nonspacingMarks c || inStretches spacingMarks c || inStretches enclosingMarks c

def isLetter (c : Char) : Bool :=
  inStretches lowercaseLetters c || inStretches uppercaseLetters c ||
    inStretches titlecaseLetters c || inStretches modifierLetters c || inStretches otherLetters c

def isPunctuation (c : Char) : Bool :=
  inStretches connectorPunctuation c || inStretches dashPunctuation c ||
    inStretches openPunctuation c || inStretches closePunctuation c ||
    inStretches initialPunctuation c || inStretches finalPunctuation c ||
    inStretches otherPunctuation c

def isSymbol (c : Char) : Bool :=
  inStretches mathSymbols c || inStretches currencySymbols c ||
    inStretches modifierSymbols c || inStretches otherSymbols c

end ListingRules.Character
