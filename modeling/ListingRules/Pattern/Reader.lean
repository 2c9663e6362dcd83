import ListingRules.Pattern.Node
import ListingRules.Text.Reader

namespace ListingRules.Pattern

structure Flags where
  ignoreCase : Bool := true
  multiLine : Bool := false
  dotAll : Bool := false
  swapGreed : Bool := false
  spaced : Bool := false
  spacedBrackets : Bool := false
  wide : Bool := true
  anyLineEnd : Bool := false
  namedOnly : Bool := false
  deriving DecidableEq, Repr

structure Groups where
  count : Nat := 0
  names : List (Text × Nat) := []
  deriving DecidableEq, Repr

structure Reading where
  flags : Flags := {}
  groups : Groups := {}
  known : Option Groups := none
  deriving DecidableEq, Repr

abbrev Reader := TextReader Reading

namespace Reader

def flags : Reader Flags :=
  return (← TextReader.memory).flags

def setFlags (f : Flags) : Reader Unit := do
  TextReader.setMemory { ← TextReader.memory with flags := f }

def groups : Reader Groups :=
  return (← TextReader.memory).groups

def setGroups (g : Groups) : Reader Unit := do
  TextReader.setMemory { ← TextReader.memory with groups := g }

def addName (name : Text) (index : Nat) : Reader Unit := do
  let g ← groups
  setGroups { g with names := (name, index) :: g.names }

end Reader

def Flags.single (f : Flags) (c : Char) : CharSet :=
  if !f.ignoreCase then .single c
  else if f.wide then .caseless (.single c)
  else .ofChars [c, if c.isUpper then c.toLower else c.toUpper]

def Flags.folded (f : Flags) (s : CharSet) : CharSet :=
  if !f.ignoreCase then s
  else if f.wide then .caseless s
  else .inter (.caseless s) (.range '\x00' '\x7f')

end ListingRules.Pattern
