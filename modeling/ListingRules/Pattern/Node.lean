import ListingRules.Pattern.Assertion

namespace ListingRules.Pattern

inductive Node where
  | empty
  | set (s : CharSet)
  | assertion (a : Assertion)
  | sequence (a b : Node)
  | choice (a b : Node)
  | repetition (body : Node) (least : Nat) (most : Option Nat) (greedy : Bool)
  | group (index : Nat) (body : Node)
  | atomic (body : Node)
  | lookAhead (negative : Bool) (body : Node)
  | lookBehind (negative : Bool) (body : Node)
  | reference (index : Nat) (ignoreCase : Bool)
  | ifGroup (index : Nat) (yes no : Node)
  | recursion (index : Nat)
  | keepOut
  deriving DecidableEq, Repr

namespace Node

def sequenceAll : List Node → Node
  | [] => empty
  | [a] => a
  | a :: more => sequence a (sequenceAll more)

def group? (wanted : Nat) : Node → Option Node
  | sequence a b | choice a b | ifGroup _ a b => (a.group? wanted).or (b.group? wanted)
  | repetition body .. | atomic body | lookAhead _ body | lookBehind _ body =>
      body.group? wanted
  | group index body => if index = wanted then some body else body.group? wanted
  | _ => none

def width? : Node → Option (Nat × Nat)
  | empty | assertion _ | lookAhead .. | lookBehind .. | keepOut => some (0, 0)
  | set _ => some (1, 1)
  | sequence a b => do
      let (l, m) ← a.width?
      let (l', m') ← b.width?
      return (l + l', m + m')
  | choice a b | ifGroup _ a b => do
      let (l, m) ← a.width?
      let (l', m') ← b.width?
      return (min l l', max m m')
  | repetition body least most _ => do
      let (l, m) ← body.width?
      return (l * least, m * (← most))
  | group _ body | atomic body => body.width?
  | reference .. | recursion _ => none

end Node

end ListingRules.Pattern
