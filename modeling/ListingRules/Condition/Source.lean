import ListingRules.Column.Set
import ListingRules.Condition.Call
import ListingRules.Condition.Precedence
import ListingRules.SourceError

namespace ListingRules.Condition

open SourceError (between here)

structure Call where
  function : ConditionFunction
  quote : Cursor
  deriving DecidableEq, Repr

def skip (c : Cursor) : Cursor :=
  c.skipWhile Text.isSpace

def word (c : Cursor) : Text :=
  c.ahead.takeWhile isIdentifierPart

def afterWord (c : Cursor) : Cursor :=
  c.skipWhile isIdentifierPart

def isKeyword (keyword : String) (t : Text) : Bool :=
  Text.sameAscii keyword.toList t

def connective? (c : Cursor) : Option Connective :=
  if isKeyword "and" (word c) then some .and
  else if isKeyword "or" (word c) then some .or
  else none

/-- A word that no condition knows is an unknown function; all else has the given fault. -/
def misplaced (fault : SourceFault) (c : Cursor) : SourceError :=
  let known := ["or", "and", "not"].any (isKeyword · (word c)) ||
    (ConditionFunction.ofName? (word c)).isSome
  if c.ahead.head?.any isIdentifierStart && !known then between .unknownFunction c (afterWord c)
  else here fault c

def sign (wanted : Char) (missing : Cursor → SourceError) (c : Cursor) :
    Except SourceError Cursor :=
  if (skip c).ahead.head? = some wanted then .ok (skip c).next else .error (missing (skip c))

/-- A call from behind the name of its function. Escapes in its text are not looked into. -/
def call (f : ConditionFunction) (c : Cursor) : Except SourceError (Call × Cursor) := do
  let c ← sign '(' (here .missingFunctionParams) c
  let quote := skip c
  if quote.ahead.head? ≠ some '"' then .error (here .missingStringParam quote)
  match Quoted.close? quote with
  | some c => return (⟨f, quote⟩, ← sign ')' (here .missingParenEnd) c)
  | none => do
      let _ ← Quoted.decodeInSource quote
      .error (here .missingStringEnd quote)

mutual

def operand : Nat → Cursor → Except SourceError (SignedFormula Call × Cursor)
  | 0, c => .error (here .unexpectedSymbol (skip c))
  | depth + 1, c =>
      if isKeyword "not" (word (skip c)) then do
        let (p, c) ← term depth (skip (afterWord (skip c)))
        return (⟨true, p⟩, c)
      else do
        let (p, c) ← term depth (skip c)
        return (⟨false, p⟩, c)

def term : Nat → Cursor → Except SourceError (Formula Call × Cursor)
  | 0, c => .error (here .unexpectedSymbol c)
  | depth + 1, c =>
      match ConditionFunction.ofName? (word c) with
      | some f => do
          let (p, c) ← call f (afterWord c)
          return (.test p, c)
      | none =>
          if c.ahead.head? = some '(' then do
            let (p, c) ← expression depth c.next
            return (p, ← sign ')' (misplaced .missingRightParen) c)
          else .error (misplaced .unexpectedSymbol c)

def expression : Nat → Cursor → Except SourceError (Formula Call × Cursor)
  | 0, c => .error (here .unexpectedSymbol (skip c))
  | depth + 1, c => do
      let (first, c) ← operand depth c
      let (rest, c) ← links depth c
      return (SignedFormula.grouped first rest, c)

def links : Nat → Cursor → Except SourceError (List (Connective × SignedFormula Call) × Cursor)
  | 0, c => .ok ([], c)
  | depth + 1, c =>
      match connective? (skip c) with
      | none => .ok ([], c)
      | some op => do
          let (p, c) ← operand depth (afterWord (skip c))
          let (rest, c) ← links depth c
          return ((op, p) :: rest, c)

end

def ofSource (source : Text) : Except SourceError (Option (Formula Call)) := do
  let start := skip (Cursor.ofText source)
  if start.ahead.isEmpty then return none
  let (p, c) ← expression (3 * source.length + 3) start
  if (skip c).ahead.isEmpty then return some p
  .error (misplaced .unexpectedSymbol (skip c))

end ListingRules.Condition
