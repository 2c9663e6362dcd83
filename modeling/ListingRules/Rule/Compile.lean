import ListingRules.Rule.Typing

namespace ListingRules

namespace Cursor

def skipTriviaFrom : Bool → Text → Text → Cursor
  | _, behind, [] => ⟨behind, []⟩
  | true, behind, c :: ahead => skipTriviaFrom (!Text.isLineEnd c) (c :: behind) ahead
  | false, behind, c :: ahead =>
      if Text.isSpaceOrTab c || Text.isLineEnd c then skipTriviaFrom false (c :: behind) ahead
      else if c == '#' then skipTriviaFrom true (c :: behind) ahead
      else ⟨behind, c :: ahead⟩

def skipTrivia (c : Cursor) : Cursor :=
  skipTriviaFrom false c.behind c.ahead

theorem text_skipTriviaFrom (b : Bool) (behind ahead : Text) :
    (skipTriviaFrom b behind ahead).text = behind.reverse ++ ahead := by
  induction ahead generalizing b behind with
  | nil => cases b <;> rfl
  | cons c ahead ih =>
      cases b with
      | true => simp [skipTriviaFrom, ih]
      | false =>
          simp only [skipTriviaFrom]
          split
          · simp [ih]
          · split
            · simp [ih]
            · rfl

@[simp] theorem text_skipTrivia (c : Cursor) : c.skipTrivia.text = c.text :=
  text_skipTriviaFrom false c.behind c.ahead

def identifier? (c : Cursor) : Option (Text × Cursor) :=
  match c.ahead with
  | x :: _ =>
      if isIdentifierStart x then
        some (c.ahead.takeWhile isIdentifierPart, c.skipWhile isIdentifierPart)
      else none
  | [] => none

end Cursor

namespace RuleSet.Source

open SourceError (between here point)

def identifier (missing : SourceFault) (c : Cursor) : Except SourceError (Text × Cursor) :=
  match c.identifier? with
  | some r => .ok r
  | none => .error (here missing c)

def token (missing : SourceFault) (c : Cursor) : Except SourceError Cursor :=
  let d := c.skipTrivia
  if d.ahead.isEmpty then .error (point missing d) else .ok d

def number (c : Cursor) : Except SourceError (Int × Cursor) :=
  let signed := c.ahead.head? = some '+' ∨ c.ahead.head? = some '-'
  let negative := c.ahead.head? = some '-'
  let d := if signed then c.next else c
  let stop := d.skipWhile Char.isDigit
  let digits := d.ahead.takeWhile Char.isDigit
  let n : Int := if negative then -(Decimal.value digits : Int) else Decimal.value digits
  if digits.isEmpty ∨ n < Decimal.minNumber ∨ Decimal.maxNumber < n then
    .error (between .invalidNumber c stop)
  else .ok (n, stop)

def column (s : ColumnSet) (c : Cursor) : Except SourceError (ColumnRef × Cursor) := do
  let start ← token .missingColumnId c.next
  let (id, stop) ← identifier .invalidColumnId start
  let ref ← match ColumnRef.flag? id with
    | some flag => Except.ok flag
    | none =>
        match s.find? id with
        | none => .error (between .unknownColumn start stop)
        | some i =>
            if (s.operandType? (.declared i)).isSome then .ok (.declared i)
            else .error (between .genericColumn start stop)
  let bracket := stop.skipTrivia
  if bracket.ahead.head? = some '>' then .ok (ref, bracket.next)
  else .error (point .missingColumnIdEnd bracket)

def keyword (c : Cursor) : Except SourceError (Operand × Cursor) := do
  let (name, stop) ← identifier .invalidStateVarOrBool c
  match Operand.ofKeyword? name with
  | some o => .ok (o, stop)
  | none => .error (between .unknownStateVar c stop)

def operand (s : ColumnSet) (c : Cursor) : Except SourceError (Operand × Cursor) :=
  match c.ahead.head? with
  | some '<' => (column s c).map fun (r, d) => (.column r, d)
  | some '"' => (Quoted.decodeInSource c).map fun (t, d) => (.text t, d)
  | some x =>
      if x.isDigit || x == '+' || x == '-' then (number c).map fun (n, d) => (.number n, d)
      else keyword c
  | none => keyword c

structure Located where
  param : Param
  start : Cursor
  stop : Cursor
  deriving DecidableEq, Repr

def param (s : ColumnSet) (written : Written) (start : Cursor) :
    Except SourceError (Located × Cursor) := do
  let (left, stop) ← operand s start
  let d ← token .missingParenEnd stop
  match Operator.atStart? d.ahead with
  | none => return (⟨.operand left, start, stop⟩, d)
  | some op =>
      let d ← token .missingParenEnd (d.advance op.name.length)
      if d.ahead.head? = some ')' ∨ d.ahead.head? = some ',' then
        .error (here .rightOperandExpected d)
      let (right, stop) ← operand s d
      match checkComparison s left op right written with
      | .error fault => .error (between fault start stop)
      | .ok () =>
          let d ← token .missingParenEnd stop
          match Operator.atStart? d.ahead with
          | some op => .error (between .unsupportedExpression d (d.advance op.name.length))
          | none => return (⟨.comparison left op right, start, stop⟩, d)

def params (s : ColumnSet) (written : Written) :
    Nat → Bool → Cursor → Except SourceError (List Located × Cursor)
  | 0, _, c => .error (point .missingParenEnd c)
  | n + 1, afterComma, c => do
      let d ← token .missingParenEnd c
      if d.ahead.head? = some ',' then .error (here .parameterExpected d)
      else if d.ahead.head? = some ')' then
        if afterComma then .error (here .parameterExpected d) else .ok ([], d.next)
      else do
        let (p, e) ← param s written d
        if e.ahead.head? = some ',' then
          (params s written n true e.next).map fun (ps, f) => (p :: ps, f)
        else if e.ahead.head? = some ')' then
          (params s written n false e).map fun (ps, f) => (p :: ps, f)
        else .error (here .unexpectedSymbolOrOperator e)

def call (s : ColumnSet) (size : Nat) (written : Written) (start : Cursor) :
    Except SourceError ((Call × Written) × Cursor) := do
  let (name, stop) ← identifier .invalidFunctionName start
  let some function := RuleFunction.ofName? name
    | .error (between .unknownFunction start stop)
  let paren := stop.skipTrivia
  if paren.ahead.head? ≠ some '(' then .error (between .missingFunctionParams start stop)
  let (located, d) ← params s written size false paren.next
  let call : Call := ⟨function, located.map (·.param)⟩
  match call.check s written with
  | .ok written => return ((call, written), d)
  | .error fault =>
      match fault.param.bind (located[·]?) with
      | some p => .error (between fault.fault p.start p.stop)
      | none => .error (between fault.fault start d)

/-- The calls up to the semicolon of their rule. Each takes a character, so that the length of the
source bounds their number. -/
def calls (s : ColumnSet) (size : Nat) :
    Nat → Bool → Written → Cursor → Except SourceError (List Call × Cursor)
  | 0, _, _, c => .error (point .missingRuleEnd c)
  | n + 1, afterComma, written, c => do
      let d ← token .missingRuleEnd c
      if d.ahead.head? = some ';' then
        if afterComma then .error (here .functionExpected d) else .ok ([], d.next)
      else do
        let ((first, written), e) ← call s size written d
        let e ← token .missingRuleEnd e
        if e.ahead.head? = some ',' then
          (calls s size n true written e.next).map fun (cs, f) => (first :: cs, f)
        else if e.ahead.head? = some ';' then
          (calls s size n false written e).map fun (cs, f) => (first :: cs, f)
        else .error (here .unexpectedSymbol e)

def rules (s : ColumnSet) (size : Nat) : Nat → Cursor → Except SourceError (List Rule)
  | 0, c => .error (point .unexpectedSymbol c)
  | n + 1, c =>
      let d := c.skipTrivia
      if d.ahead.isEmpty then .ok []
      else if d.ahead.head? = some '*' then do
        let (cs, e) ← calls s size size false (Written.nothing s) d.next
        return ⟨cs⟩ :: (← rules s size n e)
      else .error (here .unexpectedSymbol d)

end RuleSet.Source

namespace RuleSet

def compile (source : Text) (columns : ColumnSet) : Except SourceError RuleSet := do
  let start := Cursor.ofText source
  let size := source.length + 1
  match ← Source.rules columns size size start with
  | [] => .error (.point .emptyRuleSet start.toEnd)
  | rules => .ok ⟨rules, columns⟩

end RuleSet

end ListingRules
