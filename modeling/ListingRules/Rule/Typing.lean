import ListingRules.Rule.Basic
import ListingRules.SourceError

namespace ListingRules

namespace ColumnSet

def operandType? (s : ColumnSet) : ColumnRef → Option OperandType
  | .declared i => (s.get? i).bind (·.kind.operandType?)
  | _ => some .boolean

end ColumnSet

namespace Operand

def type? (s : ColumnSet) : Operand → Option OperandType
  | column c => s.operandType? c
  | bool _ => some .boolean
  | text _ => some .text
  | number _ => some .number
  | state v => some v.operandType

end Operand

structure Parts where
  day : Bool := false
  month : Bool := false
  year : Bool := false
  value : Bool := false
  deriving DecidableEq, Repr

namespace Parts

def union (a b : Parts) : Parts :=
  ⟨a.day || b.day, a.month || b.month, a.year || b.year, a.value || b.value⟩

def whole : OperandType → Parts
  | .date => { day := true, month := true, year := true }
  | _ => { value := true }

def complete (p : Parts) : OperandType → Bool
  | .date => p.day && p.month && p.year
  | _ => p.day || p.month || p.year || p.value

end Parts

abbrev Written := List Parts

namespace Written

def nothing (s : ColumnSet) : Written :=
  s.columns.map fun _ => {}

def add (w : Written) (p : Parts) : ColumnRef → Written
  | .declared i => w.modify i (·.union p)
  | _ => w

def readable (w : Written) (s : ColumnSet) : ColumnRef → Bool
  | .declared i => (w[i]?.getD {}).complete ((s.operandType? (.declared i)).getD .text)
  | _ => true

end Written

structure TypeFault where
  fault : SourceFault
  param : Option Nat := none
  deriving DecidableEq, Repr

structure Effect where
  reads : List (Nat × ColumnRef) := []
  writes : Option (ColumnRef × Parts) := none
  deriving DecidableEq, Repr

namespace Param

def column? (s : ColumnSet) (t : OperandType) : Param → Option ColumnRef
  | operand (.column c) => if s.operandType? c = some t then some c else none
  | _ => none

def isValue (t : OperandType) : Param → Bool
  | operand (.bool _) => t == .boolean
  | operand (.text _) => t == .text
  | operand (.number _) => t == .number
  | operand (.state v) => t == v.operandType
  | operand (.column _) => false
  | comparison .. => t == .boolean

end Param

def isShortMonthList (names : Text) : Bool :=
  let bytes := names.flatMap String.utf8EncodeChar
  bytes.length == 47 &&
    (List.range 11).all fun i => decide ((bytes[4 * i + 3]?.getD 0) ≤ 0x20)

def isLongMonthList (names : Text) : Bool :=
  let list := names.splitOn ' '
  list.length == 12 && list.all (!·.isEmpty)

namespace Call

def monthList (check : Text → Bool) (fault : SourceFault) : Param → Except TypeFault Unit
  | .operand (.text names) => if check names then .ok () else .error ⟨fault, some 1⟩
  | _ => .error ⟨.badParameters, none⟩

def writing (s : ColumnSet) (t : OperandType) (parts : Parts) (p : Param) : Option Effect :=
  (p.column? s t).map fun c => { writes := some (c, parts) }

def reading (s : ColumnSet) (t : OperandType) (p : Param) : Option Effect :=
  (p.column? s t).map fun c => { reads := [(0, c)] }

def harmless (condition : Bool) : Option Effect :=
  if condition then some {} else none

def assigning (s : ColumnSet) (target value : Param) : Option Effect :=
  [OperandType.boolean, .text, .number, .date, .time].findSome? fun t => do
    let c ← target.column? s t
    match value.column? s t with
    | some d => some { reads := [(1, d)], writes := some (c, Parts.whole t) }
    | none =>
        if value.isValue t then some { writes := some (c, Parts.whole t) } else none

def effect? (s : ColumnSet) (call : Call) : Option Effect :=
  match call.function, call.params with
  | .skipWhiteSpaces, [] | .skipToNumber, [] | .whiteSpacesAndLineEnds, [] => some {}
  | .whiteSpaces, [] => some {}
  | .whiteSpaces, [n] | .back, [n] => harmless (n.isValue .number)
  | .restOfLine, [] | .word, [] => some {}
  | .restOfLine, [c] | .word, [c] | .unixDevice, [c] => writing s .text (.whole .text) c
  | .number, [c] | .positiveNumber, [c] => writing s .number (.whole .number) c
  | .numberWithSeparators, [c, separators] =>
      if separators.isValue .text then writing s .number (.whole .number) c else none
  | .month3, [c] | .monthTxt, [c] | .month, [c] => writing s .date { month := true } c
  | .month3, [c, names] | .monthTxt, [c, names] =>
      if names.isValue .text then writing s .date { month := true } c else none
  | .day, [c] => writing s .date { day := true } c
  | .year, [c] => writing s .date { year := true } c
  | .time, [c] => writing s .time (.whole .time) c
  | .yearOrTime, [date, time] =>
      if (time.column? s .time).isSome then writing s .date { year := true } date else none
  | .all, [n] => harmless (n.isValue .number)
  | .all, [c, n] => if n.isValue .number then writing s .text (.whole .text) c else none
  | .allTo, [t] => harmless (t.isValue .text)
  | .allTo, [c, t] | .allUpTo, [c, t] =>
      if t.isValue .text then writing s .text (.whole .text) c else none
  | .unixLink, [flag, name, link] =>
      if flag = .operand (.column .isDir) ∧
          name = .operand (.column (.declared s.nameIndex)) ∧ (link.column? s .text).isSome
      then writing s .text (.whole .text) name else none
  | .require, [p] => if p.isValue .boolean then some {} else reading s .boolean p
  | .assign, [target, value] => assigning s target value
  | .cutWhiteSpacesEnd, [c] | .cutWhiteSpacesStart, [c] | .cutWhiteSpaces, [c] =>
      reading s .text c
  | .addStringToColumn, [c, t] => do
      let c ← c.column? s .text
      match t.column? s .text with
      | some d => some { reads := [(0, c), (1, d)] }
      | none => if t.isValue .text then some { reads := [(0, c)] } else none
  | .cutEndOfString, [c, n] => if n.isValue .number then reading s .text c else none
  | _, _ => none

def checkMonthList (call : Call) : Except TypeFault Unit :=
  match call.function, call.params with
  | .month3, [_, names] => monthList isShortMonthList .badMonth3List names
  | .monthTxt, [_, names] => monthList isLongMonthList .badMonthTxtList names
  | _, _ => .ok ()

def check (s : ColumnSet) (call : Call) (written : Written) : Except TypeFault Written := do
  let some effect := call.effect? s | .error ⟨.badParameters, none⟩
  call.checkMonthList
  match effect.reads.find? fun (_, c) => !written.readable s c with
  | some (i, _) => .error ⟨.badColumnUse, some i⟩
  | none =>
      match effect.writes with
      | some (c, parts) => .ok (written.add parts c)
      | none => .ok written

end Call

def checkComparison (s : ColumnSet) (left : Operand) (op : Operator) (right : Operand)
    (written : Written) : Except SourceFault Unit :=
  let readable : Operand → Bool
    | .column c => written.readable s c
    | _ => true
  match left.type? s, right.type? s with
  | some l, some r =>
      if l ≠ r ∨ op.isTextual = true ∧ l ≠ .text then .error .operandTypeMismatch
      else if readable left && readable right then .ok ()
      else .error .badColumnUse
  | _, _ => .error .operandTypeMismatch

end ListingRules
