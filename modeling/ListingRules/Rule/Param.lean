import ListingRules.Column.Kind
import ListingRules.Text.Quoted

namespace ListingRules

inductive ColumnRef where
  | isDir
  | isHidden
  | isLink
  | declared (index : Nat)
  deriving DecidableEq, Repr

namespace ColumnRef

def flag? (id : Text) : Option ColumnRef :=
  if Text.sameAscii id "is_dir".toList then some isDir
  else if Text.sameAscii id "is_hidden".toList then some isHidden
  else if Text.sameAscii id "is_link".toList then some isLink
  else none

def print : ColumnRef → Text
  | isDir => "<is_dir>".toList
  | isHidden => "<is_hidden>".toList
  | isLink => "<is_link>".toList
  | declared i => '<' :: '#' :: Decimal.digits i ++ ['>']

theorem print_declared (i : Nat) : (declared i).print = '<' :: '#' :: Decimal.digits i ++ ['>'] :=
  rfl

end ColumnRef

inductive StateVar where
  | firstNonemptyLine
  | lastNonemptyLine
  | nextChar
  | nextWord
  | restOfLine
  deriving DecidableEq, Repr

namespace StateVar

def all : List StateVar :=
  [firstNonemptyLine, lastNonemptyLine, nextChar, nextWord, restOfLine]

def name : StateVar → String
  | firstNonemptyLine => "first_nonempty_line"
  | lastNonemptyLine => "last_nonempty_line"
  | nextChar => "next_char"
  | nextWord => "next_word"
  | restOfLine => "rest_of_line"

def operandType : StateVar → OperandType
  | firstNonemptyLine | lastNonemptyLine => .boolean
  | nextChar | nextWord | restOfLine => .text

end StateVar

inductive Operand where
  | column (c : ColumnRef)
  | bool (b : Bool)
  | text (t : Text)
  | number (n : Int)
  | state (v : StateVar)
  deriving DecidableEq, Repr

namespace Operand

def ofKeyword? (name : Text) : Option Operand :=
  if Text.sameAscii name "false".toList then some (bool false)
  else if Text.sameAscii name "true".toList then some (bool true)
  else (StateVar.all.find? fun v => Text.sameAscii name v.name.toList).map state

def text? : Operand → Option Text
  | text t => some t
  | _ => none

def printWith (column : ColumnRef → Text) : Operand → Text
  | .column c => column c
  | bool b => (if b then "true" else "false").toList
  | text t => Quoted.encodeVisibly t
  | number n => Decimal.ofInt n
  | state v => v.name.toList

end Operand

inductive Operator where
  | equal
  | notEqual
  | sameText
  | notSameText
  | within
  | notWithin
  | endWith
  | notEndWith
  deriving DecidableEq, Repr

namespace Operator

def name : Operator → String
  | equal => "=="
  | notEqual => "!="
  | sameText => "eq"
  | notSameText => "not_eq"
  | within => "in"
  | notWithin => "not_in"
  | endWith => "end_with"
  | notEndWith => "not_end_with"

def all : List Operator :=
  [equal, notEqual, within, sameText, notSameText, notWithin, endWith, notEndWith]

def isTextual : Operator → Bool
  | equal | notEqual => false
  | _ => true

def atStart? (t : Text) : Option Operator :=
  all.find? fun op => Text.sameAscii (t.take op.name.length) op.name.toList

end Operator

inductive Param where
  | operand (o : Operand)
  | comparison (left : Operand) (op : Operator) (right : Operand)
  deriving DecidableEq, Repr

namespace Param

def operands : Param → List Operand
  | operand o => [o]
  | comparison l _ r => [l, r]

def printWith (column : ColumnRef → Text) : Param → Text
  | operand o => o.printWith column
  | comparison l op r =>
      l.printWith column ++ ' ' :: op.name.toList ++ ' ' :: r.printWith column

end Param

end ListingRules
