import ListingRules.Text.Basic

namespace ListingRules

inductive OperandType where
  | boolean
  | text
  | number
  | date
  | time
  deriving DecidableEq, Repr

namespace OperandType

def name : OperandType → String
  | boolean => "boolean"
  | text => "string"
  | number => "number"
  | date => "date"
  | time => "time"

end OperandType

inductive ColumnKind where
  | name
  | extension
  | size
  | date
  | time
  | fileType
  | text
  | generalDate
  | generalTime
  | number
  deriving DecidableEq, Repr

namespace ColumnKind

def all : List ColumnKind :=
  [name, extension, size, date, time, fileType, text, generalDate, generalTime, number]

def label : ColumnKind → String
  | name => "name"
  | extension => "extension"
  | size => "size"
  | date => "date"
  | time => "time"
  | fileType => "type"
  | text => "text"
  | generalDate => "general_date"
  | generalTime => "general_time"
  | number => "number"

def ofLabel? (t : Text) : Option ColumnKind :=
  all.find? fun k => k.label.toList == t

def ofName? (t : Text) : Option ColumnKind :=
  if Text.sameAscii t "ext".toList then some extension
  else all.find? fun k => Text.sameAscii k.label.toList t

def operandType? : ColumnKind → Option OperandType
  | name | text => some .text
  | size | number => some .number
  | date | generalDate => some .date
  | time | generalTime => some .time
  | extension | fileType => none

def isUnique : ColumnKind → Bool
  | text | generalDate | generalTime | number => false
  | name | extension | size | date | time | fileType => true

end ColumnKind

end ListingRules
