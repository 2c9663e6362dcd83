import ListingRules.Text.Basic

namespace ListingRules

inductive RuleFunction where
  | skipWhiteSpaces
  | whiteSpaces
  | whiteSpacesAndLineEnds
  | restOfLine
  | word
  | number
  | positiveNumber
  | numberWithSeparators
  | month3
  | monthTxt
  | month
  | day
  | year
  | time
  | yearOrTime
  | all
  | allTo
  | allUpTo
  | unixLink
  | unixDevice
  | require
  | assign
  | cutWhiteSpacesEnd
  | cutWhiteSpacesStart
  | cutWhiteSpaces
  | back
  | addStringToColumn
  | cutEndOfString
  | skipToNumber
  deriving DecidableEq, Repr

namespace RuleFunction

def name : RuleFunction → String
  | skipWhiteSpaces => "skip_white_spaces"
  | whiteSpaces => "white_spaces"
  | whiteSpacesAndLineEnds => "white_spaces_and_line_ends"
  | restOfLine => "rest_of_line"
  | word => "word"
  | number => "number"
  | positiveNumber => "positive_number"
  | numberWithSeparators => "number_with_separators"
  | month3 => "month_3"
  | monthTxt => "month_txt"
  | month => "month"
  | day => "day"
  | year => "year"
  | time => "time"
  | yearOrTime => "year_or_time"
  | all => "all"
  | allTo => "all_to"
  | allUpTo => "all_up_to"
  | unixLink => "unix_link"
  | unixDevice => "unix_device"
  | require => "if"
  | assign => "assign"
  | cutWhiteSpacesEnd => "cut_white_spaces_end"
  | cutWhiteSpacesStart => "cut_white_spaces_start"
  | cutWhiteSpaces => "cut_white_spaces"
  | back => "back"
  | addStringToColumn => "add_string_to_column"
  | cutEndOfString => "cut_end_of_string"
  | skipToNumber => "skip_to_number"

def list : List RuleFunction :=
  [skipWhiteSpaces, whiteSpaces, whiteSpacesAndLineEnds, restOfLine, word, number,
   positiveNumber, numberWithSeparators, month3, monthTxt, month, day, year, time, yearOrTime,
   all, allTo, allUpTo, unixLink, unixDevice, require, assign, cutWhiteSpacesEnd,
   cutWhiteSpacesStart, cutWhiteSpaces, back, addStringToColumn, cutEndOfString, skipToNumber]

def ofName? (t : Text) : Option RuleFunction :=
  list.find? fun f => Text.sameAscii f.name.toList t

theorem ofName?_name (f : RuleFunction) : ofName? f.name.toList = some f := by
  cases f <;> decide

end RuleFunction

end ListingRules
