import ListingRules.Text.Quoted

namespace ListingRules

inductive SourceFault where
  | unexpectedSymbol
  | functionExpected
  | invalidFunctionName
  | unknownFunction
  | missingFunctionParams
  | missingRuleEnd
  | genericColumn
  | unknownColumn
  | rightOperandExpected
  | parameterExpected
  | invalidColumnId
  | missingColumnIdEnd
  | missingColumnId
  | unknownEscape
  | missingStringEnd
  | invalidNumber
  | invalidStateVarOrBool
  | unknownStateVar
  | unsupportedExpression
  | unexpectedSymbolOrOperator
  | missingParenEnd
  | operandTypeMismatch
  | badColumnUse
  | badMonth3List
  | badMonthTxtList
  | badParameters
  | missingStringParam
  | missingRightParen
  | invalidRegex
  | emptyRuleSet
  deriving DecidableEq, Repr

namespace SourceFault

def name : SourceFault → String
  | unexpectedSymbol => "unexpected_symbol"
  | functionExpected => "function_expected"
  | invalidFunctionName => "invalid_function_name"
  | unknownFunction => "unknown_function"
  | missingFunctionParams => "missing_function_params"
  | missingRuleEnd => "missing_rule_end"
  | genericColumn => "generic_column"
  | unknownColumn => "unknown_column"
  | rightOperandExpected => "right_operand_expected"
  | parameterExpected => "parameter_expected"
  | invalidColumnId => "invalid_column_id"
  | missingColumnIdEnd => "missing_column_id_end"
  | missingColumnId => "missing_column_id"
  | unknownEscape => "unknown_escape"
  | missingStringEnd => "missing_string_end"
  | invalidNumber => "invalid_number"
  | invalidStateVarOrBool => "invalid_state_var_or_bool"
  | unknownStateVar => "unknown_state_var"
  | unsupportedExpression => "unsupported_expression"
  | unexpectedSymbolOrOperator => "unexpected_symbol_or_operator"
  | missingParenEnd => "missing_paren_end"
  | operandTypeMismatch => "operand_type_mismatch"
  | badColumnUse => "bad_column_use"
  | badMonth3List => "bad_month3_list"
  | badMonthTxtList => "bad_month_txt_list"
  | badParameters => "bad_parameters"
  | missingStringParam => "missing_string_param"
  | missingRightParen => "missing_right_paren"
  | invalidRegex => "invalid_regex"
  | emptyRuleSet => "empty_rule_set"

def message : SourceFault → String
  | unexpectedSymbol => "unexpected symbol"
  | functionExpected => "function expected after ','"
  | invalidFunctionName => "invalid function name"
  | unknownFunction => "unknown function"
  | missingFunctionParams => "missing function parameters"
  | missingRuleEnd => "rule is not terminated by ';'"
  | genericColumn => "column cannot be used in rules"
  | unknownColumn => "unknown column"
  | rightOperandExpected => "right operand expected"
  | parameterExpected => "parameter expected"
  | invalidColumnId => "invalid column identifier"
  | missingColumnIdEnd => "column identifier is not terminated by '>'"
  | missingColumnId => "missing column identifier"
  | unknownEscape => "unknown escape sequence"
  | missingStringEnd => "string is not terminated"
  | invalidNumber => "invalid number"
  | invalidStateVarOrBool => "invalid state variable or boolean value"
  | unknownStateVar => "unknown state variable"
  | unsupportedExpression => "only one operator per parameter is supported"
  | unexpectedSymbolOrOperator => "unexpected symbol or unknown operator"
  | missingParenEnd => "missing ')'"
  | operandTypeMismatch => "operands have incompatible types"
  | badColumnUse => "column is read before any value was assigned to it"
  | badMonth3List => "month list must be twelve three-letter names separated by spaces"
  | badMonthTxtList => "month list must be twelve names separated by spaces"
  | badParameters => "invalid parameters for this function"
  | missingStringParam => "function expects a string parameter"
  | missingRightParen => "missing ')' closing the parenthesized expression"
  | invalidRegex => "invalid regular expression"
  | emptyRuleSet => "rule source contains no rules"

def help? : SourceFault → Option String
  | unknownEscape => some "valid escape sequences: \\\" \\\\ \\t \\r \\n"
  | unsupportedExpression => some "split the condition into several if() calls"
  | unknownStateVar =>
      some ("known names: true, false, first_nonempty_line, last_nonempty_line, " ++
        "next_char, next_word, rest_of_line")
  | badColumnUse => some "assign the column earlier in the same rule"
  | emptyRuleSet => some "every rule starts with '*' and ends with ';'"
  | badMonth3List => some "example: \"jan feb mar apr may jun jul aug sep oct nov dec\""
  | _ => none

end SourceFault

structure SourceError where
  fault : SourceFault
  offset : Nat
  length : Nat
  detail : Option Text := none
  deriving DecidableEq, Repr

namespace SourceError

def between (fault : SourceFault) (start stop : Cursor) : SourceError :=
  ⟨fault, start.offset, stop.offset - start.offset, none⟩

def here (fault : SourceFault) (place : Cursor) : SourceError :=
  between fault place place.next

def point (fault : SourceFault) (place : Cursor) : SourceError :=
  between fault place place

def message (e : SourceError) : Text :=
  e.fault.message.toList ++ " at offset ".toList ++ Decimal.digits e.offset ++
    match e.detail with
    | none => []
    | some d => ':' :: ' ' :: d

def label (e : SourceError) : Text :=
  e.detail.getD e.fault.name.toList

end SourceError

def Quoted.decodeInSource (quote : Cursor) : Except SourceError (Text × Cursor) :=
  match decode quote with
  | .ok r => .ok r
  | .error (.unclosed stop) => .error (.between .missingStringEnd quote stop)
  | .error (.unknownEscape c) => .error (.between .unknownEscape c c.next.next)

theorem Quoted.decodeInSource_encode (t behind ahead : Text) :
    decodeInSource ⟨behind, encode t ++ ahead⟩ =
      .ok (t, ⟨(encode t).reverse ++ behind, ahead⟩) := by
  rw [decodeInSource, decode_encode]

end ListingRules
