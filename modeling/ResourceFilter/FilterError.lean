/-!
Why a filter is refused. Every cause lies in the filter or in its date values, so the same
filter is always refused in the same way.
-/

namespace ResourceFilter

inductive FilterError
  | unsupportedOperator (symbol : String)
  | disallowedField (field : String) (suggestion : Option String)
  | invalidDate (value : String)
  /-- Text that is no sequence of terms; the position counts UTF-8 bytes from the start. -/
  | malformed (position : Nat) (expected found : String)
  | unmappedField (field : String)
  deriving DecidableEq, Repr

namespace FilterError

def message : FilterError → String
  | unsupportedOperator symbol => "filter operator '" ++ symbol ++ "' is not allowed"
  | disallowedField field none => "filter field '" ++ field ++ "' is not allowed"
  | disallowedField field (some name) =>
      "filter field '" ++ field ++ "' is not allowed. Did you mean '" ++ name ++ "'?"
  | invalidDate value => "invalid date '" ++ value ++ "' (expected YYYY, YYYY-MM or YYYY-MM-DD)"
  | malformed position expected found =>
      "malformed filter at position " ++ toString position ++ ": expected " ++ expected ++
        ", found " ++ found
  | unmappedField field => "filter field '" ++ field ++ "' has no column mapping"

def code : FilterError → String
  | unsupportedOperator _ => "UNSUPPORTED_OPERATOR"
  | disallowedField _ _ => "DISALLOWED_FIELD"
  | invalidDate _ => "INVALID_DATE_LITERAL"
  | malformed _ _ _ => "MALFORMED_FILTER_SYNTAX"
  | unmappedField _ => "UNMAPPED_FIELD"

end FilterError

end ResourceFilter
