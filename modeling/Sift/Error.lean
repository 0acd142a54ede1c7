import Sift.Operator

/-!
Why a registry cannot be built or a criterion not be used. An error inside a criterion is wrapped
with the criterion's field and operator; its code and its blame are those of the error at the root.
-/

namespace Sift

inductive Error
  | alreadyInitialized
  | notInitialized
  | requiredFilterMissing (field : String)
  | unsupportedOperator (kind : Kind) (operator : Operator) (legal : List Operator)
  | unreadable (field value : String) (kind : Kind)
  | argument (field reason : String)
  | unresolvedPath (path entity reason : String)
  | noSorts
  | duplicateField (field : String)
  | unknownField (field : String)
  | unknownOperator (name : String)
  | config (reason : String)
  | inCriterion (field : String) (operator : Operator) (source : Error)
  deriving DecidableEq

namespace Error

def operatorNames (ops : List Operator) : String := ", ".intercalate (ops.map Operator.name)

def message : Error → String
  | alreadyInitialized => "Registry has already been initialized"
  | notInitialized => "Registry has no field mappings"
  | requiredFilterMissing field => s!"Required filter '{field}' is missing or empty"
  | unsupportedOperator kind operator legal =>
    s!"Operator {operator.name} is not supported for {kind.name} fields " ++
      s!"(supported: {operatorNames legal})"
  | unreadable field value kind => s!"Cannot parse '{value}' as {kind.name} for field '{field}'"
  | argument field reason => s!"Invalid argument for field '{field}': {reason}"
  | unresolvedPath path entity reason => s!"Cannot resolve path '{path}' on {entity}: {reason}"
  | noSorts => "No sort criteria specified"
  | duplicateField field => s!"Field '{field}' is registered more than once"
  | unknownField field => s!"Unknown field '{field}'"
  | unknownOperator name => s!"Unknown operator '{name}'"
  | config reason => s!"Configuration error: {reason}"
  | inCriterion field operator source =>
    s!"Filter on '{field}' with {operator.name} rejected: {source.message}"

def code : Error → String
  | alreadyInitialized => "AERO_FILTER_ALREADY_INITIALIZED"
  | notInitialized => "AERO_FILTER_NOT_INITIALIZED"
  | requiredFilterMissing _ => "AERO_FILTER_REQUIRED_MISSING"
  | unsupportedOperator .. => "AERO_FILTER_UNSUPPORTED_OPERATOR"
  | unreadable .. => "AERO_FILTER_PARSE_FAILED"
  | argument .. => "AERO_FILTER_INVALID_ARGUMENT"
  | unresolvedPath .. => "AERO_FILTER_PATH_UNRESOLVED"
  | noSorts => "AERO_FILTER_NO_SORTERS"
  | duplicateField _ => "AERO_FILTER_DUPLICATE_FIELD"
  | unknownField _ => "AERO_FILTER_UNKNOWN_FIELD"
  | unknownOperator _ => "AERO_FILTER_UNKNOWN_OPERATOR"
  | config _ => "AERO_FILTER_CONFIG_INVALID"
  | inCriterion _ _ source => source.code

/-- The request is at fault, not the program that registered the fields. -/
def isClientError : Error → Bool
  | requiredFilterMissing _ | unsupportedOperator .. | unreadable .. | argument .. | noSorts
  | unknownField _ | unknownOperator _ => true
  | inCriterion _ _ source => source.isClientError
  | _ => false

def rootCause : Error → Error
  | inCriterion _ _ source => source.rootCause
  | e => e

/-- The error directly inside. -/
def source? : Error → Option Error
  | inCriterion _ _ source => some source
  | _ => none

/-- The errors inside, from the outermost to the root. -/
def sourceChain : Error → List Error
  | inCriterion _ _ source => source :: source.sourceChain
  | _ => []

end Error

/-- The catalog's verdict on an operator for a kind. -/
def Kind.check (k : Kind) (op : Operator) : Except Error Unit :=
  if k.allows op then .ok () else .error (.unsupportedOperator k op k.operators)

/-- The operator of a name; a refusal shows the name without the blanks around it. -/
def Operator.ofName (s : String) : Except Error Operator :=
  match ofName? s with
  | some op => .ok op
  | none => .error (.unknownOperator (Text.trim s))

end Sift
