import RecordStore.Request.Shape
import RecordStore.Schema.Declaration

/-!
# Errors

Three layers of failure: a request that the rules reject before any store is asked
(`ValidationError`), a store that cannot do what it is asked (`StoreError`), and what the sender of a
request gets to see (`RequestError`).  Every error says its cause; `message` words it, and `kind`
names it.
-/

namespace RecordStore

/-! ## Rejected requests -/

inductive FilterFault where
  | expectedObject
  | unknownField
  | tooDeep (maxDepth : Nat)
  | expectedMembers (found : String)
  | unknownOperator
  | unsupportedKind (kind : FieldKind)
  | expectedMode
  | modeWithoutPattern
  | fieldNotGrouped
deriving DecidableEq

def unsupportedMessage (kind : FieldKind) : String := "not supported on " ++ kind.name ++ " fields"

def FilterFault.message : FilterFault → String
  | .expectedObject => "expected an object"
  | .unknownField => "unknown field"
  | .tooDeep maxDepth => "nesting deeper than " ++ toString maxDepth
  | .expectedMembers found => "expected an object or a list, got " ++ found
  | .unknownOperator => "unknown operator"
  | .unsupportedKind kind => unsupportedMessage kind
  | .expectedMode => "expected \"default\" or \"insensitive\""
  | .modeWithoutPattern => "requires contains, startsWith or endsWith"
  | .fieldNotGrouped => "field is not in by; use an aggregate"

inductive AddressFault where
  | expectedObject (found : String)
  | nullField (field : String)
  | noUniqueKey (keys : List (List String)) (found : List String)
deriving DecidableEq

/-- The fields of a key between brackets. -/
def bracketed (key : List String) : String := "(" ++ ", ".intercalate key ++ ")"

def AddressFault.message : AddressFault → String
  | .expectedObject found => "expected an object, got " ++ found
  | .nullField field => field ++ " is null"
  | .noUniqueKey keys found =>
    "expected one of " ++ " or ".intercalate (keys.map bracketed) ++ ", got " ++ bracketed found

inductive PaginationFault where
  | negativeSkip (skip : Int)
  | skipTooLarge (skip : Int) (maximum : Nat)
  | emptyPageWithCursor
  | takeTooLarge (take : Int) (maximum : Nat)
  | unorderedGroups
  | negativeGroupSkip
  | negativeGroupTake
deriving DecidableEq

def PaginationFault.message : PaginationFault → String
  | .negativeSkip skip => "skip must not be negative (got " ++ toString skip ++ ")"
  | .skipTooLarge skip maximum =>
    "skip " ++ toString skip ++ " exceeds the maximum of " ++ toString maximum
  | .emptyPageWithCursor => "take must not be 0 together with a cursor"
  | .takeTooLarge take maximum =>
    "take " ++ toString take ++ " exceeds the maximum page size of " ++ toString maximum
  | .unorderedGroups => "groupBy take/skip require an orderBy over the by fields"
  | .negativeGroupSkip => "skip must not be negative"
  | .negativeGroupTake => "groupBy does not support negative take"

inductive FieldOperationFault where
  | notOneOperator
  | unknownOperator
  | unsupportedKind (kind : FieldKind)
  | divisionByZero
deriving DecidableEq

def FieldOperationFault.message : FieldOperationFault → String
  | .notOneOperator => "expected exactly one operator"
  | .unknownOperator => "unknown operator"
  | .unsupportedKind kind => unsupportedMessage kind
  | .divisionByZero => "division by zero"

inductive OrderFault where
  | expectedObject
  | unknownField
  | expectedDirection (found : String)
  | listedTwice
  | notGrouped
deriving DecidableEq

def OrderFault.message : OrderFault → String
  | .expectedObject => "expected an object"
  | .unknownField => "unknown field"
  | .expectedDirection found => "expected \"asc\" or \"desc\", got " ++ found
  | .listedTwice => "listed twice"
  | .notGrouped => "groupBy can only order by its by fields"

inductive AggregateFault where
  | unsupportedKind (kind : FieldKind)
  | unknownField
  | expectedFlag
  | expectedFlags
deriving DecidableEq

def AggregateFault.message : AggregateFault → String
  | .unsupportedKind kind => unsupportedMessage kind
  | .unknownField => "unknown field"
  | .expectedFlag => "expected true or false"
  | .expectedFlags => "expected an object of field flags"

/-- What is wrong with the arguments of an operation as a whole. -/
inductive ArgumentsFault where
  | unknownOperation (name : String)
  | misshapen (operation : String) (fault : ShapeFault)
  | expectedObject (name found : String)
  | noGroupFields
deriving DecidableEq

def ArgumentsFault.message : ArgumentsFault → String
  | .unknownOperation name => "unknown operation '" ++ name ++ "'"
  | .misshapen operation fault => operation ++ " arguments: " ++ fault.message
  | .expectedObject name found => name ++ " must be an object, got " ++ found
  | .noGroupFields => "groupBy requires at least one by field"

/-- Why a request is rejected before any store is asked. -/
inductive ValidationError where
  | invalidFilter (field operator : String) (fault : FilterFault)
  | typeMismatch (field : String) (fault : Mismatch)
  | missingField (field : String)
  | incompleteAddress (entity : String) (fault : AddressFault)
  | invalidPagination (fault : PaginationFault)
  | unknownField (entity field : String)
  | emptyUpdate (entity : String)
  | invalidFieldOperation (field operation : String) (fault : FieldOperationFault)
  | invalidOrder (field : String) (fault : OrderFault)
  | invalidAggregate (selector field : String) (fault : AggregateFault)
  | invalidArguments (fault : ArgumentsFault)
deriving DecidableEq

namespace ValidationError

def kind : ValidationError → String
  | .invalidFilter .. => "InvalidFilter"
  | .typeMismatch .. => "TypeMismatch"
  | .missingField _ => "MissingRequiredField"
  | .incompleteAddress .. => "IdentityIncomplete"
  | .invalidPagination _ => "InvalidPagination"
  | .unknownField .. => "UnknownField"
  | .emptyUpdate _ => "EmptyUpdate"
  | .invalidFieldOperation .. => "InvalidFieldOperation"
  | .invalidOrder .. => "InvalidOrderBy"
  | .invalidAggregate .. => "InvalidAggregate"
  | .invalidArguments _ => "InvalidArguments"

def message : ValidationError → String
  | .invalidFilter field operator fault =>
    "Invalid filter on " ++ field ++ " (" ++ operator ++ "): " ++ fault.message
  | .typeMismatch field fault =>
    "Type mismatch for " ++ field ++ ": expected " ++ fault.expected ++ ", got " ++ fault.found
  | .missingField field => "Required field missing: " ++ field
  | .incompleteAddress entity fault =>
    "Incomplete identity for " ++ entity ++ ": " ++ fault.message
  | .invalidPagination fault => "Invalid pagination: " ++ fault.message
  | .unknownField entity field => "Unknown field " ++ field ++ " on " ++ entity
  | .emptyUpdate entity => "Update on " ++ entity ++ " changes no fields"
  | .invalidFieldOperation field operation fault =>
    "Invalid " ++ operation ++ " on " ++ field ++ ": " ++ fault.message
  | .invalidOrder field fault => "Invalid orderBy on " ++ field ++ ": " ++ fault.message
  | .invalidAggregate selector field fault =>
    "Invalid aggregate " ++ selector ++ " on " ++ field ++ ": " ++ fault.message
  | .invalidArguments fault => "Invalid arguments: " ++ fault.message

end ValidationError

/-! ## Failing stores -/

inductive QueryFault where
  /-- A relative update has no result. -/
  | arithmetic (operation field operand : String)
  /-- A numbered field has no next number. -/
  | sequenceExhausted (field : String)
  | sumOverflow (field : String)
  | averageOverflow (field : String)
  /-- What is stored in a column is no value of its field. -/
  | column (field reason : String)
  /-- The engine under the store refuses a statement. -/
  | engine (reason : String)
deriving DecidableEq

def QueryFault.message : QueryFault → String
  | .arithmetic operation field operand =>
    operation ++ " of " ++ field ++ " by " ++ operand ++ " failed (overflow or invalid operand)"
  | .sequenceExhausted field => "sequence " ++ field ++ " exhausted"
  | .sumOverflow field => "_sum of " ++ field ++ " overflowed"
  | .averageOverflow field => "_avg of " ++ field ++ " overflowed"
  | .column field reason => "column " ++ field ++ ": " ++ reason
  | .engine reason => reason

/-- Why a store does not do what it is asked. -/
inductive StoreError where
  | uniqueViolation (key : List String)
  | notFound (entity : String)
  | unavailable (reason : String)
  | query (fault : QueryFault)
deriving DecidableEq

namespace StoreError

def kind : StoreError → String
  | .uniqueViolation _ => "UniqueConstraintViolation"
  | .notFound _ => "RecordNotFound"
  | .unavailable _ => "BackendUnavailable"
  | .query _ => "BackendQuery"

def message : StoreError → String
  | .uniqueViolation key => "Unique constraint violated on " ++ ",".intercalate key
  | .notFound entity => "Record not found in " ++ entity
  | .unavailable reason => "Backend unavailable: " ++ reason
  | .query fault => "Backend query failed: " ++ fault.message

end StoreError

/-! ## Failing requests -/

/-- The phases of a request. -/
inductive Phase where
  | received
  | validated
  | dispatched
  | completed
  | failed
deriving DecidableEq, Inhabited

def Phase.name : Phase → String
  | .received => "Received"
  | .validated => "Validated"
  | .dispatched => "Dispatched"
  | .completed => "Completed"
  | .failed => "Failed"

/-- A fault of the library or its configuration, and not of a request. -/
inductive InternalFault where
  | schema (fault : SchemaError)
  | illegalTransition (current next : Phase)
deriving DecidableEq

def InternalFault.message : InternalFault → String
  | .schema fault => fault.message
  | .illegalTransition current next =>
    "illegal phase transition " ++ current.name ++ " -> " ++ next.name

inductive RequestError where
  | validation (error : ValidationError)
  | store (error : StoreError)
  | unknownEntity (entity : String)
  | cancelled
  | internal (fault : InternalFault)
deriving DecidableEq

namespace RequestError

def kind : RequestError → String
  | .validation error => error.kind
  | .store error => error.kind
  | .unknownEntity _ => "UnknownEntity"
  | .cancelled => "Cancelled"
  | .internal _ => "Internal"

def message : RequestError → String
  | .validation error => error.message
  | .store error => error.message
  | .unknownEntity entity => "Unknown entity: " ++ entity
  | .cancelled => "Operation cancelled before dispatch"
  | .internal fault => "Internal error: " ++ fault.message

/-- Only a store that is not available is worth another try. -/
def isRetryable : RequestError → Bool
  | .store (.unavailable _) => true
  | _ => false

/-- A fault of a schema as the sender of a request sees it. -/
def ofSchema : SchemaError → RequestError
  | .notFound entity => .unknownEntity entity
  | fault => .internal (.schema fault)

end RequestError

end RecordStore
