import RecordStore.Number.Integer
import RecordStore.Query.Plan
import RecordStore.Text.Blank

/-!
# Configuration

What the environment says about the database, the limits of reads and the number of attempts.  Every
variable has a default.  A number that cannot be read, or limits that contradict each other, are
faults; there is no falling back to a default from them.
-/

namespace RecordStore

/-- The configuration of the program. -/
structure Config where
  databaseUrl : String
  maxConnections : Nat
  limits : Limits
  retryAttempts : Nat
deriving DecidableEq

inductive ConfigFault where
  | invalidNumber (name : String) (fault : IntegerFault)
  | defaultPageTooLarge (limits : Limits)

namespace ConfigFault

/-- What went wrong. -/
def headline : ConfigFault → String
  | .invalidNumber name _ => "Invalid " ++ name
  | .defaultPageTooLarge limits =>
    "ZM_DEFAULT_PAGE_SIZE (" ++ toString limits.defaultPageSize ++ ") exceeds ZM_MAX_PAGE_SIZE (" ++
      toString limits.maxPageSize ++ ")"

/-- Why it went wrong, where there is more to say. -/
def causes : ConfigFault → List String
  | .invalidNumber _ fault => [fault.message]
  | .defaultPageTooLarge _ => []

/-- A fault in one line. -/
def message (fault : ConfigFault) : String := ": ".intercalate (fault.headline :: fault.causes)

end ConfigFault

namespace Config

/-- The values of variables, by name. -/
abbrev Environment := String → Option String

def readNumber (range : IntegerRange) (name : String) (text : List Char) :
    Except ConfigFault Nat :=
  match range.read text with
  | .ok n => .ok n.toNat
  | .error fault => .error (.invalidNumber name fault)

/-- The number of a variable, white space around it left out, or a default. -/
def numberOr (environment : Environment) (range : IntegerRange) (name : String)
    (otherwise : Nat) : Except ConfigFault Nat :=
  match environment name with
  | none => .ok otherwise
  | some text => readNumber range name (trimText text.toList)

/-- The address of a database; a bare path is one of a file. -/
def addressOf (raw : String) : String :=
  if "sqlite:".toList.isPrefixOf raw.toList then raw else "sqlite://" ++ raw

/-- The limits that an environment sets. -/
def readLimits (environment : Environment) : Except ConfigFault Limits := do
  let standard : Limits := default
  let number := numberOr environment .unsigned64
  let limits : Limits :=
    ⟨← number "ZM_DEFAULT_PAGE_SIZE" standard.defaultPageSize,
      ← number "ZM_MAX_PAGE_SIZE" standard.maxPageSize,
      ← number "ZM_MAX_SKIP" standard.maxSkip,
      ← number "ZM_MAX_FILTER_DEPTH" standard.maxFilterDepth⟩
  if limits.maxPageSize < limits.defaultPageSize then throw (.defaultPageTooLarge limits)
  return limits

def read (environment : Environment) : Except ConfigFault Config := do
  -- Faults come in the order in which the variables are read here.
  let database := (environment "DATABASE_PATH").or (environment "DATABASE_URL")
  let maxConnections ←
    readNumber .unsigned32 "DATABASE_MAX_CONNECTIONS"
      ((environment "DATABASE_MAX_CONNECTIONS").getD "10").toList
  let limits ← readLimits environment
  let retryAttempts ← numberOr environment .unsigned32 "ZM_RETRY_ATTEMPTS" 3
  return ⟨addressOf (database.getD "./data/zoneminder.db"), maxConnections, limits, retryAttempts⟩

end Config

end RecordStore
