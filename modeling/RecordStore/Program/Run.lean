import RecordStore.Program.Options
import RecordStore.Program.Server
import RecordStore.Schema.Catalog
import RecordStore.Store.Database
import RecordStore.Text.Lines

/-!
# The program

What the program does with its arguments and its environment: list the entities, describe one, or
answer requests.  `Program.plan` decides which, and `Program.run` carries it out on texts that are
given as a whole.

A failure is reported with what went wrong and why.
-/

namespace RecordStore

/-- What a system says about a file that it does not hand out, and its number for that. -/
structure FileFault where
  reason : String
  code : Nat
deriving DecidableEq

def FileFault.message (fault : FileFault) : String :=
  fault.reason ++ " (os error " ++ toString fault.code ++ ")"

/-- What there is to a file.  A directory can be opened, and reading it is what fails. -/
inductive FileAnswer where
  | text (contents : String)
  | notOpened (fault : FileFault)
  | notRead (fault : FileFault)
deriving DecidableEq

/-- Why the program ends early. -/
structure Failure where
  headline : String
  causes : List String
deriving DecidableEq

namespace Failure

/-- The lines of a cause, set in. -/
def causeLines (cause : String) : List String :=
  (cause.splitOn "\n").map fun line => "    " ++ line

def lines (failure : Failure) : List String :=
  ("Error: " ++ failure.headline).splitOn "\n" ++
    if failure.causes.isEmpty then []
    else ["", "Caused by:"] ++ failure.causes.flatMap causeLines

def cannotDescribe (name : String) (fault : SchemaError) : Failure :=
  ⟨"Cannot describe " ++ name, [fault.message]⟩

def cannotOpen (path : String) (fault : FileFault) : Failure :=
  ⟨"Failed to open " ++ path, [fault.message]⟩

def cannotRead (fault : FileFault) : Failure := ⟨"Failed to read request", [fault.message]⟩

def ofConfig (fault : ConfigFault) : Failure := ⟨fault.headline, fault.causes⟩

/-- A database that allows no connection hands none out. -/
def noConnection : Failure :=
  ⟨"Failed to connect to database",
    [(StoreError.unavailable "pool timed out while waiting for an open connection").message]⟩

def ofRegistry (fault : SchemaError) : Failure := ⟨"Invalid entity table", [fault.message]⟩

end Failure

namespace Program

/-- What there is to do. -/
inductive Job where
  | print (lines : List String)
  /-- Answer the requests of a file, or of the standard input. -/
  | serve (server : Server DatabaseStore) (requestFile? : Option String)

/-- The server of a configuration, with empty tables. -/
def start (registry : Registry) (config : Config) : Except Failure (Server DatabaseStore) :=
  if config.maxConnections = 0 then .error .noConnection
  else .ok (.ofInterface DatabaseStore.interface registry config (fun _ => true) .empty)

def plan (arguments : List String) (environment : Config.Environment) : Except Failure Job := do
  let options := Options.read arguments
  let registry ← Catalog.registry.mapError .ofRegistry
  if options.listEntities then return .print registry.names
  match options.describe? with
  | some name =>
    let entity ← (registry.describe name).mapError (.cannotDescribe name)
    return .print (entity.toJson.pretty.splitOn "\n")
  | none =>
    let config ← (Config.read environment).mapError .ofConfig
    return .serve (← start registry config) options.requestFile?

/-- What the program leaves behind. -/
structure Output where
  status : Nat
  stdout : List String
  stderr : List String
deriving DecidableEq

/-- The lines that a job prints, given the contents of files and the standard input. -/
def Job.lines (job : Job) (files : String → FileAnswer) (stdin : String) (clock : Clock) :
    Except Failure (List String) :=
  match job with
  | .print lines => .ok lines
  | .serve server none => .ok (server.handleAll clock (textLines stdin))
  | .serve server (some path) =>
    match files path with
    | .text requests => .ok (server.handleAll clock (textLines requests))
    | .notOpened fault => .error (.cannotOpen path fault)
    | .notRead fault => .error (.cannotRead fault)

def run (arguments : List String) (environment : Config.Environment)
    (files : String → FileAnswer) (stdin : String) (clock : Clock) : Output :=
  match (plan arguments environment).bind fun job => job.lines files stdin clock with
  | .ok lines => ⟨0, lines, []⟩
  | .error failure => ⟨1, [], failure.lines⟩

end Program

end RecordStore
