/-!
# Options

The arguments of the program.  An option's value stands behind it, as the next argument or after an
equals sign; of several values the last counts.  Everything else is ignored.
-/

namespace RecordStore

/-- What the arguments ask for. -/
structure Options where
  /-- The file to read requests from, in place of the standard input. -/
  requestFile? : Option String
  /-- Whether to print the names of the entities, and nothing else. -/
  listEntities : Bool
  /-- The entity to describe, and nothing else. -/
  describe? : Option String
deriving DecidableEq, Inhabited

namespace Options

def none : Options := ⟨.none, false, .none⟩

/-- What stands behind an option and its equals sign. -/
def valueAfter? (option argument : String) : Option String :=
  let start := option.toList ++ ['=']
  if start.isPrefixOf argument.toList then
    some (String.ofList (argument.toList.drop start.length))
  else .none

/-- Reads an argument that takes no value from the next one. -/
def readSingle (options : Options) (argument : String) : Options :=
  if argument = "--entities" then { options with listEntities := true }
  else
    match valueAfter? "--request" argument, valueAfter? "--describe" argument with
    | some path, _ => { options with requestFile? := some path }
    | _, some name => { options with describe? := some name }
    | _, _ => options

/-- Reads arguments behind others. -/
def readFrom (options : Options) : List String → Options
  | [] => options
  | [argument] => options.readSingle argument
  | argument :: value :: rest =>
    if argument = "--request" then readFrom { options with requestFile? := some value } rest
    else if argument = "--describe" then readFrom { options with describe? := some value } rest
    else readFrom (options.readSingle argument) (value :: rest)

def read (arguments : List String) : Options := none.readFrom arguments

end Options

end RecordStore
