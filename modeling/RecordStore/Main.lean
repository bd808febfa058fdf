import RecordStore.Program.Run
import Std.Time.DateTime.Timestamp

/-!
# The command line

Reads requests line by line and answers each before the next is read.  The tables live as long as
the program does.
-/

namespace RecordStore.CommandLine

/-- The clock at this moment, where it stays while a line is answered. -/
def clockNow : IO Clock := do
  let now ← Std.Time.Timestamp.now
  let nanoseconds := now.toNanosecondsSinceUnixEpoch.val
  return fun _ => Timestamp.ofEpochMicros (nanoseconds / 1000)

partial def serve (server : Server DatabaseStore) (input : IO.FS.Stream) : IO Unit := do
  let line ← input.getLine
  if line.isEmpty then return ()
  let clock ← clockNow
  let mut server := server
  for line in textLines line do
    let (response?, next) := server.handle clock line
    server := next
    if let some response := response? then
      IO.println response
      (← IO.getStdout).flush
  serve server input

def environment : IO Config.Environment := do
  let names := ["DATABASE_PATH", "DATABASE_URL", "DATABASE_MAX_CONNECTIONS", "ZM_DEFAULT_PAGE_SIZE",
    "ZM_MAX_PAGE_SIZE", "ZM_MAX_SKIP", "ZM_MAX_FILTER_DEPTH", "ZM_RETRY_ATTEMPTS"]
  let values ← names.mapM fun name => do return (name, ← IO.getEnv name)
  return fun name => (values.find? fun entry => entry.1 = name).bind (·.2)

def report (failure : Failure) : IO UInt32 := do
  failure.lines.forM fun line => IO.eprintln line
  return 1

/-- What the system says about a file. -/
def faultOf : IO.Error → FileFault
  | .noFileOrDirectory _ code reason => ⟨reason, code.toNat⟩
  | .permissionDenied _ code reason => ⟨reason, code.toNat⟩
  | .inappropriateType _ code reason => ⟨reason, code.toNat⟩
  | .invalidArgument _ code reason => ⟨reason, code.toNat⟩
  | error => ⟨toString error, 0⟩

/-- Answers the lines of a stream, and reports when they cannot be read. -/
def serveAll (server : Server DatabaseStore) (input : IO.FS.Stream) : IO UInt32 := do
  match ← (serve server input).toBaseIO with
  | .error error => report (.cannotRead (faultOf error))
  | .ok () => return 0

def carryOut : Program.Job → IO UInt32
  | .print lines => do
    lines.forM fun line => IO.println line
    return 0
  | .serve server none => do serveAll server (← IO.getStdin)
  | .serve server (some path) => do
    match ← (IO.FS.Handle.mk path .read).toBaseIO with
    | .error error => report (.cannotOpen path (faultOf error))
    | .ok file => serveAll server (IO.FS.Stream.ofHandle file)

end RecordStore.CommandLine

open RecordStore

def main (arguments : List String) : IO UInt32 := do
  match Program.plan arguments (← CommandLine.environment) with
  | .error failure => CommandLine.report failure
  | .ok job => CommandLine.carryOut job
