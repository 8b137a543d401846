import SearchCriteria.CommandLine.Run

/-! The command line as a program: it hands a run its arguments, its environment and the
files it may read, and prints what comes of it. -/
namespace SearchCriteria
namespace CommandLine

/-- The bytes of a file of the system, which numbers the reason 21 when a path leads to a
folder and 36 when a name in it is too long. -/
def readFile (path : String) : IO (Except ReadFault (List UInt8)) := do
  try
    return .ok (← IO.FS.readBinFile path).toList
  catch e =>
    return .error (match e with
      | .noFileOrDirectory .. => .notFound
      | .permissionDenied .. => .notPermitted
      | .inappropriateType _ code _ => if code == 21 then .isDirectory else .notDirectory
      | .invalidArgument _ code _ => if code == 36 then .nameTooLong else .malformed
      | _ => .malformed)

def readFiles (arguments : List String) : IO Files := do
  let paths := match Options.ofArguments arguments with
    | .ok o => match o.config with
      | some (.value path) => [o.path, path]
      | _ => [o.path]
    | .error _ => []
  let found ← paths.mapM fun path => return (path, ← readFile path)
  return fun path => (found.lookup path).getD (.error .notFound)

end CommandLine
end SearchCriteria

def main (arguments : List String) : IO UInt32 := do
  let environment ← IO.getEnv SearchCriteria.Config.levelVariable
  let files ← SearchCriteria.CommandLine.readFiles arguments
  let (outcome, transcript) := SearchCriteria.CommandLine.runFrom .untouched environment
    (.ofFiles files) arguments
  IO.eprint transcript.stream
  IO.eprint outcome.complaint
  IO.print outcome.output
  return UInt32.ofNat outcome.exitCode
