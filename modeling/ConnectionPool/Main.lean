import ConnectionPool.CommandLine.Program

/-!
# The command line

The outer layer: it reads or writes the one file that the program needs, prints what the program
leaves behind, and exits with its code.
-/

set_option autoImplicit false

namespace ConnectionPool.CommandLine

/-- Why the system refused a file. -/
def fileError : IO.Error → FileError
  | .noFileOrDirectory _ _ _ => .notFound
  | .inappropriateType _ _ _ => .isDirectory
  | .permissionDenied _ _ _ => .permissionDenied
  | e => .other (toString e)

/-- Do something with a file and note why it failed, if it did. -/
def attempt {α : Type} (act : IO α) : IO (Except FileError α) := do
  try
    return .ok (← act)
  catch e =>
    return .error (fileError e)

/-- Print what the program leaves behind. -/
def finish (o : Outcome) : IO UInt32 := do
  (← IO.getStdout).putStr o.output
  (← IO.getStderr).putStr o.errors
  return o.code.toUInt32

/-- Run the program on the file system. -/
def run (args : List String) : IO UInt32 :=
  match Purpose.ofArguments args with
  | .invalid => finish { code := 2, errors := usageText }
  | .help => finish { code := 0, output := helpText }
  | .version => finish { code := 0, output := versionText }
  | .run o =>
      match o.generateConfig, o.config with
      | some path, _ => do
          finish (generated path (← attempt (IO.FS.writeFile path Settings.sample)))
      | none, some path => do
          finish (configured .plain o (some (← attempt (IO.FS.readBinFile path))))
      | none, none => finish (configured .plain o none)

end ConnectionPool.CommandLine

def main (args : List String) : IO UInt32 := ConnectionPool.CommandLine.run args
