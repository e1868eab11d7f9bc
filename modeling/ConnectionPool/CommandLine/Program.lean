import ConnectionPool.CommandLine.Arguments
import ConnectionPool.CommandLine.Folder
import ConnectionPool.CommandLine.LogFilter
import ConnectionPool.Settings.Load
import ConnectionPool.Workload

/-!
# The program

The program writes a sample configuration, or loads a configuration and runs the workload with it.
What it prints and how it exits is a function of its arguments, of what the one file that it reads
or writes comes to, and of its surroundings: the verdict on the log filter, how the sending of the
workload is spread over time, and the order in which the registry hands its destinations out. The
reading and the writing are left to the caller.

The log lines of a run go to the same stream as its output. They are no part of it here.
-/

set_option autoImplicit false

namespace ConnectionPool.CommandLine

/-- What the program leaves behind. -/
structure Outcome where
  code : Nat
  /-- What the program prints itself, without log lines. -/
  output : String := ""
  errors : String := ""
deriving DecidableEq, Repr

def versionText : String := "destpool 0.9.0\n"

def helpText : String :=
  "Drive a simulated workload through per-destination connection pools\n\n" ++
  "Usage: destpool [OPTIONS]\n\n" ++
  "Options:\n" ++
  "  -c, --config <FILE>                Configuration file path\n" ++
  "      --generate-config <FILE>       Generate example configuration file\n" ++
  "      --log-level <LOG_LEVEL>        " ++
  "Log level (trace, debug, info, warn, error); overrides config\n" ++
  "      --requests <REQUESTS>          Number of requests to send [default: 200]\n" ++
  "      --destinations <DESTINATIONS>  " ++
  "Number of distinct destinations to spread requests over [default: 2]\n" ++
  "      --abort-every <N>              Abort every Nth request right after queueing it\n" ++
  "      --timeout-secs <TIMEOUT_SECS>  " ++
  "Seconds to wait for outstanding exchanges [default: 30]\n" ++
  "  -h, --help                         Print help\n" ++
  "  -V, --version                      Print version\n"

def usageText : String :=
  "error: invalid arguments\n\nUsage: destpool [OPTIONS]\n\nFor more information, try '--help'.\n"

/-- The text indented by four blanks, line by line. -/
def indented (s : String) : String := "    " ++ "\n    ".intercalate (s.splitOn "\n")

/-- The program ends with an error. -/
def failed (e : PoolError) : Outcome := { code := 1, errors := s!"Error: {e.message}\n" }

/-- The program ends with an error that kept it from doing something. -/
def failedWhile (doing : String) (e : PoolError) : Outcome :=
  { code := 1, errors := s!"Error: {doing}\n\nCaused by:\n{indented e.message}\n" }

/-- Writing the sample configuration has come to an end. -/
def generated (path : String) (written : Except FileError Unit) : Outcome :=
  let before := s!"Generating example configuration file: {Text.quotedPath path}\n"
  match written with
  | .error e => { failed (.configuration (.unwritable e)) with output := before }
  | .ok () =>
      { code := 0
        output := before ++ "Example configuration file created successfully!\n" ++
          s!"Edit the file and run: destpool --config {Text.quotedPath path}\n" }

/-- The workload that the options ask for. -/
def Options.workload (o : Options) : Workload :=
  let d : Workload := {}
  { requests := o.requests.getD d.requests
    destinations := o.destinations.getD d.destinations
    abortEvery := o.abortEvery
    timeoutSeconds := o.timeoutSeconds.getD d.timeoutSeconds }

/-- What the outcome of a run depends on besides its arguments and its configuration. -/
structure Surroundings where
  /-- The verdict on a log filter. -/
  filter : String → Except LogFilter.Fault Unit := LogFilter.check
  /-- What happens while the workload is sent. -/
  schedule : Workload.Schedule := .atOnce
  /-- The order in which a registry hands out its destinations. -/
  order : List (Address × DestinationId) → List (Address × DestinationId)
  order_perm : ∀ registry, (order registry).Perm registry

/-- Nothing happens while the workload is sent, and destinations are listed as they were made. -/
def Surroundings.plain : Surroundings where
  order := id
  order_perm := List.Perm.refl

/-- Run the workload with settings that are known to be usable. A log filter with a part that begins
or ends inside a character breaks the program off. -/
def simulated (around : Surroundings) (o : Options) (s : Settings) : Outcome :=
  match around.filter (o.logLevel.getD s.logging.level) with
  | .ok () =>
      let e := o.workload.run around.schedule s.limits s.loopback
      { code := 0, output := String.join (Workload.listing around.order e) }
  | .error .malformed => failed (.configuration .unknownLevel)
  | .error .cutCharacter =>
      { code := 101, errors := "A part of the log filter begins or ends inside a character\n" }

/-- Load the configuration from the contents of its file, if there is one, and run the workload. -/
def configured (around : Surroundings) (o : Options) (contents : Option Settings.FileContents) :
    Outcome :=
  match o.config, contents with
  | some path, some contents =>
      match Settings.load contents with
      | .error e => failedWhile s!"loading configuration from {path}" (.configuration e)
      | .ok s => simulated around o s
  | _, _ => simulated around o {}

/-- Run the program in a folder: what it leaves behind, and the folder afterwards. -/
def runIn (f : Folder) (args : List String) (around : Surroundings := .plain) : Outcome × Folder :=
  match Purpose.ofArguments args with
  | .invalid => ({ code := 2, errors := usageText }, f)
  | .help => ({ code := 0, output := helpText }, f)
  | .version => ({ code := 0, output := versionText }, f)
  | .run o =>
      match o.generateConfig with
      | some path =>
          match f.write path Settings.sample.toUTF8 with
          | .error e => (generated path (.error e), f)
          | .ok f => (generated path (.ok ()), f)
      | none => (configured around o (o.config.map f.read), f)

end ConnectionPool.CommandLine
