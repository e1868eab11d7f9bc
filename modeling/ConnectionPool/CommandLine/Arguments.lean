/-!
# Arguments of the command line

Options have a long name, some a short one, and take at most one value each, in the same argument
after an equals sign or in the next argument. Arguments are read from the first to the last, and the
first that cannot be read, or that asks for help or for the version, decides. Nothing but options is
taken, and no option may be given twice.
-/

set_option autoImplicit false

namespace ConnectionPool.CommandLine

/-- What the options set. -/
structure Options where
  config : Option String := none
  generateConfig : Option String := none
  logLevel : Option String := none
  requests : Option Nat := none
  destinations : Option Nat := none
  abortEvery : Option Nat := none
  timeoutSeconds : Option Nat := none
deriving DecidableEq, Repr

/-- Options that take a value. -/
inductive OptionName where
  | config
  | generateConfig
  | logLevel
  | requests
  | destinations
  | abortEvery
  | timeoutSeconds
deriving DecidableEq, Repr

/-- What a command line asks for. -/
inductive Purpose where
  | run (o : Options)
  | help
  | version
  | invalid
deriving DecidableEq, Repr

/-- What a long name stands for. -/
inductive LongName where
  | takesValue (n : OptionName)
  | help
  | version
deriving DecidableEq, Repr

def longName? (s : String) : Option LongName :=
  match s with
  | "config" => some (.takesValue .config)
  | "generate-config" => some (.takesValue .generateConfig)
  | "log-level" => some (.takesValue .logLevel)
  | "requests" => some (.takesValue .requests)
  | "destinations" => some (.takesValue .destinations)
  | "abort-every" => some (.takesValue .abortEvery)
  | "timeout-secs" => some (.takesValue .timeoutSeconds)
  | "help" => some .help
  | "version" => some .version
  | _ => none

/-- A number of at most 64 bits: digits, perhaps after a plus sign. -/
def number? (s : String) : Option Nat :=
  let ds := match s.toList with
    | '+' :: rest => rest
    | cs => cs
  if ds.isEmpty || !ds.all Char.isDigit then none
  else
    let n := ds.foldl (fun acc d => 10 * acc + (d.toNat - '0'.toNat)) 0
    if n ≤ 18446744073709551615 then some n else none

/-- A file name is not empty. -/
def path? (s : String) : Option String := if s.isEmpty then none else some s

/-- Set one option, unless it is set already or the value does not fit. -/
def Options.set? (o : Options) (n : OptionName) (v : String) : Option Options :=
  match n with
  | .config => if o.config.isSome then none else (path? v).map fun p => { o with config := some p }
  | .generateConfig =>
      if o.generateConfig.isSome then none
      else (path? v).map fun p => { o with generateConfig := some p }
  | .logLevel => if o.logLevel.isSome then none else some { o with logLevel := some v }
  | .requests =>
      if o.requests.isSome then none else (number? v).map fun k => { o with requests := some k }
  | .destinations =>
      if o.destinations.isSome then none
      else (number? v).map fun k => { o with destinations := some k }
  | .abortEvery =>
      if o.abortEvery.isSome then none else (number? v).map fun k => { o with abortEvery := some k }
  | .timeoutSeconds =>
      if o.timeoutSeconds.isSome then none
      else (number? v).map fun k => { o with timeoutSeconds := some k }

/-- One argument by its form. -/
inductive Form where
  /-- `--name` or `--name=value`. -/
  | long (name : String) (value : Option String)
  /-- `-x`, with what follows the letter. -/
  | short (letter : Char) (rest : List Char)
  /-- `--`, after which nothing is an option. -/
  | terminator
  | plain
deriving DecidableEq, Repr

def Form.of (s : String) : Form :=
  match s.toList with
  | ['-', '-'] => .terminator
  | '-' :: '-' :: rest =>
      match rest.span (· != '=') with
      | (name, '=' :: value) => .long (String.ofList name) (some (String.ofList value))
      | (name, _) => .long (String.ofList name) none
  | '-' :: c :: rest => .short c rest
  | _ => .plain

/-- The value that follows the letter of a short option in the same argument. -/
def attached : List Char → Option String
  | [] => none
  | '=' :: rest => some (String.ofList rest)
  | rest => some (String.ofList rest)

/-- Read arguments, given what earlier ones have set. -/
def readFrom (o : Options) : List String → Purpose
  | [] => .run o
  | a :: rest =>
      /- The option has its value in this argument, or takes the next one if that is no option. -/
      let withValue (n : OptionName) (value : Option String) : Purpose :=
        match value with
        | some v =>
            match o.set? n v with
            | none => .invalid
            | some o => readFrom o rest
        | none =>
            match rest with
            | [] => .invalid
            | v :: rest =>
                -- what looks like an option is not taken for a value
                match Form.of v with
                | .plain =>
                    match o.set? n v with
                    | none => .invalid
                    | some o => readFrom o rest
                | _ => .invalid
      match Form.of a with
      | .long name value =>
          match longName? name, value with
          | some (.takesValue n), value => withValue n value
          | some .help, none => .help
          | some .version, none => .version
          | _, _ => .invalid
      | .short 'c' more => withValue .config (attached more)
      | .short 'h' _ => .help
      | .short 'V' _ => .version
      | .short _ _ => .invalid
      | .terminator => if rest.isEmpty then .run o else .invalid
      | .plain => .invalid

/-- What a command line asks for. -/
def Purpose.ofArguments (args : List String) : Purpose := readFrom {} args

end ConnectionPool.CommandLine
