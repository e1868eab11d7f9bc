import ConnectionPool.Failure

/-!
# Errors of the pool

The errors that a caller gets back at once. Most of them are refusals of a request: it was addressed
to another destination, the queue is full, or the client does not run. Each cause is a constructor;
`PoolError.message` and `ConfigError.message` hold the wording.
-/

set_option autoImplicit false

namespace ConnectionPool

/-- Why a file could not be read or written. -/
inductive FileError where
  | notFound
  | notDirectory
  | isDirectory
  | permissionDenied
  | notText
  | other (text : String)
deriving DecidableEq, Repr

def FileError.message : FileError → String
  | notFound => "No such file or directory (os error 2)"
  | notDirectory => "Not a directory (os error 20)"
  | isDirectory => "Is a directory (os error 21)"
  | permissionDenied => "Permission denied (os error 13)"
  | notText => "stream did not contain valid UTF-8"
  | other text => text

/-- Why a client cannot be configured. -/
inductive ConfigError where
  | noConnections
  | noQueue
  | unknownFormat (format : String)
  | unreadable (cause : FileError)
  | malformed
  | unwritable (cause : FileError)
  | unknownLevel
  | noConnector
  | noExecutor
  | other (text : String)
deriving DecidableEq, Repr

def ConfigError.message : ConfigError → String
  | noConnections => "max_connections_per_address must be at least 1"
  | noQueue => "max_queue_size_per_address must be at least 1"
  | unknownFormat format => s!"Invalid log format: {format}. Must be 'pretty' or 'json'"
  | unreadable cause => "Failed to read config file: " ++ cause.message
  | malformed => "Failed to parse config"
  | unwritable cause => "Failed to write example config: " ++ cause.message
  | unknownLevel => "Invalid log level"
  | noConnector => "HttpClient requires a connector"
  | noExecutor =>
      "No tokio runtime available: there is no reactor running, " ++
        "must be called from the context of a Tokio 1.x runtime"
  | other text => text

/-- An error that a caller of the pool gets back at once. -/
inductive PoolError where
  | transport (cause : TransportError)
  | configuration (cause : ConfigError)
  | invalidScheme (scheme destination : String)
  | invalidHost (host destination : String)
  | invalidPort (port : UInt16) (destination : String)
  | unsupportedScheme (scheme : String)
  | queueFull (capacity : Nat)
  | stopped (client : String)
  | stopping (client : String)
  | connectionFailed (text : String)
deriving DecidableEq, Repr

namespace PoolError

def message : PoolError → String
  | transport cause => "IO error: " ++ cause.message
  | configuration cause => "Configuration error: " ++ cause.message
  | invalidScheme scheme destination =>
      s!"Invalid request scheme {scheme} for destination {destination}"
  | invalidHost host destination => s!"Invalid request host {host} for destination {destination}"
  | invalidPort port destination => s!"Invalid request port {port} for destination {destination}"
  | unsupportedScheme scheme => "No default port for scheme " ++ scheme
  | queueFull capacity => s!"Max requests per address {capacity} exceeded"
  | stopped client => client ++ " is stopped"
  | stopping client => client ++ " is stopping"
  | connectionFailed text => "Connection failed: " ++ text

/-- A decision not to admit a request (no room, or no longer running), as opposed to a mistake of
the caller. -/
def isRejection : PoolError → Bool
  | queueFull _ => true
  | stopped _ => true
  | stopping _ => true
  | _ => false

end PoolError

end ConnectionPool
