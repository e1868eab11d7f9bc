import ConnectionPool.Limits

/-!
# Settings

What a configuration file can set: the limits of the client, the timings of the loopback transport,
and logging. Every setting has a default. Settings are usable when the limits are and the log format
is one of two; the limits are checked first.
-/

set_option autoImplicit false

namespace ConnectionPool

/-- How long the loopback transport takes, in milliseconds, and whether it refuses to connect. -/
structure LoopbackTimings where
  connectLatency : Nat := 5
  exchangeLatency : Nat := 10
  failConnect : Bool := false
deriving DecidableEq, Repr

structure LogSettings where
  level : String := "info"
  format : String := "pretty"
deriving DecidableEq, Repr

structure Settings where
  limits : Limits := {}
  loopback : LoopbackTimings := {}
  logging : LogSettings := {}
deriving DecidableEq, Repr

namespace Settings

/-- The first setting that cannot be used. -/
def error? (s : Settings) : Option ConfigError :=
  match s.limits.error? with
  | some e => some e
  | none =>
      if s.logging.format = "pretty" ∨ s.logging.format = "json" then none
      else some (.unknownFormat s.logging.format)

theorem error?_eq_none_iff (s : Settings) :
    s.error? = none ↔ 1 ≤ s.limits.connections ∧ 1 ≤ s.limits.queue ∧
      (s.logging.format = "pretty" ∨ s.logging.format = "json") := by
  rw [← and_assoc, ← Limits.error?_eq_none_iff]
  unfold error?
  split
  · next e h => rw [h]; exact ⟨fun x => (nomatch x), fun x => (nomatch x.1)⟩
  · next h =>
      rw [h]
      split
      · next hf => exact ⟨fun _ => ⟨rfl, hf⟩, fun _ => rfl⟩
      · next hf => exact ⟨fun x => (nomatch x), fun x => absurd x.2 hf⟩

/-- A file that sets every setting to its default. -/
def sample : String :=
  "[client]\n" ++
  "max_connections_per_address = 8\n" ++
  "max_queue_size_per_address = 1024\n" ++
  "\n" ++
  "# In-memory transport used by the workload simulator\n" ++
  "[loopback]\n" ++
  "connect_latency_ms = 5\n" ++
  "exchange_latency_ms = 10\n" ++
  "fail_connect = false\n" ++
  "\n" ++
  "[logging]\n" ++
  "level = \"info\"  # Options: \"trace\", \"debug\", \"info\", \"warn\", \"error\"\n" ++
  "format = \"pretty\"  # Options: \"pretty\", \"json\"\n"

end Settings

end ConnectionPool
