import ConnectionPool.Client.Invoke
import ConnectionPool.Total

/-!
# Clients whose callbacks do not call back

When no callback invokes an operation, an operation runs to its end without waiting: each call is
made, noted by the outside and returns at once. `Client.drive` runs the agenda that way and lets the
outside keep a state of its own. The number of turns is bounded by `Client.workload`, which every
turn lowers: it prices each frame by what the frame can still put on the agenda, and each waiting
exchange and pooled connection by what it costs to fail or to close it.
-/

set_option autoImplicit false

namespace ConnectionPool

/-- What a frame costs at most, given the number of request listeners, apart from the exchanges and
connections it takes out of a destination. -/
def Frame.cost (listeners : Nat) : Frame → Nat
  | .call _ => 1
  | .within _ => 1
  | .finish _ => 1
  | .serve _ _ _ => 3
  | .takeIdle _ => 4
  | .acquire _ => 6
  | .remove _ _ => 7
  | .fail _ _ _ => listeners + 3
  | .closeIdle _ => 3
  | .closeActive _ => 2
  | .failQueued _ => 1

/-- What it costs at most to empty a destination. -/
def Destination.cost (listeners : Nat) (d : Destination) : Nat :=
  d.idle.size + d.active.size + (listeners + 4) * d.queue.size

namespace Client

/-- A bound on the turns until the agenda is empty, if no callback calls back. -/
def workload (w : Client) : Nat :=
  total (Frame.cost w.listeners) w.agenda + total (Destination.cost w.listeners) w.destinations

variable {σ : Type}

/-- At most `n` turns, in which each call returns at once after `note` has noted it. A callback that
was entered before stays entered. -/
def driveFor (note : Client → Call → σ → σ) : Nat → Client → σ → Client × σ
  | 0, w, s => (w, s)
  | n + 1, w, s =>
      match w.agenda with
      | [] => (w, s)
      | .within _ :: _ => (w, s)
      | .call c :: _ => driveFor note n w.turn.resume (note w c s)
      | _ :: _ => driveFor note n w.turn s

/-- Run the agenda until the client awaits the outside. -/
def drive (note : Client → Call → σ → σ) (w : Client) (s : σ) : Client × σ :=
  driveFor note w.workload w s

/-- Run the agenda with an outside that takes no note of anything. -/
def settle (w : Client) : Client := (w.drive (fun _ _ s => s) ()).1

end Client

end ConnectionPool
