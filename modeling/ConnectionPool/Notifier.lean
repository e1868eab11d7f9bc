import ConnectionPool.Exchange

/-!
# Notifying listeners

Listeners are called so that a panic ends the callback and nothing else: what the callback did
before stays done, and the listeners after it are called all the same. A notice goes to all request
listeners in their order, or to the one listener of an exchange.
-/

set_option autoImplicit false

namespace ConnectionPool.Notifier

/-- How a callback ends. -/
inductive Ending where
  | returned
  | panicked
deriving DecidableEq, Repr

/-- A callback acts on what it can reach and then returns or panics. -/
abbrev Callback (σ : Type) := σ → σ × Ending

/-- Make a callback and go on however it ends. -/
def guarded {σ : Type} (f : Callback σ) (s : σ) : σ := (f s).1

/-- Make callbacks in order, each guarded on its own. -/
def fanOut {σ : Type} (fs : List (Callback σ)) (s : σ) : σ := fs.foldl (fun s f => guarded f s) s

/-! ## Listeners that take notes -/

/-- What a listener is told. -/
inductive Notice where
  | queued (r : Request)
  | requestFailure (r : Request) (f : ExchangeFailure)
  | responseFailure (r : Request) (f : ExchangeFailure)
  | complete (result : ExchangeResult)
deriving DecidableEq, Repr

/-- The kinds of notices. -/
inductive Moment where
  | queued
  | requestFailure
  | responseFailure
  | complete
deriving DecidableEq, Repr

def Notice.moment : Notice → Moment
  | queued _ => .queued
  | requestFailure _ _ => .requestFailure
  | responseFailure _ _ => .responseFailure
  | complete _ => .complete

/-- Whom a notice goes to: all request listeners, or the one listener of an exchange. -/
inductive Target where
  | everyone
  | only (listener : Nat)
deriving DecidableEq, Repr

/-- What listeners noted down, in order, each with its place among the listeners. -/
abbrev Notes := List (Nat × Notice)

/-- A listener that first notes down what it is told, and then panics at some of the moments. -/
def noting (place : Nat) (panicsAt : List Moment) (n : Notice) : Callback Notes := fun notes =>
  (notes ++ [(place, n)], if panicsAt.contains n.moment then .panicked else .returned)

/-- The callback of the listener at a place, given the moments at which the listeners panic. Where
there is no listener nothing is done. -/
def callback (listeners : List (List Moment)) (place : Nat) (n : Notice) : Callback Notes :=
  match listeners[place]? with
  | some panicsAt => noting place panicsAt n
  | none => fun notes => (notes, .returned)

/-- Tell one notice to its listeners. -/
def notify (listeners : List (List Moment)) (t : Target) (n : Notice) (notes : Notes) : Notes :=
  match t with
  | .everyone => fanOut ((List.range listeners.length).map (callback listeners · n)) notes
  | .only place => guarded (callback listeners place n) notes

/-- Tell notices one after another. -/
def notifyAll (listeners : List (List Moment)) (calls : List (Target × Notice))
    (notes : Notes := []) : Notes :=
  calls.foldl (fun notes (t, n) => notify listeners t n notes) notes

end ConnectionPool.Notifier
