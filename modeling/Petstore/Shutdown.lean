/-!
# Shutdown

The signal that ends every long-running task. All handles share one channel, which keeps only the
newest signal and keeps none that was sent while nobody listened. A receiver gets the signals sent
after it subscribed; one that missed signals is told how many before it gets the newest.
-/

namespace Petstore

/-- The channel behind all handles: how many signals were kept so far, and for each receiver, in the
order of subscription, the number of the signal that it gets next, unless it was dropped. -/
structure Shutdown where
  sent : Nat := 0
  receivers : List (Option Nat) := []
  deriving DecidableEq, Repr

namespace Shutdown

/-- What a receiver finds when it looks for a signal without waiting. -/
inductive Received where
  | signal
  | empty
  | lagged (missed : Nat)
  | dropped
  deriving DecidableEq, Repr

/-- The number of receivers that still listen. -/
def receiverCount (shutdown : Shutdown) : Nat :=
  shutdown.receivers.countP Option.isSome

/-- One more receiver, which gets the signals from now on. -/
def subscribe (shutdown : Shutdown) : Shutdown :=
  { shutdown with receivers := shutdown.receivers ++ [some shutdown.sent] }

/-- Send the signal. Nothing is kept when nobody listens. -/
def trigger (shutdown : Shutdown) : Shutdown :=
  if shutdown.receiverCount = 0 then shutdown else { shutdown with sent := shutdown.sent + 1 }

/-- A receiver stops listening. -/
def drop (shutdown : Shutdown) (index : Nat) : Shutdown :=
  { shutdown with receivers := shutdown.receivers.set index none }

/-- A receiver gets the signal of another number next. -/
def advance (shutdown : Shutdown) (index next : Nat) : Shutdown :=
  { shutdown with receivers := shutdown.receivers.set index (some next) }

/-- A receiver looks for a signal. The newest signal has the number before `sent`. -/
def receive (shutdown : Shutdown) (index : Nat) : Received × Shutdown :=
  match shutdown.receivers[index]?.join with
  | none => (.dropped, shutdown)
  | some next =>
    if shutdown.sent ≤ next then (.empty, shutdown)
    else if shutdown.sent = next + 1 then (.signal, shutdown.advance index (next + 1))
    else
      (.lagged (shutdown.sent - 1 - next), shutdown.advance index (shutdown.sent - 1))

/-! ## Sequences -/

/-- What can be done with the handles and receivers of a shutdown. -/
inductive Action where
  | clone
  | subscribe
  | trigger
  | drop (index : Nat)
  | receive (index : Nat)
  deriving DecidableEq, Repr

/-- Do one thing; looking for a signal gives what was found. A cloned handle is as good as any. -/
def act (shutdown : Shutdown) : Action → Option Received × Shutdown
  | .clone => (none, shutdown)
  | .subscribe => (none, shutdown.subscribe)
  | .trigger => (none, shutdown.trigger)
  | .drop index => (none, shutdown.drop index)
  | .receive index => ((shutdown.receive index).map some id)

example : ((Shutdown.subscribe {}).trigger.trigger.receive 0).1 = .lagged 1 := by decide

end Shutdown

end Petstore
