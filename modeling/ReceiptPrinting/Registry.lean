/-!
# The registry of open sessions

One entry stands for each open session, from the moment it registers to the moment it leaves. An
entry tells its session whether it has been asked to close.

* `closeAll` asks every session to close, those that register later included;
* `remove` ends an entry, and when it was the last one, notifies all that wait for this.

Waiting is done in small steps, between which the sessions may move on: a waiter first makes itself
known (`arm`), then looks whether anyone is there (`look`), and only then sleeps (`sleep`). A
notification marks every waiter known at that moment and is not kept for later ones; a waiter that
wakes up starts over, for a session may have registered meanwhile. `Move` lists the steps of all
that share the registry.
-/

namespace ReceiptPrinting

/-- Someone who waits until no session is open. -/
inductive Waiter where
  /-- About to make itself known. -/
  | fresh
  /-- Known, and about to look. `marked`: notified since it made itself known. -/
  | armed (marked : Bool)
  /-- It has seen that someone is there, and is about to sleep. -/
  | seen (marked : Bool)
  /-- Asleep until it is notified. -/
  | asleep (marked : Bool)
  /-- It has seen that no session is open. -/
  | returned
deriving DecidableEq, Repr

namespace Waiter

/-- Notifies a waiter that is known. -/
def notify : Waiter → Waiter
  | armed _ => armed true
  | seen _ => seen true
  | asleep _ => asleep true
  | w => w

/-- Makes a waiter known. -/
def arm : Waiter → Waiter
  | fresh => armed false
  | w => w

/-- Looks at the count of open sessions: returns if there are none, else is about to sleep. -/
def look (count : Nat) : Waiter → Waiter
  | armed m => if count = 0 then returned else seen m
  | w => w

/-- Falls asleep. A notification that has come since the waiter made itself known is not lost. -/
def sleep : Waiter → Waiter
  | seen m => asleep m
  | w => w

/-- Wakes a waiter that has been notified. -/
def wake : Waiter → Waiter
  | asleep true => fresh
  | w => w

/-- Goes on until the waiter returns or sleeps. -/
def poll (count : Nat) (w : Waiter) : Waiter := sleep (look count (arm (wake w)))

/-- Has the waiter returned? -/
def hasReturned : Waiter → Bool
  | returned => true
  | _ => false

end Waiter

/-- An open session. -/
structure Entry where
  id : Nat
  /-- Has the session been asked to close? -/
  closing : Bool
deriving DecidableEq, Repr

/-- The open sessions, and those who wait until there are none. -/
structure Registry where
  entries : List Entry
  /-- Has every session been asked to close? -/
  closed : Bool
  waiters : List Waiter
deriving DecidableEq, Repr

namespace Registry

/-- No sessions, no waiters. -/
def empty : Registry := ⟨[], false, []⟩

instance : Inhabited Registry := ⟨empty⟩

/-! ## 1. Sessions -/

/-- How many sessions are open. -/
def count (r : Registry) : Nat := r.entries.length

/-- Registers a session under an id that is not in use. -/
def register (r : Registry) (id : Nat) : Registry :=
  { r with entries := r.entries ++ [⟨id, r.closed⟩] }

/-- Asks every session to close. -/
def closeAll (r : Registry) : Registry :=
  { r with closed := true, entries := r.entries.map fun e => { e with closing := true } }

/-- Ends the entry of a session. -/
def remove (r : Registry) (id : Nat) : Registry :=
  let rest := r.entries.filter (·.id != id)
  { r with
    entries := rest
    waiters := if rest.isEmpty then r.waiters.map Waiter.notify else r.waiters }

/-- Has the session been asked to close? `none` once it has left. -/
def closing? (r : Registry) (id : Nat) : Option Bool :=
  (r.entries.find? (·.id == id)).map (·.closing)

/-! ## 2. Waiters -/

/-- A new waiter, which has not yet begun. -/
def wait (r : Registry) : Registry := { r with waiters := r.waiters ++ [.fresh] }

/-- One step of the waiter at an index. -/
def stepWaiter (r : Registry) (i : Nat) (f : Waiter → Waiter) : Registry :=
  { r with waiters := r.waiters.modify i f }

/-- Lets every waiter go on until it returns or sleeps. -/
def pollAll (r : Registry) : Registry :=
  { r with waiters := r.waiters.map (Waiter.poll r.count) }

/-! ## 3. Moves -/

/-- One step of anyone who shares the registry. The steps of a waiter are apart, and those of others
    may come between them. -/
inductive Move where
  /-- A session registers, under an id of its own. -/
  | register (id : Nat)
  /-- A session leaves. -/
  | leave (id : Nat)
  | closeAll
  /-- Someone starts to wait. -/
  | wait
  /-- The waiter at an index makes itself known. -/
  | arm (waiter : Nat)
  /-- The waiter at an index looks whether anyone is there. -/
  | look (waiter : Nat)
  /-- The waiter at an index falls asleep. -/
  | sleep (waiter : Nat)
  /-- The waiter at an index wakes up, if it has been notified. -/
  | wake (waiter : Nat)
deriving DecidableEq, Repr

/-- The registry after a move. -/
def apply (r : Registry) : Move → Registry
  | .register id => r.register id
  | .leave id => r.remove id
  | .closeAll => r.closeAll
  | .wait => r.wait
  | .arm i => r.stepWaiter i Waiter.arm
  | .look i => r.stepWaiter i (Waiter.look r.count)
  | .sleep i => r.stepWaiter i Waiter.sleep
  | .wake i => r.stepWaiter i Waiter.wake

/-- The registry after moves, one after another. -/
def applyAll (r : Registry) (ms : List Move) : Registry := ms.foldl apply r

end Registry

end ReceiptPrinting
