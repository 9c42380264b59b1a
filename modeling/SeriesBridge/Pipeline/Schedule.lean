import SeriesBridge.Pipeline.Delivery

/-! # Scheduled streams

A stream of records whose events and their times are known beforehand. On such a stream a delivery
can be rehearsed: its clock stands still but for the waits.

* **`Schedule`** — the events that are to come.
* **`Schedule.next`** — what comes of waiting until a deadline. -/

namespace SeriesBridge

/-- **An event of a stream.** Waits are in milliseconds. -/
inductive StreamEvent where
  | record (r : Incoming)
  | failure (e : Error)
  | wait (millis : Nat)
  /-- The run is asked to stop. -/
  | stop
  deriving Repr

/-- **The events that are to come,** and the end of the wait that has begun, if one has. -/
structure Schedule where
  events : List StreamEvent := []
  waited : Option Nat := none
  time : Nat := 0
  /-- Whether the run was asked to stop. -/
  stopping : Bool := false
  deriving Repr

namespace Schedule

/-- Go on with the given events. -/
def following (s : Schedule) (deadline : Nat) : List StreamEvent → Arrival × Schedule
  | [] => (.ended, { s with events := [] })
  | .record r :: rest => (.record r, { s with events := rest })
  | .failure e :: rest => (.failed e, { s with events := rest })
  | .stop :: rest => { s with stopping := true }.following deadline rest
  | .wait n :: rest =>
      -- A wait that has begun already ends when it would have ended.
      let ready := s.waited.getD (s.time + n)
      if ready ≤ deadline then
        { s with waited := none, time := max s.time ready }.following deadline rest
      else
        (.overdue, { s with events := .wait n :: rest, waited := some ready
                            time := max s.time deadline })

/-- **What comes of waiting until a deadline.** A wait that is broken off at the deadline goes on
where it was. -/
def next (s : Schedule) (deadline : Nat) : Arrival × Schedule := s.following deadline s.events

end Schedule

end SeriesBridge
