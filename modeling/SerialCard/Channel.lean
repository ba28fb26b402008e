import SerialCard.Work

/-!
# Channels

A channel carries requests to a driver, one at a time, and can be closed. What stands behind it is
a state, and the channel says how a request changes it. A channel may be held in several ways:
`Holding.wrap` is the channel as its holder sees it. Requests always come through; closing comes
through only if the holder owns the channel.
-/

namespace SerialCard

/-- A channel to something whose states are `σ`. -/
structure Channel (σ : Type) where
  /-- Answers a request. The bytes are those the driver gave, whatever their number. -/
  control : Request → σ → Reply × σ
  /-- Closes the channel. A channel that has nothing to close succeeds. -/
  close : Work σ (Except TransportError Unit) := pure (.ok ())

namespace Channel

variable {σ : Type}

/-- The channel behind a pointer that owns it. -/
def boxed (c : Channel σ) : Channel σ where
  control := c.control
  close := c.close

/-- The channel on loan: it answers requests, and closing leaves it alone. -/
def borrowed (c : Channel σ) : Channel σ where
  control := c.control

/-- What reaches a channel. -/
inductive Contact where
  | request (request : Request)
  | close
  deriving DecidableEq, Repr

/-- The channel with a list of all that reached it, the oldest first. -/
def recorded (c : Channel σ) : Channel (σ × List Contact) where
  control request := fun (s, seen) =>
    let answer := c.control request s
    (answer.1, answer.2, seen ++ [.request request])
  close := fun (s, seen) =>
    let closing := c.close s
    ⟨closing.result, (closing.state, seen ++ [.close]), closing.events⟩

/-- The ways to hold a channel. -/
inductive Holding where
  /-- The channel itself. -/
  | owned
  /-- A channel that has nothing to close. -/
  | endless
  /-- Behind a pointer that owns it. -/
  | boxed
  /-- On loan. -/
  | borrowed
  /-- On loan, without knowing what kind of channel it is. -/
  | dynamic
  deriving DecidableEq, Repr

/-- The channel as its holder sees it. -/
def Holding.wrap : Holding → Channel σ → Channel σ
  | owned, c => c
  | endless, c => { control := c.control }
  | boxed, c => c.boxed
  | borrowed, c | dynamic, c => c.borrowed

end Channel

end SerialCard
