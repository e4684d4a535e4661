import OpticalLink.Bytes.Basic
import OpticalLink.Fault

/-!
# In-memory channels

A channel joins two ends; what is written at one end waits to be read at the
other. Reads never block. A closed channel refuses every write and reports its
closing to a reader only when nothing is left to read.
-/

namespace OpticalLink

/-- The two ends of a channel. -/
inductive Side where
  | left
  | right
deriving DecidableEq, Repr

/-- The opposite end. -/
def Side.other : Side → Side
  | .left => .right
  | .right => .left

/-- One end of a channel. -/
structure ChannelEnd where
  /-- Bytes waiting to be read here, oldest first. -/
  inbound : Bytes
  /-- The most bytes that one read returns; zero counts as one. -/
  chunkSize : Nat
  /-- Whether writes at this end are made to fail. -/
  failWrites : Bool
deriving DecidableEq, Repr

namespace ChannelEnd

/-- The chunk size of an end that was given none. -/
def defaultChunkSize : Nat := 4096

/-- An end with nothing to read. -/
def new (chunkSize : Nat) : ChannelEnd := ⟨[], max chunkSize 1, false⟩

end ChannelEnd

/-- Two joined ends. -/
structure Channel where
  left : ChannelEnd
  right : ChannelEnd
  closed : Bool
deriving DecidableEq, Repr

namespace Channel

/-- An open channel with the given chunk sizes. -/
def new (leftChunk rightChunk : Nat) : Channel :=
  ⟨.new leftChunk, .new rightChunk, false⟩

/-- The name of every in-memory channel in diagnostics. -/
def name : String := "memory"

/-- One of the two ends. -/
def endAt (channel : Channel) : Side → ChannelEnd
  | .left => channel.left
  | .right => channel.right

/-- Replaces one of the two ends. -/
def setEnd (channel : Channel) (side : Side) (replacement : ChannelEnd) : Channel :=
  match side with
  | .left => { channel with left := replacement }
  | .right => { channel with right := replacement }

/-- The bytes waiting to be read at an end. -/
def pending (channel : Channel) (side : Side) : Bytes := (channel.endAt side).inbound

/-- Reads at an end: nothing when nothing waits, else the next chunk. -/
def read (channel : Channel) (side : Side) : Except TransportError (Option Bytes) × Channel :=
  let reader := channel.endAt side
  if reader.inbound.isEmpty then
    (if channel.closed then .error .closed else .ok none, channel)
  else
    (.ok (some (reader.inbound.take reader.chunkSize)),
      channel.setEnd side { reader with inbound := reader.inbound.drop reader.chunkSize })

/-- How a write fails at an end that was told to fail. -/
def simulatedWriteFault : IoFault := ⟨.brokenPipe, "simulated write failure"⟩

/-- Writes at an end. A failed write leaves the channel as it was. -/
def write (channel : Channel) (side : Side) (data : Bytes) : Except TransportError Channel :=
  if channel.closed then .error .closed
  else if (channel.endAt side).failWrites then .error (.io simulatedWriteFault)
  else
    let receiver := channel.endAt side.other
    .ok (channel.setEnd side.other { receiver with inbound := receiver.inbound ++ data })

/-- Closes both ends. -/
def close (channel : Channel) : Channel := { channel with closed := true }

/-- Limits what a single read at an end returns from now on. Zero counts as one. -/
def setChunkSize (channel : Channel) (side : Side) (chunkSize : Nat) : Channel :=
  channel.setEnd side { channel.endAt side with chunkSize := max chunkSize 1 }

/-- Makes the writes at an end fail or succeed from now on. -/
def setFailWrites (channel : Channel) (side : Side) (fail : Bool) : Channel :=
  channel.setEnd side { channel.endAt side with failWrites := fail }

end Channel

end OpticalLink
