import OpticalLink.Channel

/-!
# Transports

A transport carries bytes to one peer and from it, in any way that can be read and written. Its
reads and its writes succeed or fail independently of each other, now and later. An end of an
in-memory channel is a transport, and a serial line is one.
-/

namespace OpticalLink

/-- Reading and writing without waiting. -/
class Transport (T : Type) where
  /-- Reads what has come in, or nothing when nothing has. -/
  read : T → Except TransportError (Option Bytes) × T
  /-- Writes all of some bytes. -/
  write : T → Bytes → Except TransportError Unit × T

/-- Writes at an end, with the channel in either case. -/
def Channel.put (channel : Channel) (side : Side) (data : Bytes) :
    Except TransportError Unit × Channel :=
  match channel.write side data with
  | .ok channel => (.ok (), channel)
  | .error error => (.error error, channel)

/-- The host uses the left end of a channel. -/
instance : Transport Channel where
  read channel := channel.read .left
  write channel data := channel.put .left data

/-! ## Serial lines -/

/-- A serial line, with what the device behind it will do. -/
structure SerialLine where
  /-- What comes of the reads ahead, in their order. -/
  incoming : List (Except IoFault Bytes)
  /-- What comes of the writes ahead, in their order. -/
  outgoing : List (Except IoFault Unit)

namespace SerialLine

/-- What a read finds in the answers ahead, and the answers after it. An interrupted read is tried
again, and one that would have to wait finds nothing. A line without more answers stays silent. -/
def take : List (Except IoFault Bytes) →
    Except TransportError (Option Bytes) × List (Except IoFault Bytes)
  | [] => (.ok none, [])
  | .ok bytes :: ahead => (.ok (if bytes.isEmpty then none else some bytes), ahead)
  | .error fault :: ahead =>
    match fault.kind with
    | .interrupted => take ahead
    | .timedOut | .wouldBlock => (.ok none, ahead)
    | _ => (.error (.io fault), ahead)

/-- Reads what has come in. -/
def read (line : SerialLine) : Except TransportError (Option Bytes) × SerialLine :=
  let (found, incoming) := take line.incoming
  (found, { line with incoming })

/-- Writes and flushes. A line without more answers takes everything. -/
def write (line : SerialLine) (_data : Bytes) : Except TransportError Unit × SerialLine :=
  match line.outgoing with
  | [] => (.ok (), line)
  | answer :: outgoing => (answer.mapError .io, { line with outgoing })

instance : Transport SerialLine := ⟨read, write⟩

end SerialLine

end OpticalLink
