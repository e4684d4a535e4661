import OpticalLink.Frame.Receiver
import OpticalLink.Transport

/-!
# Links

A link joins a transport with a reader of framed messages, and it sends each message with a writer
that has sent nothing. A writer that is kept for all messages sends alike, since a writer empties
its buffers before each of them. Where the transport is a channel, the host holds its left end and
the device the right one.
-/

namespace OpticalLink

/-- A receiver with the messages that nobody has taken yet. -/
structure FrameReader where
  receiver : Receiver
  queue : List Message
deriving DecidableEq, Repr

namespace FrameReader

/-- A reader at the start of a stream, with a payload limit. -/
def withLimit (limit : Nat) : FrameReader := ⟨.withLimit limit, []⟩

/-- A reader at the start of a stream. -/
def new : FrameReader := withLimit Frame.maxLength

/-- The most chunks that one call reads. -/
def readsPerCall : Nat := 16

/-- The reader after a chunk, with the number of messages in it: by so much the receiver has
counted more. -/
def accept (reader : FrameReader) (chunk : Bytes) : FrameReader × Nat :=
  let (receiver, messages) := reader.receiver.feed chunk
  (⟨receiver, reader.queue ++ messages⟩, receiver.delivered - reader.receiver.delivered)

/-- Reads at most the given number of chunks. A failing read ends the call with
its error; the messages read before it stay in the queue. -/
def readChunks {T : Type} (read : T → Except TransportError (Option Bytes) × T)
    (reads delivered : Nat) (reader : FrameReader) (transport : T) :
    Except FrameError Nat × FrameReader × T :=
  match reads with
  | 0 => (.ok delivered, reader, transport)
  | reads + 1 =>
    match read transport with
    | (.error error, transport) => (.error (.transport error), reader, transport)
    | (.ok none, transport) => (.ok delivered, reader, transport)
    | (.ok (some chunk), transport) =>
      let (reader, count) := reader.accept chunk
      readChunks read reads (delivered + count) reader transport

/-- Reads what is available, up to the limit of one call, and reports the number of messages that
arrived. -/
def readAvailable {T : Type} [Transport T] (reader : FrameReader) (transport : T) :
    Except FrameError Nat × FrameReader × T :=
  readChunks Transport.read readsPerCall 0 reader transport

/-- Reads what is available at an end of a channel. -/
def readFrom (reader : FrameReader) (channel : Channel) (side : Side) :
    Except FrameError Nat × FrameReader × Channel :=
  readChunks (Channel.read · side) readsPerCall 0 reader channel

/-- Takes the oldest message out of the queue. -/
def pop (reader : FrameReader) : Option Message × FrameReader :=
  match reader.queue with
  | [] => (none, reader)
  | message :: rest => (some message, { reader with queue := rest })

/-- Takes all messages out of the queue, oldest first. -/
def drain (reader : FrameReader) : List Message × FrameReader :=
  (reader.queue, { reader with queue := [] })

end FrameReader

/-- A sender of framed messages with the buffers that it fills for each of them. -/
structure FrameWriter where
  /-- The written form of the message that was sent last, as far as that came. -/
  payload : Bytes
  /-- The frame around it, as far as that came. -/
  frame : Bytes
  /-- The size that no frame may exceed. -/
  capacity : Nat
deriving DecidableEq, Repr

namespace FrameWriter

/-- A writer that has sent nothing, of frames up to a size. -/
def withCapacity (capacity : Nat) : FrameWriter := ⟨[], [], capacity⟩

/-- A writer that has sent nothing. -/
def new : FrameWriter := withCapacity Frame.maxLength

/-- Writes a message as one frame. The buffers are emptied first and keep what they were filled
with. A message that cannot be framed is not written. -/
def sendBy {T : Type} (write : T → Bytes → Except TransportError Unit × T) (writer : FrameWriter)
    (transport : T) (message : Message) : Except FrameError Unit × FrameWriter × T :=
  let writer := { writer with payload := [], frame := [] }
  match message.appendTo writer.payload Frame.maxLength with
  | (.error error, payload) => (.error (.message error), { writer with payload }, transport)
  | (.ok _, payload) =>
    let writer := { writer with payload }
    match Frame.appendTo writer.payload writer.frame writer.capacity with
    | (.error error, frame) => (.error error, { writer with frame }, transport)
    | (.ok _, frame) =>
      let writer := { writer with frame }
      let (written, transport) := write transport writer.frame
      (written.mapError .transport, writer, transport)

/-- Sends a message over a transport. -/
def sendOver {T : Type} [Transport T] (writer : FrameWriter) (transport : T) (message : Message) :
    Except FrameError Unit × FrameWriter × T :=
  writer.sendBy Transport.write transport message

/-- Sends a message at an end of a channel. Whatever fails, nothing is written. -/
def send (writer : FrameWriter) (channel : Channel) (side : Side) (message : Message) :
    Except FrameError Unit × FrameWriter × Channel :=
  writer.sendBy (Channel.put · side) channel message

end FrameWriter

/-- Sends a message as one frame of at most `capacity` bytes at an end of a
channel, with a writer of its own. Whatever fails, nothing is written. -/
def Channel.sendFrame (channel : Channel) (side : Side) (capacity : Nat)
    (message : Message) : Except FrameError Channel :=
  match (FrameWriter.withCapacity capacity).send channel side message with
  | (.error error, _, _) => .error error
  | (.ok _, _, channel) => .ok channel

/-- The host side of the connection to one device. -/
structure Link (T : Type := Channel) where
  /-- What carries the bytes. -/
  channel : T
  reader : FrameReader
  /-- Whether the last attempt to send or receive failed. -/
  failing : Bool
deriving DecidableEq, Repr

namespace Link

variable {T : Type}

/-- A link over a transport of which nothing has been read. -/
def new (channel : T) : Link T := ⟨channel, .new, false⟩

/-- The counters of the link. -/
def stats (link : Link T) : FrameStats := link.reader.receiver.stats

/-- Records the outcome of an attempt. The first failure after a success is told
apart, so that an outage is reported when it begins. -/
def noteOutcome (link : Link T) (failed : Bool) : Bool × Link T :=
  (failed && !link.failing, { link with failing := failed })

variable [Transport T]

/-- Reads what is available and takes the messages out, oldest first. When
reading fails, the messages wait for the next call. -/
def receive (link : Link T) : Except FrameError (List Message) × Link T :=
  match link.reader.readAvailable link.channel with
  | (.error error, reader, channel) => (.error error, { link with reader, channel })
  | (.ok _, reader, channel) =>
    let (messages, reader) := reader.drain
    (.ok messages, { link with reader, channel })

/-- Sends one message. -/
def send (link : Link T) (message : Message) : Except FrameError Unit × Link T :=
  let (result, _, channel) := FrameWriter.new.sendOver link.channel message
  (result, { link with channel })

end Link

end OpticalLink
