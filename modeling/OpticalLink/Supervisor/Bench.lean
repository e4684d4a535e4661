import OpticalLink.Supervisor.Poll

/-!
# Benches

A bench joins a supervisor with the devices on the far ends of its channels. A
device stays usable after its link was detached; it is lost when the supervisor is
started again.
-/

namespace OpticalLink

/-- The device that a peer was last attached with. -/
inductive Device where
  | absent
  /-- The supervisor holds the other end. -/
  | linked
  /-- Nobody holds the other end. -/
  | loose (channel : Channel)
deriving DecidableEq, Repr

/-- A supervisor with the devices on the far ends. -/
structure Bench where
  supervisor : Supervisor
  motorsDevice : Device
  accelerometerDevice : Device

namespace Bench

/-- A supervisor without devices. -/
def new (supervisor : Supervisor) : Bench := ⟨supervisor, .absent, .absent⟩

/-- The device of a peer. -/
def device (bench : Bench) : Peer → Device
  | .motors => bench.motorsDevice
  | .accelerometer => bench.accelerometerDevice

/-- Replaces the device of a peer. -/
def setDevice (bench : Bench) (peer : Peer) (device : Device) : Bench :=
  match peer with
  | .motors => { bench with motorsDevice := device }
  | .accelerometer => { bench with accelerometerDevice := device }

/-- The channel of the device of a peer. -/
def channel? (bench : Bench) (peer : Peer) : Option Channel :=
  match bench.device peer with
  | .absent => none
  | .linked => (bench.supervisor.slot peer).link.map Link.channel
  | .loose channel => some channel

/-- Replaces the channel of the device of a peer. -/
def setChannel (bench : Bench) (peer : Peer) (channel : Channel) : Bench :=
  match bench.device peer with
  | .absent => bench
  | .linked =>
    let link := (bench.supervisor.slot peer).link.map fun link => { link with channel }
    { bench with supervisor := bench.supervisor.setLink peer link }
  | .loose _ => bench.setDevice peer (.loose channel)

/-- Attaches a new channel, of which the supervisor reads chunks of some size. -/
def attach (bench : Bench) (peer : Peer) (chunkSize : Nat) : Bench :=
  let channel := Channel.new chunkSize ChannelEnd.defaultChunkSize
  { bench with supervisor := bench.supervisor.attach peer channel }.setDevice peer .linked

/-- Detaches the link to a peer. Its device keeps the channel. -/
def detach (bench : Bench) (peer : Peer) : Option Link × Bench :=
  let bench := match bench.device peer, bench.channel? peer with
    | .linked, some channel => bench.setDevice peer (.loose channel)
    | _, _ => bench
  let (link, supervisor) := bench.supervisor.detach peer
  (link, { bench with supervisor })

/-- Takes what a device has received. -/
def collect (bench : Bench) (peer : Peer) : Bytes × Bench :=
  match bench.channel? peer with
  | none => ([], bench)
  | some channel =>
    (channel.pending .right,
      bench.setChannel peer (channel.setEnd .right { channel.right with inbound := [] }))

end Bench

end OpticalLink
