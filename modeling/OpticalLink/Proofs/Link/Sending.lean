import OpticalLink.Proofs.Link.Session

/-!
# Sending from the host

To send a message that fits a frame is to write its frame (`Link.send_of_fits`). Over a channel it is
sent whole or not at all: `Link.send_eq` says that only the channel decides, and that nothing else
of the link changes.
-/

namespace OpticalLink

/-- Escapes and markers at most double a payload, and two bytes more. -/
theorem Frame.wrappedSize_le (payload : Bytes) : wrappedSize payload ≤ 2 * payload.length + 2 := by
  have escaped : payload.countP isMarker ≤ payload.length := List.countP_le_length
  rw [wrappedSize]
  omega

/-- The channel after some bytes of the host have reached the device. -/
def Channel.pass (channel : Channel) (bytes : Bytes) : Channel :=
  { channel with right := { channel.right with inbound := channel.right.inbound ++ bytes } }

/-- A write of the host passes the bytes on, unless the channel is closed or its writes are made
to fail. -/
theorem Channel.write_left_eq (channel : Channel) (bytes : Bytes) :
    channel.write .left bytes =
      if channel.closed then .error .closed
      else if channel.left.failWrites then .error (.io simulatedWriteFault)
      else .ok (channel.pass bytes) := rfl

/-- A message that fits a frame is framed. -/
theorem Frame.ofMessage_of_fits {message : Message}
    (fits : wrappedSize message.serialize ≤ maxLength) :
    ofMessage message maxLength = .ok (wrap message.serialize) :=
  encode_of_fits (Nat.le_min.mpr ⟨fits, fits⟩)

/-- To send a message that fits a frame is to write its frame. -/
theorem Link.send_of_fits {T : Type} [Transport T] (link : Link T) {message : Message}
    (fits : Frame.wrappedSize message.serialize ≤ Frame.maxLength) :
    link.send message =
      ((Transport.write link.channel (Frame.wrap message.serialize)).1.mapError .transport,
        { link with
          channel := (Transport.write link.channel (Frame.wrap message.serialize)).2 }) := by
  have framed : Frame.ofMessage message FrameWriter.new.capacity =
      .ok (Frame.wrap message.serialize) := Frame.ofMessage_of_fits fits
  rw [send, FrameWriter.sendOver, FrameWriter.sendBy_of_framed framed]

/-- How a write of the host comes out, with the channel after it. -/
theorem Channel.put_left_eq (channel : Channel) (bytes : Bytes) :
    channel.put .left bytes =
      if channel.closed then (.error .closed, channel)
      else if channel.left.failWrites then (.error (.io simulatedWriteFault), channel)
      else (.ok (), channel.pass bytes) := by
  rw [put, write_left_eq]
  by_cases closed : channel.closed = true
  · rw [if_pos closed, if_pos closed]
  · rw [if_neg closed, if_neg closed]
    by_cases failing : channel.left.failWrites = true
    · rw [if_pos failing, if_pos failing]
    · rw [if_neg failing, if_neg failing]

/-- A message that fits a frame is sent as one frame, unless the channel is closed or its writes
are made to fail. -/
theorem Link.send_eq (link : Link) {message : Message}
    (fits : Frame.wrappedSize message.serialize ≤ Frame.maxLength) :
    link.send message =
      if link.channel.closed then (.error (.transport .closed), link)
      else if link.channel.left.failWrites then
        (.error (.transport (.io Channel.simulatedWriteFault)), link)
      else
        (.ok (), { link with channel := link.channel.pass (Frame.wrap message.serialize) }) := by
  have written : Transport.write link.channel (Frame.wrap message.serialize) =
      link.channel.put .left (Frame.wrap message.serialize) := rfl
  rw [link.send_of_fits fits, written, Channel.put_left_eq]
  by_cases closed : link.channel.closed = true
  · rw [if_pos closed, if_pos closed]
    rfl
  · rw [if_neg closed, if_neg closed]
    by_cases failing : link.channel.left.failWrites = true
    · rw [if_pos failing, if_pos failing]
      rfl
    · rw [if_neg failing, if_neg failing]
      rfl

end OpticalLink
