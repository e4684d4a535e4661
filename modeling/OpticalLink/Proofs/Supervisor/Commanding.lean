import OpticalLink.Proofs.Supervisor.Restoring

/-!
# Instructions for the motors

An instruction goes out as one frame or not at all. What stands in its way is looked for in order:
motors that are not connected, then a missing link, then the channel of the link. Whatever it is,
the supervisor stays as it was, so that nothing of the instruction is left for later.
-/

namespace OpticalLink

/-- What the motors can be told to do. -/
inductive Instruction where
  | move (position : Position)
  | home
  | reboot
  /-- The controller is to wait for new firmware. -/
  | upgrade
deriving DecidableEq, Repr

namespace Instruction

/-- The command for the motors. -/
def command : Instruction → Command
  | .move _ => .moveMotor
  | .home => .homing
  | .reboot => .reboot
  | .upgrade => .firmwareUpgrade

/-- Where the motors are to move. -/
def target? : Instruction → Option Position
  | .move position => some position
  | _ => none

/-- The message that carries an instruction, and no field but its command and its target. -/
def message (instruction : Instruction) : Message :=
  let bare := Message.ofCommand instruction.command
  instruction.target?.elim bare bare.addMotorPosition

/-- What the journal says of an instruction that was sent. -/
def event : Instruction → Event
  | .move position => .moveRequested position
  | .home => .homingRequested
  | .reboot => .rebootRequested
  | .upgrade => .upgradeRequested

/-- The message of an instruction is a request without a power. -/
theorem message_eq (instruction : Instruction) :
    instruction.message = .request instruction.command instruction.target? none := rfl

/-- The message of an instruction fits a frame. -/
theorem wrappedSize_message_le (instruction : Instruction) :
    Frame.wrappedSize instruction.message.serialize ≤ Frame.maxLength := by
  rw [message_eq]
  exact Message.wrappedSize_request_le _ _ _

/-- The target of an instruction is read back from its message. -/
theorem motorPosition?_message (instruction : Instruction) :
    instruction.message.motorPosition? = instruction.target? := by
  rw [message_eq]
  exact Message.motorPosition?_request _ _ _

/-- A new receiver finds in the frame of an instruction its message, and nothing else. -/
theorem feed_frame (instruction : Instruction) :
    Receiver.new.feed (Frame.wrap instruction.message.serialize) =
      (⟨.new, 1, 0⟩, [instruction.message]) := by
  rw [message_eq]
  exact Message.feed_request _ _ _

/-- A coordinate with the code of a marker is escaped. -/
example : Frame.wrap (move ⟨241, -2, 3⟩).message.serialize =
    [241, 1, 0, 1, 2, 4, 0, 12, 0, 0, 0, 243, 241, 255, 255, 255, 254, 0, 0, 0, 3, 3, 0, 4, 0, 0,
      5, 3, 242] := by
  decide

end Instruction

namespace Supervisor

/-- What is done to carry out an instruction. -/
def carryOut (supervisor : Supervisor) :
    Instruction → Except SupervisorError Unit × Supervisor
  | .move position => supervisor.moveMotors position
  | .home => supervisor.homing
  | .reboot => supervisor.reboot
  | .upgrade => supervisor.upgradeFirmware

variable {supervisor : Supervisor} {instruction : Instruction}

/-- All instructions are carried out alike. -/
theorem carryOut_eq :
    supervisor.carryOut instruction = supervisor.command instruction.message instruction.event := by
  cases instruction <;> rfl

/-- With a link, all else depends on whether the frame can be written. -/
theorem carryOut_of_attached (connected : supervisor.isConnected .motors = true) {link : Link}
    (attached : supervisor.motorsSlot.link = some link) :
    (∀ fault, link.channel.write .left (Frame.wrap instruction.message.serialize) = .error fault →
      supervisor.carryOut instruction = (.error (.frame (.transport fault)), supervisor)) ∧
    ∀ channel, link.channel.write .left (Frame.wrap instruction.message.serialize) = .ok channel →
      supervisor.carryOut instruction = (.ok (), { supervisor with
        motorsSlot := { supervisor.motorsSlot with link := some { link with channel } }
        journal := supervisor.journal ++ [instruction.event] }) := by
  have itsLink : (supervisor.slot .motors).link = some link := attached
  have kept : supervisor.setLink .motors (some link) = supervisor := by
    rw [← attached]
    rfl
  have put_eq : Transport.write link.channel (Frame.wrap instruction.message.serialize) =
      link.channel.put .left (Frame.wrap instruction.message.serialize) := rfl
  rw [carryOut_eq, command, if_pos connected, send, itsLink]
  simp only [link.send_of_fits instruction.wrappedSize_message_le, put_eq, Channel.put]
  constructor
  · intro fault refused
    rw [refused]
    exact congrArg (Prod.mk _) kept
  · intro channel written
    rw [written]
    rfl

/-- All that can come of an instruction. -/
theorem carryOut_cases (supervisor : Supervisor) (instruction : Instruction) :
    (supervisor.isConnected .motors = false ∧
      supervisor.carryOut instruction = (.error (.disconnected .motors), supervisor)) ∨
    (supervisor.isConnected .motors = true ∧ supervisor.motorsSlot.link = none ∧
      supervisor.carryOut instruction = (.error (.notAttached .motors), supervisor)) ∨
    ∃ link, supervisor.isConnected .motors = true ∧ supervisor.motorsSlot.link = some link ∧
      ((∃ fault, (link.channel.closed = true ∨ link.channel.left.failWrites = true) ∧
        link.channel.write .left (Frame.wrap instruction.message.serialize) = .error fault ∧
        supervisor.carryOut instruction = (.error (.frame (.transport fault)), supervisor)) ∨
      (link.channel.closed = false ∧ link.channel.left.failWrites = false ∧
        link.channel.write .left (Frame.wrap instruction.message.serialize) =
          .ok (link.channel.pass (Frame.wrap instruction.message.serialize)) ∧
        supervisor.carryOut instruction = (.ok (), { supervisor with
          motorsSlot := { supervisor.motorsSlot with
            link := some { link with
              channel := link.channel.pass (Frame.wrap instruction.message.serialize) } }
          journal := supervisor.journal ++ [instruction.event] }))) := by
  cases connected : supervisor.isConnected .motors with
  | false =>
    refine .inl ⟨rfl, ?_⟩
    rw [carryOut_eq, command, connected]
    rfl
  | true =>
    cases attached : supervisor.motorsSlot.link with
    | none =>
      have noLink : (supervisor.slot .motors).link = none := attached
      refine .inr (.inl ⟨rfl, rfl, ?_⟩)
      rw [carryOut_eq, command, if_pos connected, send, noLink]
    | some link =>
      obtain ⟨refused, sent⟩ := @carryOut_of_attached _ instruction connected _ attached
      have written := link.channel.write_left_eq (Frame.wrap instruction.message.serialize)
      refine .inr (.inr ⟨link, rfl, rfl, ?_⟩)
      by_cases closed : link.channel.closed = true
      · rw [if_pos closed] at written
        exact .inl ⟨_, .inl closed, written, refused _ written⟩
      · rw [if_neg closed] at written
        by_cases failing : link.channel.left.failWrites = true
        · rw [if_pos failing] at written
          exact .inl ⟨_, .inr failing, written, refused _ written⟩
        · rw [if_neg failing] at written
          exact .inr ⟨Bool.eq_false_iff.mpr closed, Bool.eq_false_iff.mpr failing, written,
            sent _ written⟩

/-- An instruction is sent as a whole or not at all. It succeeds exactly if the motors are
connected and attached over a channel that is open and whose writes do not fail. Then the device
has gained the bytes of one frame, in which a new receiver finds the command with its target and
nothing else. Otherwise the supervisor stays as it was, and the error is the first of what stands
in the way: that the motors are not connected, that they have no link, or the fault of the channel. -/
theorem carryOut_all_or_nothing (supervisor : Supervisor) (instruction : Instruction) :
    let outcome := supervisor.carryOut instruction
    ∃ frame, Frame.ofMessage instruction.message Frame.maxLength = .ok frame ∧
      Receiver.new.feed frame = (⟨.new, 1, 0⟩, [instruction.message]) ∧
      instruction.message.fields.map Field.tag =
        .command :: (instruction.target?.map fun _ => .motorPosition).toList ∧
      instruction.message.command? = some instruction.command ∧
      instruction.message.motorPosition? = instruction.target? ∧
      (outcome.1 = .ok () ↔
        supervisor.isConnected .motors = true ∧
          ∃ link, supervisor.motorsSlot.link = some link ∧ link.channel.closed = false ∧
            link.channel.left.failWrites = false) ∧
      (∀ link, supervisor.motorsSlot.link = some link → outcome.1 = .ok () →
        outcome.2 = { supervisor with
          motorsSlot := { supervisor.motorsSlot with
            link := some { link with channel := link.channel.pass frame } }
          journal := supervisor.journal ++ [instruction.event] }) ∧
      (∀ error, outcome.1 = .error error → outcome.2 = supervisor) ∧
      (supervisor.isConnected .motors = false → outcome.1 = .error (.disconnected .motors)) ∧
      (supervisor.isConnected .motors = true → supervisor.motorsSlot.link = none →
        outcome.1 = .error (.notAttached .motors)) ∧
      ∀ link fault, supervisor.isConnected .motors = true →
        supervisor.motorsSlot.link = some link → link.channel.write .left frame = .error fault →
        outcome.1 = .error (.frame (.transport fault)) := by
  intro outcome
  refine ⟨_, Frame.ofMessage_of_fits instruction.wrappedSize_message_le, instruction.feed_frame,
    ?_, ?_, instruction.motorPosition?_message, ?_⟩
  · cases instruction <;> rfl
  · cases instruction <;> rfl
  rcases supervisor.carryOut_cases instruction with ⟨gone, result⟩ | ⟨connected, detached, result⟩ |
    ⟨link, connected, attached, ⟨fault, blocked, refused, result⟩ |
      ⟨isOpen, writable, written, result⟩⟩
  · simp [outcome, result, gone]
  · simp [outcome, result, connected, detached]
  · have failed : outcome = (.error (.frame (.transport fault)), supervisor) := result
    refine ⟨iff_of_false (by simp [failed]) ?_, by simp [failed], by simp [failed],
      by simp [connected], by simp [attached], ?_⟩
    · rintro ⟨-, other, same, isOpen, writable⟩
      obtain rfl := Option.some.inj (attached.symm.trans same)
      rcases blocked with closed | failing
      · exact Bool.false_ne_true (isOpen.symm.trans closed)
      · exact Bool.false_ne_true (writable.symm.trans failing)
    · intro other again _ same written
      obtain rfl := Option.some.inj (attached.symm.trans same)
      rw [failed, Except.error.inj (refused.symm.trans written)]
  · have sent : outcome = _ := result
    refine ⟨iff_of_true (by simp [sent]) ⟨connected, link, attached, isOpen, writable⟩, ?_,
      by simp [sent], by simp [connected], by simp [attached], ?_⟩
    · intro other same _
      obtain rfl := Option.some.inj (attached.symm.trans same)
      rw [sent]
    · intro other fault _ same refused
      obtain rfl := Option.some.inj (attached.symm.trans same)
      rw [written] at refused
      cases refused

end Supervisor

end OpticalLink
