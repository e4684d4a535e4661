import OpticalLink.Proofs.Link.Reading

/-!
# The two directions of a channel

Both ends of a channel may be written to, read, slowed down, made to fail and closed in any
order. A direction of a channel is named by the end that is written to; what is written there
waits at the other end. `ChannelFlow` is all that decides how a direction goes on, and
`Channel.flow_act` says that an act changes a direction by itself: the opposite direction has no
part in it.
-/

namespace OpticalLink

/-- What can be done at the ends of a channel. -/
inductive ChannelAct where
  | write (side : Side) (bytes : Bytes)
  | read (side : Side)
  /-- The writes at an end fail or succeed from now on. -/
  | setFailWrites (side : Side) (fail : Bool)
  /-- Reads at an end return so many bytes at most from now on. -/
  | setChunkSize (side : Side) (chunkSize : Nat)
  /-- Both ends are closed from one of them. -/
  | close (side : Side)
deriving DecidableEq, Repr

/-- What is answered to an act. -/
inductive ChannelAnswer where
  | written (result : Except TransportError Unit)
  | found (result : Except TransportError (Option Bytes))
  | done

namespace ChannelAct

/-- Whether an act closes the channel. -/
def closes : ChannelAct → Bool
  | .close _ => true
  | _ => false

/-- Whether an act makes the writes at an end fail, if it is about that. -/
def failWrites? (side : Side) : ChannelAct → Option Bool
  | .setFailWrites writer fail => if writer = side then some fail else none
  | _ => none

/-- The most bytes that an act lets a read at an end return, if it is about that. -/
def chunkSize? (side : Side) : ChannelAct → Option Nat
  | .setChunkSize reader chunkSize => if reader = side then some (max chunkSize 1) else none
  | _ => none

/-- Whether an act is no traffic of the direction opposite to that of an end. -/
def spares (side : Side) : ChannelAct → Bool
  | .write writer _ => writer == side
  | .read reader => reader == side.other
  | _ => true

end ChannelAct

namespace Side

@[simp] theorem other_other (side : Side) : side.other.other = side := by
  cases side <;> rfl

@[simp] theorem other_ne (side : Side) : side.other ≠ side := by
  cases side <;> decide

@[simp] theorem ne_other (side : Side) : side ≠ side.other :=
  side.other_ne.symm

theorem eq_or_eq_other (first second : Side) : first = second ∨ first = second.other := by
  cases first <;> cases second <;> decide

end Side

namespace Channel

/-- An open channel with nothing to read, whose ends were given no chunk sizes. -/
def pair : Channel := new ChannelEnd.defaultChunkSize ChannelEnd.defaultChunkSize

/-- The answer to an act, and the channel after it. -/
def act (channel : Channel) : ChannelAct → ChannelAnswer × Channel
  | .write side bytes =>
    match channel.write side bytes with
    | .ok after => (.written (.ok ()), after)
    | .error error => (.written (.error error), channel)
  | .read side => (.found (channel.read side).1, (channel.read side).2)
  | .setFailWrites side fail => (.done, channel.setFailWrites side fail)
  | .setChunkSize side chunkSize => (.done, channel.setChunkSize side chunkSize)
  | .close _ => (.done, channel.close)

variable {channel : Channel} {side : Side}

/-! ## What one act does -/

@[simp] theorem endAt_setEnd_other (replacement : ChannelEnd) :
    (channel.setEnd side.other replacement).endAt side = channel.endAt side := by
  cases side <;> rfl

@[simp] theorem endAt_other_setEnd (replacement : ChannelEnd) :
    (channel.setEnd side replacement).endAt side.other = channel.endAt side.other := by
  cases side <;> rfl

/-- The channel after some bytes have reached the end that is not the writing one. -/
def arrive (channel : Channel) (side : Side) (bytes : Bytes) : Channel :=
  channel.setEnd side.other
    { channel.endAt side.other with inbound := channel.pending side.other ++ bytes }

/-- How a write is answered. A write that fails leaves the channel as it is. -/
theorem act_write (bytes : Bytes) :
    channel.act (.write side bytes) =
      if channel.closed then (.written (.error .closed), channel)
      else if (channel.endAt side).failWrites then
        (.written (.error (.io simulatedWriteFault)), channel)
      else (.written (.ok ()), channel.arrive side bytes) := by
  simp only [act, write]
  by_cases closed : channel.closed = true
  · simp only [closed, if_true]
  · by_cases failing : (channel.endAt side).failWrites = true
    · simp only [closed, failing, if_true, Bool.false_eq_true, if_false]
    · simp only [closed, failing, Bool.false_eq_true, if_false]
      rfl

/-- A write succeeds while the channel is open and writes at the end are not made to fail. -/
theorem act_write_eq_written_iff {bytes : Bytes} :
    (channel.act (.write side bytes)).1 = .written (.ok ()) ↔
      channel.closed = false ∧ (channel.endAt side).failWrites = false := by
  rw [act_write]
  cases channel.closed <;> cases (channel.endAt side).failWrites <;> simp

/-- A write that fails changes nothing. -/
theorem act_write_of_failed {bytes : Bytes}
    (failed : (channel.act (.write side bytes)).1 ≠ .written (.ok ())) :
    (channel.act (.write side bytes)).2 = channel := by
  rw [act_write] at failed ⊢
  split
  next => rfl
  next stillOpen =>
    split
    next => rfl
    next writable => simp [stillOpen, writable] at failed

/-- How a read is answered. -/
theorem act_read :
    channel.act (.read side) =
      (if channel.pending side = [] then
          .found (if channel.closed then .error .closed else .ok none)
        else .found (.ok (some ((channel.pending side).take (channel.endAt side).chunkSize))),
        channel.discard side (channel.endAt side).chunkSize) := by
  by_cases empty : channel.pending side = []
  · rw [act, read_of_pending_eq_nil empty, if_pos empty, discard_of_pending_eq_nil empty]
  · rw [act, read_of_pending_ne_nil empty, if_neg empty]

/-- A read hands out some of the bytes that wait, and no more than it may. -/
theorem length_of_act_read_eq_found {chunk : Bytes}
    (positive : 0 < (channel.endAt side).chunkSize)
    (found : (channel.act (.read side)).1 = .found (.ok (some chunk))) :
    1 ≤ chunk.length ∧ chunk.length ≤ (channel.endAt side).chunkSize := by
  rw [act_read] at found
  by_cases empty : channel.pending side = []
  · cases closed : channel.closed <;> simp [empty, closed] at found
  · simp only [empty, if_false, ChannelAnswer.found.injEq, Except.ok.injEq,
      Option.some.injEq] at found
    subst found
    have waiting := List.length_pos_iff.mpr empty
    rw [List.length_take]
    omega

/-- A read finds nothing where nothing waits and the channel is open. -/
theorem act_read_eq_found_none_iff :
    (channel.act (.read side)).1 = .found (.ok none) ↔
      channel.pending side = [] ∧ channel.closed = false := by
  rw [act_read]
  by_cases empty : channel.pending side = [] <;> cases channel.closed <;> simp [empty]

/-- A read fails where nothing waits and the channel is closed, and it fails with the closing. -/
theorem act_read_eq_found_error_iff {error : TransportError} :
    (channel.act (.read side)).1 = .found (.error error) ↔
      channel.pending side = [] ∧ channel.closed = true ∧ error = .closed := by
  rw [act_read]
  by_cases empty : channel.pending side = [] <;> cases channel.closed <;> simp [empty, eq_comm]

end Channel

/-! ## One direction -/

/-- What decides how a direction of a channel goes on. -/
structure ChannelFlow where
  /-- Bytes that were written and not yet read. -/
  waiting : Bytes
  chunkSize : Nat
  failWrites : Bool
  closed : Bool
deriving DecidableEq, Repr

namespace ChannelFlow

variable (flow : ChannelFlow) (side : Side)

/-- Whether a write would succeed. -/
def IsWritable : Prop := flow.closed = false ∧ flow.failWrites = false

instance : Decidable flow.IsWritable := inferInstanceAs (Decidable (_ ∧ _))

/-- The bytes that an act adds to a direction. -/
def added : ChannelAct → Bytes
  | .write writer bytes => if writer = side ∧ flow.IsWritable then bytes else []
  | _ => []

/-- The bytes that an act takes out of a direction. -/
def taken : ChannelAct → Bytes
  | .read reader => if reader = side.other then flow.waiting.take flow.chunkSize else []
  | _ => []

/-- A direction after an act. -/
def after : ChannelAct → ChannelFlow
  | .write writer bytes =>
    if writer = side ∧ flow.IsWritable then { flow with waiting := flow.waiting ++ bytes } else flow
  | .read reader =>
    if reader = side.other then { flow with waiting := flow.waiting.drop flow.chunkSize } else flow
  | .setFailWrites writer fail => if writer = side then { flow with failWrites := fail } else flow
  | .setChunkSize reader chunkSize =>
    if reader = side.other then { flow with chunkSize := max chunkSize 1 } else flow
  | .close _ => { flow with closed := true }

/-- What waits and what is added is what is taken and what waits then. -/
theorem waiting_append_added (act : ChannelAct) :
    flow.waiting ++ flow.added side act =
      flow.taken side act ++ (flow.after side act).waiting := by
  cases act with
  | write writer bytes =>
    simp only [added, taken, after, List.nil_append]
    split
    next => rfl
    next => exact List.append_nil _
  | read reader =>
    simp only [added, taken, after, List.append_nil]
    split
    next => exact (List.take_append_drop _ _).symm
    next => rfl
  | setFailWrites writer fail =>
    simp only [added, taken, after, List.append_nil, List.nil_append, apply_ite, ite_self]
  | setChunkSize reader chunkSize =>
    simp only [added, taken, after, List.append_nil, List.nil_append, apply_ite, ite_self]
  | close closer => exact List.append_nil _

theorem closed_after (act : ChannelAct) :
    (flow.after side act).closed = (flow.closed || act.closes) := by
  cases act <;> grind [after, ChannelAct.closes]

theorem failWrites_after (act : ChannelAct) :
    (flow.after side act).failWrites = (act.failWrites? side).getD flow.failWrites := by
  cases act <;> grind [after, ChannelAct.failWrites?]

theorem chunkSize_after (act : ChannelAct) :
    (flow.after side act).chunkSize = (act.chunkSize? side.other).getD flow.chunkSize := by
  cases act <;> grind [after, ChannelAct.chunkSize?]

/-- A direction lets a read return something, and goes on doing so. -/
theorem chunkSize_after_pos {flow : ChannelFlow} (positive : 0 < flow.chunkSize)
    (act : ChannelAct) : 0 < (flow.after side act).chunkSize := by
  cases act <;> grind [after]

/-- Nothing is added to a closed direction. -/
theorem added_of_closed {flow : ChannelFlow} (closed : flow.closed = true) (act : ChannelAct) :
    flow.added side act = [] := by
  cases act <;> simp [added, IsWritable, closed]

/-- Each read takes a byte at least out of a closed direction, as long as one waits there. -/
theorem length_waiting_after_le {flow : ChannelFlow} (closed : flow.closed = true)
    (positive : 0 < flow.chunkSize) (act : ChannelAct) :
    (flow.after side act).waiting.length ≤
      flow.waiting.length - [act].count (.read side.other) := by
  cases act with
  | read reader =>
    by_cases own : reader = side.other
    · have counted : [ChannelAct.read reader].count (.read side.other) = 1 := by
        rw [own, List.count_singleton_self]
      rw [after, if_pos own, counted, List.length_drop]
      exact Nat.sub_le_sub_left positive _
    · rw [after, if_neg own]
      simp [own]
  | _ => simp [after, IsWritable, closed, apply_ite]

/-- The traffic of the opposite direction changes nothing. -/
theorem after_of_not_spares {flow : ChannelFlow} {act : ChannelAct}
    (opposite : act.spares side = false) : flow.after side act = flow := by
  cases act <;> grind [after, ChannelAct.spares]

end ChannelFlow

namespace Channel

variable {channel : Channel} {side : Side}

/-- The direction of a channel from an end to the other one. -/
def flow (channel : Channel) (side : Side) : ChannelFlow where
  waiting := channel.pending side.other
  chunkSize := (channel.endAt side.other).chunkSize
  failWrites := (channel.endAt side).failWrites
  closed := channel.closed

/-- A write that fails changes nothing; one that succeeds changes the direction from its end. -/
theorem flow_act_write (writer : Side) (bytes : Bytes) :
    (channel.act (.write writer bytes)).2.flow side =
      (channel.flow side).after side (.write writer bytes) := by
  rw [act_write]
  rcases writer.eq_or_eq_other side with rfl | rfl
  · by_cases closed : channel.closed = true
    · simp [closed, flow, ChannelFlow.after, ChannelFlow.IsWritable]
    · by_cases failing : (channel.endAt writer).failWrites = true
      · simp [closed, failing, flow, ChannelFlow.after, ChannelFlow.IsWritable]
      · simp [closed, failing, flow, ChannelFlow.after, ChannelFlow.IsWritable, arrive, pending]
  · by_cases closed : channel.closed = true
    · simp [closed, ChannelFlow.after]
    · by_cases failing : (channel.endAt side.other).failWrites = true
      · simp [closed, failing, ChannelFlow.after]
      · simp [closed, failing, ChannelFlow.after, arrive, flow, pending]

/-- An act changes a direction by itself: the opposite direction has no part in it. -/
theorem flow_act (act : ChannelAct) :
    (channel.act act).2.flow side = (channel.flow side).after side act := by
  cases act with
  | write writer bytes => exact flow_act_write writer bytes
  | read reader =>
    rw [act_read]
    rcases reader.eq_or_eq_other side with rfl | rfl <;>
      simp [discard, flow, ChannelFlow.after, pending]
  | setFailWrites writer fail =>
    rcases writer.eq_or_eq_other side with rfl | rfl <;>
      simp [act, setFailWrites, flow, ChannelFlow.after, pending]
  | setChunkSize reader chunkSize =>
    rcases reader.eq_or_eq_other side with rfl | rfl <;>
      simp [act, setChunkSize, flow, ChannelFlow.after, pending]
  | close closer => rfl

theorem pending_act (act : ChannelAct) :
    (channel.act act).2.pending side.other = ((channel.flow side).after side act).waiting :=
  congrArg ChannelFlow.waiting (flow_act act)

theorem closed_act (act : ChannelAct) :
    (channel.act act).2.closed = (channel.closed || act.closes) :=
  (congrArg ChannelFlow.closed (flow_act act)).trans ((channel.flow .left).closed_after _ act)

end Channel

end OpticalLink
