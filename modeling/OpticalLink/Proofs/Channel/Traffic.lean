import OpticalLink.Proofs.Channel.Flow
import OpticalLink.Proofs.History

/-!
# Traffic over a channel

`Channel.carried_run` is the conservation law of a direction: what waited and what was accepted
since is what was read since and what waits now. `Channel.log_filter` says that the traffic of the
opposite direction can be left out without any effect on this one, and
`Channel.directions_reliable` what both ends can rely on.
-/

namespace OpticalLink

/-! ## Histories -/

/-- Whether something was written. -/
def ChannelAnswer.isWritten : ChannelAnswer → Bool
  | .written (.ok _) => true
  | _ => false

/-- The bytes that were read. -/
def ChannelAnswer.chunk : ChannelAnswer → Bytes
  | .found (.ok (some chunk)) => chunk
  | _ => []

/-- The bytes that an act writes at an end if it succeeds. -/
def ChannelAct.offered (side : Side) : ChannelAct → Bytes
  | .write writer bytes => if writer = side then bytes else []
  | _ => []

/-- An act with its answer. -/
structure ChannelEvent where
  act : ChannelAct
  answer : ChannelAnswer

/-- The bytes that an event adds to those accepted at an end. -/
def ChannelEvent.accepted (event : ChannelEvent) (side : Side) : Bytes :=
  if event.answer.isWritten then event.act.offered side else []

/-- The bytes that an event hands out at an end. -/
def ChannelEvent.delivered (event : ChannelEvent) (side : Side) : Bytes :=
  if event.act = .read side then event.answer.chunk else []

/-- The bytes of all writes at an end that succeeded, in their order. -/
def acceptedAt (side : Side) (events : List ChannelEvent) : Bytes :=
  events.flatMap (ChannelEvent.accepted · side)

/-- The chunks of all reads at an end, one behind the other. -/
def deliveredAt (side : Side) (events : List ChannelEvent) : Bytes :=
  events.flatMap (ChannelEvent.delivered · side)

/-- Whether a channel has been closed by some acts. -/
def closedBy (acts : List ChannelAct) : Bool := acts.any ChannelAct.closes

/-- Whether the writes at an end fail after some acts. -/
def failsAfter (side : Side) (acts : List ChannelAct) : Bool :=
  (acts.filterMap (ChannelAct.failWrites? side)).getLast?.getD false

/-- The most bytes that a read at an end returns after some acts. -/
def chunkSizeAfter (side : Side) (acts : List ChannelAct) : Nat :=
  (acts.filterMap (ChannelAct.chunkSize? side)).getLast?.getD ChannelEnd.defaultChunkSize

namespace Channel

/-- The channel after some acts. -/
def run (channel : Channel) (acts : List ChannelAct) : Channel :=
  acts.foldl (fun channel act => (channel.act act).2) channel

/-- What happens in an act. -/
def event (channel : Channel) (act : ChannelAct) : ChannelEvent := ⟨act, (channel.act act).1⟩

/-- What happens in some acts. -/
def log (channel : Channel) : List ChannelAct → List ChannelEvent
  | [] => []
  | first :: rest => channel.event first :: (channel.act first).2.log rest

variable {channel : Channel} {side : Side}

@[simp] theorem run_nil : channel.run [] = channel := rfl

@[simp] theorem run_cons (first : ChannelAct) (rest : List ChannelAct) :
    channel.run (first :: rest) = (channel.act first).2.run rest := rfl

theorem run_append (first second : List ChannelAct) :
    channel.run (first ++ second) = (channel.run first).run second :=
  List.foldl_append

theorem log_append (first second : List ChannelAct) :
    channel.log (first ++ second) = channel.log first ++ (channel.run first).log second := by
  induction first generalizing channel with
  | nil => rfl
  | cons act rest inductionHypothesis =>
    rw [List.cons_append, log, log, inductionHypothesis, List.cons_append, run_cons]

/-- What an act has accepted at an end is what it adds to the direction from there. -/
theorem accepted_event (act : ChannelAct) :
    (channel.event act).accepted side = (channel.flow side).added side act := by
  cases act with
  | write writer bytes =>
    rw [event, act_write, ChannelEvent.accepted, ChannelFlow.added, ChannelAct.offered]
    by_cases own : writer = side
    · subst own
      by_cases closed : channel.closed = true
      · simp [closed, ChannelAnswer.isWritten, flow, ChannelFlow.IsWritable]
      · by_cases failing : (channel.endAt writer).failWrites = true
        · simp [closed, failing, ChannelAnswer.isWritten, flow, ChannelFlow.IsWritable]
        · simp [closed, failing, ChannelAnswer.isWritten, flow, ChannelFlow.IsWritable]
    · simp [own]
  | _ => exact ite_self _

/-- What an act hands out at an end is what it takes out of the direction to there. -/
theorem delivered_event (act : ChannelAct) :
    (channel.event act).delivered side.other = (channel.flow side).taken side act := by
  cases act with
  | read reader =>
    rw [event, act_read, ChannelEvent.delivered, ChannelFlow.taken]
    by_cases own : reader = side.other
    · subst own
      by_cases empty : channel.pending side.other = []
      · cases closed : channel.closed <;> simp [empty, ChannelAnswer.chunk, flow]
      · simp [empty, ChannelAnswer.chunk, flow]
    · simp [own]
  | _ => exact if_neg (by simp [event])

/-! ## Runs -/

/-- What waited in a direction and was accepted since is what was read since and what waits
now. -/
theorem carried_run (acts : List ChannelAct) :
    channel.pending side.other ++ acceptedAt side (channel.log acts) =
      deliveredAt side.other (channel.log acts) ++ (channel.run acts).pending side.other := by
  induction acts generalizing channel with
  | nil => exact List.append_nil _
  | cons first rest inductionHypothesis =>
    have carried : channel.pending side.other ++ (channel.flow side).added side first =
        (channel.flow side).taken side first ++ (channel.act first).2.pending side.other := by
      rw [pending_act]
      exact (channel.flow side).waiting_append_added side first
    have others := @inductionHypothesis (channel.act first).2
    simp only [acceptedAt, deliveredAt] at others ⊢
    rw [log, List.flatMap_cons, List.flatMap_cons, accepted_event, delivered_event, run_cons,
      ← List.append_assoc, carried, List.append_assoc, others, List.append_assoc]

/-- A channel is closed by the first act that closes it. -/
theorem closed_run (acts : List ChannelAct) :
    (channel.run acts).closed = (channel.closed || closedBy acts) := by
  induction acts generalizing channel with
  | nil => exact (Bool.or_false _).symm
  | cons first rest inductionHypothesis =>
    have split : closedBy (first :: rest) = (first.closes || closedBy rest) := rfl
    rw [run_cons, inductionHypothesis, closed_act, Bool.or_assoc, split]

/-- Whether writes fail is decided by the last act about it. -/
theorem failWrites_run (acts : List ChannelAct) :
    ((channel.run acts).endAt side).failWrites =
      (acts.filterMap (ChannelAct.failWrites? side)).getLast?.getD
        (channel.endAt side).failWrites := by
  refine @read_foldl _ _ _ _ (fun channel => (channel.flow side).failWrites) _ ?_ channel acts
  intro channel act
  rw [flow_act, ChannelFlow.failWrites_after]

/-- What a read returns at most is decided by the last act about it. -/
theorem chunkSize_run (acts : List ChannelAct) :
    ((channel.run acts).endAt side.other).chunkSize =
      (acts.filterMap (ChannelAct.chunkSize? side.other)).getLast?.getD
        (channel.endAt side.other).chunkSize := by
  refine @read_foldl _ _ _ _ (fun channel => (channel.flow side).chunkSize) _ ?_ channel acts
  intro channel act
  rw [flow_act, ChannelFlow.chunkSize_after]

/-! ## After the closing -/

theorem closed_act_of_closed (closed : channel.closed = true) (act : ChannelAct) :
    (channel.act act).2.closed = true := by
  rw [closed_act, closed, Bool.true_or]

/-- Nothing is accepted by a closed channel. -/
theorem acceptedAt_log_of_closed (closed : channel.closed = true) (acts : List ChannelAct) :
    acceptedAt side (channel.log acts) = [] := by
  induction acts generalizing channel with
  | nil => rfl
  | cons first rest inductionHypothesis =>
    have nothing : (channel.event first).accepted side = [] := by
      rw [accepted_event]
      exact ChannelFlow.added_of_closed side closed first
    have others := inductionHypothesis (closed_act_of_closed closed first)
    rw [acceptedAt] at others ⊢
    rw [log, List.flatMap_cons, nothing, others, List.append_nil]

theorem chunkSize_act_pos (positive : 0 < (channel.endAt side.other).chunkSize)
    (act : ChannelAct) : 0 < ((channel.act act).2.endAt side.other).chunkSize := by
  have after : ((channel.act act).2.endAt side.other).chunkSize = _ :=
    congrArg ChannelFlow.chunkSize (flow_act act)
  rw [after]
  exact ChannelFlow.chunkSize_after_pos side positive act

/-- A read can always return something. -/
theorem chunkSize_run_pos (positive : 0 < (channel.endAt side.other).chunkSize)
    (acts : List ChannelAct) : 0 < ((channel.run acts).endAt side.other).chunkSize := by
  induction acts generalizing channel with
  | nil => exact positive
  | cons first rest inductionHypothesis => exact inductionHypothesis (chunkSize_act_pos positive first)

/-- A closed channel is empty after as many reads as bytes waited, whatever else is done. -/
theorem length_pending_run_le (closed : channel.closed = true)
    (positive : 0 < (channel.endAt side.other).chunkSize) (acts : List ChannelAct) :
    ((channel.run acts).pending side.other).length ≤
      (channel.pending side.other).length - acts.count (.read side.other) := by
  induction acts generalizing channel with
  | nil => exact Nat.le_refl _
  | cons first rest inductionHypothesis =>
    have first_le : ((channel.act first).2.pending side.other).length ≤
        (channel.pending side.other).length - [first].count (.read side.other) := by
      rw [pending_act]
      exact ChannelFlow.length_waiting_after_le side closed positive first
    have rest_le := inductionHypothesis (closed_act_of_closed closed first)
      (chunkSize_act_pos positive first)
    rw [← List.singleton_append, List.count_append, List.singleton_append, run_cons]
    omega

/-- All that waits in a closed channel is handed out in as many reads as it has bytes, whatever
else is done. -/
theorem deliveredAt_log_of_closed (closed : channel.closed = true)
    (positive : 0 < (channel.endAt side.other).chunkSize) {acts : List ChannelAct}
    (reads : (channel.pending side.other).length ≤ acts.count (.read side.other)) :
    deliveredAt side.other (channel.log acts) = channel.pending side.other := by
  have emptied : (channel.run acts).pending side.other = [] := by
    have bound := length_pending_run_le closed positive acts
    exact List.length_eq_zero_iff.mp (Nat.le_zero.mp (Nat.sub_eq_zero_of_le reads ▸ bound))
  have carried := @carried_run channel side acts
  rw [acceptedAt_log_of_closed closed, emptied, List.append_nil, List.append_nil] at carried
  exact carried.symm

/-! ## Leaving out the opposite direction -/

/-- How an act of a direction is answered depends on that direction alone. -/
theorem answer_congr {other : Channel} (alike : channel.flow side = other.flow side)
    {act : ChannelAct} (spares : act.spares side = true) :
    (channel.act act).1 = (other.act act).1 := by
  obtain ⟨waiting, chunkSize, failWrites, closed⟩ := ChannelFlow.mk.inj alike
  cases act with
  | write writer bytes =>
    obtain rfl : writer = side := eq_of_beq spares
    rw [act_write, act_write, closed, failWrites]
    split
    next => rfl
    next => split <;> rfl
  | read reader =>
    obtain rfl : reader = side.other := eq_of_beq spares
    rw [act_read, act_read, waiting, chunkSize, closed]
  | _ => rfl

/-- Without the traffic of the opposite direction, a direction goes the same way. -/
theorem log_filter {other : Channel} (alike : channel.flow side = other.flow side)
    (acts : List ChannelAct) :
    other.log (acts.filter (ChannelAct.spares side)) =
        (channel.log acts).filter (fun event => event.act.spares side) ∧
      (other.run (acts.filter (ChannelAct.spares side))).flow side =
        (channel.run acts).flow side := by
  induction acts generalizing channel other with
  | nil => exact ⟨rfl, alike.symm⟩
  | cons first rest inductionHypothesis =>
    cases spares : first.spares side with
    | true =>
      have sameEvent : other.event first = channel.event first :=
        congrArg (ChannelEvent.mk first) (answer_congr alike spares).symm
      have after : (channel.act first).2.flow side = (other.act first).2.flow side := by
        rw [flow_act, flow_act, alike]
      obtain ⟨sameLog, sameFlow⟩ := inductionHypothesis after
      have kept : (channel.log (first :: rest)).filter (fun event => event.act.spares side) =
          channel.event first ::
            ((channel.act first).2.log rest).filter (fun event => event.act.spares side) :=
        List.filter_cons_of_pos spares
      rw [List.filter_cons_of_pos spares, log, kept, sameEvent, sameLog, run_cons, run_cons]
      exact ⟨rfl, sameFlow⟩
    | false =>
      have after : (channel.act first).2.flow side = other.flow side := by
        rw [flow_act, ChannelFlow.after_of_not_spares side spares, alike]
      obtain ⟨sameLog, sameFlow⟩ := inductionHypothesis after
      have dropped : (channel.log (first :: rest)).filter (fun event => event.act.spares side) =
          ((channel.act first).2.log rest).filter (fun event => event.act.spares side) :=
        List.filter_cons_of_neg (Bool.eq_false_iff.mp spares)
      rw [List.filter_cons_of_neg (Bool.eq_false_iff.mp spares), dropped, run_cons]
      exact ⟨sameLog, sameFlow⟩

/-! ## Reliability -/

theorem failWrites_run_pair (acts : List ChannelAct) :
    ((pair.run acts).endAt side).failWrites = failsAfter side acts := by
  have initial : (pair.endAt side).failWrites = false := by cases side <;> rfl
  rw [failsAfter, ← initial]
  exact failWrites_run acts

theorem chunkSize_run_pair (acts : List ChannelAct) :
    ((pair.run acts).endAt side.other).chunkSize = chunkSizeAfter side.other acts := by
  have initial : (pair.endAt side.other).chunkSize = ChannelEnd.defaultChunkSize := by
    cases side <;> rfl
  rw [chunkSizeAfter, ← initial]
  exact chunkSize_run acts

/-- What was read and what waits is what was accepted. -/
theorem carried_run_pair (acts : List ChannelAct) :
    deliveredAt side.other (pair.log acts) ++ (pair.run acts).pending side.other =
      acceptedAt side (pair.log acts) := by
  have empty : pair.pending side.other = [] := by cases side <;> rfl
  have carried := @carried_run pair side acts
  rw [empty, List.nil_append] at carried
  exact carried.symm

/-- Whatever is done at both ends, in each direction the bytes that were read and those that wait
are the bytes that were accepted, in their order. A write succeeds exactly while the channel is
open and writes there are not made to fail; else it changes nothing, and fails with the closing
if there was one. A read hands out between one byte and as many as it may, or reports that
nothing waits, which it calls the closing if there was one. After the closing, all that waits can
still be read. The traffic of the opposite direction has no effect on any of this. -/
theorem directions_reliable (acts : List ChannelAct) (side : Side) :
    let channel := pair.run acts
    let events := pair.log acts
    let waiting := channel.pending side.other
    let write := fun bytes => channel.act (.write side bytes)
    let found := (channel.act (.read side.other)).1
    let own := acts.filter (ChannelAct.spares side)
    deliveredAt side.other events ++ waiting = acceptedAt side events ∧
    (∀ bytes,
      ((write bytes).1 = .written (.ok ()) ↔
        closedBy acts = false ∧ failsAfter side acts = false) ∧
      (closedBy acts = true → (write bytes).1 = .written (.error .closed)) ∧
      ((write bytes).1 ≠ .written (.ok ()) → (write bytes).2 = channel)) ∧
    (∀ chunk, found = .found (.ok (some chunk)) →
      1 ≤ chunk.length ∧ chunk.length ≤ chunkSizeAfter side.other acts) ∧
    (found = .found (.ok none) ↔ waiting = [] ∧ closedBy acts = false) ∧
    (found = .found (.error .closed) ↔ waiting = [] ∧ closedBy acts = true) ∧
    (∀ error, found = .found (.error error) → error = .closed) ∧
    (closedBy acts = true → ∀ later, waiting.length ≤ later.count (.read side.other) →
      deliveredAt side.other (pair.log (acts ++ later)) = acceptedAt side events) ∧
    (pair.run own).pending side.other = waiting ∧
    pair.log own = events.filter (fun event => event.act.spares side) := by
  intro channel events waiting write found own
  have closed : channel.closed = closedBy acts := closed_run acts
  have failWrites : (channel.endAt side).failWrites = failsAfter side acts :=
    failWrites_run_pair acts
  have chunkSize : (channel.endAt side.other).chunkSize = chunkSizeAfter side.other acts :=
    chunkSize_run_pair acts
  have positive : 0 < (channel.endAt side.other).chunkSize := by
    refine chunkSize_run_pos ?_ acts
    cases side <;> decide
  have carried : deliveredAt side.other events ++ waiting = acceptedAt side events :=
    carried_run_pair acts
  refine ⟨carried, fun bytes => ⟨?_, ?_, act_write_of_failed⟩, ?_, ?_, ?_, ?_, ?_, ?_⟩
  · rw [← closed, ← failWrites]
    exact act_write_eq_written_iff
  · intro isClosed
    have answer := congrArg Prod.fst (@act_write channel side bytes)
    rwa [closed, isClosed, if_pos rfl] at answer
  · intro chunk handed
    rw [← chunkSize]
    exact length_of_act_read_eq_found positive handed
  · rw [← closed]
    exact act_read_eq_found_none_iff
  · rw [← closed]
    exact act_read_eq_found_error_iff.trans (by simp [waiting])
  · exact fun error failed => (act_read_eq_found_error_iff.mp failed).2.2
  · intro isClosed later reads
    rw [isClosed] at closed
    rw [log_append, deliveredAt, List.flatMap_append, ← carried]
    exact congrArg _ (deliveredAt_log_of_closed closed positive reads)
  · obtain ⟨sameLog, sameFlow⟩ := @log_filter pair side pair rfl acts
    exact ⟨congrArg ChannelFlow.waiting sameFlow, sameLog⟩

end Channel

end OpticalLink
