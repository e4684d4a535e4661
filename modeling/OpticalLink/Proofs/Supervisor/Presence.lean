import Mathlib.Data.List.Induction
import OpticalLink.Proofs.Supervisor.Chronicle
import OpticalLink.Proofs.Supervisor.Watch

/-!
# Coming and going

A peer comes and goes in turn, and each time is told once. `Liveness.Balanced` is the invariant
behind this: the peer is connected exactly after an odd number of edges. A supervisor changes
the presence of a peer by calls alone (`Supervisor.liveness_perform`) and tells their edges
(`Supervisor.told_presence_perform`), so what holds of calls holds of runs.
-/

namespace OpticalLink

namespace Liveness

/-! ## Calls -/

/-- What can be done to the presence of a peer. -/
inductive Call where
  | markSeen (now : Instant)
  | armKeepalive (deadline : Instant)
  | expire (now : Instant)
deriving DecidableEq, Repr

/-- What a call tells and leaves. Setting a deadline tells nothing. -/
def call (liveness : Liveness) : Call → Bool × Liveness
  | .markSeen now => liveness.markSeen now
  | .armKeepalive deadline => (false, liveness.armKeepalive deadline)
  | .expire now => liveness.expire now

/-- The presence after some calls. -/
def callAll (liveness : Liveness) (calls : List Call) : Liveness :=
  calls.foldl (fun liveness call => (liveness.call call).2) liveness

/-- The time of a reply. -/
def Call.seen? : Call → Option Instant
  | .markSeen now => some now
  | _ => none

/-- How a peer changes between connected and disconnected. -/
inductive Edge where
  | appeared
  | vanished
deriving DecidableEq, Repr

/-- So many edges in turn, the first of which is that the peer appears. -/
def alternating (count : Nat) : List Edge :=
  (List.range count).map fun index => if index % 2 = 0 then .appeared else .vanished

/-- The edge that a call tells. -/
def edge? (liveness : Liveness) : Call → Option Edge
  | .markSeen now => if (liveness.markSeen now).1 then some .appeared else none
  | .armKeepalive _ => none
  | .expire now => if (liveness.expire now).1 then some .vanished else none

/-- The edges that some calls tell. -/
def edges (liveness : Liveness) : List Call → List Edge
  | [] => []
  | first :: rest => (liveness.edge? first).toList ++ (liveness.call first).2.edges rest

variable {liveness : Liveness}

theorem alternating_succ (count : Nat) :
    alternating (count + 1) =
      alternating count ++ [if count % 2 = 0 then .appeared else .vanished] := by
  rw [alternating, List.range_succ, List.map_append]
  rfl

/-- A call tells an edge if it answers that there is one. -/
theorem isSome_edge? (liveness : Liveness) (call : Call) :
    (liveness.edge? call).isSome = (liveness.call call).1 := by
  cases call with
  | markSeen now => rw [edge?, Liveness.call]; cases (liveness.markSeen now).1 <;> rfl
  | armKeepalive deadline => rfl
  | expire now => rw [edge?, Liveness.call]; cases (liveness.expire now).1 <;> rfl

/-- A call leaves the peer connected or disconnected, or it connects a peer that was not, or it
disconnects one that was. -/
theorem call_cases (liveness : Liveness) (call : Call) :
    let after := (liveness.call call).2
    (liveness.edge? call = none ∧ after.connected = liveness.connected ∧
        after.transitions = liveness.transitions) ∨
      (liveness.edge? call = some .appeared ∧ liveness.connected = false ∧
        after.connected = true ∧ after.transitions = liveness.transitions + 1) ∨
      liveness.edge? call = some .vanished ∧ liveness.connected = true ∧
        after.connected = false ∧ after.transitions = liveness.transitions + 1 := by
  obtain ⟨connected, lastSeen, keepalive, transitions⟩ := liveness
  cases call with
  | markSeen now =>
    cases connected with
    | false => exact .inr (.inl ⟨rfl, rfl, rfl, rfl⟩)
    | true => exact .inl ⟨rfl, rfl, rfl⟩
  | armKeepalive deadline => exact .inl ⟨rfl, rfl, rfl⟩
  | expire now =>
    cases keepalive with
    | none => exact .inl ⟨rfl, rfl, rfl⟩
    | some deadline =>
      by_cases early : now < deadline
      · exact .inl (by simp [edge?, Liveness.call, Liveness.expire, early])
      · cases connected with
        | false => exact .inl (by simp [edge?, Liveness.call, Liveness.expire, early])
        | true => exact .inr (.inr (by simp [edge?, Liveness.call, Liveness.expire, early]))

/-- A call answers that there is an edge exactly if it changes whether the peer is connected. -/
theorem call_eq_true_iff (liveness : Liveness) (call : Call) :
    (liveness.call call).1 = true ↔ (liveness.call call).2.connected ≠ liveness.connected := by
  rw [← isSome_edge?]
  rcases liveness.call_cases call with ⟨edge, same, -⟩ | ⟨edge, was, is, -⟩ | ⟨edge, was, is, -⟩
  · rw [edge, same]
    exact iff_of_false nofun (not_not_intro rfl)
  · rw [edge, was, is]
    exact iff_of_true rfl nofun
  · rw [edge, was, is]
    exact iff_of_true rfl nofun

/-- A reply is the last one, and no other call changes when that was. -/
theorem lastSeen_call (liveness : Liveness) (call : Call) :
    (liveness.call call).2.lastSeen = call.seen?.or liveness.lastSeen := by
  cases call with
  | markSeen now =>
    rw [Liveness.call, markSeen]
    split <;> rfl
  | armKeepalive deadline => rfl
  | expire now =>
    simp only [Liveness.call, expire]
    split
    next => rfl
    next =>
      split
      next => rfl
      next => split <;> rfl

/-- The last reply is the latest call that was one. -/
theorem lastSeen_callAll (liveness : Liveness) (calls : List Call) :
    (liveness.callAll calls).lastSeen =
      (calls.filterMap Call.seen?).getLast?.or liveness.lastSeen := by
  induction calls generalizing liveness with
  | nil => rfl
  | cons first rest inductionHypothesis =>
    have step : liveness.callAll (first :: rest) = (liveness.call first).2.callAll rest := rfl
    rw [step, inductionHypothesis, lastSeen_call, List.filterMap_cons]
    cases first.seen? with
    | none => rfl
    | some now =>
      rw [List.getLast?_cons]
      cases (rest.filterMap Call.seen?).getLast? <;> rfl

/-! ## Balance -/

/-- The edges so far alternate, the peer is connected after an odd number of them, and it has
replied if it is. -/
structure Balanced (liveness : Liveness) (edges : List Edge) : Prop where
  edges_eq : edges = alternating liveness.transitions
  connected_iff : liveness.connected = true ↔ liveness.transitions % 2 = 1
  seen : liveness.connected = true → liveness.lastSeen ≠ none

theorem balanced_new : new.Balanced [] where
  edges_eq := rfl
  connected_iff := iff_of_false nofun nofun
  seen := nofun

/-- A call keeps the balance with the edge that it tells. -/
theorem Balanced.call {edges : List Edge} (balanced : liveness.Balanced edges) (call : Call) :
    (liveness.call call).2.Balanced (edges ++ (liveness.edge? call).toList) := by
  obtain ⟨edges_eq, connected_iff, seen⟩ := balanced
  -- A peer is never forgotten, so a call that leaves it connected leaves it seen.
  have stillSeen (was : liveness.connected = true) : (liveness.call call).2.lastSeen ≠ none := by
    rw [lastSeen_call, ne_eq, Option.or_eq_none_iff]
    exact fun unseen => seen was unseen.2
  rcases liveness.call_cases call with
    ⟨edge, same, count⟩ | ⟨edge, was, is, count⟩ | ⟨edge, was, is, count⟩
  · constructor
    · rw [edge, Option.toList_none, List.append_nil, count, edges_eq]
    · rw [same, count, connected_iff]
    · rw [same]
      exact stillSeen
  · have even : liveness.transitions % 2 = 0 := by
      have notOdd := mt connected_iff.mpr (by rw [was]; exact nofun)
      omega
    constructor
    · rw [edge, Option.toList_some, count, alternating_succ, if_pos even, edges_eq]
    · rw [count]
      exact iff_of_true is (by omega)
    · intro _
      -- Of the calls only a reply makes a peer appear.
      cases call with
      | markSeen now => rw [lastSeen_call]; exact nofun
      | armKeepalive deadline => cases edge
      | expire now =>
        simp only [edge?] at edge
        split at edge <;> cases edge
  · have odd := connected_iff.mp was
    constructor
    · rw [edge, Option.toList_some, count, alternating_succ, if_neg (by omega), edges_eq]
    · rw [count, is]
      exact iff_of_false nofun (by omega)
    · intro _
      exact stillSeen was

/-- Calls keep the balance with the edges that they tell. -/
theorem Balanced.callAll {before : List Edge} (balanced : liveness.Balanced before)
    (calls : List Call) : (liveness.callAll calls).Balanced (before ++ liveness.edges calls) := by
  induction calls generalizing liveness before with
  | nil =>
    rw [edges, List.append_nil]
    exact balanced
  | cons first rest inductionHypothesis =>
    rw [edges, ← List.append_assoc]
    exact inductionHypothesis (balanced.call first)

end Liveness

/-! ## Runs -/

/-- How an edge of a peer is told. -/
def Liveness.Edge.event (peer : Peer) : Edge → Event
  | .appeared => .connected peer
  | .vanished => .disconnected peer

namespace Supervisor

variable {T : Type} [Transport T]

variable {supervisor : Supervisor T} {peer : Peer}

/-- When a peer replies in the message that a step handles. -/
def Step.replyTime? (peer : Peer) : Step T → Option Instant
  | .call (.handle sender message now) | .handleReceived sender message now =>
    if sender = peer ∧ message.reply?.isSome then some now else none
  | _ => none

/-- What a step does to the presence of a peer. -/
def contact? (supervisor : Supervisor T) (peer : Peer) : Step T → Option Liveness.Call
  | .call (.handle sender message now) | .handleReceived sender message now =>
    if sender = peer ∧ message.reply?.isSome then some (.markSeen now) else none
  | .expire other now => if other = peer then some (.expire now) else none
  | .request now =>
    if (supervisor.slot peer).link.isSome then
      some (.armKeepalive (now + supervisor.settings.keepaliveTimeout))
    else none
  | _ => none

/-- What some steps do to the presence of a peer. -/
def contacts (supervisor : Supervisor T) (peer : Peer) : List (Step T) → List Liveness.Call
  | [] => []
  | first :: rest =>
    (supervisor.contact? peer first).toList ++ (supervisor.step first).contacts peer rest

/-- A step changes the presence of a peer by its contact, and by nothing else. -/
theorem liveness_step (step : Step T) :
    ((supervisor.step step).slot peer).liveness =
      (supervisor.contact? peer step).elim (supervisor.slot peer).liveness
        fun call => ((supervisor.slot peer).liveness.call call).2 := by
  show ((supervisor.step step).watch peer).liveness = _
  have handled (sender : Peer) (message : Message) (now : Instant) :
      ((if sender = peer ∧ message.reply?.isSome then some (Signal.reply now) else none).elim
        (supervisor.watch peer) (supervisor.watch peer).follow).liveness =
      (if sender = peer ∧ message.reply?.isSome then some (Liveness.Call.markSeen now)
        else none).elim (supervisor.slot peer).liveness
        fun call => ((supervisor.slot peer).liveness.call call).2 := by
    split <;> rfl
  rw [watch_step]
  cases step with
  | call call =>
    cases call with
    | attach other channel => simp only [Step.signal?, contact?]; split <;> rfl
    | detach other => simp only [Step.signal?, contact?]; split <;> rfl
    | handle sender message now => exact handled sender message now
    | _ => rfl
  | receive other => rfl
  | handleReceived sender message now => exact handled sender message now
  | expire other now => simp only [Step.signal?, contact?]; split <;> rfl
  | request now =>
    simp only [Step.signal?, contact?, Option.elim_some, Watch.follow, Watch.ask, watch]
    split <;> rfl

/-- The status requests tell nothing of the presence of a peer. -/
theorem told_presence_requestStatus (now : Instant) :
    (supervisor.requestStatus now).told (.presence peer) = supervisor.told (.presence peer) := by
  simp only [requestStatus, Peer.all, List.foldl_cons, List.foldl_nil, told_requestFrom,
    reduceCtorEq, and_false, if_false, List.append_nil]

theorem told_presence_handle (sender : Peer) (message : Message) (now : Instant) :
    (supervisor.handle sender message now).2.told (.presence peer) =
      supervisor.told (.presence peer) ++
        (((supervisor.contact? peer (.handleReceived sender message now)).bind
          (supervisor.slot peer).liveness.edge?).map (Liveness.Edge.event peer)).toList := by
  rw [told_handle, contact?]
  by_cases replied : message.reply?.isSome = true
  · rw [if_pos replied, told_markSeen]
    by_cases same : sender = peer
    · subst same
      simp only [replied, and_self, if_true, and_true, Option.bind_some, Liveness.edge?]
      cases ((supervisor.slot sender).liveness.markSeen now).1 <;> simp [Liveness.Edge.event]
    · simp [same]
  · simp [replied]

omit [Transport T] in
theorem told_presence_expire (other : Peer) (now : Instant) :
    (expire now supervisor other).told (.presence peer) = supervisor.told (.presence peer) ++
      (((supervisor.contact? peer (.expire other now)).bind
        (supervisor.slot peer).liveness.edge?).map (Liveness.Edge.event peer)).toList := by
  rw [told_expire, contact?]
  by_cases same : other = peer
  · subst same
    rw [if_pos rfl, Option.bind_some, Liveness.edge?]
    cases ((supervisor.slot other).liveness.expire now).1 <;> simp [Liveness.Edge.event]
  · simp [same]

/-- A step tells the edge of its contact, and nothing else of the presence of a peer. -/
theorem told_presence_step (step : Step T) :
    (supervisor.step step).told (.presence peer) = supervisor.told (.presence peer) ++
      (((supervisor.contact? peer step).bind (supervisor.slot peer).liveness.edge?).map
        (Liveness.Edge.event peer)).toList := by
  cases step with
  | call call =>
    cases call with
    | handle sender message now => exact told_presence_handle sender message now
    | _ =>
      rw [Supervisor.step, told_call_of_handled?_eq_none rfl]
      exact (List.append_nil _).symm
  | receive other => simp [Supervisor.step, told_receive, contact?]
  | handleReceived sender message now =>
    rw [Supervisor.step, told_handleNoting]
    exact told_presence_handle sender message now
  | expire other now => exact told_presence_expire other now
  | request now =>
    have asked : (supervisor.step (.request now)).told (.presence peer) =
        (supervisor.requestStatus now).told (.presence peer) := rfl
    rw [asked, told_presence_requestStatus, contact?]
    split <;> exact (List.append_nil _).symm

/-- The presence of a peer follows its contacts. -/
theorem liveness_perform (steps : List (Step T)) :
    ((supervisor.perform steps).slot peer).liveness =
      (supervisor.slot peer).liveness.callAll (supervisor.contacts peer steps) := by
  induction steps generalizing supervisor with
  | nil => rfl
  | cons first rest inductionHypothesis =>
    rw [perform_cons, inductionHypothesis, liveness_step, contacts]
    cases supervisor.contact? peer first <;> rfl

/-- What is told of the presence of a peer are the edges of its contacts. -/
theorem told_presence_perform (steps : List (Step T)) :
    (supervisor.perform steps).told (.presence peer) = supervisor.told (.presence peer) ++
      ((supervisor.slot peer).liveness.edges (supervisor.contacts peer steps)).map
        (Liveness.Edge.event peer) := by
  induction steps generalizing supervisor with
  | nil => exact (List.append_nil _).symm
  | cons first rest inductionHypothesis =>
    rw [perform_cons, inductionHypothesis, told_presence_step, liveness_step, contacts,
      List.append_assoc]
    cases supervisor.contact? peer first with
    | none => rfl
    | some call =>
      rw [Option.bind_some, Option.elim_some, Option.toList_some, List.singleton_append,
        Liveness.edges, List.map_append]
      cases (supervisor.slot peer).liveness.edge? call <;> rfl

omit [Transport T] in
/-- A contact is a reply where the step handles one. -/
theorem seen_contact? (step : Step T) :
    (supervisor.contact? peer step).bind Liveness.Call.seen? = step.replyTime? peer := by
  have handled (sender : Peer) (message : Message) (now : Instant) :
      (if sender = peer ∧ message.reply?.isSome then some (Liveness.Call.markSeen now)
        else none).bind Liveness.Call.seen? =
      if sender = peer ∧ message.reply?.isSome then some now else none := by
    split <;> rfl
  cases step with
  | call call =>
    cases call with
    | handle sender message now => exact handled sender message now
    | _ => rfl
  | receive other => rfl
  | handleReceived sender message now => exact handled sender message now
  | expire other now => rw [contact?]; split <;> rfl
  | request now => rw [contact?]; split <;> rfl

/-- The contacts that are replies come when the steps handle them. -/
theorem seen_contacts (steps : List (Step T)) :
    (supervisor.contacts peer steps).filterMap Liveness.Call.seen? =
      steps.filterMap (Step.replyTime? peer) := by
  induction steps generalizing supervisor with
  | nil => rfl
  | cons first rest inductionHypothesis =>
    have seen : (supervisor.contact? peer first).bind Liveness.Call.seen? =
        first.replyTime? peer := seen_contact? first
    rw [contacts, List.filterMap_append, inductionHypothesis, List.filterMap_cons, ← seen]
    cases supervisor.contact? peer first with
    | none => rfl
    | some call =>
      rw [Option.bind_some, Option.toList_some, List.filterMap_cons, List.filterMap_nil]
      cases call.seen? <;> rfl

/-- Throughout a run the edges of a peer are told in turn, the first of which is that it is
connected. There are as many as its presence counts, and it is connected after an odd number of
them. When it was seen last is when its latest reply was handled, and a connected peer has
replied. Whatever calls change the presence of a peer, the same holds of the edges that they
answer, which are those that change whether it is connected. -/
theorem connection_edges_alternate {store : Store} (built : Built store supervisor)
    (operations : List (Operation T)) (peer : Peer) :
    (∀ before after, supervisor.steps operations = before ++ after →
      let state := supervisor.perform before
      let liveness := (state.slot peer).liveness
      let replies := before.filterMap (Step.replyTime? peer)
      state.told (.presence peer) =
        (Liveness.alternating liveness.transitions).map (Liveness.Edge.event peer) ∧
      (state.isConnected peer = true ↔ liveness.transitions % 2 = 1) ∧
      liveness.lastSeen = replies.getLast? ∧ (state.isConnected peer = true → replies ≠ [])) ∧
    ∀ calls : List Liveness.Call,
      let liveness := Liveness.new.callAll calls
      let replies := calls.filterMap Liveness.Call.seen?
      Liveness.new.edges calls = Liveness.alternating liveness.transitions ∧
      (liveness.connected = true ↔ liveness.transitions % 2 = 1) ∧
      liveness.lastSeen = replies.getLast? ∧ (liveness.connected = true → replies ≠ []) ∧
      ∀ call, ((liveness.call call).1 = true ↔
        (liveness.call call).2.connected ≠ liveness.connected) ∧
        (liveness.edge? call).isSome = (liveness.call call).1 := by
  have ofCalls (calls : List Liveness.Call) :
      let liveness := Liveness.new.callAll calls
      let replies := calls.filterMap Liveness.Call.seen?
      Liveness.new.edges calls = Liveness.alternating liveness.transitions ∧
      (liveness.connected = true ↔ liveness.transitions % 2 = 1) ∧
      liveness.lastSeen = replies.getLast? ∧ (liveness.connected = true → replies ≠ []) := by
    intro liveness replies
    have balanced := Liveness.balanced_new.callAll calls
    have lastSeen : liveness.lastSeen = replies.getLast? :=
      (Liveness.new.lastSeen_callAll calls).trans (Option.or_none)
    refine ⟨balanced.edges_eq, balanced.connected_iff, lastSeen, fun connected silent => ?_⟩
    rw [silent] at lastSeen
    exact balanced.seen connected lastSeen
  constructor
  · intro before after _ state liveness replies
    have start : (supervisor.slot peer).liveness = .new ∧ supervisor.told (.presence peer) = [] := by
      obtain ⟨settings, -, rfl⟩ := built.exists_settings
      cases peer <;> exact ⟨rfl, rfl⟩
    have liveness_eq : liveness = Liveness.new.callAll (supervisor.contacts peer before) := by
      rw [← start.1]
      exact liveness_perform before
    obtain ⟨edges_eq, connected_iff, lastSeen, replied⟩ := ofCalls (supervisor.contacts peer before)
    rw [← liveness_eq] at edges_eq connected_iff lastSeen replied
    rw [seen_contacts] at lastSeen replied
    have told : state.told (.presence peer) = _ := told_presence_perform before
    rw [start.1, start.2, List.nil_append, edges_eq] at told
    exact ⟨told, connected_iff, lastSeen, replied⟩
  · intro calls liveness replies
    obtain ⟨edges_eq, connected_iff, lastSeen, replied⟩ := ofCalls calls
    exact ⟨edges_eq, connected_iff, lastSeen, replied, fun call =>
      ⟨liveness.call_eq_true_iff call, liveness.isSome_edge? call⟩⟩

/-- A deadline that passes before the motors have ever replied is not told, and neither is a second
reply. Then they miss a deadline, and come back with a reply that is handled with an earlier
time. -/
theorem connection_edges_alternate_clock_jump :
    let reply (now : Instant) : Operation := .call (.handle .motors (.ofReply .errorReport) now)
    let operations := [.call (.attach .motors (.new 1 1)), .poll 0, .poll 600000, reply 700000,
      reply 650000, .poll 2000000, .poll 2500000, reply 10]
    let state := (initial .memory .default).run operations
    state.told (.presence .motors) =
        [.connected .motors, .disconnected .motors, .connected .motors] ∧
      state.isConnected .motors = true ∧ (state.slot .motors).liveness.lastSeen = some 10 := by
  intro reply operations state
  have built : Built .memory (initial .memory .default) := .inr ⟨.default, rfl⟩
  obtain ⟨ofRuns, -⟩ := connection_edges_alternate built operations .motors
  have counted : (state.slot .motors).liveness.transitions = 3 := by decide +kernel
  have latest : (((initial .memory .default).steps operations).filterMap
      (Step.replyTime? .motors)).getLast? = some 10 := by decide +kernel
  have whole := ofRuns ((initial .memory .default).steps operations) [] (List.append_nil _).symm
  have reached : (initial .memory .default).perform ((initial .memory .default).steps operations) =
      state := perform_steps _ operations
  rw [reached] at whole
  -- What is left to show needs no look into the state, which is large.
  clear_value state
  obtain ⟨told, connected_iff, lastSeen, -⟩ := whole
  rw [counted] at told connected_iff
  exact ⟨told, connected_iff.mpr rfl, lastSeen.trans latest⟩

end Supervisor

end OpticalLink
