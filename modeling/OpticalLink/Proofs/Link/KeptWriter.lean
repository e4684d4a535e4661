import OpticalLink.Proofs.Link.Session

/-!
# Keeping one writer

A link makes a writer for each message, and so does the device of a session. Programs keep one
writer for all messages, with whatever earlier messages left in its buffers. Nobody can tell: the
answers, the link and the transport are the same (`KeptLink.answerAll_eq`), and so is the session
(`KeptSession.run_eq`). The writers agree in their capacity, which no send changes
(`FrameWriter.capacity_sendBy`), and nothing else of a writer decides how it sends
(`FrameWriter.sendBy_congr`).
-/

namespace OpticalLink

variable {T : Type} [Transport T]

/-! ## Links -/

/-- What is done with a link, or with the transport under it. -/
inductive LinkCall (T : Type) where
  | receive
  | send (message : Message)
  | noteOutcome (failed : Bool)
  /-- Others use the transport. -/
  | meanwhile (change : T → T)

/-- What a call answers. -/
inductive LinkAnswer where
  | received (result : Except FrameError (List Message))
  | sent (result : Except FrameError Unit)
  /-- Whether a failure is the first one. -/
  | noted (first : Bool)
  | nothing

/-- The answer of a link to a call, and the link after it. -/
def Link.answer (link : Link T) : LinkCall T → LinkAnswer × Link T
  | .receive =>
    let (result, link) := link.receive
    (.received result, link)
  | .send message =>
    let (result, link) := link.send message
    (.sent result, link)
  | .noteOutcome failed =>
    let (first, link) := link.noteOutcome failed
    (.noted first, link)
  | .meanwhile change => (.nothing, { link with channel := change link.channel })

/-- The answers to some calls, and the link after them. -/
def Link.answerAll : Link T → List (LinkCall T) → List LinkAnswer × Link T
  | link, [] => ([], link)
  | link, first :: rest =>
    let (answer, next) := link.answer first
    let (answers, last) := answerAll next rest
    (answer :: answers, last)

/-- A link with the writer that it keeps. -/
structure KeptLink (T : Type) where
  link : Link T
  writer : FrameWriter

namespace KeptLink

/-- A link over a transport of which nothing has been read, with a writer that has sent nothing. -/
def new (channel : T) : KeptLink T := ⟨.new channel, .new⟩

/-- Sends one message with the writer that is kept. -/
def send (kept : KeptLink T) (message : Message) : Except FrameError Unit × KeptLink T :=
  let (result, writer, channel) := kept.writer.sendOver kept.link.channel message
  (result, ⟨{ kept.link with channel }, writer⟩)

/-- The answer to a call, and the link with its writer after it. -/
def answer (kept : KeptLink T) : LinkCall T → LinkAnswer × KeptLink T
  | .send message =>
    let (result, kept) := kept.send message
    (.sent result, kept)
  | call =>
    let (answer, link) := kept.link.answer call
    (answer, { kept with link })

/-- The answers to some calls, and the link with its writer after them. -/
def answerAll : KeptLink T → List (LinkCall T) → List LinkAnswer × KeptLink T
  | kept, [] => ([], kept)
  | kept, first :: rest =>
    let (answer, next) := kept.answer first
    let (answers, last) := answerAll next rest
    (answer :: answers, last)

variable {kept : KeptLink T}

theorem send_eq (full : kept.writer.capacity = Frame.maxLength) (message : Message) :
    (kept.send message).1 = (kept.link.send message).1 ∧
      (kept.send message).2.link = (kept.link.send message).2 ∧
      (kept.send message).2.writer.capacity = Frame.maxLength := by
  have same : kept.writer.sendOver kept.link.channel message =
      FrameWriter.new.sendOver kept.link.channel message :=
    FrameWriter.sendBy_congr full kept.link.channel message
  have unchanged : (kept.send message).2.writer.capacity = kept.writer.capacity :=
    FrameWriter.capacity_sendBy kept.writer kept.link.channel message
  refine ⟨?_, ?_, unchanged.trans full⟩
  · rw [send, same]
    rfl
  · rw [send, same]
    rfl

/-- A call answers alike with a kept writer, and leaves its capacity. -/
theorem answer_eq (full : kept.writer.capacity = Frame.maxLength) (call : LinkCall T) :
    (kept.answer call).1 = (kept.link.answer call).1 ∧
      (kept.answer call).2.link = (kept.link.answer call).2 ∧
      (kept.answer call).2.writer.capacity = Frame.maxLength := by
  cases call with
  | send message =>
    obtain ⟨result_eq, link_eq, capacity_eq⟩ := send_eq full message
    exact ⟨congrArg LinkAnswer.sent result_eq, link_eq, capacity_eq⟩
  | receive | noteOutcome | meanwhile => exact ⟨rfl, rfl, full⟩

/-- All calls answer alike with a kept writer, and the link goes through the same states. -/
theorem answerAll_eq (full : kept.writer.capacity = Frame.maxLength) (calls : List (LinkCall T)) :
    (kept.answerAll calls).1 = (kept.link.answerAll calls).1 ∧
      (kept.answerAll calls).2.link = (kept.link.answerAll calls).2 := by
  induction calls generalizing kept with
  | nil => exact ⟨rfl, rfl⟩
  | cons first rest inductionHypothesis =>
    obtain ⟨answer_eq, link_eq, capacity_eq⟩ := answer_eq full first
    obtain ⟨answers_eq, last_eq⟩ := inductionHypothesis capacity_eq
    rw [link_eq] at answers_eq last_eq
    refine ⟨?_, last_eq⟩
    show (kept.answer first).1 :: _ = (kept.link.answer first).1 :: _
    rw [answer_eq]
    exact congrArg _ answers_eq

/-- From the start, a link with the one writer that it keeps answers like a link without. -/
theorem answerAll_new (channel : T) (calls : List (LinkCall T)) :
    ((new channel).answerAll calls).1 = ((Link.new channel).answerAll calls).1 :=
  (answerAll_eq rfl calls).1

end KeptLink

/-! ## Sessions -/

/-- A session whose device keeps its writer. -/
structure KeptSession where
  session : Session
  writer : FrameWriter

namespace KeptSession

/-- The session and the writer after one step. -/
def step (kept : KeptSession) : LinkStep → KeptSession
  | .send message =>
    match kept.writer.send kept.session.link.channel .right message with
    | (.ok _, writer, channel) =>
      ⟨{ kept.session.afterWrite channel (Frame.wrap message.serialize) with
        sent := kept.session.sent ++ [message] }, writer⟩
    | (.error _, writer, _) => { kept with writer }
  | other => { kept with session := kept.session.step other }

/-- The session and the writer after some steps. -/
def run (kept : KeptSession) (steps : List LinkStep) : KeptSession := steps.foldl step kept

variable {kept : KeptSession}

theorem step_eq (full : kept.writer.capacity = Frame.maxLength) (step : LinkStep) :
    (kept.step step).session = kept.session.step step ∧
      (kept.step step).writer.capacity = Frame.maxLength := by
  cases step with
  | send message =>
    let channel := kept.session.link.channel
    have same : kept.writer.send channel .right message =
        (FrameWriter.withCapacity Frame.maxLength).send channel .right message :=
      FrameWriter.sendBy_congr full channel message
    have unchanged : (kept.writer.send channel .right message).2.1.capacity = Frame.maxLength :=
      (kept.writer.capacity_sendBy channel message).trans full
    rcases sent : kept.writer.send channel .right message with ⟨result, writer, next⟩
    rw [sent] at same unchanged
    have stepped : (kept.step (.send message)).writer = writer := by
      cases result <;> simp only [KeptSession.step, channel, sent]
    refine ⟨?_, ?_⟩
    · cases result <;>
        simp only [KeptSession.step, Session.step, Channel.sendFrame, channel, sent, ← same]
    · rw [stepped]
      exact unchanged
  | write | failWrites | receive | close => exact ⟨rfl, full⟩

/-- A session whose device keeps its writer is the same session. -/
theorem run_eq (full : kept.writer.capacity = Frame.maxLength) (steps : List LinkStep) :
    (kept.run steps).session = kept.session.run steps := by
  induction steps generalizing kept with
  | nil => rfl
  | cons first rest inductionHypothesis =>
    obtain ⟨session_eq, capacity_eq⟩ := step_eq full first
    rw [Session.run_cons, ← session_eq]
    exact inductionHypothesis capacity_eq

end KeptSession

end OpticalLink
