import OpticalLink.Proofs.Supervisor.Deadlines

/-!
# The cadence of status requests

The times of the polls settle which of them are due, and nothing else does: not the links, not the
messages, not the other operations of a run. The first poll is due, and then each one that comes at
least `pollInterval` after the last due one. `dueTimes` is this rule over the times alone, and
`Supervisor.Built.duePolls_eq` says that every run follows it.
-/

namespace OpticalLink

/-- Whether a poll is due, by the time of the last one that was. -/
def isDueAfter (interval : Interval) (last : Option Instant) (now : Instant) : Bool :=
  last.all fun asked => decide (asked + interval ≤ now)

/-- The times of the due polls among polls at some times. -/
def dueTimes (interval : Interval) (last : Option Instant) : List Instant → List Instant
  | [] => []
  | now :: later =>
    if isDueAfter interval last now then now :: dueTimes interval (some now) later
    else dueTimes interval last later

/-- The last due poll decides about one more. -/
theorem dueTimes_append_singleton (interval : Interval) (last : Option Instant)
    (times : List Instant) (now : Instant) :
    dueTimes interval last (times ++ [now]) = dueTimes interval last times ++
      if isDueAfter interval ((dueTimes interval last times).getLast?.or last) now then [now]
      else [] := by
  induction times generalizing last with
  | nil => rfl
  | cons first later inductionHypothesis =>
    rw [List.cons_append, dueTimes, dueTimes]
    split
    next =>
      rw [inductionHypothesis, List.cons_append]
      congr 3
      cases found : (dueTimes interval (some first) later).getLast? with
      | none => rw [List.getLast?_eq_none_iff.mp found]; rfl
      | some asked => rw [List.getLast?_cons, found]; rfl
    next => exact inductionHypothesis last

/-- A poll is due as soon as there is one. -/
theorem dueTimes_eq_nil_iff {interval : Interval} {times : List Instant} :
    dueTimes interval none times = [] ↔ times = [] := by
  cases times with
  | nil => exact iff_of_true rfl rfl
  | cons first later => exact iff_of_false (by simp [dueTimes, isDueAfter]) (List.cons_ne_nil _ _)

namespace Supervisor

variable {T : Type}

/-- The time of a poll. -/
def Operation.pollTime? : Operation T → Option Instant
  | .poll now => some now
  | .call _ => none

/-- The times of the polls among some operations. -/
def pollTimes (operations : List (Operation T)) : List Instant :=
  operations.filterMap Operation.pollTime?

theorem pollTimes_append_singleton (before : List (Operation T)) (operation : Operation T) :
    pollTimes (before ++ [operation]) = pollTimes before ++ operation.pollTime?.toList := by
  rw [pollTimes, List.filterMap_append]
  cases operation <;> rfl

variable {supervisor : Supervisor T} {last : Option Instant}

/-- The last due poll decides when a request is due. -/
theorem Timely.isDue_eq (timely : supervisor.Timely last) (now : Instant) :
    supervisor.isDue now = isDueAfter supervisor.settings.pollInterval last now := by
  rw [isDue, timely.nextPoll_eq]
  cases last <;> rfl

variable {store : Store}

variable [Transport T]

/-- In every run, the times of the polls settle which of them are due. -/
theorem Built.duePolls_eq (built : Built store supervisor) (operations : List (Operation T)) :
    supervisor.duePolls operations =
      dueTimes supervisor.settings.pollInterval none (pollTimes operations) := by
  induction operations using List.reverseRecOn with
  | nil => rfl
  | append_singleton before operation inductionHypothesis =>
    rw [duePolls_append, duePolls, duePolls, List.append_nil, pollTimes_append_singleton,
      inductionHypothesis]
    cases operation with
    | call call => simp only [dueTime?, Operation.pollTime?, Option.toList_none, List.append_nil]
    | poll now =>
      have due := (built.timely_run before).isDue_eq now
      rw [settings_run, inductionHypothesis] at due
      rw [dueTime?, due, Operation.pollTime?, Option.toList_some, dueTimes_append_singleton,
        Option.or_none]
      split <;> rfl

/-- A poll is due exactly if it is the first one, or comes late enough after the last due one. -/
theorem Built.isDue_iff (built : Built store supervisor) (before : List (Operation T))
    (now : Instant) :
    (supervisor.run before).isDue now = true ↔ pollTimes before = [] ∨
      ∃ asked, (supervisor.duePolls before).getLast? = some asked ∧
        asked + supervisor.settings.pollInterval ≤ now := by
  rw [(built.timely_run before).isDue_eq, settings_run,
    ← @dueTimes_eq_nil_iff supervisor.settings.pollInterval, ← built.duePolls_eq]
  cases found : (supervisor.duePolls before).getLast? with
  | none => exact iff_of_true rfl (.inl (List.getLast?_eq_none_iff.mp found))
  | some asked =>
    have polled : supervisor.duePolls before ≠ [] := by
      rintro nothing
      rw [nothing] at found
      cases found
    simp [isDueAfter, polled]

end Supervisor

end OpticalLink
