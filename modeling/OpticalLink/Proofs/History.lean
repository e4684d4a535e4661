/-!
# Histories

A history is a list of events, the latest at its end. `Since` says that one event was of a
certain kind and that those after it were not, and `since_append_singleton` how one more event
decides this anew. `read_foldl` reads a part of a state off the history that led to it.
-/

namespace OpticalLink

variable {Item : Type} {history : List Item} {last : Item}

/-- An event in a history with one more at its end is the last one, or stands before it. -/
theorem append_singleton_eq_iff {earlier since : List Item} {event : Item} :
    history ++ [last] = earlier ++ event :: since ↔
      (history = earlier ∧ last = event ∧ since = []) ∨
        ∃ before, since = before ++ [last] ∧ history = earlier ++ event :: before := by
  constructor
  · intro split
    rcases List.eq_nil_or_concat since with rfl | ⟨before, final, rfl⟩
    · obtain ⟨same, sameLast⟩ := List.append_inj' split rfl
      exact .inl ⟨same, List.singleton_inj.mp sameLast, rfl⟩
    · rw [List.concat_eq_append, ← List.cons_append, ← List.append_assoc] at split
      obtain ⟨same, sameLast⟩ := List.append_inj' split rfl
      obtain rfl := List.singleton_inj.mp sameLast
      exact .inr ⟨before, List.concat_eq_append, same⟩
  · rintro (⟨rfl, rfl, rfl⟩ | ⟨before, rfl, rfl⟩)
    · rfl
    · rw [List.append_assoc, List.cons_append]

/-- One event was of a kind, seen with those before it, and all that came after it were quiet. -/
def Since (kind : List Item → Item → Prop) (quiet : Item → Prop) (history : List Item) : Prop :=
  ∃ earlier event since, history = earlier ++ event :: since ∧ kind earlier event ∧
    ∀ later ∈ since, quiet later

variable {kind : List Item → Item → Prop} {quiet : Item → Prop}

theorem not_since_nil : ¬ Since kind quiet [] := by
  rintro ⟨earlier, event, since, split, -⟩
  exact List.append_ne_nil_of_right_ne_nil _ (List.cons_ne_nil _ _) split.symm

/-- The last event is of the kind, or is quiet after one that was. -/
theorem since_append_singleton :
    Since kind quiet (history ++ [last]) ↔
      kind history last ∨ quiet last ∧ Since kind quiet history := by
  simp only [Since, append_singleton_eq_iff]
  constructor
  · rintro ⟨earlier, event, since, ⟨rfl, rfl, rfl⟩ | ⟨before, rfl, split⟩, happened, calm⟩
    · exact .inl happened
    · obtain ⟨calm, still⟩ := List.forall_mem_append.mp calm
      exact .inr ⟨List.forall_mem_singleton.mp still, earlier, event, before, split, happened,
        calm⟩
  · rintro (happened | ⟨still, earlier, event, before, split, happened, calm⟩)
    · exact ⟨history, last, [], .inl ⟨rfl, rfl, rfl⟩, happened, nofun⟩
    · exact ⟨earlier, event, before ++ [last], .inr ⟨before, rfl, split⟩, happened,
        List.forall_mem_append.mpr ⟨calm, List.forall_mem_singleton.mpr still⟩⟩

/-- A part of a state that each event writes or leaves is after some events the last that was
written, or what it was before them. -/
theorem read_foldl {State Part : Type} {step : State → Item → State} {read : State → Part}
    {write : Item → Option Part}
    (read_step : ∀ state event, read (step state event) = (write event).getD (read state))
    (state : State) (events : List Item) :
    read (events.foldl step state) = (events.filterMap write).getLast?.getD (read state) := by
  induction events generalizing state with
  | nil => rfl
  | cons first rest inductionHypothesis =>
    rw [List.foldl_cons, inductionHypothesis, read_step, List.filterMap_cons]
    cases write first with
    | none => rfl
    | some part => rw [List.getLast?_cons, Option.getD_some, Option.getD_some]

end OpticalLink
