import OpticalLink.Proofs.History
import OpticalLink.Proofs.Store.Lookup

/-!
# Which reported positions are written

A reported position in range is put into the store and committed, unless the last
successful commit of a position wrote the same. A commit that fails leaves its position in
the store, though, and nothing takes note of that: when the committed position is then
reported again, it is not written, and the store keeps the other one.

`Ledger` is what decides about this, `Ledger.sight` is what a sighting of the motors does to
it, and `Ledger.Tracks.sightAll` says when the store has fallen behind what was sighted.
-/

namespace OpticalLink

/-- A position in range that the motors reported, and whether the store could have made it
durable then. -/
structure Sighting where
  aim : Aim
  durable : Bool
deriving DecidableEq, Repr

/-! ## When a store falls behind -/

/-- The position was made durable, and no other one after that. The sightings `since` then
are those whose commits failed, and those of the position itself. -/
def Standing (seen : List Sighting) (aim : Aim) (since : List Sighting) : Prop :=
  (∃ earlier, seen = earlier ++ ⟨aim, true⟩ :: since) ∧
    ∀ sighting ∈ since, sighting.durable = true → sighting.aim = aim

/-- The position was made durable, no other one was after that, but another one was sighted
and its commit failed. -/
def Stale (seen : List Sighting) (aim : Aim) : Prop :=
  ∃ since, Standing seen aim since ∧ ∃ sighting ∈ since, sighting.aim ≠ aim

variable {seen : List Sighting} {last : Sighting} {aim : Aim}

/-- How one more sighting changes what was made durable. -/
theorem standing_append_singleton {since : List Sighting} :
    Standing (seen ++ [last]) aim since ↔
      (since = [] ∧ last = ⟨aim, true⟩) ∨
        ∃ before, since = before ++ [last] ∧ Standing seen aim before ∧
          (last.durable = true → last.aim = aim) := by
  simp only [Standing, append_singleton_eq_iff]
  constructor
  · rintro ⟨⟨earlier, ⟨rfl, same, rfl⟩ | ⟨before, rfl, split⟩⟩, others⟩
    · exact .inl ⟨rfl, same⟩
    · obtain ⟨others, lastToo⟩ := List.forall_mem_append.mp others
      exact .inr ⟨before, rfl, ⟨⟨earlier, split⟩, others⟩, List.forall_mem_singleton.mp lastToo⟩
  · rintro (⟨rfl, same⟩ | ⟨before, rfl, ⟨⟨earlier, split⟩, others⟩, lastToo⟩)
    · exact ⟨⟨seen, .inl ⟨rfl, same, rfl⟩⟩, nofun⟩
    · exact ⟨⟨earlier, .inr ⟨before, rfl, split⟩⟩,
        List.forall_mem_append.mpr ⟨others, List.forall_mem_singleton.mpr lastToo⟩⟩

/-- One more sighting makes a position the last durable one, or leaves it so. -/
theorem exists_standing_append_singleton :
    (∃ since, Standing (seen ++ [last]) aim since) ↔
      last = ⟨aim, true⟩ ∨
        (∃ since, Standing seen aim since) ∧ (last.durable = true → last.aim = aim) := by
  simp only [standing_append_singleton]
  constructor
  · rintro ⟨since, ⟨_, same⟩ | ⟨before, _, standing, lastToo⟩⟩
    · exact .inl same
    · exact .inr ⟨⟨before, standing⟩, lastToo⟩
  · rintro (same | ⟨⟨before, standing⟩, lastToo⟩)
    · exact ⟨[], .inl ⟨rfl, same⟩⟩
    · exact ⟨before ++ [last], .inr ⟨before, rfl, standing, lastToo⟩⟩

/-- How one more sighting makes a store fall behind. -/
theorem stale_append_singleton :
    Stale (seen ++ [last]) aim ↔
      (last.durable = true → last.aim = aim) ∧
        (Stale seen aim ∨ last.aim ≠ aim ∧ ∃ since, Standing seen aim since) := by
  simp only [Stale, standing_append_singleton]
  constructor
  · rintro ⟨since, ⟨rfl, _⟩ | ⟨before, rfl, standing, lastToo⟩, sighting, member, different⟩
    · exact absurd member List.not_mem_nil
    · refine ⟨lastToo, ?_⟩
      rcases List.mem_append.mp member with member | member
      · exact .inl ⟨before, standing, sighting, member, different⟩
      · rw [List.mem_singleton.mp member] at different
        exact .inr ⟨different, before, standing⟩
  · rintro ⟨lastToo, ⟨before, standing, sighting, member, different⟩ | ⟨different, before, standing⟩⟩
    · exact ⟨before ++ [last], .inr ⟨before, rfl, standing, lastToo⟩, sighting,
        List.mem_append_left _ member, different⟩
    · exact ⟨before ++ [last], .inr ⟨before, rfl, standing, lastToo⟩, last,
        List.mem_append_right _ (List.mem_singleton_self last), different⟩

/-- Sighting the position itself does not change whether it is stale. -/
theorem stale_append_durable : Stale (seen ++ [⟨aim, true⟩]) aim ↔ Stale seen aim := by
  rw [stale_append_singleton]
  constructor
  · rintro ⟨_, stale | ⟨different, _⟩⟩
    · exact stale
    · exact absurd rfl different
  · exact fun stale => ⟨fun _ => rfl, .inl stale⟩

/-- A position that was never made durable is not stale. -/
theorem not_stale_of_not_mem (never : ⟨aim, true⟩ ∉ seen) : ¬ Stale seen aim := by
  rintro ⟨since, ⟨⟨earlier, rfl⟩, _⟩, _⟩
  exact never (List.mem_append_right earlier List.mem_cons_self)

/-! ## The ledger -/

/-- What decides whether a position is written, and what the store has for it. -/
structure Ledger where
  persisted : Option Aim
  stored : Option JsonValue × Option JsonValue
  rangeX : UInt32
  rangeY : UInt32

namespace Ledger

variable {ledger : Ledger}

/-- The ledger after a sighting: a position that differs from the last durable one is
stored, and becomes the last durable one if its commit succeeds. -/
def sight (ledger : Ledger) (sighting : Sighting) : Ledger :=
  if ledger.persisted = some sighting.aim then ledger
  else { ledger with
    persisted := if sighting.durable then some sighting.aim else ledger.persisted
    stored := sighting.aim.stored }

theorem sight_of_eq (same : ledger.persisted = some last.aim) : ledger.sight last = ledger :=
  if_pos same

theorem sight_of_ne (different : ledger.persisted ≠ some last.aim) :
    ledger.sight last = { ledger with
      persisted := if last.durable then some last.aim else ledger.persisted
      stored := last.aim.stored } :=
  if_neg different

/-- A ledger after some sightings: its position is the last durable one, and the stored
position is that one too unless the store has fallen behind. -/
structure Tracks (ledger : Ledger) (seen : List Sighting) : Prop where
  persisted_iff : ∀ aim, ledger.persisted = some aim ↔ ∃ since, Standing seen aim since
  stored : ∀ aim, ledger.persisted = some aim →
    ∃ kept : Aim, ledger.stored = kept.stored ∧ (kept = aim ↔ ¬ Stale seen aim)

/-- A ledger without a durable position tracks no sightings. -/
theorem tracks_nil (nothing : ledger.persisted = none) : ledger.Tracks [] where
  persisted_iff := by
    intro aim
    rw [nothing]
    constructor
    · exact fun impossible => nomatch impossible
    · rintro ⟨since, ⟨earlier, split⟩, _⟩
      exact absurd split.symm (List.append_ne_nil_of_right_ne_nil _ (List.cons_ne_nil _ _))
  stored := by
    intro aim persisted
    rw [nothing] at persisted
    cases persisted

/-- A sighting of the last durable position changes nothing. -/
theorem Tracks.sight_same (tracks : ledger.Tracks seen)
    (same : ledger.persisted = some last.aim) : (ledger.sight last).Tracks (seen ++ [last]) := by
  rw [sight_of_eq same]
  constructor
  · intro aim
    rw [exists_standing_append_singleton, ← tracks.persisted_iff, same]
    constructor
    · rintro ⟨rfl⟩
      exact .inr ⟨rfl, fun _ => rfl⟩
    · rintro (rfl | ⟨persisted, _⟩)
      · rfl
      · exact persisted
  · intro aim persisted
    have same_aim : last.aim = aim := Option.some.inj (same.symm.trans persisted)
    obtain ⟨kept, stored, fresh⟩ := tracks.stored aim persisted
    refine ⟨kept, stored, fresh.trans (not_congr ?_)⟩
    rw [stale_append_singleton]
    constructor
    · exact fun stale => ⟨fun _ => same_aim, .inl stale⟩
    · rintro ⟨_, stale | ⟨different, _⟩⟩
      · exact stale
      · exact absurd same_aim different

/-- Another position that is made durable is stored, and the store is not behind. -/
theorem Tracks.sight_durable (tracks : ledger.Tracks seen)
    (different : ledger.persisted ≠ some last.aim) (durable : last.durable = true) :
    (ledger.sight last).Tracks (seen ++ [last]) := by
  obtain ⟨other, _⟩ := last
  obtain rfl : _ = true := durable
  rw [sight_of_ne different, if_pos rfl]
  constructor
  · intro aim
    rw [exists_standing_append_singleton, Option.some.injEq]
    constructor
    · rintro rfl
      exact .inl rfl
    · rintro (same | ⟨_, same⟩)
      · exact congrArg Sighting.aim same
      · exact same rfl
  · intro aim persisted
    obtain rfl : other = aim := Option.some.inj persisted
    refine ⟨other, rfl, iff_of_true rfl ?_⟩
    rw [stale_append_singleton]
    rintro ⟨_, ⟨since, standing, _⟩ | ⟨notSame, _⟩⟩
    · exact different ((tracks.persisted_iff other).mpr ⟨since, standing⟩)
    · exact notSame rfl

/-- Another position whose commit fails is stored too, and the store is behind. -/
theorem Tracks.sight_failed (tracks : ledger.Tracks seen)
    (different : ledger.persisted ≠ some last.aim) (failed : last.durable = false) :
    (ledger.sight last).Tracks (seen ++ [last]) := by
  obtain ⟨other, _⟩ := last
  obtain rfl : _ = false := failed
  rw [sight_of_ne different, if_neg Bool.false_ne_true]
  constructor
  · intro aim
    rw [exists_standing_append_singleton, ← tracks.persisted_iff]
    constructor
    · intro persisted
      exact .inr ⟨persisted, fun impossible => absurd impossible Bool.false_ne_true⟩
    · rintro (same | ⟨persisted, _⟩)
      · exact nomatch congrArg Sighting.durable same
      · exact persisted
  -- The position was written before its commit failed, and the last durable one is gone.
  · intro aim persisted
    have notSame : other ≠ aim := by
      rintro rfl
      exact different persisted
    refine ⟨other, rfl, iff_of_false notSame (not_not_intro ?_)⟩
    rw [stale_append_singleton]
    exact ⟨fun impossible => absurd impossible Bool.false_ne_true,
      .inr ⟨notSame, (tracks.persisted_iff aim).mp persisted⟩⟩

/-- A ledger tracks one sighting more. -/
theorem Tracks.sight (tracks : ledger.Tracks seen) :
    (ledger.sight last).Tracks (seen ++ [last]) := by
  by_cases same : ledger.persisted = some last.aim
  · exact tracks.sight_same same
  · cases durable : last.durable with
    | true => exact tracks.sight_durable same durable
    | false => exact tracks.sight_failed same durable

/-- A ledger tracks all sightings. -/
theorem Tracks.sightAll (tracks : ledger.Tracks seen) (more : List Sighting) :
    (more.foldl Ledger.sight ledger).Tracks (seen ++ more) := by
  induction more generalizing ledger seen with
  | nil =>
    rw [List.append_nil]
    exact tracks
  | cons first rest inductionHypothesis =>
    rw [List.foldl_cons, List.append_cons]
    exact inductionHypothesis tracks.sight

end Ledger

end OpticalLink
