/-
# What the drop counter counts

`put_drop_oldest` makes up to three queue calls, and consumers may take frames
between any two of them. This file runs one such put against every schedule of
gets and compares the counter with the frames the producer took out of the queue.

The producer counts a dropped frame as soon as its first put failed, whether or
not its get then finds one. The counter is therefore exact except when consumers
empty a full queue just between the two calls: no frame is lost and one is
counted.
-/

import EspNmeaBridge.NmeaBridge

namespace EspNmeaBridge

variable {cfg : Kconfig} {depth : ℕ}

/-- Who makes the next call on the queue. -/
inductive QueueUser where
  | producer
  | consumer
  deriving DecidableEq, Repr

/-- One `put_drop_oldest` on its way, with every frame that left the queue since it
began and who took it. -/
structure DropRace (cfg : Kconfig) (depth : ℕ) where
  msgq : BoundedFifo (NmeaFrame cfg) depth
  dropCounter : UInt32
  phase : Option PutPhase
  departures : List (NmeaFrame cfg × QueueUser)

/-- The next call of the producer, which ends with its last one, or a consumer's get. -/
def DropRace.step (frame : NmeaFrame cfg) (race : DropRace cfg depth) :
    QueueUser → DropRace cfg depth
  | .consumer =>
    let (msgq, taken) := race.msgq.get
    { race with msgq, departures := race.departures ++ taken.toList.map (·, .consumer) }
  | .producer =>
    match race.phase with
    | none => race
    | some phase =>
      let (msgq, dropCounter, next) := putDropOldestStep race.msgq frame race.dropCounter phase
      -- Of the three calls only the get takes a frame out.
      let removed := if phase = .evict then race.msgq.get.2 else none
      { msgq, dropCounter, phase := next,
        departures := race.departures ++ removed.toList.map (·, .producer) }

def DropRace.run (frame : NmeaFrame cfg) (race : DropRace cfg depth) (turns : List QueueUser) :
    DropRace cfg depth :=
  turns.foldl (DropRace.step frame) race

/-- `put_drop_oldest` from its first call on, along a schedule. -/
def dropRace (msgq : BoundedFifo (NmeaFrame cfg) depth) (frame : NmeaFrame cfg)
    (dropCounter : UInt32) (turns : List QueueUser) : DropRace cfg depth :=
  DropRace.run frame { msgq, dropCounter, phase := some .put, departures := [] } turns

/-- How many frames the producer removed; no consumer ever gets them. -/
def DropRace.removed (race : DropRace cfg depth) : ℕ :=
  race.departures.countP (·.2 = .producer)

/-- The new frame is the youngest in the queue, or the last one a consumer took. -/
def DropRace.Kept (frame : NmeaFrame cfg) (race : DropRace cfg depth) : Prop :=
  (∃ older, race.msgq.elements = older ++ [frame]) ∨
    race.msgq.elements = [] ∧ ∃ earlier, race.departures = earlier ++ [(frame, .consumer)]

/-- Every frame is accounted for, the new one is queued or consumed, and the counter
grew by the number of removed frames. -/
structure DropRace.Exact (msgq : BoundedFifo (NmeaFrame cfg) depth) (frame : NmeaFrame cfg)
    (dropCounter : UInt32) (race : DropRace cfg depth) : Prop where
  conserved : race.departures.map Prod.fst ++ race.msgq.elements = msgq.elements ++ [frame]
  kept : race.Kept frame
  counted : race.dropCounter = dropCounter + UInt32.ofNat race.removed

/-- Consumers make at least `n` gets before the producer's next call. -/
def GetsAhead (n : ℕ) (turns : List QueueUser) : Prop :=
  ∃ gets rest, n ≤ gets ∧ turns = List.replicate gets .consumer ++ .producer :: rest

/-- The first put finds the queue full, and before the producer's get consumers have
taken all there was. -/
def DrainedBetween (msgq : BoundedFifo (NmeaFrame cfg) depth) (turns : List QueueUser) : Prop :=
  msgq.elements.length = depth ∧ ∃ rest, turns = .producer :: rest ∧ GetsAhead depth rest

/-! ## Gets ahead of the producer -/

@[simp] theorem getsAhead_nil (n : ℕ) : ¬ GetsAhead n [] := by
  rintro ⟨gets, rest, -, shape⟩
  simp at shape

@[simp] theorem getsAhead_producer {n : ℕ} {turns : List QueueUser} :
    GetsAhead n (.producer :: turns) ↔ n = 0 := by
  constructor
  · rintro ⟨gets, rest, enough, shape⟩
    cases gets with
    | zero => exact Nat.le_zero.mp enough
    | succ gets => simp [List.replicate_succ] at shape
  · rintro rfl
    exact ⟨0, turns, le_refl 0, rfl⟩

@[simp] theorem getsAhead_consumer {n : ℕ} {turns : List QueueUser} :
    GetsAhead n (.consumer :: turns) ↔ GetsAhead (n - 1) turns := by
  constructor
  · rintro ⟨gets, rest, enough, shape⟩
    cases gets with
    | zero => simp at shape
    | succ gets =>
      rw [List.replicate_succ, List.cons_append, List.cons.injEq] at shape
      exact ⟨gets, rest, by omega, shape.2⟩
  · rintro ⟨gets, rest, enough, rfl⟩
    exact ⟨gets + 1, rest, by omega, by rw [List.replicate_succ, List.cons_append]⟩

/-! ## The accounts of a race -/

section Accounts

variable {initial entered : List (NmeaFrame cfg)} {frame : NmeaFrame cfg} {before : UInt32}
  {removed counted : ℕ} {phase : Option PutPhase} {race : DropRace cfg depth}

/-- Where a race stands: what was put so far, and what was removed and counted. -/
structure DropRace.Stands (initial entered : List (NmeaFrame cfg)) (before : UInt32)
    (removed counted : ℕ) (phase : Option PutPhase) (race : DropRace cfg depth) : Prop where
  phase_eq : race.phase = phase
  conserved : race.departures.map Prod.fst ++ race.msgq.elements = initial ++ entered
  removed_eq : race.removed = removed
  counted_eq : race.dropCounter = before + UInt32.ofNat counted

@[simp] theorem DropRace.run_nil : race.run frame [] = race := rfl

@[simp] theorem DropRace.run_cons (user : QueueUser) (turns : List QueueUser) :
    race.run frame (user :: turns) = (race.step frame user).run frame turns := rfl

@[simp] theorem DropRace.elements_consumer :
    (race.step frame .consumer).msgq.elements = race.msgq.elements.tail := rfl

/-- A consumer's get keeps the accounts. -/
theorem DropRace.Stands.consumer
    (stands : race.Stands initial entered before removed counted phase) :
    (race.step frame .consumer).Stands initial entered before removed counted phase where
  phase_eq := stands.phase_eq
  conserved := by
    rw [← stands.conserved]
    cases elements : race.msgq.elements <;> simp [DropRace.step, BoundedFifo.get, elements]
  removed_eq := by
    rw [← stands.removed_eq]
    cases elements : race.msgq.elements <;>
      simp [DropRace.step, DropRace.removed, BoundedFifo.get, elements]
  counted_eq := stands.counted_eq

theorem DropRace.Kept.consumer (kept : race.Kept frame) :
    (race.step frame .consumer).Kept frame := by
  rcases kept with ⟨older, queued⟩ | ⟨empty, earlier, taken⟩
  · cases older with
    | nil =>
      -- The new frame is all there is, and goes to this consumer.
      refine Or.inr ⟨by simp [queued], race.departures, ?_⟩
      simp [DropRace.step, BoundedFifo.get, queued]
    | cons oldest older => exact Or.inl ⟨older, by simp [queued]⟩
  · refine Or.inr ⟨by simp [empty], earlier, ?_⟩
    simp [DropRace.step, BoundedFifo.get, empty, taken]

/-- A put that finds room is the last call. -/
theorem DropRace.Stands.succeeds {phase : PutPhase} (puts : phase ≠ .evict)
    (stands : race.Stands initial [] before removed counted (some phase))
    (room : race.msgq.elements.length < depth) :
    (race.step frame .producer).Stands initial [frame] before removed counted none ∧
      (race.step frame .producer).Kept frame := by
  obtain ⟨queue, put⟩ : ∃ queue, race.msgq.put frame = some queue :=
    Option.ne_none_iff_exists'.mp fun full => by
      have := BoundedFifo.put_eq_none.mp full
      omega
  obtain ⟨-, elements⟩ := BoundedFifo.put_eq_some.mp put
  have step : race.step frame .producer =
      { race with msgq := queue, phase := none, departures := race.departures ++ [] } := by
    cases phase with
    | put => simp [DropRace.step, stands.phase_eq, putDropOldestStep, put]
    | evict => exact absurd rfl puts
    | retry => simp [DropRace.step, stands.phase_eq, putDropOldestStep, put]
  rw [step]
  refine ⟨⟨rfl, ?_, ?_, stands.counted_eq⟩, Or.inl ⟨_, elements⟩⟩
  · have conserved := stands.conserved
    rw [List.append_nil] at conserved
    simp [elements, ← conserved]
  · simpa [DropRace.removed] using stands.removed_eq

/-- A put that finds the queue full changes nothing. -/
theorem DropRace.Stands.refused
    (stands : race.Stands initial [] before removed counted (some .put))
    (full : race.msgq.elements.length = depth) :
    race.step frame .producer = { race with phase := some .evict } := by
  have put : race.msgq.put frame = none := BoundedFifo.put_eq_none.mpr full
  simp [DropRace.step, stands.phase_eq, putDropOldestStep, put]

/-- The producer's get removes the oldest frame, if consumers left one; it is counted
either way. -/
theorem DropRace.Stands.evicted
    (stands : race.Stands initial [] before 0 0 (some .evict)) :
    (race.step frame .producer).msgq.elements = race.msgq.elements.tail ∧
      (race.step frame .producer).Stands initial [] before
        (if race.msgq.elements.length = 0 then 0 else 1) 1 (some .retry) := by
  have step : race.step frame .producer =
      { msgq := race.msgq.get.1, dropCounter := race.dropCounter + 1, phase := some .retry,
        departures := race.departures ++ race.msgq.get.2.toList.map (·, .producer) } := by
    simp [DropRace.step, stands.phase_eq, putDropOldestStep]
  have conserved := stands.conserved
  have removed := stands.removed_eq
  have counter : race.dropCounter + 1 = before + UInt32.ofNat 1 := by
    rw [stands.counted_eq]
    simp
  rw [step]
  refine ⟨rfl, rfl, ?_, ?_, counter⟩
  · rw [← conserved]
    cases elements : race.msgq.elements <;> simp [BoundedFifo.get, elements]
  · rw [DropRace.removed] at removed
    cases elements : race.msgq.elements <;>
      simp [DropRace.removed, BoundedFifo.get, elements, removed]

/-! ## The rest of the schedule -/

/-- Once `put_drop_oldest` has returned, consumers cannot spoil the accounts. -/
theorem DropRace.Stands.settled
    (stands : race.Stands initial [frame] before removed counted none) (kept : race.Kept frame)
    (turns : List QueueUser) :
    (race.run frame turns).Stands initial [frame] before removed counted none ∧
      (race.run frame turns).Kept frame := by
  induction turns generalizing race with
  | nil => exact ⟨stands, kept⟩
  | cons user turns ih =>
    cases user with
    | producer =>
      have idle : race.step frame .producer = race := by simp [DropRace.step, stands.phase_eq]
      rw [DropRace.run_cons, idle]
      exact ih stands kept
    | consumer => exact ih stands.consumer kept.consumer

/-- While there is room, the producer's next put succeeds whatever consumers do first. -/
theorem DropRace.Stands.room {phase : PutPhase} (puts : phase ≠ .evict)
    (stands : race.Stands initial [] before removed counted (some phase))
    (room : race.msgq.elements.length < depth) {turns : List QueueUser}
    (finished : (race.run frame turns).phase = none) :
    (race.run frame turns).Stands initial [frame] before removed counted none ∧
      (race.run frame turns).Kept frame := by
  induction turns generalizing race with
  | nil =>
    rw [DropRace.run_nil, stands.phase_eq] at finished
    simp at finished
  | cons user turns ih =>
    cases user with
    | producer =>
      obtain ⟨settled, kept⟩ := stands.succeeds puts room
      exact settled.settled kept turns
    | consumer =>
      refine ih stands.consumer ?_ finished
      rw [DropRace.elements_consumer, List.length_tail]
      omega

/-- From the producer's get on, one frame is counted; one was removed unless consumers
took them all first. -/
theorem DropRace.Stands.evicting (positive : 0 < depth)
    (stands : race.Stands initial [] before 0 0 (some .evict)) {turns : List QueueUser}
    (finished : (race.run frame turns).phase = none) :
    ∃ removed, (race.run frame turns).Stands initial [frame] before removed 1 none ∧
      (race.run frame turns).Kept frame ∧
      (removed = 1 ↔ ¬ GetsAhead race.msgq.elements.length turns) ∧ removed ≤ 1 := by
  induction turns generalizing race with
  | nil =>
    rw [DropRace.run_nil, stands.phase_eq] at finished
    simp at finished
  | cons user turns ih =>
    cases user with
    | producer =>
      obtain ⟨elements, evicted⟩ := @Stands.evicted _ _ _ frame _ _ stands
      have room : (race.step frame .producer).msgq.elements.length < depth := by
        have fits := race.msgq.fits
        rw [elements, List.length_tail]
        omega
      obtain ⟨settled, kept⟩ := evicted.room (by decide) room finished
      refine ⟨_, settled, kept, ?_, ?_⟩
      · rw [getsAhead_producer]
        split_ifs with empty <;> simp [empty]
      · split_ifs <;> simp
    | consumer =>
      rw [getsAhead_consumer]
      have tail := ih stands.consumer finished
      rwa [DropRace.elements_consumer, List.length_tail] at tail

end Accounts

/-! ## Every schedule -/

variable (msgq : BoundedFifo (NmeaFrame cfg) depth) (frame : NmeaFrame cfg)
  (dropCounter : UInt32)

/-- Left alone, the three calls are `put_drop_oldest`. -/
theorem dropRace_alone :
    ((dropRace msgq frame dropCounter [.producer, .producer, .producer]).msgq,
      (dropRace msgq frame dropCounter [.producer, .producer, .producer]).dropCounter) =
        putDropOldest msgq frame dropCounter := by
  rw [putDropOldest_eq_steps]
  simp only [dropRace, DropRace.run_cons, DropRace.run_nil, DropRace.step, putDropOldestStep]
  cases msgq.put frame with
  | some queue => rfl
  | none => cases second : msgq.get.1.put frame <;> simp [second]

/-- How a finished put ended: what it removed and what it counted. -/
theorem dropRace_outcome (positive : 0 < depth) {turns : List QueueUser}
    (finished : (dropRace msgq frame dropCounter turns).phase = none) :
    ∃ removed counted,
      (dropRace msgq frame dropCounter turns).Stands msgq.elements [frame] dropCounter removed
        counted none ∧
      (dropRace msgq frame dropCounter turns).Kept frame ∧
      (removed = counted ↔ ¬ DrainedBetween msgq turns) ∧ counted ≤ 1 ∧ removed ≤ counted := by
  have start : DropRace.Stands msgq.elements [] dropCounter 0 0 (some .put)
      { msgq, dropCounter, phase := some .put, departures := [] : DropRace cfg depth } :=
    ⟨rfl, by simp, rfl, by simp⟩
  have fits := msgq.fits
  cases turns with
  | nil => simp [dropRace] at finished
  | cons user turns =>
    by_cases full : msgq.elements.length = depth
    · cases user with
      | producer =>
        -- The first put fails, and the producer goes on to its get.
        have refused : DropRace.step frame
            { msgq, dropCounter, phase := some .put, departures := [] : DropRace cfg depth }
              .producer = _ := start.refused full
        rw [dropRace, DropRace.run_cons, refused] at finished ⊢
        have evicting : DropRace.Stands msgq.elements [] dropCounter 0 0 (some .evict)
            { msgq, dropCounter, phase := some .evict, departures := [] : DropRace cfg depth } :=
          ⟨rfl, by simp, rfl, by simp⟩
        obtain ⟨removed, settled, kept, removed_iff, few⟩ :=
          evicting.evicting positive finished
        refine ⟨removed, 1, settled, kept, removed_iff.trans (not_congr ?_), le_refl 1, few⟩
        simp [DrainedBetween, full]
      | consumer =>
        -- A consumer makes room before the first put.
        obtain ⟨settled, kept⟩ := start.consumer.room (by decide)
          (by rw [DropRace.elements_consumer, List.length_tail]; dsimp only; omega) finished
        exact ⟨0, 0, settled, kept, by simp [DrainedBetween], Nat.zero_le 1, le_refl 0⟩
    · obtain ⟨settled, kept⟩ := start.room (by decide) (lt_of_le_of_ne fits full) finished
      exact ⟨0, 0, settled, kept, by simp [DrainedBetween, full], Nat.zero_le 1, le_refl 0⟩

/-- In a queue without room for any frame nothing is ever queued or taken. -/
theorem departures_of_depth_zero {race : DropRace cfg 0} (none_yet : race.departures = [])
    (turns : List QueueUser) : (race.run frame turns).departures = [] := by
  induction turns generalizing race with
  | nil => exact none_yet
  | cons user turns ih =>
    have empty : race.msgq.elements = [] :=
      List.length_eq_zero_iff.mp (Nat.le_zero.mp race.msgq.fits)
    refine ih ?_
    cases user with
    | producer =>
      simp only [DropRace.step]
      split
      · exact none_yet
      · simp [BoundedFifo.get, empty, none_yet]
    | consumer => simp [DropRace.step, BoundedFifo.get, empty, none_yet]

/-- On every schedule that lets `put_drop_oldest` return, the drop counter is exact if and
only if consumers do not empty a full queue between the failed put and the get. -/
theorem dropCount_exact_iff (turns : List QueueUser)
    (finished : (dropRace msgq frame dropCounter turns).phase = none) :
    (dropRace msgq frame dropCounter turns).Exact msgq frame dropCounter ↔
      0 < depth ∧ ¬ DrainedBetween msgq turns := by
  rcases Nat.eq_zero_or_pos depth with rfl | positive
  · refine iff_of_false (fun accounts => ?_) (by simp)
    have conserved := congrArg List.length accounts.conserved
    have fits := (dropRace msgq frame dropCounter turns).msgq.fits
    rw [dropRace, departures_of_depth_zero frame rfl turns] at conserved
    simp [dropRace] at conserved fits
    simp [fits] at conserved
  · obtain ⟨removed, counted, stands, kept, exact_iff, few, most⟩ :=
      dropRace_outcome msgq frame dropCounter positive finished
    rw [← exact_iff, and_iff_right positive]
    constructor
    · intro accounts
      have same := stands.counted_eq.symm.trans accounts.counted
      rw [UInt32.add_right_inj, stands.removed_eq] at same
      have := congrArg UInt32.toNat same
      simp at this
      omega
    · rintro rfl
      exact ⟨stands.conserved, kept, by rw [stands.counted_eq, stands.removed_eq]⟩

/-- A short line as a frame. -/
def shortFrame (ch : UInt8) : NmeaFrame prjConf := ⟨[ch, '\n'.toUInt8], show 2 ≤ 128 by decide⟩

/-- The smallest queue the configuration allows, full. -/
def fullQueue : BoundedFifo (NmeaFrame prjConf) 2 :=
  ⟨[shortFrame 'A'.toUInt8, shortFrame 'B'.toUInt8], by decide⟩

/-- One get between the failed put and the producer's own leaves it a frame to remove. -/
theorem dropCount_exact_iff_oneGet :
    (dropRace fullQueue (shortFrame 'C'.toUInt8) 0
        [.producer, .consumer, .producer, .producer]).Exact fullQueue (shortFrame 'C'.toUInt8) 0 ↔
      0 < 2 ∧ ¬ DrainedBetween fullQueue [.producer, .consumer, .producer, .producer] :=
  dropCount_exact_iff _ _ _ _ rfl

/-- Two gets in that place leave it none: both frames are delivered, one is counted as
dropped. -/
theorem dropCount_inexact :
    (dropRace fullQueue (shortFrame 'C'.toUInt8) 0
        [.producer, .consumer, .consumer, .producer, .producer]).phase = none ∧
      ¬ (dropRace fullQueue (shortFrame 'C'.toUInt8) 0
        [.producer, .consumer, .consumer, .producer, .producer]).Exact fullQueue
          (shortFrame 'C'.toUInt8) 0 := by
  refine ⟨rfl, fun accounts => ?_⟩
  have counted := accounts.counted
  exact absurd counted (by decide)

end EspNmeaBridge
