/-
# Items in somebody's hands

Some holders have at most one item each, and an item is open or not. Custody is exclusive
when the holders' items are exactly the open ones, and no two holders have the same. An item
is opened into free hands, passed from one pair of hands to another, and closed by the one
who has it; each of the three keeps custody exclusive. What is counted at the hands is then
counted at the items. Nothing here knows what the items are.
-/

import Mathlib

variable {C D N : Type*}

/-- Every open item is in exactly one holder's hands, and every item in hands is open. -/
structure ExclusiveCustody (holds : C → Option N) (isOpen : N → Prop) : Prop where
  opened : ∀ c n, holds c = some n → isOpen n
  alone : ∀ c c' n, holds c = some n → holds c' = some n → c = c'
  held : ∀ n, isOpen n → ∃ c, holds c = some n

namespace ExclusiveCustody

variable {holds after : C → Option N} {isOpen openAfter : N → Prop} {c d : C} {n : N}

theorem nobody : ExclusiveCustody (fun _ : C => (none : Option N)) (fun _ => False) where
  opened _ _ := nofun
  alone _ _ _ := nofun
  held _ := nofun

/-- Custody looks at nothing but the hands and the open items. -/
theorem congr (custody : ExclusiveCustody holds isOpen) (sameHands : ∀ c, after c = holds c)
    (sameOpen : ∀ n, openAfter n ↔ isOpen n) : ExclusiveCustody after openAfter where
  opened c n has := (sameOpen n).mpr (custody.opened c n (sameHands c ▸ has))
  alone c c' n has has' := custody.alone c c' n (sameHands c ▸ has) (sameHands c' ▸ has')
  held n isOpen := by
    obtain ⟨c, has⟩ := custody.held n ((sameOpen n).mp isOpen)
    exact ⟨c, (sameHands c).trans has⟩

/-- A new item comes into free hands. -/
theorem take (custody : ExclusiveCustody holds isOpen) (isNew : ¬isOpen n)
    (free : holds c = none) (has : after c = some n) (others : ∀ d ≠ c, after d = holds d)
    (opens : ∀ m, openAfter m ↔ m = n ∨ isOpen m) : ExclusiveCustody after openAfter where
  opened d m hasM := by
    by_cases here : d = c
    · subst here
      exact (opens m).mpr (.inl (Option.some.inj (hasM.symm.trans has)))
    · exact (opens m).mpr (.inr (custody.opened d m (others d here ▸ hasM)))
  alone d d' m hasM hasM' := by
    -- nobody had the new item before, so only `c` has it now
    have old {e : C} (here : e ≠ c) (hasE : after e = some m) : m ≠ n := by
      rintro rfl
      exact isNew (custody.opened e m (others e here ▸ hasE))
    by_cases here : d = c
    · by_cases here' : d' = c
      · rw [here, here']
      · subst here
        exact absurd (Option.some.inj (hasM.symm.trans has)) (old here' hasM')
    · by_cases here' : d' = c
      · subst here'
        exact absurd (Option.some.inj (hasM'.symm.trans has)) (old here hasM)
      · exact custody.alone d d' m (others d here ▸ hasM) (others d' here' ▸ hasM')
  held m isOpen := by
    rcases (opens m).mp isOpen with rfl | was
    · exact ⟨c, has⟩
    · obtain ⟨d, hasD⟩ := custody.held m was
      have here : d ≠ c := by
        rintro rfl
        rw [free] at hasD
        cases hasD
      exact ⟨d, (others d here).trans hasD⟩

/-- The holder closes its item and has none afterwards. -/
theorem drop (custody : ExclusiveCustody holds isOpen) (has : holds c = some n)
    (free : after c = none) (others : ∀ d ≠ c, after d = holds d)
    (opens : ∀ m, openAfter m ↔ m ≠ n ∧ isOpen m) : ExclusiveCustody after openAfter where
  opened d m hasM := by
    by_cases here : d = c
    · subst here
      rw [free] at hasM
      cases hasM
    · have was := others d here ▸ hasM
      refine (opens m).mpr ⟨?_, custody.opened d m was⟩
      rintro rfl
      exact here (custody.alone d c m was has)
  alone d d' m hasM hasM' := by
    -- Whoever holds something now held it before.
    have inHands {e : C} (hasE : after e = some m) : holds e = some m := by
      by_cases here : e = c
      · subst here
        rw [free] at hasE
        cases hasE
      · exact others e here ▸ hasE
    exact custody.alone d d' m (inHands hasM) (inHands hasM')
  held m isOpen := by
    obtain ⟨other, was⟩ := (opens m).mp isOpen
    obtain ⟨d, hasD⟩ := custody.held m was
    have here : d ≠ c := by
      rintro rfl
      exact other (Option.some.inj (hasD.symm.trans has))
    exact ⟨d, (others d here).trans hasD⟩

/-- An item is passed into free hands. -/
theorem pass (custody : ExclusiveCustody holds isOpen) (has : holds c = some n)
    (free : holds d = none) (gave : after c = none) (got : after d = some n)
    (others : ∀ e, e ≠ c → e ≠ d → after e = holds e) : ExclusiveCustody after isOpen := by
  classical
  have apart : d ≠ c := by
    rintro rfl
    rw [free] at has
    cases has
  -- as if the giver closed the item and the other opened it again
  have without : ExclusiveCustody (Function.update holds c none) fun m => m ≠ n ∧ isOpen m :=
    custody.drop has (Function.update_self ..) (fun e here => Function.update_of_ne here ..)
      fun _ => Iff.rfl
  refine without.take (fun again => again.1 rfl) (c := d) (n := n) ?_ got (fun e here => ?_) ?_
  · rw [Function.update_of_ne apart, free]
  · by_cases giver : e = c
    · subst giver
      rw [Function.update_self, gave]
    · rw [Function.update_of_ne giver, others e giver here]
  · intro m
    by_cases same : m = n
    · subst same
      simpa using custody.opened c m has
    · simp [same]

theorem existsUnique (custody : ExclusiveCustody holds isOpen) (is : isOpen n) :
    ∃! c, holds c = some n := by
  obtain ⟨c, has⟩ := custody.held n is
  exact ⟨c, has, fun d hasD => custody.alone d c n hasD has⟩

/-- Holders with hands of their own: who calls a holder has what it has. -/
theorem comp {calls : D → Option C} (custody : ExclusiveCustody holds isOpen)
    (alone : ∀ d d' c, calls d = some c → calls d' = some c → d = d')
    (called : ∀ c, holds c ≠ none → ∃ d, calls d = some c) :
    ExclusiveCustody (fun d => (calls d).bind holds) isOpen where
  opened d n has := by
    obtain ⟨c, -, hasC⟩ := Option.bind_eq_some_iff.mp has
    exact custody.opened c n hasC
  alone d d' n has has' := by
    obtain ⟨c, call, hasC⟩ := Option.bind_eq_some_iff.mp has
    obtain ⟨c', call', hasC'⟩ := Option.bind_eq_some_iff.mp has'
    obtain rfl := custody.alone c c' n hasC hasC'
    exact alone d d' c call call'
  held n is := by
    obtain ⟨c, has⟩ := custody.held n is
    obtain ⟨d, call⟩ := called c (by rw [has]; exact Option.some_ne_none n)
    exact ⟨d, Option.bind_eq_some_iff.mpr ⟨c, call, has⟩⟩

/-- There are no more open items than holders that have one. -/
theorem card_le [Fintype N] [DecidablePred isOpen] (custody : ExclusiveCustody holds isOpen)
    (holders : Finset C) (all : ∀ c, holds c ≠ none → c ∈ holders) :
    (Finset.univ.filter isOpen).card ≤ holders.card := by
  classical
  have found : (Finset.univ.filter isOpen).map Function.Embedding.some ⊆ holders.image holds := by
    intro item member
    obtain ⟨n, is, rfl⟩ := Finset.mem_map.mp member
    obtain ⟨c, has⟩ := custody.held n (Finset.mem_filter.mp is).2
    refine Finset.mem_image.mpr ⟨c, all c ?_, has⟩
    rw [has]
    exact Option.some_ne_none n
  calc (Finset.univ.filter isOpen).card
      = ((Finset.univ.filter isOpen).map Function.Embedding.some).card := by
        rw [Finset.card_map]
    _ ≤ (holders.image holds).card := Finset.card_le_card found
    _ ≤ holders.card := Finset.card_image_le

end ExclusiveCustody
