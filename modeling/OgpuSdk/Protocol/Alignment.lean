import OgpuSdk.Protocol.Pagination

/-!
# Attempters and their timestamps

A task keeps an attempter and a timestamp in each of its slots, and they are
read in two calls. The reads share their pagination, but what it leaves out, a
slot whose attempter is the zero address, it leaves out of the attempters only.
-/

namespace OgpuSdk

/-- The slots of a task in order: an attempter, or a hole, and a timestamp. -/
abbrev Slots := List (Address × ℤ)

namespace Slots

/-- The slots of a range that show among the attempters. -/
def visible (slots : Slots) (lo hi : ℤ) : Slots :=
  (slice slots lo hi).filter fun slot => !(slot.1 == ZERO_ADDRESS)

/-- Nothing is appended between the calls. -/
def still (α : Type) : Nat → List α := fun _ => []

/-- The attempters and the timestamps of a window, each from a call of its own. -/
def Read (slots : Slots) (fuel : Nat) (lower : ℤ) (upper : Option ℤ) (attempters : List Address)
    (timestamps : List ℤ) : Prop :=
  (∃ c, (Task.getAttempters fuel (ListContract.count (still _)) (ListContract.getter (still _) false)
      lower upper).exec ⟨slots.map Prod.fst, [], 0⟩ = (.ok (some attempters), c)) ∧
    ∃ c, (Task.getAttemptTimestamps fuel (ListContract.count (still _))
      (ListContract.getter (still _) false) lower upper).exec ⟨slots.map Prod.snd, [], 0⟩ =
        (.ok (some timestamps), c)

/-- The reads give as many timestamps as attempters, and the one at `k` is from the slot of the
attempter at `k`. -/
def Aligned (slots : Slots) (fuel : Nat) (lower : ℤ) (upper : Option ℤ) : Prop :=
  ∃ attempters timestamps, slots.Read fuel lower upper attempters timestamps ∧
    attempters.length = timestamps.length ∧
    ∀ (k : Nat) (slot : Address × ℤ),
      (slots.visible lower (upper.getD slots.length))[k]? = some slot →
        attempters[k]? = some slot.1 ∧ timestamps[k]? = some slot.2

variable {slots : Slots} {fuel : Nat} {lower : ℤ} {upper : Option ℤ}

/-- A call on a list that does not grow returns the entries of its window that are no zero
addresses. -/
theorem paginatedCall_still {α : Type} (isZeroAddress : α → Bool) (f : Address × ℤ → α)
    (hlower : 0 ≤ lower) (hupper : ∀ u, upper = some u → u ≤ slots.length)
    (hfuel : (upper.getD slots.length - lower).toNat < fuel) :
    ∃ c, (paginatedCall fuel (ListContract.count (still _)) (ListContract.getter (still _) false)
        isZeroAddress lower upper DEFAULT_CHUNK_SIZE false).exec ⟨slots.map f, [], 0⟩ =
      (.ok (some (((slice slots lower (upper.getD slots.length)).map f).filter
        (!isZeroAddress ·))), c) := by
  have hgrown : (⟨slots.map f, [], 0⟩ : ListContract α).grown (still _) =
      ⟨slots.map f, [], 1⟩ := by
    simp [ListContract.grown, still]
  have hbound : (⟨slots.map f, [], 0⟩ : ListContract α).bound (still _) upper =
      upper.getD slots.length := by
    rw [ListContract.bound, hgrown, List.length_map]
  have hlisted : (⟨slots.map f, [], 0⟩ : ListContract α).listed (still _) upper = slots.map f := by
    cases upper with
    | none => rw [ListContract.listed, hgrown]
    | some u => rfl
  have hmode : false = true → false = true := id
  have hreads : ReadsRange (still α) _ _ := readsRange_paginatedCall isZeroAddress hmode
  have hread := hreads fuel lower upper ⟨slots.map f, [], 0⟩ hlower (by simpa using hupper)
    (by rwa [hbound])
  rwa [hlisted, hbound, slice_map] at hread

/-- What the two reads return: the holes are left out of one of them. -/
theorem read_iff (hlower : 0 ≤ lower) (hupper : ∀ u, upper = some u → u ≤ slots.length)
    (hfuel : (upper.getD slots.length - lower).toNat < fuel) {attempters : List Address}
    {timestamps : List ℤ} :
    slots.Read fuel lower upper attempters timestamps ↔
      attempters = (slots.visible lower (upper.getD slots.length)).map Prod.fst ∧
        timestamps = (slice slots lower (upper.getD slots.length)).map Prod.snd := by
  obtain ⟨c, hc⟩ := paginatedCall_still (· == ZERO_ADDRESS) Prod.fst hlower hupper hfuel
  obtain ⟨d, hd⟩ := paginatedCall_still (fun _ => false) Prod.snd hlower hupper hfuel
  rw [List.filter_map] at hc
  rw [Bool.not_false, List.filter_true] at hd
  unfold Read Task.getAttempters Task.getAttemptTimestamps
  rw [hc, hd]
  constructor
  · rintro ⟨⟨_, hfst⟩, _, hsnd⟩
    simp only [Prod.mk.injEq, Except.ok.injEq, Option.some.injEq] at hfst hsnd
    exact ⟨hfst.1.symm, hsnd.1.symm⟩
  · rintro ⟨rfl, rfl⟩
    exact ⟨⟨c, rfl⟩, d, rfl⟩

/-- The reads are aligned exactly when no slot of the window is a hole. -/
theorem aligned_iff (hlower : 0 ≤ lower) (hupper : ∀ u, upper = some u → u ≤ slots.length)
    (hfuel : (upper.getD slots.length - lower).toNat < fuel) :
    slots.Aligned fuel lower upper ↔
      ∀ slot ∈ slice slots lower (upper.getD slots.length), slot.1 ≠ ZERO_ADDRESS := by
  have hholes : (∀ slot ∈ slice slots lower (upper.getD slots.length),
      (!(slot.1 == ZERO_ADDRESS)) = true) ↔
        ∀ slot ∈ slice slots lower (upper.getD slots.length), slot.1 ≠ ZERO_ADDRESS := by
    simp
  rw [← hholes]
  constructor
  · rintro ⟨attempters, timestamps, hread, hlen, -⟩
    obtain ⟨rfl, rfl⟩ := (read_iff hlower hupper hfuel).mp hread
    rw [List.length_map, List.length_map] at hlen
    exact List.length_filter_eq_length_iff.mp hlen
  · intro h
    have hvisible : slots.visible lower (upper.getD slots.length) =
        slice slots lower (upper.getD slots.length) := List.filter_eq_self.mpr h
    refine ⟨_, _, (read_iff hlower hupper hfuel).mpr ⟨rfl, rfl⟩, ?_, ?_⟩
    · rw [hvisible, List.length_map, List.length_map]
    · intro k slot hslot
      rw [← hvisible, List.getElem?_map, List.getElem?_map, hslot]
      exact ⟨rfl, rfl⟩

/-- Three slots, read whole. -/
theorem aligned_whole : Aligned [(0xa#160, 100), (0xb#160, 200), (0xc#160, 300)] 4 0 none := by
  apply (aligned_iff ?_ ?_ ?_).mpr
  · decide
  · decide
  · simp
  · decide

/-- Three slots with a hole in the middle: two attempters and three timestamps. -/
theorem not_aligned_hole : ¬ Aligned [(0xa#160, 100), (0#160, 200), (0xc#160, 300)] 4 0 none := by
  rintro ⟨attempters, timestamps, hread, hlen, -⟩
  obtain ⟨rfl, rfl⟩ := (read_iff (by decide) (by simp) (by decide)).mp hread
  exact absurd hlen (by decide)

end Slots

end OgpuSdk
