import Mathlib.Data.Int.Bitwise
import Mathlib.Tactic.Common

/-!
# Flags in a bit mask

A `Flags` type has its members in declaration order, each with a bit of its
own. A mask is any integer: it may have bits that stand for no flag, and a
negative one has all but finitely many. `combine` is the mask of a list of
flags and `parse` lists the flags of a mask; up to order, repetition and the
bits that stand for nothing they are inverse to each other.
-/

namespace OgpuSdk

/-- Integers with the same bits are equal. -/
theorem eq_of_testBit_eq {m n : ℤ} (h : ∀ i, m.testBit i = n.testBit i) : m = n := by
  have hmixed : ∀ a b : ℕ, ¬ ∀ i, (a : ℤ).testBit i = (Int.negSucc b).testBit i := by
    intro a b hab
    -- Above both numbers the bits are those of the sign.
    have hlt : a < 2 ^ (a + b) ∧ b < 2 ^ (a + b) := by
      have := Nat.lt_two_pow_self (n := a + b)
      omega
    have hbit := hab (a + b)
    simp [Int.testBit, Nat.testBit_lt_two_pow hlt.1, Nat.testBit_lt_two_pow hlt.2] at hbit
  cases m with
  | ofNat a =>
    cases n with
    | ofNat b => exact congrArg Int.ofNat (Nat.eq_of_testBit_eq h)
    | negSucc b => exact absurd h (hmixed a b)
  | negSucc a =>
    cases n with
    | ofNat b => exact absurd (fun i => (h i).symm) (hmixed b a)
    | negSucc b =>
      refine congrArg Int.negSucc (Nat.eq_of_testBit_eq fun i => ?_)
      simpa [Int.testBit] using h i

structure Flags (E : Type) where
  all : List E
  bit : E → ℕ
  bit_injective : Function.Injective bit
  mem_all : ∀ e, e ∈ all

namespace Flags

variable {E : Type} (F : Flags E)

def value (e : E) : ℤ := (2 ^ F.bit e : ℕ)

def combine (es : List E) : ℤ := es.foldl (fun mask e => Int.lor mask (F.value e)) 0

def parse (mask : ℤ) : List E := F.all.filter fun e => Int.land mask (F.value e) ≠ 0

theorem testBit_value (e : E) (i : ℕ) : (F.value e).testBit i = decide (F.bit e = i) :=
  Nat.testBit_two_pow

theorem testBit_zero (i : ℕ) : (0 : ℤ).testBit i = false := Nat.zero_testBit i

/-- A test against a flag's value asks for its bit. -/
theorem land_value_ne_zero {mask : ℤ} {e : E} :
    Int.land mask (F.value e) ≠ 0 ↔ mask.testBit (F.bit e) = true := by
  rw [← not_iff_not, not_not, Bool.not_eq_true]
  constructor
  · intro h
    have hbit := congrArg (Int.testBit · (F.bit e)) h
    simpa [Int.testBit_land, testBit_value, testBit_zero] using hbit
  · intro h
    apply eq_of_testBit_eq
    intro i
    rw [Int.testBit_land, testBit_value, testBit_zero]
    by_cases hi : F.bit e = i
    · rw [← hi, h, Bool.false_and]
    · simp [hi]

theorem testBit_foldl (es : List E) (mask : ℤ) (i : ℕ) :
    (es.foldl (fun mask e => Int.lor mask (F.value e)) mask).testBit i = true ↔
      mask.testBit i = true ∨ ∃ e ∈ es, F.bit e = i := by
  induction es generalizing mask with
  | nil => simp
  | cons e es ih =>
    rw [List.foldl_cons, ih, Int.testBit_lor, testBit_value]
    simp [or_assoc]

theorem testBit_combine {es : List E} {i : ℕ} :
    (F.combine es).testBit i = true ↔ ∃ e ∈ es, F.bit e = i := by
  unfold combine
  rw [testBit_foldl, testBit_zero]
  simp

theorem mem_parse {mask : ℤ} {e : E} : e ∈ F.parse mask ↔ mask.testBit (F.bit e) = true := by
  unfold parse
  rw [List.mem_filter, decide_eq_true_eq, land_value_ne_zero]
  exact and_iff_right (F.mem_all e)

/-- The bit of a flag is set by the flag alone. -/
theorem testBit_combine_bit {es : List E} {e : E} :
    (F.combine es).testBit (F.bit e) = true ↔ e ∈ es := by
  rw [testBit_combine]
  constructor
  · rintro ⟨e', he', heq⟩
    exact F.bit_injective heq ▸ he'
  · intro he
    exact ⟨e, he, rfl⟩

/-- Parsing the mask of a list gives its flags, in declaration order and each once. -/
theorem parse_combine [DecidableEq E] (es : List E) :
    F.parse (F.combine es) = F.all.filter (· ∈ es) := by
  unfold parse
  refine List.filter_congr fun e _ => decide_eq_decide.mpr ?_
  rw [land_value_ne_zero, testBit_combine_bit]

/-- The mask of what a mask parses to is the mask without the bits that stand for no flag. -/
theorem combine_parse (mask : ℤ) : F.combine (F.parse mask) = Int.land mask (F.combine F.all) := by
  apply eq_of_testBit_eq
  intro i
  rw [Bool.eq_iff_iff, testBit_combine, Int.testBit_land, Bool.and_eq_true, testBit_combine]
  constructor
  · rintro ⟨e, he, rfl⟩
    exact ⟨F.mem_parse.mp he, e, F.mem_all e, rfl⟩
  · rintro ⟨hbit, e, -, rfl⟩
    exact ⟨e, F.mem_parse.mpr hbit, rfl⟩

/-- Two lists have one mask exactly when they have the same flags. -/
theorem combine_eq_iff {es es' : List E} :
    F.combine es = F.combine es' ↔ ∀ e, e ∈ es ↔ e ∈ es' := by
  constructor
  · intro h e
    rw [← F.testBit_combine_bit, h, F.testBit_combine_bit]
  · intro h
    apply eq_of_testBit_eq
    intro i
    rw [Bool.eq_iff_iff, testBit_combine, testBit_combine]
    simp only [h]

/-- Two masks parse to the same flags exactly when they agree on the bits that stand for one. -/
theorem parse_eq_iff {mask mask' : ℤ} :
    F.parse mask = F.parse mask' ↔
      Int.land mask (F.combine F.all) = Int.land mask' (F.combine F.all) := by
  constructor
  · intro h
    rw [← F.combine_parse, h, F.combine_parse]
  · intro h
    have hmem : ∀ e, e ∈ F.parse mask ↔ e ∈ F.parse mask' := by
      rw [← F.combine_eq_iff, F.combine_parse, F.combine_parse, h]
    unfold parse
    refine List.filter_congr fun e _ => decide_eq_decide.mpr ?_
    rw [land_value_ne_zero, land_value_ne_zero, ← F.mem_parse, ← F.mem_parse]
    exact hmem e

end Flags

end OgpuSdk
