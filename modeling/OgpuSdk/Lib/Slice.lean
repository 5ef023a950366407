import Mathlib.Data.List.Basic
import Mathlib.Data.Int.Notation
import Mathlib.Tactic.Common

/-!
# Half-open ranges of a list

`slice xs lo hi` is the part of a list at the indices `lo ≤ i < hi`. Ranges
that meet can be cut and joined (`slice_append`), and what is appended to the
list later does not show in them (`slice_of_isPrefix`).
-/

namespace OgpuSdk

variable {α : Type}

/-- The entries of `xs` at the indices `lo ≤ i < hi`. -/
def slice (xs : List α) (lo hi : ℤ) : List α := (xs.take hi.toNat).drop lo.toNat

theorem slice_eq_nil (xs : List α) {lo hi : ℤ} (h : hi ≤ lo) : slice xs lo hi = [] := by
  apply List.drop_eq_nil_of_le
  have := List.length_take_le hi.toNat xs
  omega

theorem slice_map {β : Type} (f : α → β) (xs : List α) (lo hi : ℤ) :
    slice (xs.map f) lo hi = (slice xs lo hi).map f := by
  unfold slice
  rw [← List.map_take, List.map_drop]

theorem mem_of_mem_slice {xs : List α} {lo hi : ℤ} {x : α} (h : x ∈ slice xs lo hi) : x ∈ xs :=
  List.mem_of_mem_take (List.mem_of_mem_drop h)

/-- An entry at an index of the range is in it. -/
theorem mem_slice {xs : List α} {lo hi : ℤ} {i : Nat} {x : α} (hlo : lo ≤ i) (hhi : i < hi)
    (hx : xs[i]? = some x) : x ∈ slice xs lo hi := by
  apply List.mem_iff_getElem?.mpr
  refine ⟨i - lo.toNat, ?_⟩
  unfold slice
  rw [List.getElem?_drop, show lo.toNat + (i - lo.toNat) = i by omega, List.getElem?_take, hx,
    if_pos (by omega)]

/-- A range cut at an index. -/
theorem slice_append (xs : List α) {lo mid hi : ℤ} (hlo : lo ≤ mid) (hhi : mid ≤ hi) :
    slice xs lo mid ++ slice xs mid hi = slice xs lo hi := by
  unfold slice
  have htake : xs.take mid.toNat = (xs.take hi.toNat).take mid.toNat := by
    rw [List.take_take, Nat.min_eq_left (by omega)]
  rw [htake]
  generalize xs.take hi.toNat = ys
  have hdrop : ys.drop mid.toNat = (ys.drop lo.toNat).drop (mid.toNat - lo.toNat) := by
    rw [List.drop_drop, Nat.add_sub_cancel' (by omega)]
  rw [hdrop, List.drop_take, List.take_append_drop]

/-- What is appended does not show below the old length. -/
theorem slice_of_isPrefix {xs ys : List α} (h : xs <+: ys) (lo : ℤ) {hi : ℤ}
    (hhi : hi ≤ xs.length) : slice ys lo hi = slice xs lo hi := by
  obtain ⟨zs, rfl⟩ := h
  unfold slice
  rw [List.take_append_of_le_length (by omega)]

end OgpuSdk
