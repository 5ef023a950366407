import OgpuSdk.Lib.Text
import OgpuSdk.Types.Base
import Mathlib.Data.Nat.Digits.Lemmas

/-!
# Spellings of an address

An address is written with forty hexadecimal digits, each in either case: in
lower case, in upper case, or with the case as a checksum. Two spellings are
of the same address exactly when they agree in lower case.
-/

namespace OgpuSdk

open Text

/-- The value of a hexadecimal digit, in either case. -/
def hexValue (c : Char) : Option Nat :=
  if '0' ≤ c ∧ c ≤ '9' then some (c.toNat - 48)
  else if 'a' ≤ c ∧ c ≤ 'f' then some (c.toNat - 87)
  else if 'A' ≤ c ∧ c ≤ 'F' then some (c.toNat - 55)
  else none

/-- The text is `0x` and forty digits, in any case, with the address as their value. -/
def Spells (text : String) (address : Address) : Prop :=
  ∃ (x : Char) (cs : List Char) (values : List Nat), text.toList = '0' :: x :: cs ∧
    (x = 'x' ∨ x = 'X') ∧ cs.map hexValue = values.map some ∧
    values.length = 40 ∧ Nat.ofDigits 16 values.reverse = address.toNat

theorem hexDigit_value : ∀ n < 16, hexValue (hexDigit n) = some n := by
  decide

/-- A digit is lowered to the one `hex()` writes. -/
theorem lowerChar_hex {c : Char} {n : Nat} (h : hexValue c = some n) :
    n < 16 ∧ lowerChar c = [hexDigit n] := by
  have hall : ∀ k < 103, (hexValue (Char.ofNat k)).all fun n =>
      n < 16 ∧ lowerChar (Char.ofNat k) = [hexDigit n] := by
    decide +kernel
  have hrange : c.toNat < 103 := by
    unfold hexValue at h
    simp only [Char.le_def, UInt32.le_iff_toNat_le] at h
    split_ifs at h with h1 h2 h3
    · exact Nat.lt_of_le_of_lt h1.2 (by decide)
    · exact Nat.lt_of_le_of_lt h2.2 (by decide)
    · exact Nat.lt_of_le_of_lt h3.2 (by decide)
  have hc := hall c.toNat hrange
  rw [Char.ofNat_toNat, h] at hc
  simpa using hc

theorem lower_hex {cs : List Char} {values : List Nat} (h : cs.map hexValue = values.map some) :
    (∀ n ∈ values, n < 16) ∧ lower cs = values.map hexDigit := by
  induction cs generalizing values with
  | nil =>
    cases values with
    | nil => exact ⟨by simp, rfl⟩
    | cons n values => cases h
  | cons c cs ih =>
    cases values with
    | nil => cases h
    | cons n values =>
      rw [List.map_cons, List.map_cons, List.cons.injEq] at h
      obtain ⟨hlt, hc⟩ := lowerChar_hex h.1
      obtain ⟨hlts, hcs⟩ := ih h.2
      refine ⟨List.forall_mem_cons.mpr ⟨hlt, hlts⟩, ?_⟩
      show lowerChar c ++ lower cs = _
      rw [hc, hcs]
      rfl

/-- Two spellings are the same text in lower case exactly when they spell the same address. -/
theorem Spells.lower_eq_iff {s t : String} {a b : Address} (hs : Spells s a) (ht : Spells t b) :
    lower s.toList = lower t.toList ↔ a = b := by
  obtain ⟨x, cs, values, hs, hx, hcs, hlen, ha⟩ := hs
  obtain ⟨y, ds, values', ht, hy, hds, hlen', hb⟩ := ht
  obtain ⟨hlt, hlower⟩ := lower_hex hcs
  obtain ⟨hlt', hlower'⟩ := lower_hex hds
  have hprefix : ∀ {z : Char} (zs : List Char), z = 'x' ∨ z = 'X' →
      lower ('0' :: z :: zs) = '0' :: 'x' :: lower zs := by
    rintro z zs (rfl | rfl) <;> rfl
  rw [hs, ht, hprefix cs hx, hprefix ds hy, hlower, hlower', List.cons.injEq, List.cons.injEq]
  constructor
  · rintro ⟨-, -, hmap⟩
    -- Each digit gives its value back.
    have hback : ∀ {ns : List Nat}, (∀ n ∈ ns, n < 16) →
        (ns.map hexDigit).map hexValue = ns.map some := by
      intro ns hns
      rw [List.map_map]
      exact List.map_congr_left fun n hn => hexDigit_value n (hns n hn)
    have hvalues : values.map some = values'.map some := by
      rw [← hback hlt, ← hback hlt', hmap]
    apply BitVec.eq_of_toNat_eq
    rw [← ha, ← hb, (List.map_injective_iff.mpr (Option.some_injective Nat)) hvalues]
  · rintro rfl
    have hrev := Nat.ofDigits_inj_of_len_eq (by decide : 1 < 16) (by simp [hlen, hlen'])
      (by simpa using hlt) (by simpa using hlt') (ha.trans hb.symm)
    rw [List.reverse_injective hrev]
    exact ⟨rfl, rfl, rfl⟩

/-! ## A spelling of every address -/

/-- The last `k` hexadecimal digits of a number, the lowest first. -/
def hexValues (n k : Nat) : List Nat := (List.range k).map fun i => n / 16 ^ i % 16

theorem ofDigits_hexValues (n k : Nat) : Nat.ofDigits 16 (hexValues n k) = n % 16 ^ k := by
  induction k with
  | zero => simp [hexValues, Nat.mod_one]
  | succ k ih =>
    unfold hexValues at ih ⊢
    rw [List.range_succ, List.map_append, Nat.ofDigits_append, ih, Nat.mod_pow_succ]
    simp

/-- The address in lower case. -/
def lowerText (address : Address) : String :=
  String.ofList ('0' :: 'x' :: (hexValues address.toNat 40).reverse.map hexDigit)

theorem spells_lowerText (address : Address) : Spells (lowerText address) address := by
  refine ⟨'x', _, (hexValues address.toNat 40).reverse, String.toList_ofList, .inl rfl, ?_, ?_, ?_⟩
  · rw [List.map_map]
    refine List.map_congr_left fun n hn => hexDigit_value n ?_
    obtain ⟨i, -, rfl⟩ := List.mem_map.mp (List.mem_reverse.mp hn)
    exact Nat.mod_lt _ (by decide)
  · simp [hexValues]
  · rw [List.reverse_reverse, ofDigits_hexValues]
    exact Nat.mod_eq_of_lt address.isLt

end OgpuSdk
