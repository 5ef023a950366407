import OgpuSdk.Lib.Text
import Mathlib.Data.List.DropRight

/-!
# Where a word first stands, and what trimming leaves

A word none of whose proper prefixes is also a suffix of it cannot begin
before itself: behind a text without it, it is found where that text ends.
Trimming drops the characters of a class at both ends of a text.
-/

namespace OgpuSdk.Text

section

variable {α : Type} {w a b u v : List α}

/-- A word does not reach across a character it does not have. -/
theorem infix_append_cons {c : α} (hc : c ∉ w) : w <:+: a ++ c :: b ↔ w <:+: a ∨ w <:+: b := by
  constructor
  · rintro ⟨s, t, h⟩
    rcases List.append_eq_append_iff.mp h with ⟨u, ha, -⟩ | ⟨u, hu, hb⟩
    · exact .inl ⟨s, u, ha.symm⟩
    · cases u with
      | nil =>
        rw [List.append_nil] at hu
        exact .inl ⟨s, [], by rw [List.append_nil, hu]⟩
      | cons d u =>
        rw [List.cons_append, List.cons.injEq] at hb
        obtain ⟨rfl, rfl⟩ := hb
        rcases List.append_eq_append_iff.mp hu with ⟨v, rfl, hw⟩ | ⟨v, rfl, hv⟩
        · rw [hw] at hc
          simp at hc
        · cases v with
          | nil =>
            rw [List.nil_append] at hv
            rw [← hv] at hc
            simp at hc
          | cons e v =>
            rw [List.cons_append, List.cons.injEq] at hv
            rw [hv.2]
            exact .inr ⟨v, t, rfl⟩
  · rintro (h | h)
    · exact h.trans (List.prefix_append _ _).isInfix
    · exact h.trans ((List.suffix_cons c b).trans (List.suffix_append _ _)).isInfix

/-- No proper part at the end of the word is a beginning of it. -/
def Unbordered (w : List α) : Prop := ∀ u, u <:+ w → u <+: w → u = [] ∨ u = w

/-- An occurrence that starts before the word ends before it too. -/
theorem Unbordered.infix_of_prefix (hw : Unbordered w) (ha : a ≠ []) (h : w <+: a ++ w ++ b) :
    w <:+: a := by
  rw [List.append_assoc] at h
  rcases Nat.le_total w.length a.length with hle | hle
  · exact (List.prefix_of_prefix_length_le h (List.prefix_append _ _) hle).isInfix
  · obtain ⟨u, rfl⟩ := List.prefix_of_prefix_length_le (List.prefix_append _ _) h hle
    rw [List.prefix_append_right_inj] at h
    have hu : u <+: a ++ u :=
      List.prefix_of_prefix_length_le h (List.prefix_append _ _) (by simp)
    rcases hw u (List.suffix_append _ _) hu with rfl | hau
    · rw [List.append_nil]
    · exact absurd (by simpa using hau) ha

variable [BEq α] [LawfulBEq α]

/-- Behind a text without it, the word is found where that text ends. -/
theorem Unbordered.findIdx?_tails (hw : Unbordered w) (ha : ¬ w <:+: a) :
    (a ++ w ++ b).tails.findIdx? (w.isPrefixOf ·) = some a.length := by
  induction a with
  | nil =>
    have hstart : w.isPrefixOf (w ++ b) = true :=
      List.isPrefixOf_iff_prefix.mpr (List.prefix_append w b)
    rw [List.nil_append]
    cases h : w ++ b with
    | nil =>
      rw [h] at hstart
      simp [List.findIdx?_cons, hstart]
    | cons c cs =>
      rw [h] at hstart
      rw [List.tails_cons, List.findIdx?_cons, if_pos hstart]
      rfl
  | cons c a ih =>
    have hnot : ¬ w <+: c :: a ++ w ++ b := fun h => ha (hw.infix_of_prefix (by simp) h)
    have hrest : ¬ w <:+: a := fun h => ha (h.trans (List.suffix_cons c a).isInfix)
    rw [List.cons_append, List.cons_append, List.tails_cons, List.findIdx?_cons, if_neg, ih hrest]
    · rfl
    · rwa [List.isPrefixOf_iff_prefix]

end

theorem contains_iff {s : List Char} {sub : String} :
    contains s sub = true ↔ sub.toList <:+: s := by
  unfold contains
  simp only [List.any_eq_true, List.mem_tails, List.isPrefixOf_iff_prefix]
  constructor
  · rintro ⟨t, ht, hsub⟩
    exact hsub.isInfix.trans ht.isInfix
  · intro h
    obtain ⟨t, hsub, ht⟩ := List.infix_iff_prefix_suffix.mp h
    exact ⟨t, ht, hsub⟩

/-! ## Lower case -/

theorem lower_append (s t : List Char) : lower (s ++ t) = lower s ++ lower t :=
  List.flatMap_append

theorem length_lowerChar (c : Char) :
    (lowerChar c).length = 1 + if c = '\u0130' then 1 else 0 := by
  unfold lowerChar
  split_ifs with h1 h2 h3 h4
  · subst h2
    exact absurd h1 (by decide)
  · rfl
  · subst h3
    exact absurd h4 (by decide)
  · rfl
  · rfl
  · rfl

/-- Only the dotted capital I grows. -/
theorem length_lower (s : List Char) : (lower s).length = s.length + s.count '\u0130' := by
  induction s with
  | nil => rfl
  | cons c s ih =>
    have hcons : lower (c :: s) = lowerChar c ++ lower s := rfl
    rw [hcons, List.length_append, ih, length_lowerChar, List.length_cons, List.count_cons]
    simp only [beq_iff_eq]
    omega

end OgpuSdk.Text
