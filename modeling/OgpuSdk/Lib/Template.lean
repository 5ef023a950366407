import Mathlib.Tactic.Common

/-!
# Path templates

A template is a text with parameters in braces. Outside of braces it stands for
itself; a parameter stands for a text that is not empty and has no slash. What
a template fits is decided piece by piece.
-/

namespace OgpuSdk.Template

inductive Piece where
  | char (c : Char)
  | param
  deriving DecidableEq

/-- The pieces of a template, from inside of braces or outside. -/
def pieces : Bool → List Char → List Piece
  | _, [] => []
  | false, c :: cs => if c = '\x7b' then .param :: pieces true cs else .char c :: pieces false cs
  | true, c :: cs => pieces (c ≠ '\x7d') cs

def fits : List Piece → List Char → Bool
  | [], [] => true
  | .char c :: ps, d :: ds => c == d && fits ps ds
  | .param :: ps, d :: ds => d != '/' && (fits ps ds || fits (.param :: ps) ds)
  | _, _ => false

variable {cs ds rest : List Char} {ps : List Piece}

theorem pieces_literal (h : '\x7b' ∉ cs) :
    pieces false (cs ++ rest) = cs.map .char ++ pieces false rest := by
  induction cs with
  | nil => rfl
  | cons c cs ih =>
    rw [List.mem_cons, not_or] at h
    rw [List.cons_append, pieces, if_neg (Ne.symm h.1), ih h.2]
    rfl

theorem fits_literal :
    fits (cs.map .char ++ ps) ds = true ↔ ∃ t, ds = cs ++ t ∧ fits ps t = true := by
  induction cs generalizing ds with
  | nil => simp
  | cons c cs ih =>
    cases ds with
    | nil => simp [fits]
    | cons d ds =>
      simp only [List.map_cons, List.cons_append, fits, Bool.and_eq_true, beq_iff_eq, ih,
        List.cons.injEq]
      constructor
      · rintro ⟨rfl, t, rfl, ht⟩
        exact ⟨t, ⟨rfl, rfl⟩, ht⟩
      · rintro ⟨t, ⟨rfl, rfl⟩, ht⟩
        exact ⟨rfl, t, rfl, ht⟩

theorem fits_param : fits [.param] ds = true ↔ ds ≠ [] ∧ '/' ∉ ds := by
  induction ds with
  | nil => simp [fits]
  | cons d ds ih =>
    simp only [fits, Bool.and_eq_true, bne_iff_ne, Bool.or_eq_true, ih, ne_eq, reduceCtorEq,
      not_false_eq_true, true_and, List.mem_cons, not_or]
    have hempty : fits [] ds = true ↔ ds = [] := by
      cases ds <;> simp [fits]
    rw [hempty]
    constructor
    · rintro ⟨hd, rfl | ⟨-, hds⟩⟩
      · exact ⟨Ne.symm hd, List.not_mem_nil⟩
      · exact ⟨Ne.symm hd, hds⟩
    · rintro ⟨hd, hds⟩
      refine ⟨Ne.symm hd, ?_⟩
      by_cases hnil : ds = []
      · exact .inl hnil
      · exact .inr ⟨hnil, hds⟩

/-- A text splits in one way at the last `x`. -/
theorem append_cons_inj {α : Type} {x : α} {as bs ts us : List α}
    (h : as ++ x :: ts = bs ++ x :: us) (ht : x ∉ ts) (hu : x ∉ us) : as = bs ∧ ts = us := by
  rcases List.append_eq_append_iff.mp h with ⟨cs, rfl, hcs⟩ | ⟨cs, rfl, hcs⟩
  · cases cs with
    | nil =>
      cases hcs
      exact ⟨(List.append_nil _).symm, rfl⟩
    | cons c cs =>
      cases hcs
      simp at ht
  · cases cs with
    | nil =>
      cases hcs
      exact ⟨List.append_nil _, rfl⟩
    | cons c cs =>
      cases hcs
      simp at hu

end OgpuSdk.Template
