import OgpuSdk.Lib.Words
import OgpuSdk.Protocol.Revert

/-!
# Which revert reasons are read back

A node words a revert as `execution reverted: r`, or as `revert r`,
`revert: r` or `reverted: r` behind some text of its own. The first wording is
split at its colon; in the others everything behind the first `revert` counts
as the reason, so that `reverted` leaves its last two letters in front of it.
The position of `revert` is one of the lowered text: every dotted capital I
before it moves the cut one character on.
-/

namespace OgpuSdk

open Text

/-! ## Trimming -/

section

variable {p : Char → Bool} {s t : List Char}

/-- Neither end of the text is in the class. -/
def Trimmed (p : Char → Bool) (s : List Char) : Prop :=
  (∀ c ∈ s.head?, p c = false) ∧ ∀ c ∈ s.getLast?, p c = false

instance : Decidable (Trimmed p s) :=
  decidable_of_iff (s.head?.all (!p ·) = true ∧ s.getLast?.all (!p ·) = true) <| by
    simp [Trimmed, Option.all_eq_true]

theorem strip_eq_rdropWhile (p : Char → Bool) (s : List Char) :
    strip p s = (s.dropWhile p).rdropWhile p := rfl

theorem Trimmed.strip_eq (h : Trimmed p s) : strip p s = s := by
  have hfront : s.dropWhile p = s := by
    rw [List.dropWhile_eq_self_iff]
    intro hlen
    simp [h.1 s[0] (by rw [List.head?_eq_getElem?, List.getElem?_eq_getElem hlen]; rfl)]
  have hback : s.rdropWhile p = s := by
    rw [List.rdropWhile_eq_self_iff]
    intro hne
    simp [h.2 (s.getLast hne) (List.getLast?_eq_some_getLast hne)]
  rw [strip_eq_rdropWhile, hfront, hback]

theorem trimmed_strip (p : Char → Bool) (s : List Char) : Trimmed p (strip p s) := by
  rw [strip_eq_rdropWhile]
  constructor
  · intro c hc
    -- What is cut off at the end leaves the head alone.
    obtain ⟨u, hu⟩ := List.rdropWhile_prefix p (s.dropWhile p)
    have hhead : (s.dropWhile p).head? = some c := by
      rw [← hu, List.head?_append, Option.mem_def.mp hc]
      rfl
    have hnot := List.head?_dropWhile_not p s
    rwa [hhead] at hnot
  · intro c hc
    have hne : (s.dropWhile p).rdropWhile p ≠ [] := by
      rintro hnil
      rw [hnil] at hc
      cases hc
    have hlast := List.rdropWhile_last_not p (s.dropWhile p) hne
    rw [Option.mem_def, List.getLast?_eq_some_getLast hne, Option.some.injEq] at hc
    rw [hc] at hlast
    simpa using hlast

theorem strip_append (h : t.all p = true) : strip p (t ++ s) = strip p s := by
  unfold strip
  rw [List.dropWhile_append_of_pos (List.all_eq_true.mp h)]

theorem strip_isInfix (p : Char → Bool) (s : List Char) : strip p s <:+: s := by
  rw [strip_eq_rdropWhile]
  exact (List.rdropWhile_prefix p _).isInfix.trans (List.dropWhile_suffix p).isInfix

/-- `": "`, what is stripped from a reason behind `revert`. -/
def isPadding (c : Char) : Bool := c == ':' || c == ' '

/-- `.strip(": ").strip()` -/
def cleaned (s : List Char) : List Char := strip isSpace (strip isPadding s)

theorem trimmed_cleaned (s : List Char) : Trimmed isSpace (cleaned s) := trimmed_strip _ _

theorem cleaned_append (h : t.all isPadding = true) : cleaned (t ++ s) = cleaned s := by
  unfold cleaned
  rw [strip_append h]

theorem length_cleaned_le (s : List Char) : (cleaned s).length ≤ s.length :=
  ((strip_isInfix _ _).trans (strip_isInfix _ _)).length_le

theorem cleaned_eq (hpadding : Trimmed isPadding s) (hspace : Trimmed isSpace s) :
    cleaned s = s := by
  unfold cleaned
  rw [hpadding.strip_eq, hspace.strip_eq]

/-- Text in front keeps a reason trimmed when its own first character is no blank. -/
theorem Trimmed.append (hs : Trimmed p s) (hne : s ≠ []) (ht : t ≠ [])
    (hhead : ∀ c ∈ t.head?, p c = false) : Trimmed p (t ++ s) := by
  constructor
  · intro c hc
    rw [List.head?_append_of_ne_nil _ ht] at hc
    exact hhead c hc
  · intro c hc
    rw [List.getLast?_append_of_ne_nil _ hne] at hc
    exact hs.2 c hc

end

/-! ## The wordings of a revert -/

/-- A revert reason: a text whose ends are neither spaces nor colons. -/
structure Reason where
  text : String
  nonempty : text.toList ≠ []
  trimmed : Trimmed isPadding text.toList

/-- What a node writes in front of `revert`: a text without that word, in any case. -/
structure Lead where
  text : String
  plain : contains (lower text.toList) "revert" = false

/-- The dotted capital I is the one character that is longer in lower case. -/
def Lead.dotted (lead : Lead) : Nat := lead.text.toList.count '\u0130'

inductive Wording where
  | executionReverted
  | revert (lead : Lead)
  | revertColon (lead : Lead)
  | reverted (lead : Lead)

def Wording.message (r : String) : Wording → String
  | .executionReverted => "execution reverted: " ++ r
  | .revert lead => lead.text ++ "revert " ++ r
  | .revertColon lead => lead.text ++ "revert: " ++ r
  | .reverted lead => lead.text ++ "reverted: " ++ r

/-- The cut behind `revert` falls on the blanks and colons in front of the reason. -/
def Wording.Reads : Wording → Prop
  | .executionReverted => True
  | .revert lead => lead.dotted ≤ 1
  | .revertColon lead => lead.dotted ≤ 2
  | .reverted lead => lead.text = "execution " ∨ 2 ≤ lead.dotted ∧ lead.dotted ≤ 4

theorem unbordered_revert : Unbordered "revert".toList := by
  have hall : ∀ u ∈ "revert".toList.tails, u <+: "revert".toList →
      u = [] ∨ u = "revert".toList := by
    decide
  intro u hu
  exact hall u ((List.mem_tails _ _).mpr hu)

/-- The first `revert` of the lowered message is the one behind the lead. -/
theorem Lead.find_revert (lead : Lead) (rest : List Char) :
    find? (lower (lead.text.toList ++ "revert".toList ++ rest)) "revert" =
      some (lead.text.toList.length + lead.dotted) := by
  have hnot : ¬ "revert".toList <:+: lower lead.text.toList := by
    rw [← contains_iff, lead.plain]
    exact Bool.false_ne_true
  have hlower : lower "revert".toList = "revert".toList := by decide
  unfold find?
  rw [lower_append, lower_append, hlower, unbordered_revert.findIdx?_tails hnot, length_lower]
  rfl

/-- The first format is met behind one lead only. -/
theorem Lead.eq_of_prefix {lead : Lead} {rest : List Char}
    (h : "execution reverted:".toList <+: lead.text.toList ++ "revert".toList ++ rest) :
    lead.text = "execution " ∧ "ed:".toList <+: rest := by
  obtain ⟨t, ht⟩ := h
  have hsplit : "execution reverted:".toList =
      "execution ".toList ++ "revert".toList ++ "ed:".toList := by decide
  rw [hsplit, List.append_assoc] at ht
  -- Both ways to write the message find the word at the same place.
  let execution : Lead := ⟨"execution ", by decide⟩
  have hfind := lead.find_revert rest
  rw [← ht, execution.find_revert ("ed:".toList ++ t), Option.some.injEq] at hfind
  have hten : execution.text.toList.length + execution.dotted = 10 := by decide
  have hlen : "execution ".toList.length = 10 := by decide
  rw [List.append_assoc, List.append_assoc] at ht
  have hstarts : lead.text.toList <+: "execution ".toList := by
    have hlead : lead.text.toList <+: "execution ".toList ++
        ("revert".toList ++ ("ed:".toList ++ t)) := by
      rw [ht]
      exact List.prefix_append _ _
    apply List.prefix_of_prefix_length_le hlead
    · exact List.prefix_append _ _
    · omega
  have hdotted : lead.dotted = 0 := by
    unfold Lead.dotted
    rw [List.count_eq_zero]
    intro hmem
    exact absurd (hstarts.subset hmem) (by decide)
  have htext : lead.text.toList = "execution ".toList := by
    apply hstarts.eq_of_length
    omega
  refine ⟨String.toList_inj.mp htext, t, ?_⟩
  rw [htext] at ht
  exact List.append_cancel_left (List.append_cancel_left ht)

/-- What is read behind a lead, unless the message has the first format. -/
theorem Lead.extract {lead : Lead} {rest : List Char} {text : String} (cls : ExcClass)
    (htext : text.toList = lead.text.toList ++ "revert".toList ++ rest)
    (h : ¬ (lead.text = "execution " ∧ "ed:".toList <+: rest)) :
    (extractRevertReason ⟨cls, text⟩).toList = cleaned (rest.drop lead.dotted) := by
  unfold extractRevertReason
  simp only [htext]
  rw [if_neg, lead.find_revert]
  · have hdrop : (lead.text.toList ++ "revert".toList ++ rest).drop
        (lead.text.toList.length + lead.dotted + "revert".length) = rest.drop lead.dotted := by
      rw [List.drop_append, List.drop_eq_nil_of_le, List.nil_append]
      · congr 1
        rw [List.length_append]
        have hlen : "revert".length = "revert".toList.length := rfl
        omega
      · rw [List.length_append]
        have hlen : "revert".length = "revert".toList.length := rfl
        omega
    simp only [hdrop]
    exact String.toList_ofList
  · rw [List.isPrefixOf_iff_prefix]
    exact fun hprefix => h (Lead.eq_of_prefix hprefix)

/-! ## Which cuts give the reason back -/

theorem Reason.cleaned_iff (r : Reason) :
    cleaned r.text.toList = r.text.toList ↔ Trimmed isSpace r.text.toList := by
  constructor
  · intro h
    rw [← h]
    exact trimmed_cleaned _
  · exact cleaned_eq r.trimmed

/-- Cut inside the padding in front of it, a reason is read whole; cut later, it loses letters. -/
theorem Reason.cleaned_drop_iff (r : Reason) {pad : List Char} {k : Nat}
    (hpad : pad.all isPadding = true) :
    cleaned ((pad ++ r.text.toList).drop k) = r.text.toList ↔
      Trimmed isSpace r.text.toList ∧ k ≤ pad.length := by
  by_cases hk : k ≤ pad.length
  · rw [List.drop_append_of_le_length hk, cleaned_append, r.cleaned_iff, and_iff_left hk]
    rw [List.all_eq_true] at hpad ⊢
    exact fun c hc => hpad c (List.mem_of_mem_drop hc)
  · constructor
    · intro h
      have hpos := List.length_pos_iff.mpr r.nonempty
      have hle := length_cleaned_le ((pad ++ r.text.toList).drop k)
      rw [h, List.length_drop, List.length_append] at hle
      omega
    · exact fun h => absurd h.2 hk

/-- Letters in front of a reason stay there. -/
theorem Reason.cleaned_letters (r : Reason) {t : List Char} (ht : t ≠ [])
    (hpadding : t.head?.any isPadding = false) (hspace : t.head?.any isSpace = false) :
    cleaned (t ++ r.text.toList) ≠ r.text.toList := by
  intro h
  have htrimmed : Trimmed isSpace r.text.toList := h ▸ trimmed_cleaned _
  rw [Option.any_eq_false] at hpadding hspace
  rw [cleaned_eq (r.trimmed.append r.nonempty ht hpadding)
    (htrimmed.append r.nonempty ht hspace)] at h
  exact ht (List.append_left_eq_self.mp h)

/-- The reason is read back as it is, and decoded as the table says. -/
structure Recovers (cls : ExcClass) (w : Wording) (r : Reason) : Prop where
  reason : extractRevertReason ⟨cls, w.message r.text⟩ = r.text
  known : ∀ handler context caller, REVERT_PATTERN_MAP.lookup r.text = some handler →
    decodeRevert ⟨cls, w.message r.text⟩ context caller = handler context caller
  unknown : (∀ entry ∈ REVERT_PATTERN_MAP, contains r.text.toList entry.1 = false) →
    ∀ context caller, decodeRevert ⟨cls, w.message r.text⟩ context caller = .txRevertError r.text

/-- Decoding looks at the reason only. -/
theorem Recovers.of_reason {cls : ExcClass} {w : Wording} {r : Reason}
    (h : extractRevertReason ⟨cls, w.message r.text⟩ = r.text) : Recovers cls w r where
  reason := h
  known := by
    intro handler context caller hlookup
    unfold decodeRevert
    simp only [h, hlookup]
  unknown := by
    intro hnone context caller
    have hlookup : REVERT_PATTERN_MAP.lookup r.text = none := by
      rw [List.lookup_eq_none_iff]
      intro entry hentry
      rw [bne_iff_ne]
      intro heq
      -- An entry of that name is contained in the reason.
      have hnot := hnone entry hentry
      rw [← heq, ← Bool.not_eq_true, contains_iff] at hnot
      exact hnot List.infix_rfl
    have hfind : REVERT_PATTERN_MAP.find? (fun entry => contains r.text.toList entry.1) = none := by
      rw [List.find?_eq_none]
      intro entry hentry
      simp [hnone entry hentry]
    unfold decodeRevert
    simp only [h, hlookup, hfind]

section

variable (cls : ExcClass) (r : Reason)

theorem extract_executionReverted :
    extractRevertReason ⟨cls, Wording.executionReverted.message r.text⟩ = r.text ↔
      Trimmed isSpace r.text.toList := by
  have htext : (Wording.executionReverted.message r.text).toList =
      "execution reverted".toList ++ (":".toList ++ (" ".toList ++ r.text.toList)) := by
    have hwords : "execution reverted: ".toList =
        "execution reverted".toList ++ (":".toList ++ " ".toList) := by decide
    show ("execution reverted: " ++ r.text).toList = _
    rw [String.toList_append, hwords, List.append_assoc, List.append_assoc]
  have hprefix : "execution reverted:".toList <+:
      "execution reverted".toList ++ (":".toList ++ (" ".toList ++ r.text.toList)) := by
    have hcolon : "execution reverted:".toList = "execution reverted".toList ++ ":".toList := by
      decide
    rw [hcolon, ← List.append_assoc]
    exact List.prefix_append _ _
  have hsplit : (("execution reverted".toList ++
      (":".toList ++ (" ".toList ++ r.text.toList))).dropWhile (· ≠ ':')).drop 1 = " ".toList ++ r.text.toList := by
    have hletters : "execution reverted".toList.all (· ≠ ':') = true := by decide
    rw [List.dropWhile_append_of_pos (List.all_eq_true.mp hletters)]
    rfl
  unfold extractRevertReason
  simp only [htext]
  rw [if_pos (List.isPrefixOf_iff_prefix.mpr hprefix), hsplit, strip_append (by decide),
    ← String.toList_inj, String.toList_ofList]
  constructor
  · intro h
    rw [← h]
    exact trimmed_strip _ _
  · exact Trimmed.strip_eq

theorem extract_revert (lead : Lead) :
    extractRevertReason ⟨cls, (Wording.revert lead).message r.text⟩ = r.text ↔
      Trimmed isSpace r.text.toList ∧ lead.dotted ≤ 1 := by
  have htext : ((Wording.revert lead).message r.text).toList =
      lead.text.toList ++ "revert".toList ++ (" ".toList ++ r.text.toList) := by
    have hword : "revert ".toList = "revert".toList ++ " ".toList := by decide
    show (lead.text ++ "revert " ++ r.text).toList = _
    rw [String.toList_append, String.toList_append, hword]
    simp only [List.append_assoc]
  rw [← String.toList_inj, lead.extract cls htext, r.cleaned_drop_iff (by decide)]
  · rfl
  · rintro ⟨-, hprefix⟩
    exact absurd (List.cons_prefix_cons.mp hprefix).1 (by decide)

theorem extract_revertColon (lead : Lead) :
    extractRevertReason ⟨cls, (Wording.revertColon lead).message r.text⟩ = r.text ↔
      Trimmed isSpace r.text.toList ∧ lead.dotted ≤ 2 := by
  have htext : ((Wording.revertColon lead).message r.text).toList =
      lead.text.toList ++ "revert".toList ++ (": ".toList ++ r.text.toList) := by
    have hword : "revert: ".toList = "revert".toList ++ ": ".toList := by decide
    show (lead.text ++ "revert: " ++ r.text).toList = _
    rw [String.toList_append, String.toList_append, hword]
    simp only [List.append_assoc]
  rw [← String.toList_inj, lead.extract cls htext, r.cleaned_drop_iff (by decide)]
  · rfl
  · rintro ⟨-, hprefix⟩
    exact absurd (List.cons_prefix_cons.mp hprefix).1 (by decide)

/-- The two letters of `reverted` behind `revert` have to fall to dotted capital Is. -/
theorem extract_reverted (lead : Lead) :
    extractRevertReason ⟨cls, (Wording.reverted lead).message r.text⟩ = r.text ↔
      Trimmed isSpace r.text.toList ∧ (Wording.reverted lead).Reads := by
  by_cases hlead : lead.text = "execution "
  · have hmessage : (Wording.reverted lead).message r.text =
        Wording.executionReverted.message r.text := by
      have hwords : "execution " ++ "reverted: " = "execution reverted: " := by decide
      show lead.text ++ "reverted: " ++ r.text = "execution reverted: " ++ r.text
      rw [hlead, hwords]
    rw [hmessage, extract_executionReverted]
    exact (and_iff_left (.inl hlead)).symm
  · have htext : ((Wording.reverted lead).message r.text).toList =
        lead.text.toList ++ "revert".toList ++ ("ed".toList ++ (": ".toList ++ r.text.toList)) := by
      have hword : "reverted: ".toList = "revert".toList ++ ("ed".toList ++ ": ".toList) := by
        decide
      show (lead.text ++ "reverted: " ++ r.text).toList = _
      rw [String.toList_append, String.toList_append, hword]
      simp only [List.append_assoc]
    have hreads : (Wording.reverted lead).Reads ↔ 2 ≤ lead.dotted ∧ lead.dotted ≤ 4 :=
      or_iff_right hlead
    rw [← String.toList_inj, lead.extract cls htext (fun h => hlead h.1), hreads]
    by_cases htwo : 2 ≤ lead.dotted
    · have hdrop : ("ed".toList ++ (": ".toList ++ r.text.toList)).drop lead.dotted =
          (": ".toList ++ r.text.toList).drop (lead.dotted - 2) := by
        rw [List.drop_append, List.drop_eq_nil_of_le htwo]
        rfl
      have hlen : ": ".toList.length = 2 := by decide
      rw [hdrop, r.cleaned_drop_iff (by decide), hlen]
      constructor
      · rintro ⟨htrimmed, hle⟩
        exact ⟨htrimmed, htwo, by omega⟩
      · rintro ⟨htrimmed, -, hle⟩
        exact ⟨htrimmed, by omega⟩
    · have hletters : cleaned (("ed".toList ++ (": ".toList ++ r.text.toList)).drop lead.dotted) ≠
          r.text.toList := by
        obtain hzero | hone : lead.dotted = 0 ∨ lead.dotted = 1 := by omega
        · rw [hzero]
          exact r.cleaned_letters (t := "ed: ".toList) (by decide) (by decide) (by decide)
        · rw [hone]
          exact r.cleaned_letters (t := "d: ".toList) (by decide) (by decide) (by decide)
      constructor
      · exact fun h => absurd h hletters
      · exact fun h => absurd h.2.1 htwo

end

/-! ## The decoder -/

/-- A piece of the word `reverted`. -/
def Fragment (s : String) : Prop := s.toList ≠ [] ∧ s.toList <:+: "reverted".toList

theorem recovers_iff (cls : ExcClass) (w : Wording) (r : Reason) :
    Recovers cls w r ↔ Trimmed isSpace r.text.toList ∧ w.Reads := by
  have hreason : extractRevertReason ⟨cls, w.message r.text⟩ = r.text ↔
      Trimmed isSpace r.text.toList ∧ w.Reads := by
    cases w with
    | executionReverted =>
      rw [extract_executionReverted]
      exact (and_iff_left trivial).symm
    | revert lead => exact extract_revert cls r lead
    | revertColon lead => exact extract_revertColon cls r lead
    | reverted lead => exact extract_reverted cls r lead
  rw [← hreason]
  exact ⟨Recovers.reason, .of_reason⟩

theorem fragment_iff (cls : ExcClass) (lead : Lead) :
    Fragment (extractRevertReason ⟨cls, lead.text ++ "reverted"⟩) ↔ lead.dotted < 2 := by
  have htext : (lead.text ++ "reverted").toList =
      lead.text.toList ++ "revert".toList ++ "ed".toList := by
    have hword : "reverted".toList = "revert".toList ++ "ed".toList := by decide
    rw [String.toList_append, hword, List.append_assoc]
  have hextract := lead.extract cls htext (fun h => absurd h.2 (by decide))
  unfold Fragment
  rw [hextract]
  obtain hzero | hone | htwo : lead.dotted = 0 ∨ lead.dotted = 1 ∨ 2 ≤ lead.dotted := by omega
  · rw [hzero]
    decide
  · rw [hone]
    decide
  · rw [List.drop_eq_nil_of_le htwo]
    constructor
    · exact fun h => absurd rfl h.1
    · intro h
      omega

/-- A reason is read back, and decoded by the table, exactly when no blank other than a space
stands at its ends and the cut behind `revert` falls in front of it; and a revert without a reason
leaves a piece of the word unless two dotted capital Is stand before it. -/
theorem revertReasons_iff (cls : ExcClass) :
    (∀ w r, Recovers cls w r ↔ Trimmed isSpace r.text.toList ∧ w.Reads) ∧
      ∀ lead : Lead, ¬ Fragment (extractRevertReason ⟨cls, lead.text ++ "reverted"⟩) ↔
        2 ≤ lead.dotted := by
  refine ⟨recovers_iff cls, ?_⟩
  intro lead
  rw [fragment_iff, Nat.not_lt]

/-- `vm: reverted: Expired` is read as `ed: Expired`, and `execution reverted` as `ed`. -/
theorem not_revertReasons :
    ¬ Recovers .contractLogicError (.reverted ⟨"vm: ", by decide⟩)
        ⟨"Expired", by decide, by decide⟩ ∧
      Fragment (extractRevertReason ⟨.contractLogicError, "execution " ++ "reverted"⟩) := by
  constructor
  · intro h
    exact absurd h.reason (by decide +kernel)
  · exact (fragment_iff .contractLogicError ⟨"execution ", by decide⟩).mpr (by decide)

end OgpuSdk
