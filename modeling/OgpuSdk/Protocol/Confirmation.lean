import OgpuSdk.Protocol.Snapshots

/-!
# The confirmed response of a task

`Task.get_confirmed_response` reads the list of responses page by page and
then asks them one after the other, while providers go on attempting and
submitting and a response may be confirmed. A `TaskHistory` is all of that as
time passes. What the search finds is confirmed, and when it finds nothing
there was nothing to find when it began.
-/

namespace OgpuSdk

open Prog

/-! ## The search -/

/-- The addresses of a list, each a text. -/
def Arg.asAddresses (host : Host) (functionName : String) : Arg → Except Exc (List Address)
  | .tuple xs => xs.mapM fun x => x.asStr functionName >>= host.toChecksumAddress
  | _ => undecoded functionName

section

variable (net : ReadNet) (host : Host)

/-- `self._contract().functions.getResponsesOf(lo, hi).call()` -/
def Task.fetchResponses (self : Task) (lo hi : ℤ) : SDK (List Address) := do
  let raw ← view net ⟨"TaskAbi", some self.address, "getResponsesOf", [.int lo, .int hi]⟩
  SDK.lift (raw.asAddresses host "getResponsesOf")

/-- The `for` loop over the responses. -/
def firstConfirmed : List Response → SDK (Option Response)
  | [] => pure none
  | resp :: rest => do
    if ← resp.isConfirmed net then pure (some resp) else firstConfirmed rest

/-- `none` when the pages do not end within `fuel` turns. -/
def Task.getConfirmedResponse (fuel : Nat) (self : Task) : SDK (Option (Option Response)) := do
  match ← Task.getResponses fuel (self.getAttemptCount net) (self.fetchResponses net host) 0 none with
  | none => pure none
  | some responses => do
    let found ← firstConfirmed net responses
    pure (some found)

end

/-! ## The task meanwhile -/

/-- What happens to a task as time passes. -/
structure TaskHistory where
  /-- by attempt the response to it, or the zero address as long as there is none -/
  slots : ℚ → List Address
  confirmed : ℚ → Address → Bool
  /-- attempts are appended, and what was submitted stays -/
  keeps : ∀ {t t' : ℚ}, t ≤ t' → ∀ (i : Nat) (r : Address), (slots t)[i]? = some r →
    ∃ r', (slots t')[i]? = some r' ∧ (r ≠ ZERO_ADDRESS → r' = r)
  /-- a confirmation is final -/
  final : ∀ {t t' : ℚ}, t ≤ t' → ∀ r, confirmed t r = true → confirmed t' r = true

namespace TaskHistory

variable (history : TaskHistory)

/-- The responses submitted by a time. -/
def submitted (t : ℚ) (r : Address) : Prop := r ∈ history.slots t ∧ r ≠ ZERO_ADDRESS

/-- The chain answers the calls about this task from its history. -/
structure Answers (net : ReadNet) (host : Host) (task : Task) : Prop where
  count : ∀ t, net.state t ⟨task.address, "getAttemptCount", []⟩ =
    .ok (.int (history.slots t).length)
  responses : ∀ t (lo hi : ℤ), 0 ≤ lo → lo ≤ hi → hi < (history.slots t).length →
    ∃ raw, net.state t ⟨task.address, "getResponsesOf", [.int lo, .int hi]⟩ = .ok raw ∧
      raw.asAddresses host "getResponsesOf" = .ok (slice (history.slots t) lo (hi + 1))
  confirmedFinal : ∀ t r, history.submitted t r →
    net.state t ⟨r, "confirmedFinal", []⟩ = .ok (.bool (history.confirmed t r))

/-- What an answer of the search says of the task. -/
structure Finds (fuel : Nat) (w w' : World) (answer : Option (Option Response)) : Prop where
  found : ∀ r, answer = some (some r) →
    history.submitted w'.clock.mono r.address ∧ history.confirmed w'.clock.mono r.address = true
  nothing : answer = some none →
    ∀ r, history.submitted w.clock.mono r → history.confirmed w.clock.mono r = false
  exhausted : answer = none → fuel ≤ (history.slots w'.clock.mono).length

variable {history} {t t' : ℚ}

theorem length_mono (h : t ≤ t') : (history.slots t).length ≤ (history.slots t').length := by
  by_contra hlt
  have hlt : (history.slots t').length < (history.slots t).length := not_le.mp hlt
  obtain ⟨r', hr', -⟩ := history.keeps h (history.slots t').length _
    (List.getElem?_eq_getElem hlt)
  rw [List.getElem?_eq_none (le_refl _)] at hr'
  cases hr'

theorem submitted_mono (h : t ≤ t') {r : Address} (hr : history.submitted t r) :
    history.submitted t' r := by
  obtain ⟨i, hi⟩ := List.mem_iff_getElem?.mp hr.1
  obtain ⟨r', hr', heq⟩ := history.keeps h i r hi
  obtain rfl := heq hr.2
  exact ⟨List.mem_of_getElem? hr', hr.2⟩

end TaskHistory

/-! ## What one call tells -/

section

variable {history : TaskHistory} {net : ReadNet} {host : Host} {task : Task} {w w' : World}

/-- A call of a contract at a given address is answered at some moment in between. -/
theorem view_answered {abiName functionName : String} {address : Address} {args : List Arg}
    {raw : Arg}
    (h : (view net ⟨abiName, some address, functionName, args⟩).exec w = (.ok raw, w')) :
    ∃ t, w.clock.mono ≤ t ∧ t ≤ w'.clock.mono ∧
      net.state t ⟨address, functionName, args⟩ = .ok raw := by
  have hseen := (sees_view w raw w' h).seen
  obtain ⟨t, hle, hle', ht⟩ := hseen.answered (List.mem_singleton_self _)
  exact ⟨t, hle, hle', Option.some.inj ht⟩

namespace TaskHistory.Answers

theorem getAttemptCount (h : history.Answers net host task) {n : ℤ}
    (hexec : (task.getAttemptCount net).exec w = (.ok n, w')) :
    ∃ t, w.clock.mono ≤ t ∧ t ≤ w'.clock.mono ∧ n = (history.slots t).length := by
  obtain ⟨raw, w₁, hview, hrest⟩ := exec_bind_eq_ok hexec
  obtain ⟨t, hle, hle', ht⟩ := view_answered hview
  cases (h.count t).symm.trans ht
  cases hrest
  exact ⟨t, hle, hle', rfl⟩

/-- A page within the list. -/
theorem fetchResponses (h : history.Answers net host task) {lo hi : ℤ} {chunk : List Address}
    (hlo : 0 ≤ lo) (hle : lo ≤ hi) (hhi : hi < (history.slots w.clock.mono).length)
    (hexec : (task.fetchResponses net host lo hi).exec w = (.ok chunk, w')) :
    ∃ t, w.clock.mono ≤ t ∧ t ≤ w'.clock.mono ∧ chunk = slice (history.slots t) lo (hi + 1) := by
  obtain ⟨raw, w₁, hview, hrest⟩ := exec_bind_eq_ok hexec
  obtain ⟨t, ht, ht', hstate⟩ := view_answered hview
  have hlen : (history.slots w.clock.mono).length ≤ (history.slots t).length := length_mono ht
  obtain ⟨raw', hraw', hdecode⟩ := h.responses t lo hi hlo hle (by omega)
  cases hraw'.symm.trans hstate
  rw [hdecode] at hrest
  cases hrest
  exact ⟨t, ht, ht', rfl⟩

theorem isConfirmed (h : history.Answers net host task) {r : Response} {confirmed : Bool}
    (hr : history.submitted w.clock.mono r.address)
    (hexec : (r.isConfirmed net).exec w = (.ok confirmed, w')) :
    ∃ t, w.clock.mono ≤ t ∧ t ≤ w'.clock.mono ∧ confirmed = history.confirmed t r.address := by
  obtain ⟨raw, w₁, hview, hrest⟩ := exec_bind_eq_ok hexec
  obtain ⟨t, ht, ht', hstate⟩ := view_answered hview
  cases (h.confirmedFinal t _ (submitted_mono ht hr)).symm.trans hstate
  rw [Arg.asBool_bool] at hrest
  cases hrest
  exact ⟨t, ht, ht', rfl⟩

end TaskHistory.Answers

/-! ## The pages -/

/-- Before turn `k` of the pages, from `start` on and up to `upper`: what has been collected was
submitted, and holds all that was submitted at the start below the page. -/
structure Paging (history : TaskHistory) (start : ℚ) (upper : ℤ) (k : Nat)
    (page : ℤ × List Address) (w : World) : Prop where
  started : start ≤ w.clock.mono
  turns : k ≤ page.1
  inRange : page.1 ≤ upper
  listed : upper ≤ (history.slots w.clock.mono).length
  sound : ∀ r ∈ page.2, history.submitted w.clock.mono r
  covers : ∀ (i : Nat) (r : Address), i < page.1 → (history.slots start)[i]? = some r →
    r ≠ ZERO_ADDRESS → r ∈ page.2

theorem Paging.next (h : history.Answers net host task) {start : ℚ} {upper : ℤ} {k : Nat}
    {page page' : ℤ × List Address} (hpage : Paging history start upper k page w)
    (hturn : (fetchPage (task.fetchResponses net host) (· == ZERO_ADDRESS) upper
      DEFAULT_CHUNK_SIZE page).exec w = (.ok (.next page'), w')) :
    Paging history start upper (k + 1) page' w' := by
  obtain ⟨current, results⟩ := page
  obtain ⟨hstart, hturns, -, hlisted, hsound, hcovers⟩ := hpage
  dsimp only at hturns hsound hcovers
  unfold fetchPage at hturn
  by_cases hlt : current < upper
  · simp only [hlt, if_true] at hturn
    generalize hend : min (current + DEFAULT_CHUNK_SIZE) upper = chunkEnd at hturn
    have hchunk : DEFAULT_CHUNK_SIZE = 100 := rfl
    obtain ⟨chunk, w₁, hfetch, hrest⟩ := exec_bind_eq_ok hturn
    cases hrest
    obtain ⟨t, ht, ht', rfl⟩ := h.fetchResponses (by omega) (by omega) (by omega) hfetch
    rw [Int.sub_add_cancel]
    refine ⟨hstart.trans (ht.trans ht'), ?_, ?_, ?_, ?_, ?_⟩
    · push_cast
      omega
    · exact hend ▸ min_le_right _ _
    · have : (history.slots w.clock.mono).length ≤ (history.slots w'.clock.mono).length :=
        TaskHistory.length_mono (ht.trans ht')
      omega
    · intro r hr
      rcases List.mem_append.mp hr with hr | hr
      · exact TaskHistory.submitted_mono (ht.trans ht') (hsound r hr)
      · obtain ⟨hmem, hne⟩ := List.mem_filter.mp hr
        exact TaskHistory.submitted_mono ht' ⟨mem_of_mem_slice hmem, by simpa using hne⟩
    · intro i r hi hr hne
      by_cases hbelow : (i : ℤ) < current
      · exact List.mem_append_left _ (hcovers i r hbelow hr hne)
      · -- The slot held the response at the start, so it holds it when the page is read.
        obtain ⟨r', hr', heq⟩ := history.keeps (hstart.trans ht) i r hr
        obtain rfl := heq hne
        apply List.mem_append_right
        exact List.mem_filter.mpr ⟨mem_slice (by omega) hi hr', by simpa using hne⟩
  · simp only [hlt, if_false] at hturn
    cases hturn

/-- A turn that is the last returns what has been collected. -/
theorem fetchPage_last {fetchFn : ℤ → ℤ → SDK (List Address)} {isZeroAddress : Address → Bool}
    {upper chunkSize : ℤ} {page : ℤ × List Address}
    {turn : Turn (Option (List Address)) (ℤ × List Address)}
    (h : (fetchPage fetchFn isZeroAddress upper chunkSize page).exec w = (.ok turn, w'))
    (hlast : ∀ page', turn ≠ .next page') :
    upper ≤ page.1 ∧ turn = .done (some page.2) ∧ w' = w := by
  obtain ⟨current, results⟩ := page
  unfold fetchPage at h
  by_cases hlt : current < upper
  · simp only [hlt, if_true] at h
    obtain ⟨chunk, w₁, -, hrest⟩ := exec_bind_eq_ok h
    cases hrest
    exact absurd rfl (hlast _)
  · simp only [hlt, if_false] at h
    cases h
    exact ⟨not_lt.mp hlt, rfl, rfl⟩

/-- How the pages end. -/
theorem Paging.pages (h : history.Answers net host task) {start : ℚ} {upper : ℤ} {fuel : Nat}
    {answer : Option (List Address)} (hpage : Paging history start upper 0 (0, []) w)
    (hexec : (fetchPages fuel (task.fetchResponses net host) (· == ZERO_ADDRESS) upper
      DEFAULT_CHUNK_SIZE (0, [])).exec w = (.ok answer, w')) :
    start ≤ w'.clock.mono ∧ (answer = none → fuel ≤ (history.slots w'.clock.mono).length) ∧
      ∀ addresses, answer = some addresses → Paging history start upper 0 (upper, addresses) w' := by
  unfold fetchPages at hexec
  have hends := loop_ends (fun _ => fetchPage (task.fetchResponses net host) (· == ZERO_ADDRESS)
    upper DEFAULT_CHUNK_SIZE) (fun _ => pure none) fuel 0 (0, []) w
  have hreached : ∀ {k page u}, Reached (fun _ => fetchPage (task.fetchResponses net host)
      (· == ZERO_ADDRESS) upper DEFAULT_CHUNK_SIZE) 0 (0, []) w k page u →
      Paging history start upper k page u :=
    fun hr => hr.inv hpage fun _ _ _ _ _ hpage hturn => hpage.next h hturn
  rw [hexec] at hends
  generalize hr : (Except.ok answer, w') = r at hends
  cases hends with
  | raised _ _ _ => cases hr
  | stopped _ _ hturn => cases (fetchPage_last hturn (by simp)).2.1
  | usedUp hreach =>
    cases hr
    obtain ⟨hstart, hturns, hrange, hlisted, -, -⟩ := hreached hreach
    exact ⟨hstart, fun _ => by omega, by simp⟩
  | done hreach _ hturn =>
    cases hr
    obtain ⟨hupper, hanswer, rfl⟩ := fetchPage_last hturn (by simp)
    cases hanswer
    obtain ⟨hstart, hturns, hrange, hlisted, hsound, hcovers⟩ := hreached hreach
    refine ⟨hstart, by simp, ?_⟩
    rintro addresses ⟨⟩
    exact ⟨hstart, by omega, le_refl _, hlisted, hsound,
      fun i r hi => hcovers i r (hi.trans_le hupper)⟩

/-- The list that is read holds what had been submitted when the read began, and nothing that has
not been when it ends. -/
theorem TaskHistory.Answers.getResponses (h : history.Answers net host task) {fuel : Nat}
    {answer : Option (List Response)}
    (hexec : (Task.getResponses fuel (task.getAttemptCount net) (task.fetchResponses net host) 0
      none).exec w = (.ok answer, w')) :
    w.clock.mono ≤ w'.clock.mono ∧
      (answer = none → fuel ≤ (history.slots w'.clock.mono).length) ∧
      ∀ responses, answer = some responses →
        (∀ r ∈ responses, history.submitted w'.clock.mono r.address) ∧
          ∀ r, history.submitted w.clock.mono r → ⟨r⟩ ∈ responses := by
  unfold Task.getResponses at hexec
  rw [exec_map] at hexec
  rcases hpages : (paginatedCall fuel (task.getAttemptCount net) (task.fetchResponses net host)
    (· == ZERO_ADDRESS) 0 none DEFAULT_CHUNK_SIZE false).exec w with ⟨e | addresses, w₂⟩
  · rw [hpages] at hexec
    cases hexec
  rw [hpages] at hexec
  dsimp only at hexec
  cases hexec
  unfold paginatedCall at hpages
  obtain ⟨n, w₁, hcount, hpages⟩ := exec_bind_eq_ok hpages
  dsimp only at hpages
  obtain ⟨t, ht, ht', rfl⟩ := h.getAttemptCount hcount
  have hlisted : (history.slots t).length ≤ (history.slots w₁.clock.mono).length :=
    length_mono ht'
  have hstart : (history.slots w.clock.mono).length ≤ (history.slots t).length := length_mono ht
  by_cases hempty : ((history.slots t).length : ℤ) ≤ 0
  · rw [if_pos hempty] at hpages
    cases hpages
    refine ⟨ht.trans ht', fun hnone => by simp at hnone, ?_⟩
    rintro responses ⟨⟩
    have hnil : history.slots w.clock.mono = [] := List.length_eq_zero_iff.mp (by omega)
    refine ⟨by simp, fun r hr => ?_⟩
    rw [submitted, hnil] at hr
    cases hr.1
  · rw [if_neg hempty] at hpages
    have hfirst : Paging history w.clock.mono (history.slots t).length 0 (0, []) w₁ :=
      ⟨ht.trans ht', le_refl _, by simp, by omega, by simp, fun i r hi => absurd hi (by simp)⟩
    obtain ⟨hle, hnone, hsome⟩ := hfirst.pages h hpages
    refine ⟨hle, fun ha => hnone (by simpa using ha), ?_⟩
    intro responses hresponses
    obtain ⟨addresses, rfl, rfl⟩ := Option.map_eq_some_iff.mp hresponses
    obtain ⟨-, -, -, -, hsound, hcovers⟩ := hsome addresses rfl
    refine ⟨?_, ?_⟩
    · intro r hr
      obtain ⟨address, haddress, rfl⟩ := List.mem_map.mp hr
      exact hsound address haddress
    · intro r hr
      obtain ⟨i, hi⟩ := List.mem_iff_getElem?.mp hr.1
      have hlt : i < (history.slots w.clock.mono).length := (List.getElem?_eq_some_iff.mp hi).1
      exact List.mem_map_of_mem (hcovers i r (by dsimp only; omega) hi hr.2)

/-! ## The search -/

theorem firstConfirmed_finds (h : history.Answers net host task) {responses : List Response}
    {found : Option Response}
    (hsubmitted : ∀ r ∈ responses, history.submitted w.clock.mono r.address)
    (hexec : (firstConfirmed net responses).exec w = (.ok found, w')) :
    w.clock.mono ≤ w'.clock.mono ∧
      (∀ r, found = some r → r ∈ responses ∧
        history.confirmed w'.clock.mono r.address = true) ∧
      (found = none → ∀ r ∈ responses, history.confirmed w.clock.mono r.address = false) := by
  induction responses generalizing w with
  | nil =>
    cases hexec
    exact ⟨le_refl _, by simp, by simp⟩
  | cons resp rest ih =>
    obtain ⟨confirmed, w₁, hresp, hrest⟩ := exec_bind_eq_ok hexec
    obtain ⟨t, ht, ht', rfl⟩ := h.isConfirmed (hsubmitted resp List.mem_cons_self) hresp
    cases hconfirmed : history.confirmed t resp.address with
    | true =>
      rw [hconfirmed] at hrest
      cases hrest
      refine ⟨ht.trans ht', ?_, by simp⟩
      rintro r ⟨⟩
      exact ⟨List.mem_cons_self, history.final ht' _ hconfirmed⟩
    | false =>
      rw [hconfirmed] at hrest
      have hrest : (firstConfirmed net rest).exec w₁ = (.ok found, w') := hrest
      obtain ⟨hle, hsome, hnone⟩ := ih (fun r hr =>
        TaskHistory.submitted_mono (ht.trans ht') (hsubmitted r (List.mem_cons_of_mem _ hr))) hrest
      -- What is not confirmed later was not confirmed before.
      have hbefore : ∀ {t t' : ℚ} {r : Address}, t ≤ t' → history.confirmed t' r = false →
          history.confirmed t r = false := by
        intro t t' r hle hfalse
        by_contra htrue
        rw [history.final hle r (by simpa using htrue)] at hfalse
        cases hfalse
      refine ⟨(ht.trans ht').trans hle, ?_, ?_⟩
      · intro r hr
        obtain ⟨hmem, hconf⟩ := hsome r hr
        exact ⟨List.mem_cons_of_mem _ hmem, hconf⟩
      · intro hnone' r hr
        rcases List.mem_cons.mp hr with rfl | hr
        · exact hbefore ht hconfirmed
        · exact hbefore (ht.trans ht') (hnone hnone' r hr)

/-- However the task goes on meanwhile, a response that is returned was submitted and is confirmed,
and where none is returned none was confirmed at the start. -/
theorem getConfirmedResponse_finds (h : history.Answers net host task) (fuel : Nat)
    (w w' : World) (answer : Option (Option Response))
    (hexec : (task.getConfirmedResponse net host fuel).exec w = (.ok answer, w')) :
    history.Finds fuel w w' answer := by
  obtain ⟨responses, w₁, hresponses, hrest⟩ := exec_bind_eq_ok hexec
  obtain ⟨hle, hnone, hsome⟩ := h.getResponses hresponses
  cases responses with
  | none =>
    cases hrest
    exact ⟨by simp, by simp, fun _ => hnone rfl⟩
  | some responses =>
    obtain ⟨found, w₂, hfound, hrest⟩ := exec_bind_eq_ok hrest
    cases hrest
    obtain ⟨hsubmitted, hcovers⟩ := hsome responses rfl
    obtain ⟨hle', hfind, hnothing⟩ := firstConfirmed_finds h hsubmitted hfound
    refine ⟨?_, ?_, by simp⟩
    · rintro r ⟨⟩
      obtain ⟨hmem, hconfirmed⟩ := hfind r rfl
      exact ⟨TaskHistory.submitted_mono hle' (hsubmitted r hmem), hconfirmed⟩
    · rintro ⟨⟩ r hr
      have hfalse := hnothing rfl _ (hcovers r hr)
      by_contra htrue
      rw [history.final hle r (by simpa using htrue)] at hfalse
      cases hfalse

end

/-! ## A task being answered -/

/-- One attempt; its response comes, and is confirmed, at the tenth second. -/
def TaskHistory.answered : TaskHistory where
  slots := fun t => if t < 10 then [ZERO_ADDRESS] else [0x8#160]
  confirmed := fun t r => !(t < 10) && r = 0x8#160
  keeps := by
    intro t t' hle i r hr
    by_cases ht' : t' < 10
    · rw [if_pos (hle.trans_lt ht')] at hr
      exact ⟨r, by rwa [if_pos ht'], fun _ => rfl⟩
    · by_cases ht : t < 10
      · rw [if_pos ht] at hr
        cases i with
        | zero =>
          cases hr
          exact ⟨0x8#160, by simp [ht'], fun hne => absurd rfl hne⟩
        | succ i => simp at hr
      · rw [if_neg ht] at hr
        exact ⟨r, by rwa [if_neg ht'], fun _ => rfl⟩
  final := by
    intro t t' hle r h
    simp only [Bool.and_eq_true, Bool.not_eq_true', decide_eq_false_iff_not, not_lt,
      decide_eq_true_eq] at h ⊢
    exact ⟨h.1.trans hle, h.2⟩

/-- The chain it happens on; every call takes four seconds. -/
def ReadNet.answering : ReadNet where
  load := .prompt
  took := ReadNet.finalizing.took
  state := fun t call =>
    match call.functionName with
    | "getAttemptCount" => .ok (.int 1)
    | "getResponsesOf" => .ok (.tuple [.str (if t < 10 then "0x0" else "0x8")])
    | _ => .ok (.bool (TaskHistory.answered.confirmed t call.contract))

/-- Two addresses are known by name. -/
def Host.small : Host :=
  { Host.trial with toChecksumAddress := fun s => .ok (if s = "0x8" then 0x8#160 else ZERO_ADDRESS) }

theorem TaskHistory.answered_answers :
    TaskHistory.answered.Answers .answering .small ⟨0x7#160⟩ where
  count := by
    intro t
    by_cases ht : t < 10 <;> simp [ReadNet.answering, TaskHistory.answered, ht]
  responses := by
    intro t lo hi hlo hle hhi
    have hlength : (TaskHistory.answered.slots t).length = 1 := by
      by_cases ht : t < 10 <;> simp [TaskHistory.answered, ht]
    obtain ⟨rfl, rfl⟩ : lo = 0 ∧ hi = 0 := by omega
    refine ⟨_, rfl, ?_⟩
    by_cases ht : t < 10
    · simp only [TaskHistory.answered, ht, if_true]
      rfl
    · simp only [TaskHistory.answered, ht, if_false]
      rfl
  confirmedFinal := fun _ _ _ => rfl

/-- A search that begins before the response is there finds it when it is. -/
theorem getConfirmedResponse_finds_answered :
    ∃ w' answer, ((⟨0x7#160⟩ : Task).getConfirmedResponse .answering .small 3).exec
        (.imported ⟨3, 3⟩) = (.ok answer, w') ∧
      answer.map (·.map (·.address)) = some (some 0x8#160) ∧
      TaskHistory.answered.Finds 3 (.imported ⟨3, 3⟩) w' answer := by
  have hfound : (((⟨0x7#160⟩ : Task).getConfirmedResponse .answering .small 3).exec
      (.imported ⟨3, 3⟩)).1.toOption.map (·.map (·.map (·.address))) =
        some (some (some 0x8#160)) := by decide +kernel
  obtain ⟨answer, w', hexec, haddress⟩ := returned_of_map hfound
  exact ⟨w', answer, hexec, haddress,
    getConfirmedResponse_finds TaskHistory.answered_answers 3 _ w' answer hexec⟩

end OgpuSdk
