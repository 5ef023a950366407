import OgpuSdk.Lib.Loop
import OgpuSdk.Lib.Slice
import OgpuSdk.Types.Errors

/-!
# Paginated reads

Every list-returning read of a contract goes through `paginatedCall`, over the
count and the getter of the list. A `ListContract` is a contract that keeps
one: its getters take bounds that are both inclusive and panic past the end,
some of them whenever the lower bound is not zero, and entries are appended
between calls. Whatever the chunk size and the mode, a call returns the
entries of one half-open range.
-/

namespace OgpuSdk

open Prog

section

variable {σ ε α : Type}

/-- `items[i:]` -/
def sliceFrom (items : List α) (i : ℤ) : List α :=
  if 0 ≤ i then items.drop i.toNat else items.drop (items.length + i).toNat

/-- One turn of the `while` loop, over `current` and `results`. -/
def fetchPage (fetchFn : ℤ → ℤ → Prog σ ε (List α)) (isZeroAddress : α → Bool)
    (upper chunkSize : ℤ) (page : ℤ × List α) :
    Prog σ ε (Turn (Option (List α)) (ℤ × List α)) := do
  let (current, results) := page
  if current < upper then
    let chunkEnd := min (current + chunkSize) upper
    let chunk ← fetchFn current (chunkEnd - 1)
    pure (.next (chunkEnd, results ++ chunk.filter (!isZeroAddress ·)))
  else pure (.done (some results))

/-- The `while` loop, for at most `fuel` turns; `none` when it goes on after them. -/
def fetchPages (fuel : Nat) (fetchFn : ℤ → ℤ → Prog σ ε (List α)) (isZeroAddress : α → Bool)
    (upper chunkSize : ℤ) (page : ℤ × List α) : Prog σ ε (Option (List α)) :=
  loop (fun _ => fetchPage fetchFn isZeroAddress upper chunkSize) (fun _ => pure none) fuel 0 page

def paginatedCall (fuel : Nat) (countFn : Prog σ ε ℤ) (fetchFn : ℤ → ℤ → Prog σ ε (List α))
    (isZeroAddress : α → Bool) (lower : ℤ) (upper : Option ℤ) (chunkSize : ℤ)
    (fetchFromZero : Bool) : Prog σ ε (Option (List α)) := do
  let upper ← match upper with
    | some upper => pure upper
    | none => countFn
  if upper ≤ lower then
    pure (some [])
  else if fetchFromZero then do
    let items ← fetchFn 0 (upper - 1)
    pure (some ((sliceFrom items lower).filter (!isZeroAddress ·)))
  else
    fetchPages fuel fetchFn isZeroAddress upper chunkSize (lower, [])

end

/-! ## The contract -/

/-- A contract that keeps a list, and what it has been asked. -/
structure ListContract (α : Type) where
  entries : List α
  /-- the bounds of the getter calls, both inclusive -/
  requests : List (ℤ × ℤ)
  /-- RPC calls so far -/
  calls : Nat

/-- `Panic(0x32)`: an index past the end of an array. -/
def outOfBounds : Raised :=
  (Exc.raw ⟨.contractLogicError, "Panic error 0x32: Array index is out of bounds."⟩).raised

namespace ListContract

variable {α : Type}

/-- The contract when its next call is made: `growth k` is appended before call `k`. -/
def grown (growth : Nat → List α) (c : ListContract α) : ListContract α :=
  { c with entries := c.entries ++ growth c.calls, calls := c.calls + 1 }

def count (growth : Nat → List α) : Prog (ListContract α) Raised ℤ := do
  modify (grown growth)
  pure (← get).entries.length

/-- A getter of the list; one that indexes its result absolutely panics for a lower bound above
zero. -/
def getter (growth : Nat → List α) (absolute : Bool) (lo hi : ℤ) :
    Prog (ListContract α) Raised (List α) := do
  modify (grown growth)
  modify fun c => { c with requests := c.requests ++ [(lo, hi)] }
  let entries := (← get).entries
  if 0 ≤ lo ∧ lo ≤ hi ∧ hi < entries.length ∧ (absolute = true → lo = 0) then
    pure (slice entries lo (hi + 1))
  else raise outOfBounds

/-- The list at the moment the range is fixed. -/
def listed (growth : Nat → List α) (upper : Option ℤ) (c : ListContract α) : List α :=
  match upper with
  | some _ => c.entries
  | none => (c.grown growth).entries

/-- The end of the range: the one given, or the count at the start. -/
def bound (growth : Nat → List α) (upper : Option ℤ) (c : ListContract α) : ℤ :=
  upper.getD (c.grown growth).entries.length

theorem exec_count (growth : Nat → List α) (c : ListContract α) :
    (count growth).exec c = (.ok ((c.grown growth).entries.length : ℤ), c.grown growth) := rfl

/-- The contract after a getter call. -/
def asked (growth : Nat → List α) (lo hi : ℤ) (c : ListContract α) : ListContract α :=
  { c.grown growth with requests := c.requests ++ [(lo, hi)] }

/-- A getter call within the list returns the range, both ends included. -/
theorem exec_getter (growth : Nat → List α) (absolute : Bool) {lo hi : ℤ} {c : ListContract α}
    (hlo : 0 ≤ lo) (hle : lo ≤ hi) (hhi : hi < c.entries.length)
    (hzero : absolute = true → lo = 0) :
    (getter growth absolute lo hi).exec c =
      (.ok (slice c.entries lo (hi + 1)), c.asked growth lo hi) := by
  have hprefix : c.entries <+: (c.asked growth lo hi).entries := List.prefix_append _ _
  have hhi' : hi < (c.asked growth lo hi).entries.length := by
    have := hprefix.length_le
    omega
  have hexec : (getter growth absolute lo hi).exec c =
      (.ok (slice (c.asked growth lo hi).entries lo (hi + 1)), c.asked growth lo hi) := by
    unfold getter
    rw [exec_bind_ok (exec_modify _ _), exec_bind_ok (exec_modify _ _), exec_bind_ok (exec_get _)]
    exact congrArg (exec · _) (if_pos ⟨hlo, hle, hhi', hzero⟩)
  rw [hexec, slice_of_isPrefix hprefix lo (by omega)]

end ListContract

/-! ## What is requested -/

/-- The requests ask for every index of `lo ≤ i < hi` once, for no other, and for at most
`chunkSize` of them at a time. -/
structure Tiles (requests : List (ℤ × ℤ)) (lo hi chunkSize : ℤ) : Prop where
  once : ∀ i, requests.countP (fun r => decide (r.1 ≤ i ∧ i ≤ r.2)) =
    if lo ≤ i ∧ i < hi then 1 else 0
  small : ∀ r ∈ requests, r.2 - r.1 + 1 ≤ chunkSize

theorem Tiles.nil {lo hi chunkSize : ℤ} (h : hi ≤ lo) : Tiles [] lo hi chunkSize where
  once := by
    intro i
    rw [if_neg (by omega)]
    rfl
  small := by simp

/-- A first request up to where the others start. -/
theorem Tiles.cons {requests : List (ℤ × ℤ)} {lo mid hi chunkSize : ℤ} (hlo : lo ≤ mid)
    (hhi : mid ≤ hi) (hsmall : mid - lo ≤ chunkSize) (h : Tiles requests mid hi chunkSize) :
    Tiles ((lo, mid - 1) :: requests) lo hi chunkSize where
  once := by
    intro i
    rw [List.countP_cons, h.once]
    simp only [decide_eq_true_eq]
    split_ifs <;> omega
  small := by
    intro r hr
    rcases List.mem_cons.mp hr with rfl | hr
    · show mid - 1 - lo + 1 ≤ chunkSize
      omega
    · exact h.small r hr

/-! ## The pages -/

section

variable {α : Type} {growth : Nat → List α} {isZeroAddress : α → Bool}

/-- The entries of a range that are no zero addresses. -/
def nonZero (isZeroAddress : α → Bool) (xs : List α) (lo hi : ℤ) : List α :=
  (slice xs lo hi).filter (!isZeroAddress ·)

variable (growth isZeroAddress) in
/-- From `current` on, the loop collects the rest of the range and asks for every index of it
once. -/
theorem fetchPages_run {upper chunkSize : ℤ} (hchunk : 1 ≤ chunkSize) (fuel : Nat) (current : ℤ)
    (results : List α) (c : ListContract α) (hcurrent : 0 ≤ current)
    (hupper : upper ≤ c.entries.length) (hfuel : (upper - current).toNat < fuel) :
    ∃ c' requests,
      (fetchPages fuel (ListContract.getter growth false) isZeroAddress upper chunkSize
          (current, results)).exec c =
        (.ok (some (results ++ nonZero isZeroAddress c.entries current upper)), c') ∧
      c'.requests = c.requests ++ requests ∧ Tiles requests current upper chunkSize := by
  unfold fetchPages
  -- How many turns were taken before does not matter.
  generalize (0 : ℕ) = k
  induction fuel generalizing k current results c with
  | zero => omega
  | succ fuel ih =>
    by_cases hlt : current < upper
    · have hend : min (current + chunkSize) upper ≤ upper := min_le_right _ _
      have hsmall : min (current + chunkSize) upper ≤ current + chunkSize := min_le_left _ _
      have hnext : current < min (current + chunkSize) upper := by omega
      generalize hchunkEnd : min (current + chunkSize) upper = chunkEnd at hend hsmall hnext
      have hget := ListContract.exec_getter growth false hcurrent
        (show current ≤ chunkEnd - 1 by omega) (show chunkEnd - 1 < c.entries.length by omega)
        (by simp)
      have hturn : (fetchPage (ListContract.getter growth false) isZeroAddress upper chunkSize
          (current, results)).exec c =
            (.ok (.next (chunkEnd, results ++ nonZero isZeroAddress c.entries current chunkEnd)),
              c.asked growth current (chunkEnd - 1)) := by
        unfold fetchPage
        simp only [hlt, if_true, hchunkEnd]
        rw [exec_bind_ok hget, Int.sub_add_cancel]
        rfl
      have hprefix : c.entries <+: (c.asked growth current (chunkEnd - 1)).entries :=
        List.prefix_append _ _
      have hlen := hprefix.length_le
      obtain ⟨c', requests, hexec, hreq, htiles⟩ := ih chunkEnd
        (results ++ nonZero isZeroAddress c.entries current chunkEnd)
        (c.asked growth current (chunkEnd - 1)) (by omega) (by omega) (by omega) (k + 1)
      refine ⟨c', (current, chunkEnd - 1) :: requests, ?_, ?_, ?_⟩
      · rw [loop, exec_bind_ok hturn, hexec, List.append_assoc]
        unfold nonZero
        rw [slice_of_isPrefix hprefix _ hupper, ← List.filter_append,
          slice_append _ (by omega) hend]
      · rw [hreq]
        exact List.append_assoc _ _ _
      · exact htiles.cons (by omega) hend (by omega)
    · refine ⟨c, [], ?_, (List.append_nil _).symm, .nil (by omega)⟩
      have hturn : (fetchPage (ListContract.getter growth false) isZeroAddress upper chunkSize
          (current, results)).exec c = (.ok (.done (some results)), c) := by
        unfold fetchPage
        simp only [hlt, if_false]
        rfl
      rw [loop, exec_bind_ok hturn]
      unfold nonZero
      rw [slice_eq_nil _ (by omega), List.filter_nil, List.append_nil]
      rfl

theorem sliceFrom_eq (xs : List α) {lower : ℤ} (h : 0 ≤ lower) (upper : ℤ) :
    sliceFrom (slice xs 0 upper) lower = slice xs lower upper := by
  unfold sliceFrom slice
  rw [if_pos h, Int.toNat_zero, List.drop_zero]

variable (growth isZeroAddress) in
/-- What a call returns once its range is fixed, and what it asks for in pages. -/
theorem paginatedCall_some {absolute fetchFromZero : Bool} {lower upper chunkSize : ℤ} {fuel : Nat}
    (countFn : Prog (ListContract α) Raised ℤ) {c : ListContract α} (hlower : 0 ≤ lower)
    (hupper : upper ≤ c.entries.length) (hchunk : 1 ≤ chunkSize)
    (hmode : absolute = true → fetchFromZero = true) (hfuel : (upper - lower).toNat < fuel) :
    ∃ c',
      (paginatedCall fuel countFn (ListContract.getter growth absolute) isZeroAddress lower
          (some upper) chunkSize fetchFromZero).exec c =
        (.ok (some (nonZero isZeroAddress c.entries lower upper)), c') ∧
      (fetchFromZero = false → ∃ requests, c'.requests = c.requests ++ requests ∧
        Tiles requests lower upper chunkSize) := by
  unfold paginatedCall
  rw [exec_bind_ok (exec_pure _ _)]
  dsimp only
  by_cases hle : upper ≤ lower
  · rw [if_pos hle]
    unfold nonZero
    rw [slice_eq_nil _ hle]
    exact ⟨c, rfl, fun _ => ⟨[], (List.append_nil _).symm, .nil hle⟩⟩
  · rw [if_neg hle]
    cases fetchFromZero with
    | true =>
      have hget := ListContract.exec_getter growth absolute (le_refl 0)
        (show 0 ≤ upper - 1 by omega) (show upper - 1 < c.entries.length by omega) (fun _ => rfl)
      rw [if_pos rfl, exec_bind_ok hget, Int.sub_add_cancel, sliceFrom_eq _ hlower]
      exact ⟨_, rfl, by simp⟩
    | false =>
      obtain rfl : absolute = false := by simpa using hmode
      obtain ⟨c', requests, hexec, hreq, htiles⟩ :=
        fetchPages_run growth isZeroAddress hchunk fuel lower [] c
          hlower hupper hfuel
      rw [if_neg Bool.false_ne_true, hexec]
      exact ⟨c', rfl, fun _ => ⟨requests, hreq, htiles⟩⟩

/-- With no upper bound given, a call is one for the count, made after it is read. -/
theorem paginatedCall_none {absolute fetchFromZero : Bool} {lower chunkSize : ℤ} {fuel : Nat}
    {c : ListContract α} :
    (paginatedCall fuel (ListContract.count growth) (ListContract.getter growth absolute)
        isZeroAddress lower none chunkSize fetchFromZero).exec c =
      (paginatedCall fuel (ListContract.count growth) (ListContract.getter growth absolute)
        isZeroAddress lower (some (c.grown growth).entries.length) chunkSize
        fetchFromZero).exec (c.grown growth) := by
  unfold paginatedCall
  rw [exec_bind_ok (ListContract.exec_count _ _), exec_bind_ok (exec_pure _ _)]

/-- A call returns the entries of its range that are no zero addresses, whatever the chunk size and
the mode, and in pages it asks for every index of the range once. -/
theorem paginatedCall_eq_slice {absolute fetchFromZero : Bool} {lower chunkSize : ℤ}
    {upper : Option ℤ} {fuel : Nat} {c : ListContract α} (hlower : 0 ≤ lower)
    (hupper : ∀ u, upper = some u → u ≤ c.entries.length) (hchunk : 1 ≤ chunkSize)
    (hmode : absolute = true → fetchFromZero = true)
    (hfuel : (c.bound growth upper - lower).toNat < fuel) :
    ∃ c',
      (paginatedCall fuel (ListContract.count growth) (ListContract.getter growth absolute)
          isZeroAddress lower upper chunkSize fetchFromZero).exec c =
        (.ok (some (nonZero isZeroAddress (c.listed growth upper) lower (c.bound growth upper))),
          c') ∧
      (fetchFromZero = false → ∃ requests, c'.requests = c.requests ++ requests ∧
        Tiles requests lower (c.bound growth upper) chunkSize) := by
  cases upper with
  | some u =>
    exact paginatedCall_some growth isZeroAddress _ hlower (hupper u rfl) hchunk hmode hfuel
  | none =>
    rw [paginatedCall_none]
    exact paginatedCall_some growth isZeroAddress _ hlower (le_refl _) hchunk hmode hfuel

/-- Seven entries with a hole, read from the third on in pages of two while the list grows. -/
theorem paginatedCall_pages :
    ∃ c', (paginatedCall 10 (ListContract.count fun k => [100 + k])
        (ListContract.getter (fun k => [100 + k]) false) (· == 0) 2 none 2 false).exec
          ⟨[1, 2, 3, 0, 5, 6], [], 0⟩ = (.ok (some [3, 5, 6, 100]), c') ∧
      ∃ requests, c'.requests = [] ++ requests ∧ Tiles requests 2 7 2 := by
  obtain ⟨c', hexec, htiles⟩ := @paginatedCall_eq_slice ℕ (fun k => [100 + k]) (· == 0) false
    false 2 2 none 10 ⟨[1, 2, 3, 0, 5, 6], [], 0⟩ (by decide) (by simp) (by decide) (by simp)
    (by decide)
  exact ⟨c', hexec, htiles rfl⟩

end

/-! ## The list reads of sources and tasks -/

def ZERO_ADDRESS : Address := 0

def DEFAULT_CHUNK_SIZE : ℤ := 100

/-- Handles on deployed contracts. -/
structure Task where
  address : Address

structure Response where
  address : Address

section

variable {σ ε : Type} (fuel : Nat) (countFn : Prog σ ε ℤ)

/-- The getters of a source panic when the lower bound is not zero. -/
def Source.getTasks (fetchFn : ℤ → ℤ → Prog σ ε (List Address)) (lower : ℤ) (upper : Option ℤ) :
    Prog σ ε (Option (List Task)) :=
  Option.map (List.map Task.mk) <$>
    paginatedCall fuel countFn fetchFn (· == ZERO_ADDRESS) lower upper DEFAULT_CHUNK_SIZE true

def Source.getRegistrants (fetchFn : ℤ → ℤ → Prog σ ε (List Address)) (lower : ℤ)
    (upper : Option ℤ) : Prog σ ε (Option (List Address)) :=
  paginatedCall fuel countFn fetchFn (· == ZERO_ADDRESS) lower upper DEFAULT_CHUNK_SIZE true

def Task.getAttempters (fetchFn : ℤ → ℤ → Prog σ ε (List Address)) (lower : ℤ)
    (upper : Option ℤ) : Prog σ ε (Option (List Address)) :=
  paginatedCall fuel countFn fetchFn (· == ZERO_ADDRESS) lower upper DEFAULT_CHUNK_SIZE false

/-- A timestamp is never equal to the text of the zero address. -/
def Task.getAttemptTimestamps (fetchFn : ℤ → ℤ → Prog σ ε (List ℤ)) (lower : ℤ)
    (upper : Option ℤ) : Prog σ ε (Option (List ℤ)) :=
  paginatedCall fuel countFn fetchFn (fun _ => false) lower upper DEFAULT_CHUNK_SIZE false

def Task.getResponses (fetchFn : ℤ → ℤ → Prog σ ε (List Address)) (lower : ℤ)
    (upper : Option ℤ) : Prog σ ε (Option (List Response)) :=
  Option.map (List.map Response.mk) <$>
    paginatedCall fuel countFn fetchFn (· == ZERO_ADDRESS) lower upper DEFAULT_CHUNK_SIZE false

end

/-- From a list that grows by `growth`, the read returns what `view` makes of its range. -/
def ReadsRange {α β : Type} (growth : Nat → List α)
    (read : Nat → ℤ → Option ℤ → Prog (ListContract α) Raised (Option (List β)))
    (view : List α → List β) : Prop :=
  ∀ (fuel : Nat) (lower : ℤ) (upper : Option ℤ) (c : ListContract α), 0 ≤ lower →
    (∀ u, upper = some u → u ≤ c.entries.length) → (c.bound growth upper - lower).toNat < fuel →
      ∃ c', (read fuel lower upper).exec c =
        (.ok (some (view (slice (c.listed growth upper) lower (c.bound growth upper)))), c')

section

variable {α β : Type} {growth : Nat → List α}

theorem ReadsRange.map {read : Nat → ℤ → Option ℤ → Prog (ListContract α) Raised (Option (List α))}
    {view : List α → List α} (h : ReadsRange growth read view) (f : α → β) :
    ReadsRange growth (fun fuel lower upper => Option.map (List.map f) <$> read fuel lower upper)
      (fun xs => (view xs).map f) := by
  intro fuel lower upper c hlower hupper hfuel
  obtain ⟨c', hexec⟩ := h fuel lower upper c hlower hupper hfuel
  refine ⟨c', ?_⟩
  rw [exec_map, hexec]
  rfl

theorem readsRange_paginatedCall (isZeroAddress : α → Bool) {absolute fetchFromZero : Bool}
    (hmode : absolute = true → fetchFromZero = true) :
    ReadsRange growth
      (fun fuel lower upper => paginatedCall fuel (ListContract.count growth)
        (ListContract.getter growth absolute) isZeroAddress lower upper DEFAULT_CHUNK_SIZE
        fetchFromZero)
      (fun xs => xs.filter (!isZeroAddress ·)) := by
  intro fuel lower upper c hlower hupper hfuel
  have hchunk : 1 ≤ DEFAULT_CHUNK_SIZE := by decide
  cases upper with
  | some u =>
    obtain ⟨c', hexec, -⟩ := paginatedCall_some growth isZeroAddress (ListContract.count growth)
      hlower (hupper u rfl) hchunk hmode hfuel
    exact ⟨c', hexec⟩
  | none =>
    obtain ⟨c', hexec, -⟩ := paginatedCall_some growth isZeroAddress (ListContract.count growth)
      (c := c.grown growth) hlower (le_refl _) hchunk hmode hfuel
    exact ⟨c', paginatedCall_none.trans hexec⟩

end

/-- The public reads return their range, each over the kind of getter its contract has. -/
theorem readsRange_public (growth : Nat → List Address) (stamps : Nat → List ℤ) :
    ReadsRange growth
        (fun fuel => Source.getTasks fuel (ListContract.count growth)
          (ListContract.getter growth true))
        (fun xs => (xs.filter (!· == ZERO_ADDRESS)).map Task.mk) ∧
      ReadsRange growth
        (fun fuel => Source.getRegistrants fuel (ListContract.count growth)
          (ListContract.getter growth true))
        (fun xs => xs.filter (!· == ZERO_ADDRESS)) ∧
      ReadsRange growth
        (fun fuel => Task.getAttempters fuel (ListContract.count growth)
          (ListContract.getter growth false))
        (fun xs => xs.filter (!· == ZERO_ADDRESS)) ∧
      ReadsRange stamps
        (fun fuel => Task.getAttemptTimestamps fuel (ListContract.count stamps)
          (ListContract.getter stamps false))
        (fun xs => xs) ∧
      ReadsRange growth
        (fun fuel => Task.getResponses fuel (ListContract.count growth)
          (ListContract.getter growth false))
        (fun xs => (xs.filter (!· == ZERO_ADDRESS)).map Response.mk) := by
  have hstamps : (fun xs : List ℤ => xs) = fun xs => xs.filter fun _ => !false := by
    simp
  rw [hstamps]
  exact ⟨(readsRange_paginatedCall _ fun _ => rfl).map _, readsRange_paginatedCall _ fun _ => rfl,
    readsRange_paginatedCall _ (by simp), readsRange_paginatedCall _ (by simp),
    (readsRange_paginatedCall _ (by simp)).map _⟩

end OgpuSdk
