import OgpuSdk.Lib.Machine
import OgpuSdk.Chain.Isolation

/-!
# Many threads, one lock for each address

Every call of the nonce manager takes the lock object `_get_lock` gives it for
its address, and only then reads the pending count, loads the entry and stores
it: steps of any number of threads, on any addresses, come in between. The
machine starts anywhere, with calls for other addresses under way.

The log holds what each call hands back, in lock order. For an address that is
only reserved from and read without force, the log is that of the same calls
made one after another (`Serial`), whatever the others do; what a sequence of
such calls hands out is then a matter of `Counter` alone.

`clear_all` is no step here: it drops the locks together with the entries, of
every address.
-/

namespace OgpuSdk

/-! ## The machine -/

/-- A `threading.Lock` object. -/
abbrev LockId := ℕ

/-- What a thread calls the nonce manager for. -/
inductive NonceRequest where
  | getNonce (forceRefresh : Bool)
  | reserveNonce
  | releaseNonce (nonce : ℕ)
  | incrementNonce
  | resetNonce
  deriving DecidableEq

/-- The call it is once its chain read is made; the last three methods make none. -/
def NonceRequest.reading : NonceRequest → Option (Except Exc ℕ) → Option NonceCall
  | .getNonce forceRefresh, some pending => some (.getNonce forceRefresh pending)
  | .reserveNonce, some pending => some (.reserveNonce pending)
  | .releaseNonce nonce, none => some (.releaseNonce nonce)
  | .incrementNonce, none => some .incrementNonce
  | .resetNonce, none => some .resetNonce
  | _, _ => none

namespace NonceCall

/-- The chain read of the call raises. -/
def failed : NonceCall → Bool
  | .getNonce _ (.error _) | .reserveNonce (.error _) => true
  | _ => false

/-- Reservations, and reads that do not force a refresh. -/
def plain : NonceCall → Bool
  | .reserveNonce _ | .getNonce false _ => true
  | _ => false

end NonceCall

/-- Where a thread is in a call. -/
inductive NoncePhase where
  | idle
  | called (address : Address) (request : NonceRequest)
  /-- `_get_lock` has returned -/
  | waiting (address : Address) (request : NonceRequest) (lock : LockId)
  /-- inside the `with` block -/
  | locked (address : Address) (request : NonceRequest) (lock : LockId)
  /-- the pending count is read -/
  | ready (address : Address) (call : NonceCall) (lock : LockId)
  /-- the entry is loaded -/
  | loaded (address : Address) (call : NonceCall) (lock : LockId) (cached : Counter)
  /-- the body has returned or raised -/
  | leaving (lock : LockId)

structure NonceThreads (T : Type) where
  nonces : Nonces
  /-- `_locks` -/
  locks : Address → Option LockId
  /-- the number of lock objects made so far -/
  made : ℕ
  holder : LockId → Option T
  phase : T → NoncePhase
  /-- each call whose body is done, with what it returns or raises -/
  log : List (Address × NonceCall × Except Raised (Option ℕ))

inductive LockAct (T : Type) where
  | call (t : T) (address : Address) (request : NonceRequest)
  | getLock (t : T)
  | acquire (t : T)
  /-- the chain read, where the method makes one -/
  | read (t : T) (pending : Option (Except Exc ℕ))
  | load (t : T)
  | store (t : T)
  | leave (t : T)

namespace NonceThreads

variable {T : Type}

/-- What the log says about one address. -/
def logOf (s : NonceThreads T) (address : Address) :
    List (NonceCall × Except Raised (Option ℕ)) :=
  s.log.filterMap fun entry => if entry.1 = address then some entry.2 else none

section

variable [DecidableEq T]

/-- The thread goes on to `phase`. -/
def goto (s : NonceThreads T) (t : T) (phase : NoncePhase) : NonceThreads T :=
  { s with phase := Function.update s.phase t phase }

def record (s : NonceThreads T) (address : Address) (call : NonceCall)
    (answer : Except Raised (Option ℕ)) : NonceThreads T :=
  { s with log := s.log ++ [(address, call, answer)] }

/-- `_get_lock`, under the global lock. -/
def withLock (s : NonceThreads T) (address : Address) : NonceThreads T × LockId :=
  match s.locks address with
  | some lock => (s, lock)
  | none =>
    ({ s with locks := Function.update s.locks address (some s.made), made := s.made + 1 }, s.made)

def step (s : NonceThreads T) : LockAct T → Option (NonceThreads T)
  | .call t address request =>
    match s.phase t with
    | .idle => some (s.goto t (.called address request))
    | _ => none
  | .getLock t =>
    match s.phase t with
    | .called address request =>
      let (s', lock) := s.withLock address
      some (s'.goto t (.waiting address request lock))
    | _ => none
  | .acquire t =>
    match s.phase t with
    | .waiting address request lock =>
      if s.holder lock = none then
        some ({ s with holder := Function.update s.holder lock (some t) }.goto t
          (.locked address request lock))
      else none
    | _ => none
  | .read t pending =>
    match s.phase t with
    | .locked address request lock =>
      (request.reading pending).map fun call =>
        -- A failed read leaves the block with its exception.
        if call.failed then
          (s.record address call (call.answer (s.nonces address))).goto t (.leaving lock)
        else s.goto t (.ready address call lock)
    | _ => none
  | .load t =>
    match s.phase t with
    | .ready address call lock => some (s.goto t (.loaded address call lock (s.nonces address)))
    | _ => none
  | .store t =>
    match s.phase t with
    | .loaded address call lock cached =>
      some (({ s with nonces := Function.update s.nonces address (call.entry cached) }.record
        address call (call.answer cached)).goto t (.leaving lock))
    | _ => none
  | .leave t =>
    match s.phase t with
    | .leaving lock => some ({ s with holder := Function.update s.holder lock none }.goto t .idle)
    | _ => none

end

end NonceThreads

namespace NoncePhase

/-- The address of a call that has not done its work yet. -/
def address : NoncePhase → Option Address
  | .called address _ | .waiting address _ _ | .locked address _ _ | .ready address _ _
  | .loaded address _ _ _ => some address
  | .idle | .leaving _ => none

/-- The lock a thread is inside of. -/
def inside : NoncePhase → Option LockId
  | .locked _ _ lock | .ready _ _ lock | .loaded _ _ lock _ | .leaving lock => some lock
  | _ => none

/-- A call that goes on has not failed to read. -/
def Read : NoncePhase → Prop
  | .ready _ call _ | .loaded _ call _ _ => call.failed = false
  | _ => True

/-- What holds of a call for `a`, whose lock is `lock` and whose entry is `entry`. -/
def Serves (a : Address) (lock : Option LockId) (entry : Counter) : NoncePhase → Prop
  | .idle | .leaving _ => True
  | .called address request =>
    address = a → request = .reserveNonce ∨ request = .getNonce false
  | .waiting address request l | .locked address request l =>
    address = a → (request = .reserveNonce ∨ request = .getNonce false) ∧ lock = some l
  | .ready address call l => address = a → call.plain = true ∧ lock = some l
  | .loaded address call l cached =>
    address = a → call.plain = true ∧ lock = some l ∧ cached = entry

theorem Serves.of_lock {a : Address} {lock lock' : Option LockId} {entry : Counter}
    {phase : NoncePhase} (h : phase.Serves a lock entry)
    (hlock : ∀ l, lock = some l → lock' = some l) : phase.Serves a lock' entry := by
  cases phase with
  | idle | leaving => trivial
  | called address request => exact h
  | waiting address request l | locked address request l =>
    intro haddress
    obtain ⟨hrequest, hl⟩ := h haddress
    exact ⟨hrequest, hlock l hl⟩
  | ready address call l =>
    intro haddress
    obtain ⟨hplain, hl⟩ := h haddress
    exact ⟨hplain, hlock l hl⟩
  | loaded address call l cached =>
    intro haddress
    obtain ⟨hplain, hl, hcached⟩ := h haddress
    exact ⟨hplain, hlock l hl, hcached⟩

/-- The entry matters to a call that has loaded it only. -/
theorem Serves.of_entry {a : Address} {lock : Option LockId} {entry entry' : Counter}
    {phase : NoncePhase} (h : phase.Serves a lock entry)
    (hloaded : ∀ call l cached, phase ≠ .loaded a call l cached) : phase.Serves a lock entry' := by
  cases phase with
  | loaded address call l cached =>
    intro haddress
    subst haddress
    exact absurd rfl (hloaded call l cached)
  | _ => exact h

end NoncePhase

namespace NonceThreads

variable {T : Type}

/-- A thread inside a block has its lock. -/
structure Sound (s : NonceThreads T) : Prop where
  held : ∀ t lock, (s.phase t).inside = some lock → s.holder lock = some t
  read : ∀ t, (s.phase t).Read

/-- No call for `address` is under way. -/
def machine (T : Type) [DecidableEq T] (address : Address) :
    Machine (NonceThreads T) (LockAct T) where
  init s := s.log = [] ∧ s.Sound ∧ ∀ t, (s.phase t).address ≠ some address
  step := step

end NonceThreads

/-! ## Calls one after another -/

/-- The answers are those of the calls made one after another, from the entry `c` on. -/
def Serial (c : Counter) (log : List (NonceCall × Except Raised (Option ℕ))) : Prop :=
  log.map Prod.snd = Networks.alone c (log.map Prod.fst)

/-- The nonces that are reserved. -/
def reserved (log : List (NonceCall × Except Raised (Option ℕ))) : List ℕ :=
  log.filterMap fun
    | (.reserveNonce _, .ok n) => n
    | _ => none

/-- The reserved nonces are strictly increasing, none is below the pending count read for it, and
each is the one before plus one unless a higher pending count was read for it or in between. -/
structure Consecutive (log : List (NonceCall × Except Raised (Option ℕ))) : Prop where
  increasing : (reserved log).Pairwise (· < ·)
  counted : ∀ pending n, (.reserveNonce (.ok pending), .ok (some n)) ∈ log → pending ≤ n
  next : ∀ before pending n between pending' n' after,
    log = before ++ (.reserveNonce pending, .ok (some n)) ::
      (between ++ (.reserveNonce (.ok pending'), .ok (some n')) :: after) →
    reserved between = [] →
    n' = n + 1 ∨ n + 1 < pending' ∨
      ∃ count answer, (.getNonce false (.ok count), answer) ∈ between ∧ n + 1 < count

/-- The entry the calls leave. -/
def NonceCall.leaves (c : Counter) (calls : List NonceCall) : Counter :=
  calls.foldl (fun c call => call.entry c) c

section

variable {c : Counter} {call : NonceCall} {answer : Except Raised (Option ℕ)}
  {log log' : List (NonceCall × Except Raised (Option ℕ))}

theorem serial_cons :
    Serial c ((call, answer) :: log) ↔ answer = call.answer c ∧ Serial (call.entry c) log := by
  unfold Serial Networks.alone
  simp [Networks.left]

theorem serial_append :
    Serial c (log ++ log') ↔
      Serial c log ∧ Serial (NonceCall.leaves c (log.map Prod.fst)) log' := by
  induction log generalizing c with
  | nil => simp [Serial, Networks.alone, Networks.left, NonceCall.leaves]
  | cons entry log ih =>
    obtain ⟨call, answer⟩ := entry
    rw [List.cons_append, serial_cons, serial_cons, ih, and_assoc]
    rfl

/-- A reservation, a read or a failed one. -/
theorem NonceCall.plain_cases (h : call.plain = true) :
    (∃ pending, call = .reserveNonce (.ok pending)) ∨
      (∃ pending, call = .getNonce false (.ok pending)) ∨
      (∀ c, call.entry c = c) ∧ ∀ c n, call.answer c ≠ .ok n := by
  cases call with
  | reserveNonce pending =>
    cases pending with
    | ok pending => exact .inl ⟨pending, rfl⟩
    | error exc => exact .inr (.inr ⟨fun _ => rfl, fun _ _ => by simp [answer]⟩)
  | getNonce forceRefresh pending =>
    cases forceRefresh with
    | true => cases h
    | false =>
      cases pending with
      | ok pending => exact .inr (.inl ⟨pending, rfl⟩)
      | error exc => exact .inr (.inr ⟨fun _ => rfl, fun _ _ => by simp [answer]⟩)
  | _ => cases h

theorem NonceCall.entry_of_failed (h : call.failed = true) : call.entry c = c := by
  cases call with
  | getNonce _ pending | reserveNonce pending =>
    cases pending with
    | ok _ => cases h
    | error _ => rfl
  | _ => cases h

theorem Counter.Above.refreshed {n : ℕ} (h : c.Above n) (pending : ℕ) :
    Counter.Above (some (c.refreshed pending false)) n := by
  obtain ⟨m, rfl, hn⟩ := h
  exact ⟨_, rfl, lt_of_lt_of_le hn (Nat.le_max_left _ _)⟩

theorem reserved_cons_reserve (pending : Except Exc ℕ) (n : ℕ) :
    reserved ((.reserveNonce pending, .ok (some n)) :: log) = n :: reserved log := rfl

theorem reserved_cons_get (forceRefresh : Bool) (pending : Except Exc ℕ) :
    reserved ((.getNonce forceRefresh pending, answer) :: log) = reserved log := rfl

theorem reserved_cons_failed (h : ∀ n, answer ≠ .ok n) :
    reserved ((call, answer) :: log) = reserved log := by
  cases answer with
  | ok n => exact absurd rfl (h n)
  | error e => cases call <;> rfl

/-- Nothing at or below `n` is reserved again. -/
theorem Serial.lt_reserved {n : ℕ} (h : Serial c log) (hplain : ∀ e ∈ log, e.1.plain = true)
    (habove : c.Above n) : ∀ m ∈ reserved log, n < m := by
  induction log generalizing c with
  | nil => simp [reserved]
  | cons entry log ih =>
    obtain ⟨call, answer⟩ := entry
    obtain ⟨rfl, hlog⟩ := serial_cons.mp h
    have hrest := fun e he => hplain e (List.mem_cons_of_mem _ he)
    rcases NonceCall.plain_cases (hplain _ List.mem_cons_self) with
      ⟨pending, rfl⟩ | ⟨pending, rfl⟩ | ⟨hentry, hfailed⟩
    · rw [NonceCall.answer, reserved_cons_reserve]
      intro m hm
      rcases List.mem_cons.mp hm with rfl | hm
      · exact habove.lt_current pending
      · exact ih hlog hrest (habove.reserve pending) m hm
    · rw [reserved_cons_get]
      exact ih hlog hrest (habove.refreshed pending)
    · rw [reserved_cons_failed (hfailed c)]
      rw [hentry] at hlog
      exact ih hlog hrest habove

theorem Serial.increasing (h : Serial c log) (hplain : ∀ e ∈ log, e.1.plain = true) :
    (reserved log).Pairwise (· < ·) := by
  induction log generalizing c with
  | nil => exact .nil
  | cons entry log ih =>
    obtain ⟨call, answer⟩ := entry
    obtain ⟨rfl, hlog⟩ := serial_cons.mp h
    have hrest := fun e he => hplain e (List.mem_cons_of_mem _ he)
    rcases NonceCall.plain_cases (hplain _ List.mem_cons_self) with
      ⟨pending, rfl⟩ | ⟨pending, rfl⟩ | ⟨hentry, hfailed⟩
    · have habove : (c.reserve pending).Above (c.current pending) :=
        ⟨c.current pending + 1, rfl, Nat.lt_succ_self _⟩
      rw [NonceCall.answer, reserved_cons_reserve]
      exact .cons (hlog.lt_reserved hrest habove) (ih hlog hrest)
    · rw [reserved_cons_get]
      exact ih hlog hrest
    · rw [reserved_cons_failed (hfailed c)]
      exact ih hlog hrest

theorem Serial.counted {pending n : ℕ} (h : Serial c log)
    (hmem : (.reserveNonce (.ok pending), .ok (some n)) ∈ log) : pending ≤ n := by
  obtain ⟨before, after, rfl⟩ := List.append_of_mem hmem
  obtain ⟨hn, -⟩ := serial_cons.mp (serial_append.mp h).2
  simp only [NonceCall.answer, Except.ok.injEq, Option.some.injEq] at hn
  rw [hn]
  exact Nat.le_max_right _ _

/-- The next reservation gets the entry, unless a higher count was read for it or before it. -/
theorem Serial.next {k pending n : ℕ} (h : Serial (some k) (log ++ (.reserveNonce (.ok pending),
      .ok (some n)) :: log')) (hplain : ∀ e ∈ log, e.1.plain = true) (hnone : reserved log = []) :
    n = k ∨ k < pending ∨
      ∃ count answer, (.getNonce false (.ok count), answer) ∈ log ∧ k < count := by
  induction log with
  | nil =>
    obtain ⟨hn, -⟩ := serial_cons.mp h
    simp only [NonceCall.answer, Except.ok.injEq, Option.some.injEq] at hn
    have hmax : n = max k pending := hn
    by_cases hlt : k < pending
    · exact .inr (.inl hlt)
    · exact .inl (by omega)
  | cons entry log ih =>
    obtain ⟨call, answer⟩ := entry
    obtain ⟨rfl, hlog⟩ := serial_cons.mp h
    have hrest := fun e he => hplain e (List.mem_cons_of_mem _ he)
    have hmem : ∀ {e}, e ∈ log → e ∈ (call, call.answer (some k)) :: log :=
      fun he => List.mem_cons_of_mem _ he
    have hstep : call.entry (some k) = some k → reserved log = [] → n = k ∨ k < pending ∨
        ∃ count answer, (.getNonce false (.ok count), answer) ∈
          (call, call.answer (some k)) :: log ∧ k < count := by
      intro hentry hnone
      rw [hentry] at hlog
      rcases ih hlog hrest hnone with hn | hp | ⟨count, answer, hc, hlt⟩
      · exact .inl hn
      · exact .inr (.inl hp)
      · exact .inr (.inr ⟨count, answer, hmem hc, hlt⟩)
    rcases NonceCall.plain_cases (hplain _ List.mem_cons_self) with
      ⟨count, rfl⟩ | ⟨count, rfl⟩ | ⟨hentry, hfailed⟩
    · rw [NonceCall.answer, reserved_cons_reserve] at hnone
      cases hnone
    · by_cases hlt : k < count
      · exact .inr (.inr ⟨count, _, List.mem_cons_self, hlt⟩)
      · have hentry : max k count = k := by omega
        exact hstep (congrArg some hentry) hnone
    · rw [reserved_cons_failed (hfailed _)] at hnone
      exact hstep (hentry _) hnone

/-- Such calls made one after another hand out consecutive nonces. -/
theorem Serial.consecutive (h : Serial c log) (hplain : ∀ e ∈ log, e.1.plain = true) :
    Consecutive log where
  increasing := h.increasing hplain
  counted := fun _ _ hmem => h.counted hmem
  next := by
    rintro before pending n between pending' n' after rfl hnone
    obtain ⟨hn, hlog⟩ := serial_cons.mp (serial_append.mp h).2
    -- A reservation that succeeds has read a count.
    cases pending with
    | error exc => simp [NonceCall.answer] at hn
    | ok pending =>
      simp only [NonceCall.answer, Except.ok.injEq, Option.some.injEq] at hn
      have hentry : NonceCall.entry (.reserveNonce (.ok pending))
          (NonceCall.leaves c (before.map Prod.fst)) = some (n + 1) := by
        rw [NonceCall.entry, Counter.reserve_eq, hn]
      rw [hentry] at hlog
      exact hlog.next (fun e he => hplain e (by simp [he])) hnone

end

/-! ## Every interleaving -/

theorem NonceRequest.reading_plain {request : NonceRequest} {pending : Option (Except Exc ℕ)}
    {call : NonceCall} (h : request = .reserveNonce ∨ request = .getNonce false)
    (hread : request.reading pending = some call) : call.plain = true := by
  rcases h with rfl | rfl <;> cases pending <;> cases hread <;> rfl

namespace NonceThreads

section

variable {T : Type} [DecidableEq T]

/-- What a step does: one case for each action, two for a read. -/
inductive Step (s : NonceThreads T) : LockAct T → NonceThreads T → Prop where
  | call {t : T} {address : Address} {request : NonceRequest} : s.phase t = .idle →
      Step s (.call t address request) (s.goto t (.called address request))
  | getLock {t : T} {address : Address} {request : NonceRequest} :
      s.phase t = .called address request →
      Step s (.getLock t) ((s.withLock address).1.goto t
        (.waiting address request (s.withLock address).2))
  | acquire {t : T} {address : Address} {request : NonceRequest} {lock : LockId} :
      s.phase t = .waiting address request lock → s.holder lock = none →
      Step s (.acquire t) ({ s with holder := Function.update s.holder lock (some t) }.goto t
        (.locked address request lock))
  | failed {t : T} {address : Address} {request : NonceRequest} {lock : LockId}
      {pending : Option (Except Exc ℕ)} {call : NonceCall} :
      s.phase t = .locked address request lock → request.reading pending = some call →
      call.failed = true →
      Step s (.read t pending)
        ((s.record address call (call.answer (s.nonces address))).goto t (.leaving lock))
  | read {t : T} {address : Address} {request : NonceRequest} {lock : LockId}
      {pending : Option (Except Exc ℕ)} {call : NonceCall} :
      s.phase t = .locked address request lock → request.reading pending = some call →
      call.failed = false → Step s (.read t pending) (s.goto t (.ready address call lock))
  | load {t : T} {address : Address} {call : NonceCall} {lock : LockId} :
      s.phase t = .ready address call lock →
      Step s (.load t) (s.goto t (.loaded address call lock (s.nonces address)))
  | store {t : T} {address : Address} {call : NonceCall} {lock : LockId} {cached : Counter} :
      s.phase t = .loaded address call lock cached →
      Step s (.store t)
        (({ s with nonces := Function.update s.nonces address (call.entry cached) }.record
          address call (call.answer cached)).goto t (.leaving lock))
  | leave {t : T} {lock : LockId} : s.phase t = .leaving lock →
      Step s (.leave t) ({ s with holder := Function.update s.holder lock none }.goto t .idle)

theorem step_run {s s' : NonceThreads T} {a : LockAct T} (h : s.step a = some s') :
    s.Step a s' := by
  cases a with
  | read t pending =>
    simp only [step] at h
    split at h
    · next hphase =>
      obtain ⟨call, hcall, hnext⟩ := Option.map_eq_some_iff.mp h
      split at hnext
      · next hfailed =>
        subst hnext
        exact .failed hphase hcall hfailed
      · next hfailed =>
        subst hnext
        exact .read hphase hcall (by simpa using hfailed)
    · cases h
  | acquire t =>
    simp only [step] at h
    split at h
    · next hphase =>
      split at h
      · next hfree =>
        cases h
        exact .acquire hphase hfree
      · cases h
    · cases h
  | call t address request =>
    simp only [step] at h
    split at h
    · next hphase => cases h; exact .call hphase
    · cases h
  | getLock t =>
    simp only [step] at h
    split at h
    · next hphase => cases h; exact .getLock hphase
    · cases h
  | load t =>
    simp only [step] at h
    split at h
    · next hphase => cases h; exact .load hphase
    · cases h
  | store t =>
    simp only [step] at h
    split at h
    · next hphase => cases h; exact .store hphase
    · cases h
  | leave t =>
    simp only [step] at h
    split at h
    · next hphase => cases h; exact .leave hphase
    · cases h

variable {s s' : NonceThreads T} {act : LockAct T} {t : T} {phase : NoncePhase} {a : Address}

/-- A thread that goes on, with the others keeping their locks. -/
theorem Sound.goto (h : s.Sound) (hphase : s'.phase = Function.update s.phase t phase)
    (hother : ∀ t' lock, t' ≠ t → s.holder lock = some t' → s'.holder lock = some t')
    (hinside : ∀ lock, phase.inside = some lock → s'.holder lock = some t)
    (hread : phase.Read) : s'.Sound := by
  constructor
  · rw [hphase]
    refine (Function.forall_update_iff s.phase fun t phase =>
      ∀ lock, phase.inside = some lock → s'.holder lock = some t).mpr ⟨hinside, ?_⟩
    intro t' ht lock hlock
    exact hother t' lock ht (h.held t' lock hlock)
  · rw [hphase]
    exact (Function.forall_update_iff s.phase fun _ phase => phase.Read).mpr
      ⟨hread, fun t' _ => h.read t'⟩

omit [DecidableEq T] in
/-- Making a lock leaves everything else as it is. -/
theorem withLock_cases (s : NonceThreads T) (address : Address) :
    (s.withLock address).1 = { s with
        locks := (s.withLock address).1.locks
        made := (s.withLock address).1.made } ∧
      (s.withLock address).1.locks address = some (s.withLock address).2 ∧
      ∀ b lock, s.locks b = some lock → (s.withLock address).1.locks b = some lock := by
  unfold withLock
  cases hlock : s.locks address with
  | some lock => exact ⟨rfl, hlock, fun _ _ hb => hb⟩
  | none =>
    refine ⟨rfl, Function.update_self _ _ _, ?_⟩
    intro b lock hb
    have hne : b ≠ address := by
      rintro rfl
      rw [hlock] at hb
      cases hb
    exact (Function.update_of_ne hne _ _).trans hb

theorem Sound.step (h : s.Sound) (hstep : s.Step act s') : s'.Sound := by
  cases hstep with
  | call hphase => exact h.goto rfl (fun _ _ _ hl => hl) (by rintro _ ⟨⟩) trivial
  | @getLock t address request hphase =>
    obtain ⟨heq, -, -⟩ := s.withLock_cases address
    rw [heq]
    exact h.goto rfl (fun _ _ _ hl => hl) (by rintro _ ⟨⟩) trivial
  | @acquire t address request lock hphase hfree =>
    refine h.goto rfl ?_ (by rintro _ ⟨⟩; exact Function.update_self _ _ _) trivial
    intro t' lock' _ hheld
    have hne : lock' ≠ lock := by
      rintro rfl
      rw [hfree] at hheld
      cases hheld
    exact (Function.update_of_ne hne _ _).trans hheld
  | @failed t address request lock pending call hphase hcall hfailed =>
    have hheld : s.holder lock = some t := h.held t lock (by rw [hphase]; rfl)
    exact h.goto rfl (fun _ _ _ hl => hl) (by rintro _ ⟨⟩; exact hheld) trivial
  | @read t address request lock pending call hphase hcall hok =>
    have hheld : s.holder lock = some t := h.held t lock (by rw [hphase]; rfl)
    exact h.goto rfl (fun _ _ _ hl => hl) (by rintro _ ⟨⟩; exact hheld) hok
  | @load t address call lock hphase =>
    have hheld : s.holder lock = some t := h.held t lock (by rw [hphase]; rfl)
    have hok := h.read t
    rw [hphase] at hok
    exact h.goto rfl (fun _ _ _ hl => hl) (by rintro _ ⟨⟩; exact hheld) hok
  | @store t address call lock cached hphase =>
    have hheld : s.holder lock = some t := h.held t lock (by rw [hphase]; rfl)
    exact h.goto rfl (fun _ _ _ hl => hl) (by rintro _ ⟨⟩; exact hheld) trivial
  | @leave t lock hphase =>
    have hheld : s.holder lock = some t := h.held t lock (by rw [hphase]; rfl)
    refine h.goto rfl ?_ (by rintro _ ⟨⟩) trivial
    intro t' lock' hne hheld'
    have hlock : lock' ≠ lock := by
      rintro rfl
      rw [hheld, Option.some.injEq] at hheld'
      exact hne hheld'.symm
    exact (Function.update_of_ne hlock _ _).trans hheld'

/-- What every step keeps: the entry of `a` is the one its calls have left so far. -/
structure Tracked (a : Address) (c : Counter) (s : NonceThreads T) : Prop where
  sound : s.Sound
  serves : ∀ t, (s.phase t).Serves a (s.locks a) (s.nonces a)
  entry : s.nonces a = NonceCall.leaves c ((s.logOf a).map Prod.fst)
  serial : Serial c (s.logOf a)
  plain : ∀ e ∈ s.logOf a, e.1.plain = true

theorem serves_goto {lock lock' : Option LockId} {entry entry' : Counter}
    (h : ∀ t, (s.phase t).Serves a lock entry)
    (hphase : s'.phase = Function.update s.phase t phase)
    (hother : ∀ t', t' ≠ t → (s.phase t').Serves a lock entry → (s.phase t').Serves a lock' entry')
    (hserves : phase.Serves a lock' entry') : ∀ t, (s'.phase t).Serves a lock' entry' := by
  rw [hphase]
  exact (Function.forall_update_iff s.phase fun _ phase => phase.Serves a lock' entry').mpr
    ⟨hserves, fun t' ht => hother t' ht (h t')⟩

omit [DecidableEq T] in
theorem logOf_record (s : NonceThreads T) (address : Address) (call : NonceCall)
    (answer : Except Raised (Option ℕ)) :
    (s.record address call answer).logOf a =
      s.logOf a ++ if address = a then [(call, answer)] else [] := by
  unfold logOf record
  rw [List.filterMap_append]
  by_cases haddress : address = a
  · simp [haddress]
  · simp [haddress]

namespace Tracked

variable {c : Counter} {call call' : NonceCall} {lock lock' : LockId} {cached cached' : Counter}
  {t' : T}

omit [DecidableEq T] in
/-- Two threads are never both about to store the entry. -/
theorem exclusive (h : s.Tracked a c) (ht : s.phase t = .loaded a call lock cached)
    (ht' : s.phase t' = .loaded a call' lock' cached') : t' = t := by
  have hserves := h.serves t
  have hserves' := h.serves t'
  rw [ht] at hserves
  rw [ht'] at hserves'
  obtain ⟨-, hlock, -⟩ := hserves rfl
  obtain ⟨-, hlock', -⟩ := hserves' rfl
  rw [hlock, Option.some.injEq] at hlock'
  subst hlock'
  have hheld := h.sound.held t lock (by rw [ht]; rfl)
  have hheld' := h.sound.held t' lock (by rw [ht']; rfl)
  rw [hheld, Option.some.injEq] at hheld'
  exact hheld'.symm

omit [DecidableEq T] in
/-- A step that logs one more call of `a`, made on the entry as it was. -/
theorem logged (h : s.Tracked a c) (hsound : s'.Sound)
    (hserves : ∀ t, (s'.phase t).Serves a (s'.locks a) (s'.nonces a))
    (hplain : call.plain = true)
    (hlog : s'.logOf a = s.logOf a ++ [(call, call.answer (s.nonces a))])
    (hentry : s'.nonces a = call.entry (s.nonces a)) : s'.Tracked a c where
  sound := hsound
  serves := hserves
  entry := by
    rw [hlog, hentry, h.entry]
    simp [NonceCall.leaves]
  serial := by
    rw [hlog]
    refine serial_append.mpr ⟨h.serial, serial_cons.mpr ⟨?_, rfl⟩⟩
    rw [← h.entry]
  plain := by
    intro e he
    rw [hlog, List.mem_append, List.mem_singleton] at he
    rcases he with he | rfl
    · exact h.plain e he
    · exact hplain

/-- A step of a thread that touches neither the entry nor the log of `a`. -/
theorem goto (h : s.Tracked a c) (hsound : s'.Sound)
    (hphase : s'.phase = Function.update s.phase t phase)
    (hlock : ∀ lock, s.locks a = some lock → s'.locks a = some lock)
    (hentry : s'.nonces a = s.nonces a) (hlog : s'.logOf a = s.logOf a)
    (hserves : phase.Serves a (s'.locks a) (s.nonces a)) : s'.Tracked a c where
  sound := hsound
  serves := by
    rw [hentry]
    exact serves_goto h.serves hphase (fun _ _ ht => ht.of_lock hlock) hserves
  entry := by rw [hentry, hlog, h.entry]
  serial := by rw [hlog]; exact h.serial
  plain := by rw [hlog]; exact h.plain

theorem step (h : s.Tracked a c)
    (hquiet : ∀ t request, act = .call t a request →
      request = .reserveNonce ∨ request = .getNonce false)
    (hstep : s.Step act s') : s'.Tracked a c := by
  have hsound := h.sound.step hstep
  cases hstep with
  | @call t address request hphase =>
    refine h.goto hsound rfl (fun _ hl => hl) rfl rfl ?_
    rintro rfl
    exact hquiet t request rfl
  | @getLock t address request hphase =>
    obtain ⟨heq, hgot, hkept⟩ := s.withLock_cases address
    have hserves := h.serves t
    rw [hphase] at hserves
    refine h.goto hsound (by rw [heq]; rfl) (hkept a) (by rw [heq]; rfl) (by rw [heq]; rfl) ?_
    rintro rfl
    exact ⟨hserves rfl, hgot⟩
  | @acquire t address request lock hphase hfree =>
    have hserves := h.serves t
    rw [hphase] at hserves
    exact h.goto hsound rfl (fun _ hl => hl) rfl rfl hserves
  | @failed t address request lock pending call hphase hcall hfailed =>
    have hserves := h.serves t
    rw [hphase] at hserves
    have hlog := s.logOf_record (a := a) address call (call.answer (s.nonces address))
    by_cases haddress : address = a
    · obtain ⟨hrequest, -⟩ := hserves haddress
      subst haddress
      rw [if_pos rfl] at hlog
      exact h.logged hsound (serves_goto h.serves rfl (fun _ _ ht => ht) trivial)
        (NonceRequest.reading_plain hrequest hcall) hlog (NonceCall.entry_of_failed hfailed).symm
    · rw [if_neg haddress, List.append_nil] at hlog
      exact h.goto hsound rfl (fun _ hl => hl) rfl hlog trivial
  | @read t address request lock pending call hphase hcall hok =>
    have hserves := h.serves t
    rw [hphase] at hserves
    refine h.goto hsound rfl (fun _ hl => hl) rfl rfl fun haddress => ?_
    obtain ⟨hrequest, hlock⟩ := hserves haddress
    exact ⟨NonceRequest.reading_plain hrequest hcall, hlock⟩
  | @load t address call lock hphase =>
    have hserves := h.serves t
    rw [hphase] at hserves
    refine h.goto hsound rfl (fun _ hl => hl) rfl rfl fun haddress => ?_
    obtain ⟨hplain, hlock⟩ := hserves haddress
    exact ⟨hplain, hlock, by rw [haddress]⟩
  | @store t address call lock cached hphase =>
    have hserves := h.serves t
    rw [hphase] at hserves
    have hlog := logOf_record (a := a)
      { s with nonces := Function.update s.nonces address (call.entry cached) } address call
      (call.answer cached)
    by_cases haddress : address = a
    · subst haddress
      obtain ⟨hcall, -, rfl⟩ := hserves rfl
      rw [if_pos rfl] at hlog
      refine h.logged hsound ?_ hcall hlog (Function.update_self _ _ _)
      refine serves_goto h.serves rfl (fun t' hne ht => ht.of_entry ?_) trivial
      intro call' lock' cached' hphase'
      exact hne (h.exclusive hphase hphase')
    · rw [if_neg haddress, List.append_nil] at hlog
      exact h.goto hsound rfl (fun _ hl => hl)
        (Function.update_of_ne (Ne.symm haddress) _ _) hlog trivial
  | @leave t lock hphase => exact h.goto hsound rfl (fun _ hl => hl) rfl rfl trivial

end Tracked

/-! ## Reservations in lock order -/

/-- What a run of `as` makes of the calls for `a`. -/
structure LockOrdered (a : Address) (s₀ : NonceThreads T) (as : List (LockAct T))
    (s : NonceThreads T) : Prop where
  /-- They return what they would with no other thread and no other address about. -/
  serial : Serial (s₀.nonces a) (s.logOf a)
  consecutive : Consecutive (s.logOf a)
  /-- A failed read changes no counter and ends its call. -/
  failed : ∀ before t exc after u v, as = before ++ .read t (some (.error exc)) :: after →
    (machine T a).run s₀ before = some u →
    (machine T a).step u (.read t (some (.error exc))) = some v →
    v.nonces = u.nonces ∧ ∃ lock, v.phase t = .leaving lock
  /-- A counter changes where a call that has not failed stores it, and no other does then. -/
  writes : ∀ before act after u v, as = before ++ act :: after →
    (machine T a).run s₀ before = some u → (machine T a).step u act = some v →
    v.nonces = u.nonces ∨ ∃ t b call lock cached, act = .store t ∧
      u.phase t = .loaded b call lock cached ∧ call.failed = false ∧
      v.nonces = Function.update u.nonces b (call.entry cached)

theorem NonceRequest.reading_error {request : NonceRequest} {exc : Exc} {call : NonceCall}
    (h : request.reading (some (.error exc)) = some call) : call.failed = true := by
  cases request <;> cases h <;> rfl

theorem Step.failed_read {exc : Exc} (h : s.Step (.read t (some (.error exc))) s') :
    s'.nonces = s.nonces ∧ ∃ lock, s'.phase t = .leaving lock := by
  cases h with
  | failed hphase hcall hfailed => exact ⟨rfl, _, Function.update_self _ _ _⟩
  | read hphase hcall hok =>
    rw [NonceRequest.reading_error hcall] at hok
    cases hok

theorem Step.writes (hsound : s.Sound) (h : s.Step act s') :
    s'.nonces = s.nonces ∨ ∃ t b call lock cached, act = .store t ∧
      s.phase t = .loaded b call lock cached ∧ call.failed = false ∧
      s'.nonces = Function.update s.nonces b (call.entry cached) := by
  cases h with
  | @getLock t address request hphase =>
    obtain ⟨heq, -, -⟩ := s.withLock_cases address
    rw [heq]
    exact .inl rfl
  | @store t address call lock cached hphase =>
    have hok := hsound.read t
    rw [hphase] at hok
    exact .inr ⟨t, address, call, lock, cached, rfl, hphase, hok, rfl⟩
  | _ => exact .inl rfl

/-- However the threads interleave, an address that is only reserved from and read without force
hands out consecutive nonces in lock order, those it would hand out alone. -/
theorem lockOrdered {s₀ : NonceThreads T} {as : List (LockAct T)} (hinit : (machine T a).init s₀)
    (hquiet : ∀ t request, .call t a request ∈ as →
      request = .reserveNonce ∨ request = .getNonce false)
    (hr : (machine T a).run s₀ as = some s) : LockOrdered a s₀ as s := by
  obtain ⟨hlog, hsound, hidle⟩ := hinit
  have htracked : s.Tracked a (s₀.nonces a) := by
    refine Machine.run_inv (P := fun act => ∀ t request, act = .call t a request →
      request = .reserveNonce ∨ request = .getNonce false)
      (I := fun _ u => u.Tracked a (s₀.nonces a)) ?_
      (fun _ _ _ _ hact _ hstep hu => hu.step hact (step_run hstep)) ?_ hr
    · have hnone : s₀.logOf a = [] := by simp [logOf, hlog]
      refine ⟨hsound, fun t => ?_, by rw [hnone]; rfl, by rw [hnone]; rfl, by simp [hnone]⟩
      have ht := hidle t
      cases hphase : s₀.phase t with
      | idle | leaving => trivial
      | _ =>
        rw [hphase] at ht
        exact fun haddress => absurd (congrArg some haddress) ht
    · rintro act hact t request rfl
      exact hquiet t request hact
  have hsounds : ∀ {before u}, (machine T a).run s₀ before = some u → u.Sound := fun hu =>
    Machine.run_inv (P := fun _ => True) (I := fun _ u => u.Sound) hsound
      (fun _ _ _ _ _ _ hstep hu => hu.step (step_run hstep)) (fun _ _ => trivial) hu
  refine ⟨htracked.serial, htracked.serial.consecutive htracked.plain, ?_, ?_⟩
  · intro _ t exc _ u v _ _ hstep
    have hstep' : u.step (.read t (some (.error exc))) = some v := hstep
    exact (step_run hstep').failed_read
  · intro _ act _ u v _ hu hstep
    have hstep' : u.step act = some v := hstep
    exact (step_run hstep').writes (hsounds hu)

/-- A process with nothing under way. -/
def idle (T : Type) (nonces : Nonces) : NonceThreads T :=
  ⟨nonces, fun _ => none, 0, fun _ => none, fun _ => .idle, []⟩

/-- The call, and what follows it up to the load. -/
def called (t : T) (address : Address) (request : NonceRequest) : List (LockAct T) :=
  [.call t address request, .getLock t]

def entered (t : T) (pending : Option (Except Exc ℕ)) : List (LockAct T) :=
  [.acquire t, .read t pending]

def finished (t : T) : List (LockAct T) := [.load t, .store t, .leave t]

/-- Three threads reserve nonces of address 1, over a stale count, a failed read, a higher count
that `get_nonce` reads and a reset of address 2. -/
def mixed : List (LockAct ℕ) :=
  called 0 1 .reserveNonce ++ called 1 1 .reserveNonce ++ called 2 2 .resetNonce ++
    entered 0 (some (.ok 5)) ++ entered 2 none ++ finished 0 ++ finished 2 ++
    entered 1 (some (.ok 3)) ++ finished 1 ++
    called 0 1 .reserveNonce ++
    entered 0 (some (.error (.raw ⟨.exception "ReadTimeout", "timed out"⟩))) ++ [.leave 0] ++
    called 2 1 (.getNonce false) ++ entered 2 (some (.ok 9)) ++ finished 2 ++
    called 0 1 .reserveNonce ++ entered 0 (some (.ok 4)) ++ finished 0

theorem lockOrdered_mixed :
    ∃ s, (machine ℕ 1).run (idle ℕ fun _ => none) mixed = some s ∧
      reserved (s.logOf 1) = [5, 6, 9] ∧ LockOrdered 1 (idle ℕ fun _ => none) mixed s := by
  have hquiet : ∀ t request, .call t 1 request ∈ mixed →
      request = .reserveNonce ∨ request = .getNonce false := by
    intro t request
    delta mixed
    simp only [called, entered, finished, List.cons_append, List.nil_append, List.mem_cons,
      List.not_mem_nil, LockAct.call.injEq, reduceCtorEq, false_or, or_false]
    rintro (⟨_, _, rfl⟩ | ⟨_, _, rfl⟩ | ⟨_, h, _⟩ | ⟨_, _, rfl⟩ | ⟨_, _, rfl⟩ | ⟨_, _, rfl⟩)
    · exact .inl rfl
    · exact .inl rfl
    · exact absurd h (by decide)
    · exact .inl rfl
    · exact .inr rfl
    · exact .inl rfl
  have hrun : ((machine ℕ 1).run (idle ℕ fun _ => none) mixed).map
      (fun s => reserved (s.logOf 1)) = some [5, 6, 9] := by decide +kernel
  obtain ⟨s, hr, hreserved⟩ := Option.map_eq_some_iff.mp hrun
  refine ⟨s, hr, hreserved, lockOrdered ?_ hquiet hr⟩
  exact ⟨rfl, ⟨by rintro _ _ ⟨⟩, fun _ => trivial⟩, by rintro _ ⟨⟩⟩

end

end NonceThreads

end OgpuSdk
