import OgpuSdk.Chain.LockOrder

/-!
# Dropping the locks

`clear_all` drops every counter and then every lock, whoever is using them,
with only the global lock in its hand: no call can get its lock object in
between, but one that has got it goes on with it, and a later call for the
same address gets a new one. Besides the machine of the threads this one
keeps, for each thread, the address of the call it is in.

A `get_nonce` whose entry goes between its store and its `return` raises as
well; it leaves the block either way, and is not told apart here.
-/

namespace OgpuSdk

/-- The lock object a call has got from `_get_lock` and not released yet. -/
def NoncePhase.fetched : NoncePhase → Option LockId
  | .waiting _ _ lock => some lock
  | phase => phase.inside

/-- The body looks the entry up a second time once it has found one. -/
def NonceCall.subscripts : NonceCall → Bool
  | .getNonce false _ | .incrementNonce | .resetNonce => true
  | _ => false

structure NonceProcess (T : Type) where
  threads : NonceThreads T
  /-- the address of a thread's last call -/
  target : T → Option Address
  /-- a `clear_all` has the global lock and has dropped the counters -/
  clearing : Bool

inductive ClearAct (T : Type) where
  | act (a : LockAct T)
  /-- the entry has gone since it was found: a `KeyError`, with its text -/
  | fail (t : T) (text : String)
  | clearNonces
  | clearLocks

namespace NonceProcess

section

variable {T : Type} [DecidableEq T]

/-- A call sets the address of its thread. -/
def aim (target : T → Option Address) : LockAct T → T → Option Address
  | .call t address _ => Function.update target t (some address)
  | _ => target

/-- `_get_lock` waits for the global lock. -/
def waitsGlobally : LockAct T → Bool
  | .getLock _ => true
  | _ => false

def step (s : NonceProcess T) : ClearAct T → Option (NonceProcess T)
  | .act a =>
    if s.clearing && waitsGlobally a then none
    else
      (s.threads.step a).map fun threads => ⟨threads, aim s.target a, s.clearing⟩
  | .fail t text =>
    match s.threads.phase t with
    | .loaded address call lock (some _) =>
      if call.subscripts = true ∧ s.threads.nonces address = none then
        some { s with threads := (s.threads.record address call
          (.error (Exc.raw ⟨.keyError, text⟩).raised)).goto t (.leaving lock) }
      else none
    | _ => none
  | .clearNonces =>
    if s.clearing then none
    else some { s with threads := { s.threads with nonces := fun _ => none }, clearing := true }
  | .clearLocks =>
    if s.clearing then
      some { s with threads := { s.threads with locks := fun _ => none }, clearing := false }
    else none

def idle (T : Type) (nonces : Nonces) : NonceProcess T :=
  ⟨.idle T nonces, fun _ => none, false⟩

def machine (T : Type) [DecidableEq T] : Machine (NonceProcess T) (ClearAct T) where
  init s := ∃ nonces, s = idle T nonces
  step := step

end

variable {T : Type}

/-- At most one thread is between acquire and release for an address. -/
def Exclusive (s : NonceProcess T) : Prop :=
  ∀ t t', (s.threads.phase t).inside.isSome = true → (s.threads.phase t').inside.isSome = true →
    s.target t = s.target t' → t = t'

/-- No call is between fetching its lock and releasing it. -/
def Quiet (s : NonceProcess T) : Prop := ∀ t, (s.threads.phase t).fetched = none

/-- `clear_all` drops the locks at a quiet moment. -/
def ClearsQuietly (s : NonceProcess T) : ClearAct T → Prop
  | .clearLocks => s.Quiet
  | _ => True

/-! ## What every step keeps -/

/-- A call has the lock of its address, and no other address has it. -/
structure Inv (s : NonceProcess T) : Prop where
  held : ∀ t lock, (s.threads.phase t).inside = some lock ↔ s.threads.holder lock = some t
  fetched : ∀ t lock, (s.threads.phase t).fetched = some lock →
    ∃ address, s.target t = some address ∧ s.threads.locks address = some lock
  aimed : ∀ t address, (s.threads.phase t).address = some address → s.target t = some address
  issued : ∀ address lock, s.threads.locks address = some lock → lock < s.threads.made
  own : ∀ address address' lock, s.threads.locks address = some lock →
    s.threads.locks address' = some lock → address = address'

theorem NoncePhase.fetched_of_inside {phase : NoncePhase} {lock : LockId}
    (h : phase.inside = some lock) : phase.fetched = some lock := by
  cases phase with
  | waiting => cases h
  | _ => exact h

/-- Two threads inside for one address would hold one lock. -/
theorem Inv.exclusive {s : NonceProcess T} (h : s.Inv) : s.Exclusive := by
  intro t t' ht ht' htarget
  obtain ⟨lock, hlock⟩ := Option.isSome_iff_exists.mp ht
  obtain ⟨lock', hlock'⟩ := Option.isSome_iff_exists.mp ht'
  obtain ⟨address, haddress, hlocks⟩ := h.fetched t lock (NoncePhase.fetched_of_inside hlock)
  obtain ⟨address', haddress', hlocks'⟩ := h.fetched t' lock' (NoncePhase.fetched_of_inside hlock')
  obtain rfl : address = address' :=
    Option.some.inj (haddress.symm.trans (htarget.trans haddress'))
  obtain rfl : lock = lock' := Option.some.inj (hlocks.symm.trans hlocks')
  have hholder := (h.held t lock).mp hlock
  rw [(h.held t' lock).mp hlock', Option.some.injEq] at hholder
  exact hholder.symm

theorem Inv.idle (nonces : Nonces) : (idle T nonces).Inv where
  held := by
    intro t lock
    exact iff_of_false nofun nofun
  fetched := by rintro t lock ⟨⟩
  aimed := by rintro t address ⟨⟩
  issued := by rintro address lock ⟨⟩
  own := by rintro address address' lock ⟨⟩

section

variable [DecidableEq T] {s s' : NonceProcess T} {t : T} {phase : NoncePhase}

/-- One thread goes on, and takes or gives back at most its own lock. -/
theorem Inv.goto (h : s.Inv) (hphase : s'.threads.phase = Function.update s.threads.phase t phase)
    (hothers : ∀ u, u ≠ t → s'.target u = s.target u ∧
      ∀ lock, s'.threads.holder lock = some u ↔ s.threads.holder lock = some u)
    (hlocks : ∀ b lock, s.threads.locks b = some lock → s'.threads.locks b = some lock)
    (hheld : ∀ lock, phase.inside = some lock ↔ s'.threads.holder lock = some t)
    (hfetched : ∀ lock, phase.fetched = some lock →
      ∃ address, s'.target t = some address ∧ s'.threads.locks address = some lock)
    (haimed : ∀ address, phase.address = some address → s'.target t = some address)
    (hissued : ∀ address lock, s'.threads.locks address = some lock → lock < s'.threads.made)
    (hown : ∀ address address' lock, s'.threads.locks address = some lock →
      s'.threads.locks address' = some lock → address = address') : s'.Inv := by
  refine ⟨?_, ?_, ?_, hissued, hown⟩
  · rw [hphase]
    refine (Function.forall_update_iff s.threads.phase fun u phase =>
      ∀ lock, phase.inside = some lock ↔ s'.threads.holder lock = some u).mpr ⟨hheld, ?_⟩
    intro u hu lock
    rw [(hothers u hu).2 lock]
    exact h.held u lock
  · rw [hphase]
    refine (Function.forall_update_iff s.threads.phase fun u phase =>
      ∀ lock, phase.fetched = some lock → ∃ address, s'.target u = some address ∧
        s'.threads.locks address = some lock).mpr ⟨hfetched, ?_⟩
    intro u hu lock hlock
    obtain ⟨address, haddress, hlocked⟩ := h.fetched u lock hlock
    exact ⟨address, (hothers u hu).1.trans haddress, hlocks address lock hlocked⟩
  · rw [hphase]
    refine (Function.forall_update_iff s.threads.phase fun u phase =>
      ∀ address, phase.address = some address → s'.target u = some address).mpr ⟨haimed, ?_⟩
    intro u hu address haddress
    exact (hothers u hu).1.trans (h.aimed u address haddress)

/-- One thread goes on with the lock it has. -/
theorem Inv.move (h : s.Inv) (hphase : s'.threads.phase = Function.update s.threads.phase t phase)
    (htarget : s'.target = s.target) (hholder : s'.threads.holder = s.threads.holder)
    (hlocks : s'.threads.locks = s.threads.locks) (hmade : s'.threads.made = s.threads.made)
    (hinside : phase.inside = (s.threads.phase t).inside)
    (hfetched : phase.fetched = (s.threads.phase t).fetched)
    (haddress : ∀ address, phase.address = some address →
      (s.threads.phase t).address = some address) : s'.Inv := by
  apply h.goto hphase
  · intro u _
    rw [htarget, hholder]
    exact ⟨rfl, fun _ => Iff.rfl⟩
  · rw [hlocks]
    exact fun _ _ => id
  · intro lock
    rw [hinside, hholder]
    exact h.held t lock
  · intro lock hlock
    rw [htarget, hlocks]
    exact h.fetched t lock (hfetched ▸ hlock)
  · intro address hcall
    rw [htarget]
    exact h.aimed t address (haddress address hcall)
  · rw [hlocks, hmade]
    exact h.issued
  · rw [hlocks]
    exact h.own

omit [DecidableEq T] in
/-- Making a lock makes a new one. -/
theorem Inv.withLock (h : s.Inv) (address : Address) :
    (∀ b lock, (s.threads.withLock address).1.locks b = some lock →
        lock < (s.threads.withLock address).1.made) ∧
      ∀ b b' lock, (s.threads.withLock address).1.locks b = some lock →
        (s.threads.withLock address).1.locks b' = some lock → b = b' := by
  unfold NonceThreads.withLock
  cases hlock : s.threads.locks address with
  | some lock => exact ⟨h.issued, h.own⟩
  | none =>
    have hnew : ∀ b lock, Function.update s.threads.locks address (some s.threads.made) b =
        some lock → (b = address ∧ lock = s.threads.made) ∨
          (s.threads.locks b = some lock ∧ lock < s.threads.made) := by
      intro b lock hb
      by_cases hba : b = address
      · subst hba
        rw [Function.update_self, Option.some.injEq] at hb
        exact .inl ⟨rfl, hb.symm⟩
      · rw [Function.update_of_ne hba] at hb
        exact .inr ⟨hb, h.issued b lock hb⟩
    constructor
    · intro b lock hb
      show lock < s.threads.made + 1
      rcases hnew b lock hb with ⟨-, rfl⟩ | ⟨-, hlt⟩
      · exact Nat.lt_succ_self _
      · exact Nat.lt_succ_of_lt hlt
    · intro b b' lock hb hb'
      rcases hnew b lock hb with ⟨rfl, rfl⟩ | ⟨hold, hlt⟩
      · rcases hnew b' _ hb' with ⟨rfl, -⟩ | ⟨-, hlt⟩
        · rfl
        · exact absurd hlt (Nat.lt_irrefl _)
      · rcases hnew b' lock hb' with ⟨rfl, rfl⟩ | ⟨hold', -⟩
        · exact absurd hlt (Nat.lt_irrefl _)
        · exact h.own b b' lock hold hold'

omit [DecidableEq T] in
/-- Who takes or gives back a lock makes no difference to another thread. -/
theorem update_holder_iff {holder : LockId → Option T} {lock : LockId} {x : Option T} {u : T}
    (hx : x ≠ some u) (hholder : holder lock ≠ some u) (lock' : LockId) :
    Function.update holder lock x lock' = some u ↔ holder lock' = some u := by
  by_cases hlock : lock' = lock
  · subst hlock
    rw [Function.update_self]
    exact iff_of_false hx hholder
  · rw [Function.update_of_ne hlock]

section

variable {address : Address} {request : NonceRequest} {lock : LockId}

theorem Inv.call (h : s.Inv) (hphase : s.threads.phase t = .idle) :
    Inv ⟨s.threads.goto t (.called address request), Function.update s.target t (some address),
      s.clearing⟩ := by
  refine h.goto (t := t) rfl ?_ ?_ ?_ ?_ ?_ ?_ ?_
  · intro u hu
    exact ⟨Function.update_of_ne hu _ _, fun _ => Iff.rfl⟩
  · exact fun _ _ => id
  · intro lock
    show none = some lock ↔ s.threads.holder lock = some t
    rw [← h.held t lock, hphase]
    exact Iff.rfl
  · rintro _ ⟨⟩
  · rintro _ ⟨⟩
    exact Function.update_self _ _ _
  · exact h.issued
  · exact h.own

theorem Inv.getLock (h : s.Inv) (hphase : s.threads.phase t = .called address request) :
    Inv ⟨(s.threads.withLock address).1.goto t
      (.waiting address request (s.threads.withLock address).2), s.target, s.clearing⟩ := by
  obtain ⟨heq, hlock, hkept⟩ := s.threads.withLock_cases address
  obtain ⟨hissued, hown⟩ := h.withLock address
  have htarget : s.target t = some address := h.aimed t address (by rw [hphase]; rfl)
  have hholder : (s.threads.withLock address).1.holder = s.threads.holder := by rw [heq]
  have hphases : (s.threads.withLock address).1.phase = s.threads.phase := by rw [heq]
  refine h.goto (t := t) (congrArg (Function.update · t _) hphases) ?_ ?_ ?_ ?_ ?_ ?_ ?_
  · intro u _
    refine ⟨rfl, fun lock => ?_⟩
    show (s.threads.withLock address).1.holder lock = some u ↔ _
    rw [hholder]
  · exact hkept
  · intro lock
    show none = some lock ↔ (s.threads.withLock address).1.holder lock = some t
    rw [hholder, ← h.held t lock, hphase]
    exact Iff.rfl
  · rintro _ ⟨⟩
    exact ⟨address, htarget, hlock⟩
  · rintro _ ⟨⟩
    exact htarget
  · exact hissued
  · exact hown

theorem Inv.acquire (h : s.Inv) (hphase : s.threads.phase t = .waiting address request lock)
    (hfree : s.threads.holder lock = none) :
    Inv ⟨{ s.threads with holder := Function.update s.threads.holder lock (some t) }.goto t
      (.locked address request lock), s.target, s.clearing⟩ := by
  refine h.goto (t := t) rfl ?_ ?_ ?_ ?_ ?_ ?_ ?_
  · intro u hu
    refine ⟨rfl, update_holder_iff ?_ ?_⟩
    · simpa using Ne.symm hu
    · rw [hfree]
      exact (Option.some_ne_none u).symm
  · exact fun _ _ => id
  · intro lock'
    show some lock = some lock' ↔ Function.update s.threads.holder lock (some t) lock' = some t
    by_cases hlock : lock' = lock
    · subst hlock
      rw [Function.update_self]
      exact iff_of_true rfl rfl
    · -- The thread is inside of no lock yet.
      rw [Function.update_of_ne hlock, ← h.held t lock', hphase]
      refine iff_of_false ?_ (Option.some_ne_none lock').symm
      simpa using Ne.symm hlock
  · rintro _ ⟨⟩
    exact h.fetched t lock (by rw [hphase]; rfl)
  · rintro _ ⟨⟩
    exact h.aimed t address (by rw [hphase]; rfl)
  · exact h.issued
  · exact h.own

theorem Inv.leave (h : s.Inv) (hphase : s.threads.phase t = .leaving lock) :
    Inv ⟨{ s.threads with holder := Function.update s.threads.holder lock none }.goto t .idle,
      s.target, s.clearing⟩ := by
  have hheld : s.threads.holder lock = some t := (h.held t lock).mp (by rw [hphase]; rfl)
  refine h.goto (t := t) rfl ?_ ?_ ?_ ?_ ?_ ?_ ?_
  · intro u hu
    refine ⟨rfl, update_holder_iff (Option.some_ne_none u).symm ?_⟩
    rw [hheld]
    simpa using Ne.symm hu
  · exact fun _ _ => id
  · intro lock'
    show none = some lock' ↔ Function.update s.threads.holder lock none lock' = some t
    by_cases hlock : lock' = lock
    · subst hlock
      rw [Function.update_self]
      simp
    · -- The thread was inside of no other lock.
      rw [Function.update_of_ne hlock, ← h.held t lock', hphase]
      refine iff_of_false (Option.some_ne_none lock').symm ?_
      simpa [NoncePhase.inside] using Ne.symm hlock
  · rintro _ ⟨⟩
  · rintro _ ⟨⟩
  · exact h.issued
  · exact h.own

end

theorem Inv.act {a : LockAct T} {threads : NonceThreads T} (h : s.Inv)
    (hstep : s.threads.Step a threads) : Inv ⟨threads, aim s.target a, s.clearing⟩ := by
  cases hstep with
  | call hphase => exact h.call hphase
  | getLock hphase => exact h.getLock hphase
  | acquire hphase hfree => exact h.acquire hphase hfree
  | @failed t address request lock pending call hphase hcall hfailed =>
    refine h.move (t := t) rfl rfl rfl rfl rfl ?_ ?_ ?_
    · rw [hphase]; rfl
    · rw [hphase]; rfl
    · rintro _ ⟨⟩
  | @read t address request lock pending call hphase hcall hok =>
    refine h.move (t := t) rfl rfl rfl rfl rfl ?_ ?_ ?_
    · rw [hphase]; rfl
    · rw [hphase]; rfl
    · rw [hphase]; exact fun _ => id
  | @load t address call lock hphase =>
    refine h.move (t := t) rfl rfl rfl rfl rfl ?_ ?_ ?_
    · rw [hphase]; rfl
    · rw [hphase]; rfl
    · rw [hphase]; exact fun _ => id
  | @store t address call lock cached hphase =>
    refine h.move (t := t) rfl rfl rfl rfl rfl ?_ ?_ ?_
    · rw [hphase]; rfl
    · rw [hphase]; rfl
    · rintro _ ⟨⟩
  | leave hphase => exact h.leave hphase

theorem Inv.step {a : ClearAct T} (h : s.Inv) (ha : s.ClearsQuietly a)
    (hstep : s.step a = some s') : s'.Inv := by
  cases a with
  | act a =>
    simp only [NonceProcess.step] at hstep
    split at hstep
    · cases hstep
    · obtain ⟨threads, hthreads, rfl⟩ := Option.map_eq_some_iff.mp hstep
      exact h.act (NonceThreads.step_run hthreads)
  | fail t text =>
    simp only [NonceProcess.step] at hstep
    split at hstep
    · next address call lock cached hphase =>
      split at hstep <;> cases hstep
      refine h.move (t := t) rfl rfl rfl rfl rfl ?_ ?_ ?_
      · rw [hphase]; rfl
      · rw [hphase]; rfl
      · rintro _ ⟨⟩
    · cases hstep
  | clearNonces =>
    simp only [NonceProcess.step] at hstep
    split at hstep <;> cases hstep
    exact ⟨h.held, h.fetched, h.aimed, h.issued, h.own⟩
  | clearLocks =>
    simp only [NonceProcess.step] at hstep
    split at hstep <;> cases hstep
    -- No call has a lock, so none can be missed.
    refine ⟨h.held, ?_, h.aimed, nofun, nofun⟩
    intro t lock hlock
    rw [ha t] at hlock
    cases hlock

/-- A run whose `clear_all`s are quiet keeps the locks. -/
theorem always_inv {nonces : Nonces} {as : List (ClearAct T)}
    (has : (machine T).EachStep ClearsQuietly (idle T nonces) as) :
    (machine T).Always Inv (idle T nonces) as :=
  has.always (Inv.idle nonces) fun _ _ _ hstep ha h => Inv.step h ha hstep

/-! ## What a `clear_all` at another moment leads to -/

theorem step_act (h : s.clearing = false) (a : LockAct T) :
    step s (.act a) = (s.threads.step a).map fun threads => ⟨threads, aim s.target a, false⟩ := by
  simp [step, h]

/-- The state after a thread that waits for a free lock has taken it. -/
def taken (s : NonceProcess T) (t : T) (address : Address) (request : NonceRequest)
    (lock : LockId) : NonceProcess T :=
  ⟨{ s.threads with holder := Function.update s.threads.holder lock (some t) }.goto t
    (.locked address request lock), s.target, false⟩

/-- The state after an idle thread has called for an address that has no lock and got a new one. -/
def queued (s : NonceProcess T) (t : T) (address : Address) : NonceProcess T :=
  ⟨{ s.threads with
      locks := Function.update s.threads.locks address (some s.threads.made)
      made := s.threads.made + 1 }.goto t (.waiting address .resetNonce s.threads.made),
    Function.update s.target t (some address), false⟩

theorem step_acquire {address : Address} {request : NonceRequest} {lock : LockId}
    (hglobal : s.clearing = false) (hphase : s.threads.phase t = .waiting address request lock)
    (hfree : s.threads.holder lock = none) :
    step s (.act (.acquire t)) = some (s.taken t address request lock) := by
  simp [step_act hglobal, NonceThreads.step, hphase, hfree, aim, taken]

theorem run_fetch {address : Address} (hglobal : s.clearing = false)
    (hidle : s.threads.phase t = .idle) (hlocks : s.threads.locks address = none) :
    (machine T).run s [.act (.call t address .resetNonce), .act (.getLock t)] =
      some (s.queued t address) := by
  let called : NonceProcess T := ⟨s.threads.goto t (.called address .resetNonce),
    Function.update s.target t (some address), false⟩
  have hcall : step s (.act (.call t address .resetNonce)) = some called := by
    simp [step_act hglobal, NonceThreads.step, hidle, aim, called]
  have hcalled : called.threads.phase t = .called address .resetNonce := Function.update_self _ _ _
  have hlocked : called.threads.withLock address = ({ called.threads with
      locks := Function.update s.threads.locks address (some s.threads.made)
      made := s.threads.made + 1 }, s.threads.made) := by
    simp [NonceThreads.withLock, NonceThreads.goto, called, hlocks]
  have hthreads : called.threads.step (.getLock t) = some (s.queued t address).threads := by
    simp only [NonceThreads.step, hcalled, hlocked, queued]
    simp [NonceThreads.goto, called]
  have hgetLock : step called (.act (.getLock t)) = some (s.queued t address) := by
    rw [step_act (s := called) rfl, hthreads]
    rfl
  simp [Machine.run, machine, hcall, hgetLock]

/-- A thread gets inside for an address that has no lock, next to one that is inside already. -/
theorem enters {u : T} {address : Address} (hglobal : s.clearing = false)
    (hidle : s.threads.phase t = .idle) (hlocks : s.threads.locks address = none)
    (hnew : s.threads.holder s.threads.made = none)
    (hu : (s.threads.phase u).inside.isSome = true) (htarget : s.target u = some address) :
    ∃ bs s', (machine T).run s bs = some s' ∧ ¬ s'.Exclusive := by
  have hne : u ≠ t := by
    rintro rfl
    rw [hidle] at hu
    cases hu
  have hwaiting : (s.queued t address).threads.phase t =
      .waiting address .resetNonce s.threads.made := Function.update_self _ _ _
  have hacquire : (machine T).step (s.queued t address) (.act (.acquire t)) = _ :=
    step_acquire rfl hwaiting hnew
  refine ⟨_, _, Machine.run_snoc.mpr ⟨_, run_fetch hglobal hidle hlocks, hacquire⟩, ?_⟩
  intro h
  apply hne
  apply h u t
  · simpa [taken, queued, NonceThreads.goto, hne] using hu
  · simp [taken, NonceThreads.goto, NoncePhase.inside]
  · simp [taken, queued, hne, htarget]

omit [DecidableEq T] in
/-- The next lock to be made is held by no thread. -/
theorem Inv.made_free (h : s.Inv) : s.threads.holder s.threads.made = none := by
  rw [Option.eq_none_iff_forall_ne_some]
  intro t ht
  have hinside := (h.held t s.threads.made).mpr ht
  obtain ⟨address, -, hlock⟩ := h.fetched t _ (NoncePhase.fetched_of_inside hinside)
  exact absurd (h.issued address _ hlock) (Nat.lt_irrefl _)

omit [DecidableEq T] in
/-- A call that has got a lock nobody holds waits for it. -/
theorem Inv.waiting (h : s.Inv) {lock : LockId} (ht : (s.threads.phase t).fetched = some lock)
    (hfree : s.threads.holder lock = none) :
    ∃ address request, s.threads.phase t = .waiting address request lock := by
  have houtside : (s.threads.phase t).inside ≠ some lock := by
    intro hinside
    rw [(h.held t lock).mp hinside] at hfree
    cases hfree
  cases hphase : s.threads.phase t with
  | waiting address request lock' =>
    rw [hphase] at ht
    cases ht
    exact ⟨address, request, rfl⟩
  | _ =>
    rw [hphase] at ht houtside
    exact absurd ht houtside

/-- Wherever a call has its lock, dropping the locks can lead to two threads inside for one
address. -/
theorem clearLocks_breaks (h : s.Inv) (hclearing : s.clearing = true) {u : T} {lock : LockId}
    (hu : (s.threads.phase u).fetched = some lock) (hidle : s.threads.phase t = .idle) :
    ∃ bs s', (machine T).run s (.clearLocks :: bs) = some s' ∧ ¬ s'.Exclusive := by
  obtain ⟨address, htarget, hlocks⟩ := h.fetched u lock hu
  let cleared : NonceProcess T :=
    { s with threads := { s.threads with locks := fun _ => none }, clearing := false }
  have hclear : step s .clearLocks = some cleared := by simp [step, hclearing, cleared]
  suffices hbroken : ∃ bs s', (machine T).run cleared bs = some s' ∧ ¬ s'.Exclusive by
    obtain ⟨bs, s', hr, hbroken⟩ := hbroken
    refine ⟨bs, s', ?_, hbroken⟩
    show (step s .clearLocks).bind ((machine T).run · bs) = some s'
    rw [hclear, Option.bind_some, hr]
  cases hholder : s.threads.holder lock with
  | some v =>
    -- A thread is inside with the lock.
    have hv := (h.held v lock).mpr hholder
    obtain ⟨b, htarget', hb⟩ := h.fetched v lock (NoncePhase.fetched_of_inside hv)
    obtain rfl := h.own address b lock hlocks hb
    have hinside : (cleared.threads.phase v).inside.isSome = true :=
      Option.isSome_iff_exists.mpr ⟨lock, hv⟩
    exact enters (s := cleared) rfl hidle rfl h.made_free hinside htarget'
  | none =>
    -- The lock is free, so the thread waits for it and can take it.
    obtain ⟨b, request, hphase⟩ := h.waiting hu hholder
    have hne : u ≠ t := by
      rintro rfl
      rw [hidle] at hu
      cases hu
    have hmade : s.threads.made ≠ lock := (Nat.ne_of_lt (h.issued address lock hlocks)).symm
    have htake := step_acquire (s := cleared) rfl hphase hholder
    have hidle' : (cleared.taken u b request lock).threads.phase t = .idle :=
      (Function.update_of_ne (Ne.symm hne) _ _).trans hidle
    have hnew : (cleared.taken u b request lock).threads.holder s.threads.made = none :=
      (Function.update_of_ne hmade _ _).trans h.made_free
    have hinside : ((cleared.taken u b request lock).threads.phase u).inside.isSome = true := by
      simp [taken, NonceThreads.goto, NoncePhase.inside]
    obtain ⟨bs, s', hr, hbroken⟩ := enters rfl hidle' rfl hnew hinside htarget
    refine ⟨.act (.acquire u) :: bs, s', ?_, hbroken⟩
    show (step cleared (.act (.acquire u))).bind ((machine T).run · bs) = some s'
    rw [htake, Option.bind_some, hr]

/-- When `clear_all` drops the locks at quiet moments only, at most one thread at a time is between
acquire and release for an address, in every run of any number of threads; and where it is about to
drop them at another moment, with some thread idle, this can be followed by steps that break it. -/
theorem exclusive_of_quiet {nonces : Nonces} {as : List (ClearAct T)}
    (has : (machine T).EachStep ClearsQuietly (idle T nonces) as)
    (hr : (machine T).run (idle T nonces) as = some s) :
    (machine T).Always Exclusive (idle T nonces) as ∧
      (s.clearing = true → ¬ s.Quiet → (∃ t, s.threads.phase t = .idle) →
        ∃ bs s', (machine T).run s (.clearLocks :: bs) = some s' ∧ ¬ s'.Exclusive) := by
  have halways := always_inv has
  refine ⟨fun bs u hbs hu => (halways bs u hbs hu).exclusive, ?_⟩
  rintro hclearing hloud ⟨t, hidle⟩
  obtain ⟨u, hu⟩ := not_forall.mp hloud
  obtain ⟨lock, hlock⟩ := Option.ne_none_iff_exists'.mp hu
  exact clearLocks_breaks (halways as s (List.prefix_refl as) hr) hclearing hlock hidle

/-- Steps of the threads are no `clear_all`. -/
theorem clearsQuietly_act {as : List (LockAct T)} {bs : List (ClearAct T)}
    (h : ∀ u, (machine T).run s (as.map .act) = some u → (machine T).EachStep ClearsQuietly u bs) :
    (machine T).EachStep ClearsQuietly s (as.map .act ++ bs) := by
  induction as generalizing s with
  | nil => exact h s rfl
  | cons a as ih =>
    refine Machine.eachStep_cons.mpr ⟨trivial, ?_⟩
    intro t ht
    apply ih
    intro u hu
    apply h u
    rw [List.map_cons, Machine.run, ht, Option.bind_some, hu]

/-- Two threads reserve a nonce of address 1, one after the other, with a `clear_all` in between. -/
theorem exclusive_of_quiet_between :
    (machine ℕ).Always Exclusive (idle ℕ fun _ => none)
      ((NonceThreads.called 0 1 .reserveNonce ++ NonceThreads.entered 0 (some (.ok 5)) ++
          NonceThreads.finished 0).map .act ++ .clearNonces :: .clearLocks ::
        (NonceThreads.called 1 1 .reserveNonce ++ [LockAct.acquire 1]).map .act) := by
  have heach : (machine ℕ).EachStep ClearsQuietly (idle ℕ fun _ => none)
      ((NonceThreads.called 0 1 .reserveNonce ++ NonceThreads.entered 0 (some (.ok 5)) ++
          NonceThreads.finished 0).map .act ++ .clearNonces :: .clearLocks ::
        (NonceThreads.called 1 1 .reserveNonce ++ [LockAct.acquire 1]).map .act) := by
    apply clearsQuietly_act
    rintro u hu
    refine Machine.eachStep_cons.mpr ⟨trivial, ?_⟩
    intro v hv
    refine Machine.eachStep_cons.mpr ⟨?_, ?_⟩
    · intro t
      cases hu
      cases hv
      rcases t with _ | t <;> rfl
    · intro w _
      rw [← List.append_nil (List.map _ _)]
      exact clearsQuietly_act fun _ _ => Machine.eachStep_nil
  exact (exclusive_of_quiet heach rfl).1

/-- A thread is inside for address 1, `clear_all` drops its lock, and a second thread gets a new one
and is inside too. -/
theorem not_exclusive_cleared :
    ∃ s, (machine ℕ).run (idle ℕ fun _ => none)
        [.act (.call 0 1 .reserveNonce), .act (.getLock 0), .act (.acquire 0), .clearNonces,
          .clearLocks, .act (.call 1 1 .reserveNonce), .act (.getLock 1), .act (.acquire 1)] =
          some s ∧
      ¬ s.Exclusive := by
  refine ⟨_, rfl, ?_⟩
  intro h
  exact absurd (h 0 1 rfl rfl rfl) (by decide)

end

end NonceProcess

end OgpuSdk
