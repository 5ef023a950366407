import OgpuSdk.Lib.Machine
import OgpuSdk.Lib.Text
import OgpuSdk.Types.Spelling
import OgpuSdk.Events.Types

/-!
# Event watchers

The six `watch_*` generators share one polling loop over the event name, the
scoping field and the decoder of a `Watcher`. The loop is a generator: it may
be suspended at every poll, every sleep and every `yield`, for as long as the
event loop and its consumer like, so it is a machine whose steps are what runs
between two of those points. How long it sleeps plays no part in what it
yields.
-/

namespace OgpuSdk

open Text

/-- What a `watch_*` function hands to `_poll_event`. -/
structure Watcher (E : Type) where
  eventName : String
  filterField : String
  filterValue : String
  builder : LogEntry → Except Exc E

/-- `addr.lower() == filter_value.lower()` for the scoping field of an entry. -/
def Watcher.passes {E : Type} (w : Watcher E) (entry : LogEntry) : Bool :=
  lower (((entry.arg? w.filterField).map LogArg.str).getD "").toList = lower w.filterValue.toList

/-- A filter made by `create_filter`. -/
structure EventFilter where
  eventName : String
  fromBlock : Nat

/-- Where the generator is. -/
inductive Phase where
  /-- about to poll the filter -/
  | polling
  /-- in the `for` loop, with these entries to come -/
  | within (entries : List LogEntry)
  | sleeping
  | ended (exc : Exc)

/-- A generator and what it has yielded. -/
structure Poller (E : Type) where
  filter : EventFilter
  phase : Phase
  yielded : List E

inductive PollAct where
  /-- `get_new_entries` returns or raises -/
  | poll (outcome : Except Exc (List LogEntry))
  /-- the `for` loop goes on with its next entry, after a `yield` when the consumer asks -/
  | resume
  /-- the sleep is over -/
  | wake

namespace Poller

variable {E : Type}

/-- The generator once its filter is made; `head` is `eth.block_number`. -/
def start (w : Watcher E) (fromBlock : Option Nat) (head : Nat) : Poller E where
  filter := ⟨w.eventName, fromBlock.getD head⟩
  phase := .polling
  yielded := []

/-- What a poll is followed by. -/
def polled : Except Exc (List LogEntry) → Phase
  | .ok entries => .within entries
  | .error exc => if exc.isException then .sleeping else .ended exc

/-- One entry: skip it, or decode it and yield. -/
def visit (w : Watcher E) (s : Poller E) (entry : LogEntry) (entries : List LogEntry) : Poller E :=
  if w.passes entry then
    match w.builder entry with
    | .ok event => { s with phase := .within entries, yielded := s.yielded ++ [event] }
    | .error exc => { s with phase := .ended exc }
  else { s with phase := .within entries }

def step (w : Watcher E) (s : Poller E) : PollAct → Option (Poller E)
  | .poll outcome =>
    match s.phase with
    | .polling => some { s with phase := polled outcome }
    | _ => none
  | .resume =>
    match s.phase with
    | .within [] => some { s with phase := .sleeping }
    | .within (entry :: entries) => some (s.visit w entry entries)
    | _ => none
  | .wake =>
    match s.phase with
    | .sleeping => some { s with phase := .polling }
    | _ => none

/-- The polling loop of a watcher. -/
def machine (w : Watcher E) (fromBlock : Option Nat) : Machine (Poller E) PollAct where
  init s := ∃ head, s = start w fromBlock head
  step := step w

/-- Between two polls, every entry read so far is dealt with. -/
def Idle (s : Poller E) : Prop := s.phase = .polling ∨ s.phase = .sleeping

/-- The entries the `for` loop has still to come to. -/
def rest (s : Poller E) : List LogEntry :=
  match s.phase with
  | .within entries => entries
  | _ => []

end Poller

/-! ## The six watchers -/

def watchTaskPublished (sourceAddress : String) : Watcher TaskPublishedEvent where
  eventName := "TaskPublished"
  filterField := "source"
  filterValue := sourceAddress
  builder entry := do
    let task ← entry.arg "task"
    let source ← entry.arg "source"
    pure { baseFields entry with task := task.str, source := source.str }

def watchAttempted (taskAddress : String) : Watcher AttemptedEvent where
  eventName := "Attempted"
  filterField := "task"
  filterValue := taskAddress
  builder entry := do
    let task ← entry.arg "task"
    let provider ← entry.arg "provider"
    let suggestedPayment ← (← entry.arg "suggestedPayment").int
    pure { baseFields entry with
      task := task.str, provider := provider.str, suggestedPayment := suggestedPayment }

def watchResponseSubmitted (taskAddress : String) : Watcher ResponseSubmittedEvent where
  eventName := "ResponseSubmitted"
  filterField := "task"
  filterValue := taskAddress
  builder entry := do
    let response ← entry.arg "response"
    let task ← entry.arg "task"
    pure { baseFields entry with response := response.str, task := task.str }

def watchResponseStatusChanged (responseAddress : String) :
    Watcher ResponseStatusChangedEvent where
  eventName := "ResponseStatusChanged"
  filterField := "response"
  filterValue := responseAddress
  builder entry := do
    let response ← entry.arg "response"
    let status ← ResponseStatus.ofInt (← (← entry.arg "status").int)
    pure { baseFields entry with response := response.str, status := status }

def watchTaskStatusChanged (taskAddress : String) : Watcher TaskStatusChangedEvent where
  eventName := "TaskStatusChanged"
  filterField := "task"
  filterValue := taskAddress
  builder entry := do
    let task ← entry.arg "task"
    let status ← TaskStatus.ofInt (← (← entry.arg "status").int)
    pure { baseFields entry with task := task.str, status := status }

def watchRegistered (sourceAddress : String) : Watcher RegisteredEvent where
  eventName := "Registered"
  filterField := "source"
  filterValue := sourceAddress
  builder entry := do
    let provider ← entry.arg "provider"
    let registrantId ← (← entry.arg "registrantId").int
    let source ← entry.arg "source"
    pure { baseFields entry with
      provider := provider.str, registrantId := registrantId, source := source.str }

/-! ## The stream -/

/-- The outcomes of the polls among the actions of a generator. -/
def polls (as : List PollAct) : List (Except Exc (List LogEntry)) :=
  as.filterMap fun
    | .poll outcome => some outcome
    | _ => none

/-- The scoping field of an entry is `address`, but for the case of its letters. -/
def concerns (field address : String) (entry : LogEntry) : Bool :=
  match entry.arg? field with
  | some (.address text) => lower text.toList = lower address.toList
  | _ => false

/-- However the two are spelled, an entry is for `address` if they are the same address. -/
theorem concerns_iff {field address text : String} {entry : LogEntry} {a b : Address}
    (hfield : entry.arg? field = some (.address text)) (ha : Spells text a)
    (hb : Spells address b) : concerns field address entry = true ↔ a = b := by
  unfold concerns
  rw [hfield]
  simp only [decide_eq_true_eq]
  exact ha.lower_eq_iff hb

/-- The entries for `address` across the polls that returned, in order. -/
def wanted (field address : String) (outcomes : List (Except Exc (List LogEntry))) :
    List LogEntry :=
  (outcomes.flatMap fun outcome => outcome.toOption.getD []).filter (concerns field address)

/-- A batch of entries that hold an event each, or an exception. -/
def WellFormed {E : Type} (ReadFrom : LogEntry → E → Prop) :
    Except Exc (List LogEntry) → Prop
  | .ok entries => ∀ entry ∈ entries, ∃ event, ReadFrom entry event
  | .error exc => exc.isException = true

/-- The watcher yields the events of the entries for `address`, each once and in order. At any
moment it has yielded the first of them, and all of them once it has dealt with the last poll; it
never ends, and every sequence of outcomes can be polled to its end. -/
structure ExactStream {E : Type} (w : Watcher E) (field address : String)
    (ReadFrom : LogEntry → E → Prop) (fromBlock : Option Nat) (s₀ : Poller E) : Prop where
  exact : ∀ as s, (∀ outcome ∈ polls as, WellFormed ReadFrom outcome) →
    (Poller.machine w fromBlock).run s₀ as = some s →
    (∀ exc, s.phase ≠ .ended exc) ∧
      ∃ later, List.Forall₂ ReadFrom (wanted field address (polls as)) (s.yielded ++ later) ∧
        (s.Idle → later = [])
  goesOn : ∀ outcomes, (∀ outcome ∈ outcomes, WellFormed ReadFrom outcome) →
    ∃ as s, polls as = outcomes ∧ (Poller.machine w fromBlock).run s₀ as = some s ∧ s.Idle

/-- A watcher reads the events of entries that hold one, and scopes them by `field`. -/
structure Watcher.Reads {E : Type} (w : Watcher E) (ReadFrom : LogEntry → E → Prop) : Prop where
  decodes : ∀ entry event, ReadFrom entry event → w.builder entry = .ok event
  scopes : ∀ entry event, ReadFrom entry event →
    ∃ text, entry.arg? w.filterField = some (.address text)

section

variable {E : Type} {w : Watcher E} {ReadFrom : LogEntry → E → Prop} {entry : LogEntry} {event : E}

/-- An entry that holds an event passes if its scoping field is the watched address. -/
theorem Watcher.Reads.passes_eq (h : w.Reads ReadFrom) (hentry : ReadFrom entry event) :
    w.passes entry = concerns w.filterField w.filterValue entry := by
  obtain ⟨text, htext⟩ := h.scopes entry event hentry
  unfold Watcher.passes concerns
  rw [htext]
  rfl

namespace Poller

variable {s : Poller E} {entries : List LogEntry}

/-- What is done with an entry that holds an event. -/
theorem visit_eq (h : w.Reads ReadFrom) (hentry : ReadFrom entry event) :
    s.visit w entry entries =
      { s with
        phase := .within entries
        yielded := s.yielded ++
          if concerns w.filterField w.filterValue entry then [event] else [] } := by
  unfold visit
  rw [h.passes_eq hentry, h.decodes entry event hentry]
  cases concerns w.filterField w.filterValue entry with
  | true => rfl
  | false => rw [if_neg Bool.false_ne_true, if_neg Bool.false_ne_true, List.append_nil]

/-- Of the entries polled for, the ones before the rest of the batch have been yielded. -/
structure Delivered (w : Watcher E) (ReadFrom : LogEntry → E → Prop) (as : List PollAct)
    (s : Poller E) : Prop where
  running : ∀ exc, s.phase ≠ .ended exc
  holding : ∀ entry ∈ s.rest, ∃ event, ReadFrom entry event
  yielded : ∃ done, wanted w.filterField w.filterValue (polls as) =
      done ++ s.rest.filter (concerns w.filterField w.filterValue) ∧
    List.Forall₂ ReadFrom done s.yielded

theorem wanted_append (field address : String) (as bs : List (Except Exc (List LogEntry))) :
    wanted field address (as ++ bs) = wanted field address as ++ wanted field address bs := by
  unfold wanted
  rw [List.flatMap_append, List.filter_append]

theorem polls_append (as bs : List PollAct) : polls (as ++ bs) = polls as ++ polls bs :=
  List.filterMap_append

theorem Delivered.poll {as : List PollAct} {outcome : Except Exc (List LogEntry)}
    (hs : Delivered w ReadFrom as s) (hphase : s.phase = .polling)
    (hwf : WellFormed ReadFrom outcome) :
    Delivered w ReadFrom (as ++ [.poll outcome]) { s with phase := polled outcome } := by
  obtain ⟨done, hwanted, hdone⟩ := hs.yielded
  have hrest : s.rest = [] := by
    unfold rest
    rw [hphase]
  rw [hrest, List.filter_nil, List.append_nil] at hwanted
  cases outcome with
  | ok entries =>
    refine ⟨by simp [polled], hwf, done, ?_, hdone⟩
    rw [polls_append, wanted_append, hwanted]
    simp [polls, wanted, rest, polled, Except.toOption]
  | error exc =>
    have hexc : polled (.error exc) = .sleeping := if_pos hwf
    rw [hexc]
    refine ⟨by simp, by simp [rest], done, ?_, hdone⟩
    rw [polls_append, wanted_append, hwanted]
    simp [polls, wanted, rest, Except.toOption]

theorem Delivered.visit {as : List PollAct} (h : w.Reads ReadFrom)
    (hs : Delivered w ReadFrom as s) (hphase : s.phase = .within (entry :: entries)) :
    Delivered w ReadFrom (as ++ [.resume]) (s.visit w entry entries) := by
  have hrest : s.rest = entry :: entries := by
    unfold rest
    rw [hphase]
  obtain ⟨event, hevent⟩ := hs.holding entry (hrest ▸ List.mem_cons_self)
  obtain ⟨done, hwanted, hdone⟩ := hs.yielded
  rw [visit_eq h hevent]
  refine ⟨by simp, fun e he => hs.holding e (hrest ▸ List.mem_cons_of_mem _ he), ?_⟩
  rw [polls_append, show polls [.resume] = [] from rfl, List.append_nil, hwanted, hrest]
  dsimp only [rest]
  cases hc : concerns w.filterField w.filterValue entry with
  | true =>
    refine ⟨done ++ [entry], ?_, List.rel_append hdone (.cons hevent .nil)⟩
    rw [List.filter_cons_of_pos hc, List.append_assoc]
    rfl
  | false =>
    refine ⟨done, ?_, ?_⟩
    · rw [List.filter_cons_of_neg (by simp [hc])]
    · simpa using hdone

/-- With the batch used up, neither going to sleep nor waking up changes what was delivered. -/
theorem Delivered.pause {as : List PollAct} {a : PollAct} (hs : Delivered w ReadFrom as s)
    (hrest : s.rest = []) (ha : polls [a] = []) {phase : Phase}
    (hphase : phase = .polling ∨ phase = .sleeping) :
    Delivered w ReadFrom (as ++ [a]) { s with phase := phase } := by
  obtain ⟨done, hwanted, hdone⟩ := hs.yielded
  rw [hrest] at hwanted
  rcases hphase with rfl | rfl <;> refine ⟨by simp, by simp [rest], done, ?_, hdone⟩ <;>
    rw [polls_append, ha, List.append_nil, hwanted] <;> rfl

theorem Delivered.step {as : List PollAct} {a : PollAct} {s' : Poller E} (h : w.Reads ReadFrom)
    (hwf : ∀ outcome, a = .poll outcome → WellFormed ReadFrom outcome)
    (hstep : Poller.step w s a = some s') (hs : Delivered w ReadFrom as s) :
    Delivered w ReadFrom (as ++ [a]) s' := by
  cases a with
  | poll outcome =>
    simp only [Poller.step] at hstep
    split at hstep
    · next hphase =>
      cases hstep
      exact hs.poll hphase (hwf outcome rfl)
    · cases hstep
  | resume =>
    simp only [Poller.step] at hstep
    split at hstep
    · next hphase =>
      cases hstep
      exact hs.pause (by simp [rest, hphase]) rfl (.inr rfl)
    · next entry entries hphase =>
      cases hstep
      exact hs.visit h hphase
    · cases hstep
  | wake =>
    simp only [Poller.step] at hstep
    split at hstep
    · next hphase =>
      cases hstep
      exact hs.pause (by simp [rest, hphase]) rfl (.inl rfl)
    · cases hstep

theorem delivered {fromBlock : Option Nat} {s₀ : Poller E} (h : w.Reads ReadFrom)
    (hinit : (machine w fromBlock).init s₀) {as : List PollAct}
    (hwf : ∀ outcome ∈ polls as, WellFormed ReadFrom outcome)
    (hr : (machine w fromBlock).run s₀ as = some s) : Delivered w ReadFrom as s := by
  obtain ⟨head, rfl⟩ := hinit
  refine Machine.run_inv (P := fun a => ∀ outcome, a = .poll outcome → WellFormed ReadFrom outcome)
    (I := Delivered w ReadFrom) ?_ (fun _ _ _ _ ha _ hstep hs => hs.step h ha hstep) ?_ hr
  · exact ⟨by simp [start], by simp [rest, start], [], rfl, .nil⟩
  · rintro a ha outcome rfl
    exact hwf outcome (List.mem_filterMap.mpr ⟨_, ha, rfl⟩)

/-- The rest of a batch can be dealt with. -/
theorem finishes (fromBlock : Option Nat) (h : w.Reads ReadFrom) (entries : List LogEntry)
    (hentries : ∀ entry ∈ entries, ∃ event, ReadFrom entry event) (s : Poller E)
    (hphase : s.phase = .within entries) :
    ∃ as s', polls as = [] ∧ (machine w fromBlock).run s as = some s' ∧ s'.phase = .sleeping := by
  induction entries generalizing s with
  | nil =>
    refine ⟨[.resume], { s with phase := .sleeping }, rfl, ?_, rfl⟩
    simp [Machine.run, machine, step, hphase]
  | cons entry entries ih =>
    obtain ⟨event, hevent⟩ := hentries entry List.mem_cons_self
    obtain ⟨as, s', has, hr, hs'⟩ := ih (fun e he => hentries e (List.mem_cons_of_mem _ he))
      (s.visit w entry entries) (by rw [visit_eq h hevent])
    refine ⟨.resume :: as, s', has, ?_, hs'⟩
    simpa [Machine.run, machine, step, hphase] using hr

/-- A sleeping generator can be brought to its next sleep, over any outcome of its poll. -/
theorem polls_on (fromBlock : Option Nat) (h : w.Reads ReadFrom)
    {outcome : Except Exc (List LogEntry)} (hwf : WellFormed ReadFrom outcome)
    (hphase : s.phase = .polling) :
    ∃ as s', polls as = [outcome] ∧ (machine w fromBlock).run s as = some s' ∧
      s'.phase = .sleeping := by
  have hpoll : (machine w fromBlock).step s (.poll outcome) =
      some { s with phase := polled outcome } := by
    simp [machine, step, hphase]
  cases outcome with
  | ok entries =>
    obtain ⟨as, s', has, hr, hs'⟩ := finishes fromBlock h entries hwf
      { s with phase := polled (.ok entries) } rfl
    refine ⟨.poll (.ok entries) :: as, s', ?_, ?_, hs'⟩
    · rw [← List.singleton_append, polls_append, has]
      rfl
    · rw [Machine.run, hpoll]
      exact hr
  | error exc =>
    refine ⟨[.poll (.error exc)], { s with phase := polled (.error exc) }, rfl, ?_, ?_⟩
    · rw [Machine.run, hpoll]
      rfl
    · exact if_pos hwf

/-- Every sequence of outcomes can be polled to its end. -/
theorem polls_all {fromBlock : Option Nat} (h : w.Reads ReadFrom)
    (outcomes : List (Except Exc (List LogEntry)))
    (hwf : ∀ outcome ∈ outcomes, WellFormed ReadFrom outcome) (s : Poller E)
    (hphase : s.phase = .polling) :
    ∃ as s', polls as = outcomes ∧ (machine w fromBlock).run s as = some s' ∧ s'.Idle := by
  induction outcomes generalizing s with
  | nil => exact ⟨[], s, rfl, rfl, .inl hphase⟩
  | cons outcome outcomes ih =>
    obtain ⟨as, t, has, hr, ht⟩ := polls_on fromBlock h
      (hwf outcome List.mem_cons_self) hphase
    obtain ⟨bs, u, hbs, hr', hu⟩ := ih (fun o ho => hwf o (List.mem_cons_of_mem _ ho))
      { t with phase := .polling } rfl
    have hwake : (machine w fromBlock).step t .wake = some { t with phase := .polling } := by
      simp [machine, step, ht]
    refine ⟨as ++ .wake :: bs, u, ?_, ?_, hu⟩
    · rw [polls_append, has]
      exact congrArg (outcome :: ·) hbs
    · rw [Machine.run_append, hr, Option.bind_some, Machine.run, hwake, Option.bind_some, hr']

end Poller

theorem exists_forall₂ {entries : List LogEntry}
    (h : ∀ entry ∈ entries, ∃ event, ReadFrom entry event) :
    ∃ events, List.Forall₂ ReadFrom entries events := by
  induction entries with
  | nil => exact ⟨[], .nil⟩
  | cons entry entries ih =>
    obtain ⟨event, hevent⟩ := h entry List.mem_cons_self
    obtain ⟨events, hevents⟩ := ih fun e he => h e (List.mem_cons_of_mem _ he)
    exact ⟨event :: events, .cons hevent hevents⟩

theorem exactStream (h : w.Reads ReadFrom) (fromBlock : Option Nat) {s₀ : Poller E}
    (hinit : (Poller.machine w fromBlock).init s₀) :
    ExactStream w w.filterField w.filterValue ReadFrom fromBlock s₀ where
  exact := by
    intro as s hwf hr
    have hs := Poller.delivered h hinit hwf hr
    obtain ⟨done, hwanted, hdone⟩ := hs.yielded
    obtain ⟨later, hlater⟩ := exists_forall₂ fun entry (hentry : entry ∈
      s.rest.filter (concerns w.filterField w.filterValue)) =>
        hs.holding entry (List.mem_filter.mp hentry).1
    refine ⟨hs.running, later, hwanted ▸ List.rel_append hdone hlater, ?_⟩
    intro hidle
    have hrest : s.rest = [] := by
      unfold Poller.rest
      rcases hidle with hphase | hphase <;> rw [hphase]
    rw [hrest, List.filter_nil] at hlater
    cases hlater
    rfl
  goesOn := by
    intro outcomes hwf
    obtain ⟨head, rfl⟩ := hinit
    exact Poller.polls_all h outcomes hwf _ rfl

end

/-! ## The streams of the six watchers -/

/-- What an argument that is there gives to the rest of a decoder. -/
theorem LogEntry.arg_bind {β : Type} {entry : LogEntry} {name : String} {arg : LogArg}
    (h : entry.arg? name = some arg) (f : LogArg → Except Exc β) :
    (entry.arg name >>= f) = f arg := by
  rw [LogEntry.arg_eq h]
  rfl

theorem watchTaskPublished_reads (address : String) :
    (watchTaskPublished address).Reads TaskPublishedEvent.ReadFrom where
  decodes := by
    intro entry event h
    dsimp only [watchTaskPublished]
    rw [LogEntry.arg_bind h.task, LogEntry.arg_bind h.source, h.eq]
    rfl
  scopes := fun _ event h => ⟨event.source, h.source⟩

theorem watchAttempted_reads (address : String) :
    (watchAttempted address).Reads AttemptedEvent.ReadFrom where
  decodes := by
    intro entry event h
    obtain ⟨n, hpayment, hn⟩ := h.suggestedPayment
    dsimp only [watchAttempted]
    rw [LogEntry.arg_bind h.task, LogEntry.arg_bind h.provider, LogEntry.arg_bind hpayment, h.eq]
    exact congrArg (fun payment => Except.ok { event with suggestedPayment := payment }) hn.symm
  scopes := fun _ event h => ⟨event.task, h.task⟩

theorem watchResponseSubmitted_reads (address : String) :
    (watchResponseSubmitted address).Reads ResponseSubmittedEvent.ReadFrom where
  decodes := by
    intro entry event h
    dsimp only [watchResponseSubmitted]
    rw [LogEntry.arg_bind h.response, LogEntry.arg_bind h.task, h.eq]
    rfl
  scopes := fun _ event h => ⟨event.task, h.task⟩

theorem watchResponseStatusChanged_reads (address : String) :
    (watchResponseStatusChanged address).Reads ResponseStatusChangedEvent.ReadFrom where
  decodes := by
    intro entry event h
    dsimp only [watchResponseStatusChanged]
    rw [LogEntry.arg_bind h.response, LogEntry.arg_bind h.status, h.eq]
    exact congrArg (fun status => status >>= fun s => Except.ok { event with status := s })
      (ResponseStatus.ofInt_value event.status)
  scopes := fun _ event h => ⟨event.response, h.response⟩

theorem watchTaskStatusChanged_reads (address : String) :
    (watchTaskStatusChanged address).Reads TaskStatusChangedEvent.ReadFrom where
  decodes := by
    intro entry event h
    dsimp only [watchTaskStatusChanged]
    rw [LogEntry.arg_bind h.task, LogEntry.arg_bind h.status, h.eq]
    exact congrArg (fun status => status >>= fun s => Except.ok { event with status := s })
      (TaskStatus.ofInt_value event.status)
  scopes := fun _ event h => ⟨event.task, h.task⟩

theorem watchRegistered_reads (address : String) :
    (watchRegistered address).Reads RegisteredEvent.ReadFrom where
  decodes := by
    intro entry event h
    obtain ⟨n, hid, hn⟩ := h.registrantId
    dsimp only [watchRegistered]
    rw [LogEntry.arg_bind h.provider, LogEntry.arg_bind hid, h.eq]
    refine (LogEntry.arg_bind h.source _).trans ?_
    exact congrArg (fun id => Except.ok { event with registrantId := id }) hn.symm
  scopes := fun _ event h => ⟨event.source, h.source⟩

/-- Every run of the watcher yields the events scoped to `address` by `field`. -/
def Streams {E : Type} (w : Watcher E) (field address : String)
    (ReadFrom : LogEntry → E → Prop) : Prop :=
  ∀ fromBlock head, ExactStream w field address ReadFrom fromBlock (Poller.start w fromBlock head)

theorem Watcher.Reads.streams {E : Type} {w : Watcher E} {ReadFrom : LogEntry → E → Prop}
    (h : w.Reads ReadFrom) : Streams w w.filterField w.filterValue ReadFrom :=
  fun fromBlock head => exactStream h fromBlock ⟨head, rfl⟩

/-- Each of the six watchers yields exactly the events scoped to its address, whatever the case of
its letters, over every run of polls. -/
theorem watchers_exact (address : String) :
    Streams (watchTaskPublished address) "source" address TaskPublishedEvent.ReadFrom ∧
      Streams (watchAttempted address) "task" address AttemptedEvent.ReadFrom ∧
      Streams (watchResponseSubmitted address) "task" address ResponseSubmittedEvent.ReadFrom ∧
      Streams (watchResponseStatusChanged address) "response" address
        ResponseStatusChangedEvent.ReadFrom ∧
      Streams (watchTaskStatusChanged address) "task" address TaskStatusChangedEvent.ReadFrom ∧
      Streams (watchRegistered address) "source" address RegisteredEvent.ReadFrom :=
  ⟨(watchTaskPublished_reads address).streams, (watchAttempted_reads address).streams,
    (watchResponseSubmitted_reads address).streams,
    (watchResponseStatusChanged_reads address).streams,
    (watchTaskStatusChanged_reads address).streams, (watchRegistered_reads address).streams⟩

/-- A `TaskPublished` log. -/
def published (block : ℤ) (task source : String) : LogEntry where
  args := some [("task", .address task), ("source", .address source)]
  blockNumber := some block
  transactionHash := some (.str "0x01")
  logIndex := some 0

theorem published_readFrom (block : ℤ) (task source : String) :
    TaskPublishedEvent.ReadFrom (published block task source)
      ⟨⟨block, "0x01", 0⟩, task, source⟩ :=
  ⟨⟨rfl, rfl, rfl⟩, rfl, rfl⟩

/-- A batch with an entry for the address and one for another, a poll that fails, an empty batch. -/
theorem watchers_exact_mixed :
    ∃ as s, polls as = [.ok [published 7 "0xAA" "0xbC", published 7 "0xAB" "0xDD"],
        .error (.raw ⟨.requestException, "Read timed out."⟩), .ok []] ∧
      (Poller.machine (watchTaskPublished "0xBc") none).run
        (.start (watchTaskPublished "0xBc") none 7) as = some s ∧
      List.Forall₂ TaskPublishedEvent.ReadFrom [published 7 "0xAA" "0xbC"] s.yielded := by
  have h := (watchers_exact "0xBc").1 none 7
  have hwf : ∀ outcome ∈ [.ok [published 7 "0xAA" "0xbC", published 7 "0xAB" "0xDD"],
      .error (.raw ⟨.requestException, "Read timed out."⟩), .ok []],
      WellFormed TaskPublishedEvent.ReadFrom outcome := by
    simp only [List.forall_mem_cons, WellFormed]
    exact ⟨⟨⟨_, published_readFrom ..⟩, ⟨_, published_readFrom ..⟩, by simp⟩, rfl, by simp, by simp⟩
  obtain ⟨as, s, has, hr, hidle⟩ := h.goesOn _ hwf
  obtain ⟨-, later, hyielded, hlater⟩ := h.exact as s (has ▸ hwf) hr
  rw [hlater hidle, List.append_nil, has] at hyielded
  exact ⟨as, s, has, hr, hyielded⟩

end OgpuSdk
