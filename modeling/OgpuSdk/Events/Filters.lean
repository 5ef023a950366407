import OgpuSdk.Events.Watchers

/-!
# Filters and the history before them

A watcher reads the head of the chain, unless it is given a block to start
from, then creates its filter, and from there on asks the node for what is new
(`eth_getFilterChanges`). The node answers with the logs that came since the
filter was created or last polled; what was on chain before, from whatever
block, it would only give to a query the loop never makes
(`eth_getFilterLogs`). Blocks may come at any moment in between.
-/

namespace OgpuSdk

/-- A log on the chain, by its event. -/
structure ChainLog where
  eventName : String
  block : Nat
  entry : LogEntry

/-- The log is one the filter is for. -/
def EventFilter.selects (filter : EventFilter) (log : ChainLog) : Bool :=
  log.eventName = filter.eventName && decide (filter.fromBlock ≤ log.block)

/-- The entries of the logs a filter is for. -/
def EventFilter.caught (filter : EventFilter) (logs : List ChainLog) : List LogEntry :=
  (logs.filter filter.selects).map ChainLog.entry

/-- How far a watcher has come. -/
inductive Stage (E : Type) where
  | starting
  /-- the block to start from is known -/
  | located (start : Nat)
  /-- `create_filter` has raised -/
  | failed (exc : Exc)
  /-- the filter was created behind `created` logs, and last polled behind `lastPoll` -/
  | watching (poller : Poller E) (created : Nat) (lastPoll : Option Nat)

/-- A watcher and the chain it watches. -/
structure Watch (E : Type) where
  head : Nat
  logs : List ChainLog
  stage : Stage E

inductive WatchAct where
  /-- a block comes, with these logs -/
  | mine (logs : List (String × LogEntry))
  | locate
  /-- `create_filter` returns or raises -/
  | createFilter (answer : Except Exc Unit)
  | poll
  | resume
  | wake

namespace Watch

variable {E : Type}

/-- What is new since the filter was created or last polled. -/
def news (s : Watch E) (filter : EventFilter) (created : Nat) (lastPoll : Option Nat) :
    List LogEntry :=
  filter.caught (s.logs.drop (lastPoll.getD created))

def step (w : Watcher E) (fromBlock : Option Nat) (s : Watch E) : WatchAct → Option (Watch E)
  | .mine logs => some { s with
      head := s.head + 1
      logs := s.logs ++ logs.map fun log => ⟨log.1, s.head + 1, log.2⟩ }
  | .locate =>
    match s.stage with
    | .starting => some { s with stage := .located (fromBlock.getD s.head) }
    | _ => none
  | .createFilter answer =>
    match s.stage, answer with
    | .located start, .ok () => some { s with
        stage := .watching ⟨⟨w.eventName, start⟩, .polling, []⟩ s.logs.length none }
    | .located _, .error exc => some { s with stage := .failed exc }
    | _, _ => none
  | .poll =>
    match s.stage with
    | .watching poller created lastPoll =>
      (poller.step w (.poll (.ok (s.news poller.filter created lastPoll)))).map fun poller =>
        { s with stage := .watching poller created (some s.logs.length) }
    | _ => none
  | .resume =>
    match s.stage with
    | .watching poller created lastPoll =>
      (poller.step w .resume).map fun poller =>
        { s with stage := .watching poller created lastPoll }
    | _ => none
  | .wake =>
    match s.stage with
    | .watching poller created lastPoll =>
      (poller.step w .wake).map fun poller =>
        { s with stage := .watching poller created lastPoll }
    | _ => none

/-- A watcher that starts on a chain with any history. -/
def machine (w : Watcher E) (fromBlock : Option Nat) : Machine (Watch E) WatchAct where
  init s := s.stage = .starting ∧ ∀ log ∈ s.logs, log.block ≤ s.head
  step := step w fromBlock

end Watch

/-! ## What a watcher has been given -/

section

variable {E : Type} {w : Watcher E} {fromBlock : Option Nat}

theorem EventFilter.caught_append (filter : EventFilter) (logs logs' : List ChainLog) :
    filter.caught (logs ++ logs') = filter.caught logs ++ filter.caught logs' := by
  unfold caught
  rw [List.filter_append, List.map_append]

/-- The filter of a generator stays as it was made. -/
theorem Poller.step_filter {s s' : Poller E} {a : PollAct} (h : Poller.step w s a = some s') :
    s'.filter = s.filter := by
  cases a with
  | poll outcome =>
    simp only [Poller.step] at h
    split at h <;> cases h
    rfl
  | resume =>
    simp only [Poller.step] at h
    split at h <;> cases h
    · rfl
    · unfold Poller.visit
      split
      · split <;> rfl
      · rfl
  | wake =>
    simp only [Poller.step] at h
    split at h <;> cases h
    rfl

namespace Watch

/-- The generator has run over batches of logs, together those that came between the creation of
its filter and its last poll. -/
structure Follows (w : Watcher E) (fromBlock : Option Nat) (logs : List ChainLog)
    (poller : Poller E) (created : Nat) (lastPoll : Option Nat) : Prop where
  behind : created ≤ lastPoll.getD created
  within : lastPoll.getD created ≤ logs.length
  name : poller.filter.eventName = w.eventName
  start : ∀ b, fromBlock = some b → poller.filter.fromBlock = b
  run : ∃ s₀ bs, ∃ batches : List (List LogEntry), (Poller.machine w fromBlock).init s₀ ∧
    (Poller.machine w fromBlock).run s₀ bs = some poller ∧ polls bs = batches.map .ok ∧
    batches.flatten = poller.filter.caught ((logs.take (lastPoll.getD created)).drop created)

/-- A new filter has not been polled. -/
theorem Follows.created {logs : List ChainLog} {start : Nat}
    (hstart : ∀ b, fromBlock = some b → start = b) :
    Follows w fromBlock logs ⟨⟨w.eventName, start⟩, .polling, []⟩ logs.length none := by
  refine ⟨le_refl _, le_refl _, rfl, hstart,
    .start w fromBlock start, [], [], ⟨start, rfl⟩, ?_, rfl, ?_⟩
  · have hstart : fromBlock.getD start = start := by
      cases fromBlock with
      | none => rfl
      | some b => exact (hstart b rfl).symm
    rw [Machine.run, Poller.start, hstart]
  · rw [Option.getD_none, List.drop_eq_nil_of_le (List.length_take_le _ _)]
    rfl

/-- New blocks change nothing about what was polled. -/
theorem Follows.mine {logs : List ChainLog} {poller : Poller E} {created : Nat}
    {lastPoll : Option Nat} (h : Follows w fromBlock logs poller created lastPoll)
    (new : List ChainLog) : Follows w fromBlock (logs ++ new) poller created lastPoll := by
  refine ⟨h.behind, ?_, h.name, h.start, ?_⟩
  · rw [List.length_append]
    exact Nat.le_add_right_of_le h.within
  · rw [List.take_append_of_le_length h.within]
    exact h.run

/-- A step of the generator that is no poll. -/
theorem Follows.act {logs : List ChainLog} {poller poller' : Poller E} {created : Nat}
    {lastPoll : Option Nat} {a : PollAct} (h : Follows w fromBlock logs poller created lastPoll)
    (hstep : Poller.step w poller a = some poller') (ha : polls [a] = []) :
    Follows w fromBlock logs poller' created lastPoll := by
  have hfilter := Poller.step_filter hstep
  obtain ⟨s₀, bs, batches, hinit, hr, hpolls, hbatches⟩ := h.run
  refine ⟨h.behind, h.within, hfilter ▸ h.name, hfilter ▸ h.start,
    s₀, bs ++ [a], batches, hinit, Machine.run_snoc.mpr ⟨poller, hr, hstep⟩, ?_, ?_⟩
  · rw [Poller.polls_append, ha, List.append_nil, hpolls]
  · rw [hfilter, hbatches]

theorem Follows.poll {logs : List ChainLog} {poller poller' : Poller E} {created : Nat}
    {lastPoll : Option Nat} (h : Follows w fromBlock logs poller created lastPoll)
    (hstep : Poller.step w poller (.poll (.ok (poller.filter.caught
      (logs.drop (lastPoll.getD created))))) = some poller') :
    Follows w fromBlock logs poller' created (some logs.length) := by
  have hfilter := Poller.step_filter hstep
  obtain ⟨s₀, bs, batches, hinit, hr, hpolls, hbatches⟩ := h.run
  have hrun : (Poller.machine w fromBlock).run s₀ (bs ++ [.poll (.ok (poller.filter.caught
      (logs.drop (lastPoll.getD created))))]) = some poller' :=
    Machine.run_snoc.mpr ⟨poller, hr, hstep⟩
  refine ⟨h.behind.trans h.within, le_refl _, hfilter ▸ h.name, hfilter ▸ h.start, s₀, _,
    batches ++ [poller.filter.caught (logs.drop (lastPoll.getD created))], hinit, hrun, ?_, ?_⟩
  · rw [Poller.polls_append, hpolls, List.map_append]
    rfl
  · -- What was polled before, and what is new, are together what came since the creation.
    have hsplit : logs.drop created =
        (logs.take (lastPoll.getD created)).drop created ++ logs.drop (lastPoll.getD created) := by
      have hlen : created ≤ (logs.take (lastPoll.getD created)).length := by
        rw [List.length_take_of_le h.within]
        exact h.behind
      rw [← List.drop_append_of_le_length hlen, List.take_append_drop]
    rw [List.flatten_append, List.flatten_singleton, hbatches, hfilter, Option.getD_some,
      List.take_length, hsplit, EventFilter.caught_append]

def Inv (w : Watcher E) (fromBlock : Option Nat) (s : Watch E) : Prop :=
  match s.stage with
  | .starting | .failed _ => True
  | .located start => ∀ b, fromBlock = some b → start = b
  | .watching poller created lastPoll => Follows w fromBlock s.logs poller created lastPoll

theorem Inv.step {s s' : Watch E} {a : WatchAct} (h : step w fromBlock s a = some s')
    (hs : s.Inv w fromBlock) : s'.Inv w fromBlock := by
  unfold Inv at hs
  cases a with
  | mine new =>
    cases h
    unfold Inv
    cases hstage : s.stage with
    | starting => trivial
    | failed exc => trivial
    | located start => rwa [hstage] at hs
    | watching poller created lastPoll =>
      rw [hstage] at hs
      exact hs.mine _
  | locate =>
    simp only [Watch.step] at h
    split at h <;> cases h
    rintro b rfl
    rfl
  | createFilter answer =>
    simp only [Watch.step] at h
    split at h <;> cases h
    · next start hstage =>
      rw [hstage] at hs
      exact .created hs
    · trivial
  | poll =>
    simp only [Watch.step] at h
    split at h
    · next poller created lastPoll hstage =>
      rw [hstage] at hs
      obtain ⟨poller', hstep, rfl⟩ := Option.map_eq_some_iff.mp h
      exact hs.poll hstep
    · cases h
  | resume =>
    simp only [Watch.step] at h
    split at h
    · next poller created lastPoll hstage =>
      rw [hstage] at hs
      obtain ⟨poller', hstep, rfl⟩ := Option.map_eq_some_iff.mp h
      exact hs.act hstep rfl
    · cases h
  | wake =>
    simp only [Watch.step] at h
    split at h
    · next poller created lastPoll hstage =>
      rw [hstage] at hs
      obtain ⟨poller', hstep, rfl⟩ := Option.map_eq_some_iff.mp h
      exact hs.act hstep rfl
    · cases h

theorem run_inv {s₀ s : Watch E} {as : List WatchAct} (hinit : (machine w fromBlock).init s₀)
    (hr : (machine w fromBlock).run s₀ as = some s) : s.Inv w fromBlock := by
  refine Machine.run_inv (P := fun _ => True) (I := fun _ => Inv w fromBlock) ?_
    (fun _ _ _ _ _ _ hstep hs => hs.step hstep) (fun _ _ => trivial) hr
  unfold Inv
  rw [hinit.1]
  trivial

end Watch

/-- The block a watcher starts from, once it is known. -/
def Stage.start : Stage E → Option Nat
  | .starting | .failed _ => none
  | .located start => some start
  | .watching poller _ _ => some poller.filter.fromBlock

namespace Watch

/-- The start block is the one given, or else the head at a moment of the run at which the watcher
has read it. -/
def StartsAt (w : Watcher E) (fromBlock : Option Nat) (s₀ : Watch E) (as : List WatchAct)
    (start : Nat) : Prop :=
  ∃ bs s, bs ++ [.locate] <+: as ∧ (machine w fromBlock).run s₀ bs = some s ∧
    start = fromBlock.getD s.head

theorem step_start {s s' : Watch E} {a : WatchAct} {start : Nat}
    (h : step w fromBlock s a = some s') (hstart : s'.stage.start = some start) :
    s.stage.start = some start ∨ a = .locate ∧ start = fromBlock.getD s.head := by
  have hpolled : ∀ {poller poller' : Poller E} {act : PollAct} {created : Nat}
      {lastPoll lastPoll' : Option Nat}, poller.step w act = some poller' →
      (Stage.watching poller' created lastPoll').start =
        (Stage.watching poller created lastPoll).start := by
    intro poller poller' act created lastPoll lastPoll' hstep
    simp only [Stage.start, Poller.step_filter hstep]
  cases a with
  | mine new =>
    cases h
    exact .inl hstart
  | locate =>
    simp only [Watch.step] at h
    split at h <;> cases h
    exact .inr ⟨rfl, (Option.some.inj hstart).symm⟩
  | createFilter answer =>
    simp only [Watch.step] at h
    split at h <;> cases h
    · next start' hstage =>
      rw [hstage]
      exact .inl hstart
    · cases hstart
  | poll | resume | wake =>
    simp only [Watch.step] at h
    split at h
    · next poller created lastPoll hstage =>
      obtain ⟨poller', hstep, rfl⟩ := Option.map_eq_some_iff.mp h
      rw [hstage, ← hpolled hstep]
      exact .inl hstart
    · cases h

theorem startsAt {s₀ s : Watch E} {as : List WatchAct} (hinit : (machine w fromBlock).init s₀)
    (hr : (machine w fromBlock).run s₀ as = some s) {start : Nat}
    (hstart : s.stage.start = some start) : StartsAt w fromBlock s₀ as start := by
  refine Machine.run_inv (P := fun _ => True) (I := fun as s => ∀ start,
    s.stage.start = some start → StartsAt w fromBlock s₀ as start) ?_ ?_ (fun _ _ => trivial) hr
    start hstart
  · intro start hstart
    rw [hinit.1] at hstart
    cases hstart
  · intro as s a s' _ hr hstep ih start hstart
    rcases step_start hstep hstart with hsame | ⟨rfl, hnew⟩
    · obtain ⟨bs, u, hbs, hu⟩ := ih start hsame
      exact ⟨bs, u, hbs.trans (List.prefix_append _ _), hu⟩
    · exact ⟨as, s, List.prefix_refl _, hr, hnew⟩

end Watch

end

/-! ## What a watcher yields of the chain -/

/-- The entries among the logs that a filter is for and that concern an address. -/
def matching (filter : EventFilter) (field address : String) (logs : List ChainLog) :
    List LogEntry := (filter.caught logs).filter (concerns field address)

theorem matching_append (filter : EventFilter) (field address : String)
    (logs logs' : List ChainLog) : matching filter field address (logs ++ logs') =
      matching filter field address logs ++ matching filter field address logs' := by
  unfold matching
  rw [EventFilter.caught_append, List.filter_append]

theorem wanted_ok (field address : String) (batches : List (List LogEntry)) :
    wanted field address (batches.map .ok) = batches.flatten.filter (concerns field address) := by
  unfold wanted
  rw [List.flatMap_map, List.flatten_eq_flatMap]
  rfl

/-- In every run, at every moment when the watcher is done with its last poll (behind `n` logs), it
has yielded every matching event since its start block that came before that poll, each once and in
order, exactly if none of them was on chain when the filter was created. -/
def HonoursFromBlock {E : Type} (w : Watcher E) (field address : String)
    (ReadFrom : LogEntry → E → Prop) : Prop :=
  ∀ fromBlock s₀ as s poller created n, (Watch.machine w fromBlock).init s₀ →
    (Watch.machine w fromBlock).run s₀ as = some s →
    (∀ log ∈ s.logs, log.eventName = w.eventName → ∃ event, ReadFrom log.entry event) →
    s.stage = .watching poller created (some n) → poller.Idle →
    poller.filter.eventName = w.eventName ∧
      Watch.StartsAt w fromBlock s₀ as poller.filter.fromBlock ∧
      (List.Forall₂ ReadFrom (matching poller.filter field address (s.logs.take n)) poller.yielded ↔
        matching poller.filter field address (s.logs.take created) = [])

section

variable {E : Type} {w : Watcher E} {ReadFrom : LogEntry → E → Prop} {fromBlock : Option Nat}

/-- What is yielded is what came between the creation of the filter and the last poll. -/
theorem Watch.Follows.yielded (h : w.Reads ReadFrom) {logs : List ChainLog} {poller : Poller E}
    {created : Nat} {lastPoll : Option Nat}
    (hlogs : ∀ log ∈ logs, log.eventName = w.eventName → ∃ event, ReadFrom log.entry event)
    (hs : Follows w fromBlock logs poller created lastPoll) (hidle : poller.Idle) :
    List.Forall₂ ReadFrom (matching poller.filter w.filterField w.filterValue
      ((logs.take (lastPoll.getD created)).drop created)) poller.yielded := by
  obtain ⟨s₀, bs, batches, hinit, hr, hpolls, hbatches⟩ := hs.run
  have hwf : ∀ outcome ∈ polls bs, WellFormed ReadFrom outcome := by
    rw [hpolls]
    intro outcome houtcome
    obtain ⟨batch, hbatch, rfl⟩ := List.mem_map.mp houtcome
    intro entry hentry
    have hmem : entry ∈ batches.flatten := List.mem_flatten.mpr ⟨batch, hbatch, hentry⟩
    rw [hbatches] at hmem
    obtain ⟨log, hlog, rfl⟩ := List.mem_map.mp hmem
    obtain ⟨hlog, hselects⟩ := List.mem_filter.mp hlog
    have hname : log.eventName = poller.filter.eventName := by
      unfold EventFilter.selects at hselects
      rw [Bool.and_eq_true, decide_eq_true_eq] at hselects
      exact hselects.1
    exact hlogs log (List.mem_of_mem_take (List.mem_of_mem_drop hlog)) (hname.trans hs.name)
  obtain ⟨-, later, hall, hlater⟩ := (exactStream h fromBlock hinit).exact bs poller hwf hr
  rw [hlater hidle, List.append_nil, hpolls, wanted_ok, hbatches] at hall
  exact hall

theorem Watcher.Reads.honoursFromBlock (h : w.Reads ReadFrom) :
    HonoursFromBlock w w.filterField w.filterValue ReadFrom := by
  intro fromBlock s₀ as s poller created n hinit hr hlogs hstage hidle
  have hs := Watch.run_inv hinit hr
  unfold Watch.Inv at hs
  rw [hstage] at hs
  refine ⟨hs.name, Watch.startsAt hinit hr (by rw [hstage]; rfl), ?_⟩
  have hyielded := hs.yielded h hlogs hidle
  rw [Option.getD_some] at hyielded
  have hbehind : created ≤ n := hs.behind
  have hcreated : (s.logs.take n).take created = s.logs.take created := by
    rw [List.take_take, Nat.min_eq_left hbehind]
  rw [← List.take_append_drop created (s.logs.take n), matching_append, hcreated]
  constructor
  · intro hall
    -- The events from before the creation would have to be yielded on top.
    have hlen := hall.length_eq
    rw [List.length_append, hyielded.length_eq] at hlen
    exact List.length_eq_zero_iff.mp (by omega)
  · intro hnone
    rwa [hnone, List.nil_append]

end

/-- Each of the six watchers honours its start block exactly if the chain had no matching event
from that block on when its filter was created. -/
theorem fromBlock_honoured (address : String) :
    HonoursFromBlock (watchTaskPublished address) "source" address TaskPublishedEvent.ReadFrom ∧
      HonoursFromBlock (watchAttempted address) "task" address AttemptedEvent.ReadFrom ∧
      HonoursFromBlock (watchResponseSubmitted address) "task" address
        ResponseSubmittedEvent.ReadFrom ∧
      HonoursFromBlock (watchResponseStatusChanged address) "response" address
        ResponseStatusChangedEvent.ReadFrom ∧
      HonoursFromBlock (watchTaskStatusChanged address) "task" address
        TaskStatusChangedEvent.ReadFrom ∧
      HonoursFromBlock (watchRegistered address) "source" address RegisteredEvent.ReadFrom :=
  ⟨(watchTaskPublished_reads address).honoursFromBlock,
    (watchAttempted_reads address).honoursFromBlock,
    (watchResponseSubmitted_reads address).honoursFromBlock,
    (watchResponseStatusChanged_reads address).honoursFromBlock,
    (watchTaskStatusChanged_reads address).honoursFromBlock,
    (watchRegistered_reads address).honoursFromBlock⟩

/-- A chain of eight blocks, the sixth of them with a task published. -/
def publishedChain : Watch TaskPublishedEvent where
  head := 7
  logs := [⟨"TaskPublished", 5, published 5 "0xAA" "0xbC"⟩]
  stage := .starting

/-- From block 6 on, the event of block 8 is yielded and the one of block 5 is none to yield. -/
theorem fromBlock_honoured_later :
    ∃ as s poller, (Watch.machine (watchTaskPublished "0xBc") (some 6)).run publishedChain as =
        some s ∧ s.stage = .watching poller 1 (some 2) ∧
      List.Forall₂ TaskPublishedEvent.ReadFrom
        (matching poller.filter "source" "0xBc" (s.logs.take 2)) poller.yielded := by
  have hrun : ∃ s poller, (Watch.machine (watchTaskPublished "0xBc") (some 6)).run publishedChain
      [.locate, .createFilter (.ok ()), .mine [("TaskPublished", published 8 "0xAB" "0xbC")], .poll,
        .resume, .resume] = some s ∧ s.stage = .watching poller 1 (some 2) ∧ poller.Idle ∧
      s.logs = [⟨"TaskPublished", 5, published 5 "0xAA" "0xbC"⟩,
        ⟨"TaskPublished", 8, published 8 "0xAB" "0xbC"⟩] ∧
      matching poller.filter "source" "0xBc" (s.logs.take 1) = [] :=
    ⟨_, _, rfl, rfl, .inr rfl, rfl, rfl⟩
  obtain ⟨s, poller, hrun, hstage, hidle, hlogs, hnone⟩ := hrun
  refine ⟨_, s, poller, hrun, hstage, ((fromBlock_honoured "0xBc").1 (some 6) publishedChain _ s
    poller 1 2 ⟨rfl, ?_⟩ hrun ?_ hstage hidle).2.2.mpr hnone⟩
  · simp [publishedChain]
  · rw [hlogs]
    intro log hlog _
    simp only [List.mem_cons, List.not_mem_nil, or_false] at hlog
    rcases hlog with rfl | rfl <;> exact ⟨_, published_readFrom ..⟩

/-- From block 3 on, the event of block 5 is never yielded. -/
theorem not_fromBlock_honoured :
    ∃ as s poller, (Watch.machine (watchTaskPublished "0xBc") (some 3)).run publishedChain as =
        some s ∧ s.stage = .watching poller 1 (some 1) ∧ poller.Idle ∧
      ¬ List.Forall₂ TaskPublishedEvent.ReadFrom
        (matching poller.filter "source" "0xBc" (s.logs.take 1)) poller.yielded := by
  refine ⟨[.locate, .createFilter (.ok ()), .poll, .resume], _, _, rfl, rfl, .inr rfl, ?_⟩
  intro h
  exact absurd h.length_eq (by decide +kernel)

end OgpuSdk
