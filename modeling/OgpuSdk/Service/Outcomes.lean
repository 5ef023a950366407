import OgpuSdk.Service.Endpoint

/-!
# What becomes of a request

The timed wrapper and the runner each record a part of what happens, and
neither knows what the other has recorded. `ReportedOnce` says when the parts
add up to one outcome.
-/

namespace OgpuSdk.Service

/-! ## Outcomes, and when there is one -/

/-- What the function has returned or raised, if it has. -/
def Request.answer (r : Request) : Option (Except Exc Output) :=
  match r.worker with
  | .running => none
  | .failed exc => some (.error exc)
  | .finishing answer | .gone answer => some answer
  | .absent =>
    match r.runner with
    | .returned (.ok (some output)) | .ended (.ok (some output)) _ => some (.ok output)
    | .returned (.error exc) | .ended (.error exc) _ => some (.error exc)
    | _ => none

/-- A callback carries the result of a function that has returned in time; a timeout is recorded
after the timer has fired. -/
def Outcome.Fits (callbackUrl : Option String) (r : Request) : Outcome → Prop
  | .callback url result => r.fired = false ∧
      (∃ output, r.answer = some (.ok output) ∧ output.modelDump = .ok result) ∧
      ∃ base, callbackUrl = some base ∧ url = s!"{base}/{r.taskAddress}"
  | .failure _ exc => exc.isException = true
  | .timeout _ => r.fired = true

/-- A result is recorded: it is true and there is somewhere to post it to, or an `Exception` comes
up on the way. -/
def Output.Reports (callbackUrl : Option String) (post : Except Exc ℤ) (output : Output) : Prop :=
  match output.truthy, output.modelDump with
  | .error exc, _ => exc.isException = true
  | .ok false, _ => False
  | .ok true, .error exc => exc.isException = true
  | .ok true, .ok _ =>
    callbackUrl.any (· ≠ "") = true ∧ ∀ exc, post = .error exc → exc.isException = true

/-- After the timer has fired the function raises no `Exception`; otherwise it raises one, or its
result is recorded. -/
def ReportedOnce (callbackUrl : Option String) (post : Except Exc ℤ) :
    Bool → Option (Except Exc Output) → Prop
  | true, some (.error exc) => exc.isException = false
  | true, _ => True
  | false, none => False
  | false, some (.error exc) => exc.isException = true
  | false, some (.ok output) => output.Reports callbackUrl post

/-- The worker is not about to record anything. -/
def Worker.quiet : Worker → Prop
  | .failed _ => False
  | _ => True

/-- How many more steps the runner may take, the start of the worker included. -/
def Runner.remaining : Runner → ℕ
  | .accepted => 7
  | .waiting => 3
  | .running | .timedOut => 2
  | .returned _ => 1
  | .ended _ _ => 0

def Worker.remaining : Worker → ℕ
  | .running => 3
  | .failed _ => 2
  | .finishing _ => 1
  | .absent | .gone _ => 0

def Request.remaining (r : Request) : ℕ := r.runner.remaining + r.worker.remaining

/-- The step is the function's, which may never come. -/
def RequestAct.isFinish : RequestAct → Bool
  | .finish _ => true
  | _ => false

/-- What holds of a request at any moment. -/
structure Request.Settles (callbackUrl : Option String) (r : Request) : Prop where
  fits : ∀ outcome ∈ r.outcomes, outcome.Fits callbackUrl r
  once : ∀ handled post, r.runner = .ended handled post → r.worker.quiet →
    (r.outcomes.length = 1 ↔ ReportedOnce callbackUrl post r.fired r.answer)
  /-- only a function that runs in the thread of the runner can keep it from its end -/
  progress : (∃ handled post, r.runner = .ended handled post) ∨
    (r.handler.timeout = none ∧ r.runner = .running) ∨
    ∃ a r', a.isFinish = false ∧ r.step callbackUrl a = some r'

/-! ## What the parts record -/

section

variable {callbackUrl : Option String} {taskAddress functionName : String}

theorem sendCallback_cases (callbackUrl : Option String) (taskAddress : String) (result : Json)
    (post : Except Exc ℤ) :
    (callbackUrl.any (· ≠ "") = false ∧ sendCallback callbackUrl taskAddress result post = .ok []) ∨
      (∃ base, callbackUrl = some base ∧ callbackUrl.any (· ≠ "") = true ∧
        sendCallback callbackUrl taskAddress result post =
          post.map fun _ => [.callback s!"{base}/{taskAddress}" result]) := by
  cases callbackUrl with
  | none => exact .inl ⟨rfl, rfl⟩
  | some base =>
    by_cases hbase : base = ""
    · subst hbase
      exact .inl ⟨rfl, rfl⟩
    · refine .inr ⟨base, rfl, by simp [hbase], ?_⟩
      unfold sendCallback
      rw [Option.filter_some, if_pos (by simpa using hbase)]
      cases post <;> rfl

/-- The outcome is one the runner records of a function's result. -/
def Output.Recorded (callbackUrl : Option String) (taskAddress : String) (output : Output) :
    Outcome → Prop
  | .callback url result => output.modelDump = .ok result ∧
      ∃ base, callbackUrl = some base ∧ url = s!"{base}/{taskAddress}"
  | .failure _ exc => exc.isException = true
  | .timeout _ => False

/-- Nothing is recorded for a handler that returns `None`. -/
theorem runner_none (post : Except Exc ℤ) :
    runner callbackUrl taskAddress functionName (.ok none) post = [] := rfl

theorem runner_error (exc : Exc) (post : Except Exc ℤ) :
    runner callbackUrl taskAddress functionName (.error exc) post =
      if exc.isException then [.failure s!"[{taskAddress}] Error in `{functionName}`" exc]
      else [] :=
  rfl

/-- The runner that is stopped by an exception records it if it is an `Exception`. -/
theorem runner_raised {output : Output} {post : Except Exc ℤ} {exc : Exc}
    (h : runnerBody callbackUrl taskAddress (.ok (some output)) post = .error exc)
    (hreports : output.Reports callbackUrl post ↔ exc.isException = true) :
    (output.Reports callbackUrl post ∧ ∃ outcome,
        runner callbackUrl taskAddress functionName (.ok (some output)) post = [outcome] ∧
          output.Recorded callbackUrl taskAddress outcome) ∨
      (¬ output.Reports callbackUrl post ∧
        runner callbackUrl taskAddress functionName (.ok (some output)) post = []) := by
  unfold runner
  rw [h, hreports]
  dsimp only
  by_cases hexc : exc.isException = true
  · exact .inl ⟨hexc, _, if_pos hexc, hexc⟩
  · exact .inr ⟨hexc, if_neg hexc⟩

/-- Of a function's result the runner records one outcome, or nothing. -/
theorem runner_output (output : Output) (post : Except Exc ℤ) :
    (output.Reports callbackUrl post ∧ ∃ outcome,
        runner callbackUrl taskAddress functionName (.ok (some output)) post = [outcome] ∧
          output.Recorded callbackUrl taskAddress outcome) ∨
      (¬ output.Reports callbackUrl post ∧
        runner callbackUrl taskAddress functionName (.ok (some output)) post = []) := by
  obtain ⟨truthy, modelDump⟩ := output
  rcases truthy with exc | _ | _
  · exact runner_raised rfl Iff.rfl
  · exact .inr ⟨id, rfl⟩
  rcases modelDump with exc | result
  · exact runner_raised rfl Iff.rfl
  have hbody : runnerBody callbackUrl taskAddress (.ok (some ⟨.ok true, .ok result⟩)) post =
      sendCallback callbackUrl taskAddress result post := rfl
  rcases sendCallback_cases callbackUrl taskAddress result post with
    ⟨hnone, he⟩ | ⟨base, hbase, hsome, he⟩
  · right
    constructor
    · rintro ⟨hsome, -⟩
      rw [hnone] at hsome
      cases hsome
    · unfold runner
      rw [hbody, he]
  · rw [he] at hbody
    cases post with
    | error exc =>
      apply runner_raised hbody
      constructor
      · rintro ⟨-, hpost⟩
        exact hpost exc rfl
      · intro hexc
        refine ⟨hsome, ?_⟩
        rintro _ ⟨⟩
        exact hexc
    | ok status =>
      left
      refine ⟨⟨hsome, nofun⟩, .callback s!"{base}/{taskAddress}" result, ?_, rfl, base, hbase, rfl⟩
      unfold runner
      rw [hbody]
      rfl

end

/-! ## What every step keeps -/

namespace Worker

/-- What the worker has left in `result[0]`. -/
def stored : Worker → Option Output
  | .finishing answer | .gone answer => answer.toOption
  | _ => none

def present : Worker → Bool
  | .absent => false
  | _ => true

def isGone : Worker → Bool
  | .gone _ => true
  | _ => false

/-- What the worker has recorded. -/
def records (functionName : String) : Worker → List Outcome
  | .finishing (.error exc) | .gone (.error exc) =>
    if exc.isException then [.failure s!"Exception in `{functionName}`" exc] else []
  | _ => []

end Worker

/-- How the handler comes to an end: the timer has fired, the worker has been in time, or the
function ran alone. -/
inductive Handled (timeout : Option ℤ) (fired : Bool) (worker : Worker) :
    Except Exc (Option Output) → Prop
  | late : fired = true → timeout.isSome = true → worker.present = true →
      Handled timeout fired worker (.ok none)
  | inTime (answer : Except Exc Output) : fired = false → timeout.isSome = true →
      worker = .gone answer → Handled timeout fired worker (.ok answer.toOption)
  | alone (answer : Except Exc Output) : fired = false → timeout = none → worker = .absent →
      Handled timeout fired worker (answer.map some)

/-- What the wrapper has recorded. -/
def Handler.timeouts (handler : Handler) : Bool → Runner → List Outcome
  | false, _ | true, .timedOut => []
  | true, _ => [.timeout s!"`{handler.name}` timed out after {handler.timeout.getD 0} seconds"]

/-- What the runner has recorded. -/
def Handler.reported (handler : Handler) (callbackUrl : Option String) (taskAddress : String) :
    Runner → List Outcome
  | .ended handled post => runner callbackUrl taskAddress handler.name handled post
  | _ => []

namespace Request

/-- The worker that belongs to where the runner is. -/
def Placed (timeout : Option ℤ) (fired : Bool) (worker : Worker) : Runner → Prop
  | .accepted => fired = false ∧ worker = .absent
  | .running => fired = false ∧ timeout = none ∧ worker = .absent
  | .waiting => fired = false ∧ timeout.isSome = true ∧ worker.present = true
  | .timedOut => fired = true ∧ timeout.isSome = true ∧ worker.present = true
  | .returned handled | .ended handled _ => Handled timeout fired worker handled

structure Inv (callbackUrl : Option String) (r : Request) : Prop where
  result : r.result = r.worker.stored
  done : r.done = r.worker.isGone
  failing : ∀ exc, r.worker = .failed exc → exc.isException = true
  placed : Placed r.handler.timeout r.fired r.worker r.runner
  records : r.outcomes.Perm (r.worker.records r.handler.name ++
    (r.handler.timeouts r.fired r.runner ++
      r.handler.reported callbackUrl r.taskAddress r.runner))

variable {callbackUrl : Option String} {r r' : Request}

theorem Inv.accepted (taskAddress : String) (handler : Handler) :
    Inv callbackUrl (accepted taskAddress handler) where
  result := rfl
  done := rfl
  failing := nofun
  placed := ⟨rfl, rfl⟩
  records := .nil

/-- Until it is gone, the runner does not see how far the worker has come. -/
theorem Placed.move {timeout : Option ℤ} {fired : Bool} {worker worker' : Worker} {runner : Runner}
    (h : Placed timeout fired worker runner) (hpresent : worker.present = true)
    (hgone : worker.isGone = false) (hpresent' : worker'.present = true) :
    Placed timeout fired worker' runner := by
  have hhandled : ∀ {handled}, Handled timeout fired worker handled →
      Handled timeout fired worker' handled := by
    intro handled h
    cases h with
    | late hfired htimeout _ => exact .late hfired htimeout hpresent'
    | inTime answer _ _ hworker =>
      subst hworker
      cases hgone
    | alone _ _ _ hworker =>
      subst hworker
      cases hpresent
  cases runner with
  | accepted =>
    obtain ⟨-, rfl⟩ := h
    cases hpresent
  | running =>
    obtain ⟨-, -, rfl⟩ := h
    cases hpresent
  | waiting => exact ⟨h.1, h.2.1, hpresent'⟩
  | timedOut => exact ⟨h.1, h.2.1, hpresent'⟩
  | returned handled => exact hhandled h
  | ended handled post => exact hhandled h

theorem Inv.start (h : r.step callbackUrl .start = some r')
    (hr : r.Inv callbackUrl) : r'.Inv callbackUrl := by
  obtain ⟨taskAddress, handler, runner, worker, result, done, fired, outcomes⟩ := r
  obtain ⟨hresult, hdone, hfailing, hplaced, hrecords⟩ := hr
  cases runner <;> cases h
  obtain ⟨hfired, hworker⟩ := hplaced
  dsimp only at hfired hworker
  subst hfired hworker
  split
  · next htimeout =>
    exact ⟨hresult, hdone, by rintro _ ⟨⟩, ⟨rfl, htimeout, rfl⟩, hrecords⟩
  · next htimeout =>
    exact ⟨hresult, hdone, by rintro _ ⟨⟩, ⟨rfl, by simpa using htimeout, rfl⟩, hrecords⟩

theorem Inv.finish {answer : Except Exc Output} (h : r.step callbackUrl (.finish answer) = some r')
    (hr : r.Inv callbackUrl) : r'.Inv callbackUrl := by
  obtain ⟨taskAddress, handler, runner, worker, result, done, fired, outcomes⟩ := r
  obtain ⟨hresult, hdone, hfailing, hplaced, hrecords⟩ := hr
  cases worker with
  | running =>
    cases h
    cases answer with
    | ok output =>
      exact ⟨rfl, hdone, by rintro _ ⟨⟩, hplaced.move rfl rfl rfl, hrecords⟩
    | error exc =>
      dsimp only
      split
      · next hexc =>
        refine ⟨hresult, hdone, ?_, hplaced.move rfl rfl rfl, hrecords⟩
        rintro _ ⟨⟩
        exact hexc
      · next hexc =>
        refine ⟨hresult, hdone, by rintro _ ⟨⟩, hplaced.move rfl rfl rfl, ?_⟩
        simpa [Worker.records, hexc] using hrecords
  | absent =>
    cases runner <;> cases h
    obtain ⟨hfired, htimeout, -⟩ := hplaced
    dsimp only at hfired
    subst hfired
    exact ⟨hresult, hdone, by rintro _ ⟨⟩, .alone answer rfl htimeout rfl, hrecords⟩
  | failed exc => cases h
  | finishing answer' => cases h
  | gone answer' => cases h

theorem Inv.logFailure (h : r.step callbackUrl .logFailure = some r')
    (hr : r.Inv callbackUrl) : r'.Inv callbackUrl := by
  obtain ⟨taskAddress, handler, runner, worker, result, done, fired, outcomes⟩ := r
  obtain ⟨hresult, hdone, hfailing, hplaced, hrecords⟩ := hr
  cases worker <;> cases h
  next exc =>
  refine ⟨hresult, hdone, by rintro _ ⟨⟩, hplaced.move rfl rfl rfl, ?_⟩
  have hexc : exc.isException = true := hfailing exc rfl
  simp only [Worker.records, hexc, if_true]
  exact (hrecords.append_right _).trans List.perm_append_comm

theorem Inv.setDone (h : r.step callbackUrl .setDone = some r')
    (hr : r.Inv callbackUrl) : r'.Inv callbackUrl := by
  obtain ⟨taskAddress, handler, runner, worker, result, done, fired, outcomes⟩ := r
  obtain ⟨hresult, hdone, hfailing, hplaced, hrecords⟩ := hr
  cases worker <;> cases h
  next answer =>
  cases answer <;> exact ⟨hresult, rfl, by rintro _ ⟨⟩, hplaced.move rfl rfl rfl, hrecords⟩

theorem Inv.fire (h : r.step callbackUrl .fire = some r')
    (hr : r.Inv callbackUrl) : r'.Inv callbackUrl := by
  obtain ⟨taskAddress, handler, runner, worker, result, done, fired, outcomes⟩ := r
  obtain ⟨hresult, hdone, hfailing, hplaced, hrecords⟩ := hr
  cases runner <;> cases done <;> cases h
  obtain ⟨hfired, htimeout, hworker⟩ := hplaced
  dsimp only at hfired
  subst hfired
  exact ⟨hresult, hdone, hfailing, ⟨rfl, htimeout, hworker⟩, hrecords⟩

theorem Inv.wake (h : r.step callbackUrl .wake = some r')
    (hr : r.Inv callbackUrl) : r'.Inv callbackUrl := by
  obtain ⟨taskAddress, handler, runner, worker, result, done, fired, outcomes⟩ := r
  obtain ⟨hresult, hdone, hfailing, hplaced, hrecords⟩ := hr
  cases runner <;> cases done <;> cases h
  obtain ⟨hfired, htimeout, -⟩ := hplaced
  dsimp only at hfired
  subst hfired
  cases worker <;> cases hdone
  next answer =>
  dsimp only at hresult
  subst hresult
  exact ⟨rfl, rfl, by rintro _ ⟨⟩, .inTime answer rfl htimeout rfl, hrecords⟩

theorem Inv.logTimeout (h : r.step callbackUrl .logTimeout = some r')
    (hr : r.Inv callbackUrl) : r'.Inv callbackUrl := by
  obtain ⟨taskAddress, handler, runner, worker, result, done, fired, outcomes⟩ := r
  obtain ⟨hresult, hdone, hfailing, hplaced, hrecords⟩ := hr
  cases runner <;> cases h
  obtain ⟨hfired, htimeout, hworker⟩ := hplaced
  dsimp only at hfired
  subst hfired
  refine ⟨hresult, hdone, hfailing, .late rfl htimeout hworker, ?_⟩
  simpa [Handler.timeouts, Handler.reported] using hrecords.append_right _

theorem Inv.report {post : Except Exc ℤ} (h : r.step callbackUrl (.report post) = some r')
    (hr : r.Inv callbackUrl) : r'.Inv callbackUrl := by
  obtain ⟨taskAddress, handler, runner, worker, result, done, fired, outcomes⟩ := r
  obtain ⟨hresult, hdone, hfailing, hplaced, hrecords⟩ := hr
  cases runner <;> cases h
  refine ⟨hresult, hdone, hfailing, hplaced, ?_⟩
  cases fired <;> simpa [Handler.timeouts, Handler.reported] using hrecords.append_right _

theorem Inv.step {a : RequestAct} (h : r.step callbackUrl a = some r') (hr : r.Inv callbackUrl) :
    r'.Inv callbackUrl := by
  cases a with
  | start => exact hr.start h
  | finish answer => exact hr.finish h
  | logFailure => exact hr.logFailure h
  | setDone => exact hr.setDone h
  | fire => exact hr.fire h
  | wake => exact hr.wake h
  | logTimeout => exact hr.logTimeout h
  | report post => exact hr.report h

/-! ## What follows at the end of a request -/

theorem Inv.handled (hr : r.Inv callbackUrl) {handled : Except Exc (Option Output)}
    {post : Except Exc ℤ} (hended : r.runner = .ended handled post) :
    Handled r.handler.timeout r.fired r.worker handled := by
  have hplaced := hr.placed
  rwa [hended] at hplaced

/-- The number of outcomes at the end. -/
theorem Inv.length_outcomes (hr : r.Inv callbackUrl) {handled : Except Exc (Option Output)}
    {post : Except Exc ℤ} (hended : r.runner = .ended handled post) :
    r.outcomes.length = (r.worker.records r.handler.name).length + (if r.fired then 1 else 0) +
      (Service.runner callbackUrl r.taskAddress r.handler.name handled post).length := by
  rw [hr.records.length_eq, hended, List.length_append, List.length_append, Nat.add_assoc]
  cases r.fired <;> rfl

/-- What the runner records of what the function did, where nothing else does. -/
theorem length_runner_alone (answer : Except Exc Output) (post : Except Exc ℤ) (taskAddress
    functionName : String) :
    (Service.runner callbackUrl taskAddress functionName (answer.map some) post).length = 1 ↔
      match answer with
      | .error exc => exc.isException = true
      | .ok output => output.Reports callbackUrl post := by
  cases answer with
  | error exc =>
    show (Service.runner callbackUrl taskAddress functionName (.error exc) post).length = 1 ↔ _
    rw [runner_error]
    by_cases hexc : exc.isException = true <;> simp [hexc]
  | ok output =>
    show (Service.runner callbackUrl taskAddress functionName (.ok (some output)) post).length = 1 ↔
      output.Reports callbackUrl post
    rcases runner_output output post with ⟨hreports, outcome, he, -⟩ | ⟨hreports, he⟩
    · rw [he]
      exact iff_of_true rfl hreports
    · rw [he]
      exact iff_of_false (by simp) hreports

/-- How much the worker has recorded of what the function did. -/
theorem length_records (functionName : String) (answer : Except Exc Output) :
    ((Worker.gone answer).records functionName).length =
      match answer with
      | .error exc => if exc.isException then 1 else 0
      | .ok _ => 0 := by
  cases answer with
  | error exc =>
    unfold Worker.records
    dsimp only
    split <;> rfl
  | ok output => rfl

theorem records_finishing (functionName : String) (answer : Except Exc Output) :
    (Worker.finishing answer).records functionName =
      (Worker.gone answer).records functionName := by
  cases answer <;> rfl

/-- Behind a timeout the worker's record is one too many. -/
theorem late_iff (functionName : String) (answer : Except Exc Output) :
    ((Worker.gone answer).records functionName).length + 1 = 1 ↔
      match answer with
      | .error exc => exc.isException = false
      | .ok _ => True := by
  rw [length_records]
  cases answer with
  | error exc => cases hexc : exc.isException <;> simp [hexc]
  | ok output => simp

theorem answer_of_gone {answer : Except Exc Output} (h : r.worker = .gone answer) :
    r.answer = some answer := by
  unfold Request.answer
  rw [h]

theorem answer_of_finishing {answer : Except Exc Output} (h : r.worker = .finishing answer) :
    r.answer = some answer := by
  unfold Request.answer
  rw [h]

theorem answer_of_running (h : r.worker = .running) : r.answer = none := by
  unfold Request.answer
  rw [h]

theorem answer_of_alone {answer : Except Exc Output} {post : Except Exc ℤ}
    (h : r.worker = .absent) (hended : r.runner = .ended (answer.map some) post) :
    r.answer = some answer := by
  unfold Request.answer
  rw [h, hended]
  cases answer <;> rfl

/-- At its end a request has one outcome exactly if it is `ReportedOnce`. -/
theorem Inv.once (hr : r.Inv callbackUrl) {handled : Except Exc (Option Output)}
    {post : Except Exc ℤ} (hended : r.runner = .ended handled post) (hquiet : r.worker.quiet) :
    r.outcomes.length = 1 ↔ ReportedOnce callbackUrl post r.fired r.answer := by
  rw [hr.length_outcomes hended]
  cases hr.handled hended with
  | late hfired _ hpresent =>
    rw [hfired, runner_none]
    cases hworker : r.worker with
    | absent =>
      rw [hworker] at hpresent
      cases hpresent
    | running =>
      rw [answer_of_running hworker]
      exact iff_of_true rfl trivial
    | failed exc =>
      rw [hworker] at hquiet
      cases hquiet
    | finishing answer =>
      rw [answer_of_finishing hworker, records_finishing]
      refine (late_iff r.handler.name answer).trans ?_
      cases answer <;> rfl
    | gone answer =>
      rw [answer_of_gone hworker]
      refine (late_iff r.handler.name answer).trans ?_
      cases answer <;> rfl
  | inTime answer hfired _ hworker =>
    rw [hfired, answer_of_gone hworker, hworker, length_records]
    cases answer with
    | error exc =>
      show _ + 0 + 0 = 1 ↔ exc.isException = true
      cases hexc : exc.isException <;> simp [hexc]
    | ok output =>
      rw [if_neg Bool.false_ne_true, Nat.zero_add]
      exact length_runner_alone (.ok output) post r.taskAddress r.handler.name
  | alone answer hfired _ hworker =>
    rw [hfired, answer_of_alone hworker hended, hworker, if_neg Bool.false_ne_true]
    show 0 + 0 + _ = 1 ↔ _
    rw [Nat.zero_add]
    refine (length_runner_alone answer post r.taskAddress r.handler.name).trans ?_
    cases answer <;> rfl

/-- What the worker records is an `Exception`. -/
theorem fits_of_records {functionName : String} {worker : Worker} {outcome : Outcome}
    (h : outcome ∈ worker.records functionName) : outcome.Fits callbackUrl r := by
  have hsome : ∀ exc : Exc, outcome ∈ (if exc.isException then
      [Outcome.failure s!"Exception in `{functionName}`" exc] else []) →
      outcome.Fits callbackUrl r := by
    intro exc hmem
    split at hmem
    · next hexc =>
      rw [List.mem_singleton] at hmem
      subst hmem
      exact hexc
    · cases hmem
  cases worker with
  | absent => cases h
  | running => cases h
  | failed exc => cases h
  | finishing answer =>
    cases answer with
    | ok output => cases h
    | error exc => exact hsome exc h
  | gone answer =>
    cases answer with
    | ok output => cases h
    | error exc => exact hsome exc h

theorem fits_of_timeouts {outcome : Outcome} (h : outcome ∈ r.handler.timeouts r.fired r.runner) :
    outcome.Fits callbackUrl r := by
  unfold Handler.timeouts at h
  split at h
  · cases h
  · cases h
  · next hfired _ =>
    rw [List.mem_singleton] at h
    subst h
    exact hfired

/-- What the runner records of a result fits if the result has come in time. -/
theorem fits_of_output {output : Output} {post : Except Exc ℤ} {outcome : Outcome}
    (h : outcome ∈ Service.runner callbackUrl r.taskAddress r.handler.name (.ok (some output)) post)
    (hfired : r.fired = false) (hanswer : r.answer = some (.ok output)) :
    outcome.Fits callbackUrl r := by
  rcases runner_output output post with ⟨-, outcome', he, hrecorded⟩ | ⟨-, he⟩
  · rw [he, List.mem_singleton] at h
    subst h
    cases outcome with
    | callback url result => exact ⟨hfired, ⟨output, hanswer, hrecorded.1⟩, hrecorded.2⟩
    | failure message exc => exact hrecorded
    | timeout message => exact hrecorded.elim
  · rw [he] at h
    cases h

theorem Inv.fits_of_reported (hr : r.Inv callbackUrl) {outcome : Outcome}
    (h : outcome ∈ r.handler.reported callbackUrl r.taskAddress r.runner) :
    outcome.Fits callbackUrl r := by
  unfold Handler.reported at h
  split at h
  · next handled post hended =>
    cases hr.handled hended with
    | late _ _ _ => cases h
    | inTime answer hfired _ hworker =>
      cases answer with
      | error exc => cases h
      | ok output => exact fits_of_output h hfired (answer_of_gone hworker)
    | alone answer hfired _ hworker =>
      cases answer with
      | error exc =>
        have hmem : outcome ∈ Service.runner callbackUrl r.taskAddress r.handler.name (.error exc)
            post := h
        rw [runner_error] at hmem
        split at hmem
        · next hexc =>
          rw [List.mem_singleton] at hmem
          subst hmem
          exact hexc
        · cases hmem
      | ok output => exact fits_of_output h hfired (answer_of_alone hworker hended)
  · cases h

theorem Inv.fits (hr : r.Inv callbackUrl) :
    ∀ outcome ∈ r.outcomes, outcome.Fits callbackUrl r := by
  intro outcome h
  rw [hr.records.mem_iff, List.mem_append, List.mem_append] at h
  rcases h with h | h | h
  · exact fits_of_records h
  · exact fits_of_timeouts h
  · exact hr.fits_of_reported h

/-- Wherever the runner is, it goes on, unless it runs the function itself. -/
theorem Inv.progress (hr : r.Inv callbackUrl) :
    (∃ handled post, r.runner = .ended handled post) ∨
      (r.handler.timeout = none ∧ r.runner = .running) ∨
      ∃ a r', a.isFinish = false ∧ r.step callbackUrl a = some r' := by
  obtain ⟨taskAddress, handler, runner, worker, result, done, fired, outcomes⟩ := r
  cases runner with
  | accepted => exact .inr (.inr ⟨.start, _, rfl, rfl⟩)
  | running => exact .inr (.inl ⟨hr.placed.2.1, rfl⟩)
  | waiting =>
    cases done with
    | false => exact .inr (.inr ⟨.fire, _, rfl, rfl⟩)
    | true => exact .inr (.inr ⟨.wake, _, rfl, rfl⟩)
  | timedOut => exact .inr (.inr ⟨.logTimeout, _, rfl, rfl⟩)
  | returned handled => exact .inr (.inr ⟨.report (.ok 200), _, rfl, rfl⟩)
  | ended handled post => exact .inl ⟨handled, post, rfl⟩

theorem Inv.settles (hr : r.Inv callbackUrl) : r.Settles callbackUrl :=
  ⟨hr.fits, fun _ _ => hr.once, hr.progress⟩

/-- Every step of a request brings it nearer to its end. -/
theorem step_remaining {a : RequestAct} (hr : r.Inv callbackUrl)
    (h : r.step callbackUrl a = some r') : r'.remaining < r.remaining := by
  obtain ⟨taskAddress, handler, runner, worker, result, done, fired, outcomes⟩ := r
  unfold remaining
  cases a with
  | start =>
    cases runner <;> cases h
    obtain ⟨-, hworker⟩ := hr.placed
    dsimp only at hworker
    subst hworker
    split <;> simp only [Runner.remaining, Worker.remaining] <;> omega
  | finish answer =>
    cases worker with
    | running =>
      cases h
      cases answer with
      | ok output => simp only [Worker.remaining]; omega
      | error exc =>
        dsimp only
        split <;> simp only [Worker.remaining] <;> omega
    | absent =>
      cases runner <;> cases h
      simp only [Runner.remaining]
      omega
    | failed exc => cases h
    | finishing answer' => cases h
    | gone answer' => cases h
  | logFailure =>
    cases worker <;> cases h
    simp only [Worker.remaining]
    omega
  | setDone =>
    cases worker <;> cases h
    simp only [Worker.remaining]
    omega
  | fire =>
    cases runner <;> cases done <;> cases h
    simp only [Runner.remaining]
    omega
  | wake =>
    cases runner <;> cases done <;> cases h
    simp only [Runner.remaining]
    omega
  | logTimeout =>
    cases runner <;> cases h
    simp only [Runner.remaining]
    omega
  | report post =>
    cases runner <;> cases h
    simp only [Runner.remaining]
    omega

end Request

/-! ## Runs of a service -/

/-- The step is one of the request `id`. -/
def ServiceAct.isOn (id : ℕ) : ServiceAct → Bool
  | .accept _ _ _ => false
  | .act id' _ => id' == id

/-- Every request is as it should be, and has taken no more steps than it may. -/
structure Requests.Inv (callbackUrl : Option String) (as : List ServiceAct) (s : Requests) :
    Prop where
  each : ∀ id r, s id = some r →
    r.Inv callbackUrl ∧ as.countP (ServiceAct.isOn id) + r.remaining ≤ 7
  free : ∀ id, s id = none → as.countP (ServiceAct.isOn id) = 0

section

variable {callbackUrl : Option String} {as : List ServiceAct} {s : Requests}

theorem Requests.Inv.start : Inv callbackUrl [] (fun _ => none) := by
  refine ⟨?_, fun _ _ => rfl⟩
  intro id r h
  cases h

/-- A step that sets one request and is no step of another keeps what holds of the others. -/
theorem Requests.Inv.set {id : ℕ} {r : Request} {a : ServiceAct} (h : Inv callbackUrl as s)
    (hothers : ∀ id', id' ≠ id → a.isOn id' = false) (hr : r.Inv callbackUrl)
    (hcount : (as ++ [a]).countP (ServiceAct.isOn id) + r.remaining ≤ 7) :
    Inv callbackUrl (as ++ [a]) (Function.update s id (some r)) := by
  have hkept : ∀ id', id' ≠ id →
      (as ++ [a]).countP (ServiceAct.isOn id') = as.countP (ServiceAct.isOn id') := by
    intro id' hid
    rw [List.countP_append, List.countP_singleton, hothers id' hid]
    rfl
  constructor
  · intro id' r' hr'
    by_cases hid : id' = id
    · subst hid
      rw [Function.update_self, Option.some.injEq] at hr'
      subst hr'
      exact ⟨hr, hcount⟩
    · rw [Function.update_of_ne hid] at hr'
      rw [hkept id' hid]
      exact h.each id' r' hr'
  · intro id' hnone
    by_cases hid : id' = id
    · subst hid
      rw [Function.update_self] at hnone
      cases hnone
    · rw [Function.update_of_ne hid] at hnone
      rw [hkept id' hid]
      exact h.free id' hnone

theorem Requests.Inv.accept {id : ℕ} {taskAddress : String} {handler : Handler}
    (h : Inv callbackUrl as s) (hid : s id = none) :
    Inv callbackUrl (as ++ [.accept id taskAddress handler])
      (Function.update s id (some (.accepted taskAddress handler))) := by
  apply h.set
  · intro id' _
    rfl
  · exact .accepted taskAddress handler
  · rw [List.countP_append, h.free id hid]
    exact le_refl 7

theorem Requests.Inv.act {id : ℕ} {a : RequestAct} {r r' : Request} (h : Inv callbackUrl as s)
    (hid : s id = some r) (hstep : r.step callbackUrl a = some r') :
    Inv callbackUrl (as ++ [.act id a]) (Function.update s id (some r')) := by
  obtain ⟨hinv, hle⟩ := h.each id r hid
  have hlt := Request.step_remaining hinv hstep
  apply h.set
  · intro id' hne
    simpa [ServiceAct.isOn] using Ne.symm hne
  · exact hinv.step hstep
  · have hone : [ServiceAct.act id a].countP (ServiceAct.isOn id) = 1 := by simp [ServiceAct.isOn]
    rw [List.countP_append, hone]
    omega

theorem Requests.run_inv (hr : (machine callbackUrl).run (fun _ => none) as = some s) :
    Inv callbackUrl as s := by
  refine Machine.run_inv (P := fun _ => True) .start ?_ (fun _ _ => trivial) hr
  rintro as s a s' - - hstep h
  cases a with
  | accept id taskAddress handler =>
    cases hid : s id with
    | none =>
      simp only [machine, step, hid, Option.some.injEq] at hstep
      subst hstep
      exact h.accept hid
    | some r => simp [machine, step, hid] at hstep
  | act id a =>
    cases hid : s id with
    | none => simp [machine, step, hid] at hstep
    | some r =>
      simp only [machine, step, hid, Option.map_eq_some_iff] at hstep
      obtain ⟨r', hr', rfl⟩ := hstep
      exact h.act hid hr'

end

/-- In every run of a service each request takes at most seven steps and settles: what is recorded
of it fits, at its end it has one outcome exactly if it is `ReportedOnce`, and only a function
without a timeout can keep it from its end. -/
theorem requests_settle {callbackUrl : Option String} {as : List ServiceAct} {s : Requests}
    (hr : (Requests.machine callbackUrl).run (fun _ => none) as = some s) {id : ℕ} {r : Request}
    (hid : s id = some r) :
    r.Settles callbackUrl ∧ as.countP (ServiceAct.isOn id) ≤ 7 := by
  obtain ⟨hinv, hle⟩ := (Requests.run_inv hr).each id r hid
  exact ⟨hinv.settles, by omega⟩

/-- A handler `f` with a timeout of 30 seconds, or without one. -/
def handler (timed : Bool) : Handler where
  function := ⟨⟨0, .ok "f", .ok ["data"], .ok []⟩, "f", rfl⟩
  timeout := if timed then some 30 else none

/-- A result that is in time is called back, once. -/
theorem requests_settle_inTime :
    ∃ s r, (Requests.machine (some "http://cb")).run (fun _ => none)
        [.accept 0 "0xAA" (handler true), .act 0 .start,
          .act 0 (.finish (.ok ⟨.ok true, .ok (.int 1)⟩)), .act 0 .setDone, .act 0 .wake,
          .act 0 (.report (.ok 200))] = some s ∧ s 0 = some r ∧
      r.outcomes = [.callback "http://cb/0xAA" (.int 1)] ∧ r.Settles (some "http://cb") := by
  have hrun : ∃ s r, (Requests.machine (some "http://cb")).run (fun _ => none)
      [.accept 0 "0xAA" (handler true), .act 0 .start,
        .act 0 (.finish (.ok ⟨.ok true, .ok (.int 1)⟩)), .act 0 .setDone, .act 0 .wake,
        .act 0 (.report (.ok 200))] = some s ∧ s 0 = some r ∧
      r.outcomes = [.callback "http://cb/0xAA" (.int 1)] := ⟨_, _, rfl, rfl, rfl⟩
  obtain ⟨s, r, hr, hid, houtcomes⟩ := hrun
  exact ⟨s, r, hr, hid, houtcomes, (requests_settle hr hid).1⟩

/-- A function that raises after the timer has fired leaves a timeout and a failure; a result of a
model that is not true leaves nothing. -/
theorem not_requests_settle_once :
    (∃ s r, (Requests.machine (some "http://cb")).run (fun _ => none)
        [.accept 0 "0xAA" (handler true), .act 0 .start, .act 0 .fire, .act 0 .logTimeout,
          .act 0 (.report (.ok 200)),
          .act 0 (.finish (.error (.raw ⟨.exception "ValueError", "late"⟩))), .act 0 .logFailure,
          .act 0 .setDone] = some s ∧ s 0 = some r ∧
      r.outcomes = [.timeout "`f` timed out after 30 seconds",
        .failure "Exception in `f`" (.raw ⟨.exception "ValueError", "late"⟩)]) ∧
    ∃ s r, (Requests.machine (some "http://cb")).run (fun _ => none)
        [.accept 0 "0xAA" (handler false), .act 0 .start,
          .act 0 (.finish (.ok ⟨.ok false, .ok (.int 1)⟩)), .act 0 (.report (.ok 200))] = some s ∧
      s 0 = some r ∧ r.outcomes = [] ∧
      r.runner = .ended (.ok (some ⟨.ok false, .ok (.int 1)⟩)) (.ok 200) :=
  ⟨⟨_, _, rfl, rfl, rfl⟩, _, _, rfl, rfl, rfl, rfl⟩

end OgpuSdk.Service
