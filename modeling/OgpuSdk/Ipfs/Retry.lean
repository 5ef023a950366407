import OgpuSdk.Ipfs.Runs
import Mathlib.Data.List.TakeWhile
import Mathlib.Tactic.Linarith

/-!
# The retries of an upload

Without a deadline an upload makes one request for each leading outcome that
may pass, and one more while attempts are left. What it returns or raises is
decided by the first outcome that may not pass, or by the last one of all. That
takes pauses that can be made: a `float` backoff times `2 ** 1024` is none, nor
is a sleep of three centuries, and the call then raises what Python does.
-/

namespace OgpuSdk

open Prog

/-- What a POST comes to. -/
inductive PostOutcome where
  | requestException (text : String)
  /-- a status of 500 or more -/
  | serverError (statusCode : ℤ)
  /-- any other status but 200 and 201 -/
  | rejected (statusCode : ℤ)
  /-- success, with a string under `link` -/
  | pinned (link : String)
  /-- success, without a `link` or no JSON at all -/
  | malformed (statusCode : ℤ)
  deriving DecidableEq

namespace PostOutcome

/-- The answer is of this kind. -/
inductive Is : PostOutcome → Except Exc HttpResponse → Prop where
  | requestException {text : String} :
      Is (.requestException text) (.error (.raw ⟨.requestException, text⟩))
  | serverError {statusCode : ℤ} {json : Except Exc Json} : 500 ≤ statusCode →
      Is (.serverError statusCode) (.ok ⟨statusCode, json⟩)
  | rejected {statusCode : ℤ} {json : Except Exc Json} : statusCode < 500 →
      ¬(statusCode = 200 ∨ statusCode = 201) → Is (.rejected statusCode) (.ok ⟨statusCode, json⟩)
  | pinned {statusCode : ℤ} {fields : List (String × Json)} {link : String} :
      statusCode = 200 ∨ statusCode = 201 → Json.field? fields "link" = some (.str link) →
      Is (.pinned link) (.ok ⟨statusCode, .ok (.obj fields)⟩)
  | missing {statusCode : ℤ} {fields : List (String × Json)} :
      statusCode = 200 ∨ statusCode = 201 → Json.field? fields "link" = none →
      Is (.malformed statusCode) (.ok ⟨statusCode, .ok (.obj fields)⟩)
  | unparsable {statusCode : ℤ} {text : String} : statusCode = 200 ∨ statusCode = 201 →
      Is (.malformed statusCode) (.ok ⟨statusCode, .error (.raw ⟨.jsonDecodeError, text⟩)⟩)

/-- The outcome may pass, and is what the next attempt is for. -/
def transient : PostOutcome → Bool
  | .requestException _ | .serverError _ => true
  | .rejected _ | .pinned _ | .malformed _ => false

/-- The status of an outcome that ends the call with an error. -/
def refusal : PostOutcome → Option ℤ
  | .rejected statusCode | .malformed statusCode => some statusCode
  | _ => none

/-- What is kept of an outcome that may pass. -/
def lastError : PostOutcome → Option LastError
  | .requestException text => some (.request text)
  | .serverError statusCode => some (.gateway statusCode)
  | _ => none

open IpfsPublish (reaction gatewayError)

variable {o : PostOutcome} {answer : Except Exc HttpResponse}

theorem Is.reaction_transient (h : o.Is answer) (ho : o.transient = true) :
    ∃ e, o.lastError = some e ∧ reaction answer = .ok (.inr e) := by
  cases h with
  | requestException => exact ⟨_, rfl, rfl⟩
  | @serverError statusCode json hstatus =>
    refine ⟨.gateway statusCode, rfl, ?_⟩
    have hsuccess : ¬(statusCode = 200 ∨ statusCode = 201) := by omega
    unfold reaction
    simp only [hsuccess, if_false]
    rw [if_neg (by omega)]
  | _ => cases ho

theorem Is.reaction_pinned {link : String} (h : (PostOutcome.pinned link).Is answer) :
    reaction answer = .ok (.inl link) := by
  cases h with
  | pinned hstatus hlink =>
    unfold reaction
    simp only [hstatus, if_true, Except.bind, IpfsPublish.link, hlink, Json.pyStr]

theorem Is.reaction_refused {statusCode : ℤ} (h : o.Is answer) (ho : o.refusal = some statusCode) :
    ∃ cause, reaction answer = .error ⟨.ogpu (gatewayError statusCode), cause⟩ := by
  cases h with
  | rejected hlow hsuccess =>
    cases ho
    refine ⟨none, ?_⟩
    unfold reaction
    simp only [hsuccess, if_false]
    rw [if_pos hlow]
    rfl
  | missing hstatus hlink =>
    cases ho
    refine ⟨some (.raw ⟨.keyError, "'link'"⟩), ?_⟩
    unfold reaction
    simp only [hstatus, if_true, Except.bind, IpfsPublish.link, hlink]
    rfl
  | @unparsable _ text hstatus =>
    cases ho
    refine ⟨some (.raw ⟨.jsonDecodeError, text⟩), ?_⟩
    unfold reaction
    simp only [hstatus, if_true, Except.bind]
    rfl
  | _ => cases ho

/-- An outcome that may not pass returns a link or ends the call. -/
theorem settled_cases (h : o.transient = false) :
    (∃ link, o = .pinned link) ∨ ∃ statusCode, o.refusal = some statusCode := by
  cases o with
  | requestException | serverError => cases h
  | pinned link => exact .inl ⟨link, rfl⟩
  | rejected statusCode | malformed statusCode => exact .inr ⟨statusCode, rfl⟩

end PostOutcome

namespace Seconds

/-- A pause of `x` doubled `k` times can be made: the power has a `float`, if `x` is one, and the
product fewer nanoseconds than 64 bits count. -/
def Pausable (x : Seconds) (k : Nat) : Prop :=
  (∀ q, x = .float q → k < 1024) ∧ x.value * 2 ^ k * 10 ^ 9 < 2 ^ 63

theorem pausable_of_doubled {x y : Seconds} {k : Nat} (h : x.doubled k = .ok y) :
    x.Pausable k ↔ y.value * 10 ^ 9 < 2 ^ 63 := by
  have hvalue := value_doubled h
  unfold Pausable
  rw [← hvalue]
  refine and_iff_right ?_
  rintro q rfl
  by_contra hk
  simp [doubled, if_neg hk] at h

end Seconds

namespace IpfsPublish

/-- What a call that is given these outcomes does from `w`. -/
structure RetryProtocol (exe : IpfsPublish) (permitted : List PostOutcome) (w : World)
    (result : Except Raised String × World) : Prop where
  /-- One request for each leading outcome that may pass, and one more if there is an attempt left
  for it; all are of the same file. -/
  posts : result.2.posts = w.posts ++ List.replicate
    (min permitted.length (1 + (permitted.takeWhile (·.transient)).length)) (exe.file, exe.timeout)
  returns : ∀ link, result.1 = .ok link ↔ permitted.find? (!·.transient) = some (.pinned link)
  refused : ∀ o statusCode, permitted.find? (!·.transient) = some o →
    o.refusal = some statusCode →
    ∃ cause, result.1 = .error ⟨.ogpu (gatewayError statusCode), cause⟩
  lastServer : ∀ statusCode, (∀ o ∈ permitted, o.transient = true) →
    permitted.getLast? = some (.serverError statusCode) →
    result.1 = .error (gatewayError statusCode).raised
  lastRequest : ∀ text, (∀ o ∈ permitted, o.transient = true) →
    permitted.getLast? = some (.requestException text) →
    result.1 = .error ((OGPUError.ipfsFetchError IPFS_PUBLISH_URL text).from
      (.raw ⟨.requestException, text⟩))

section

variable {self : IpfsPublish} {net : Nat → PostNet} {outcomes : Nat → PostOutcome} {w s : World}
  {b : Option LastError} {k : Nat}

/-- Without a deadline it does not matter when a pause is made. -/
theorem pauseFault_eq_none (hd : self.deadline = none) {now : ℚ} :
    self.pauseFault k now = none ↔ self.backoff.Pausable k := by
  unfold pauseFault
  rw [sleepFor_of_none hd]
  cases hs : self.backoff.doubled k with
  | error exc =>
    have hnot : ¬ self.backoff.Pausable k := by
      intro hpausable
      cases hb : self.backoff with
      | int n =>
        rw [hb] at hs
        cases hs
      | float q =>
        rw [hb] at hs
        simp [Seconds.doubled, if_pos (hpausable.1 q hb)] at hs
    simpa using hnot
  | ok seconds =>
    rw [Seconds.pausable_of_doubled hs]
    unfold Seconds.unsleepable
    dsimp only
    by_cases hpos : 0 < seconds.value
    · rw [if_pos hpos]
      split <;> simp_all
    · rw [if_neg hpos]
      have hle : seconds.value * 10 ^ 9 ≤ 0 := by linarith
      have hlt : seconds.value * 10 ^ 9 < 2 ^ 63 := lt_of_le_of_lt hle (by norm_num)
      simpa using hlt

/-- The attempt whose reply has this reaction. -/
theorem exec_attempt_of_none (hd : self.deadline = none) (net : PostNet) (k : Nat)
    (b : Option LastError) (s : World) :
    (self.attempt net k b).exec s =
      match reaction (net.post self.timeout).answer with
      | .error e => (.error e, self.posted net s)
      | .ok (.inl link) => (.ok (.done link), self.posted net s)
      | .ok (.inr e) =>
        match if k + 1 < self.attempts then self.pauseFault k (self.posted net s).clock.mono
          else none with
        | some exc => (.error exc.raised, self.posted net s)
        | none => (.ok (.next (some e)), self.rested net k (self.posted net s)) := by
  have hrun := self.attempt_run net k b s
  have hreply : self.reply net s = (net.post self.timeout).answer := by
    unfold reply
    rw [effectiveTimeout_of_none hd]
  generalize (self.attempt net k b).exec s = r at hrun
  rw [← hreply]
  cases hrun with
  | exhausted hx =>
    rw [exhausted_of_none hd] at hx
    cases hx
  | raised _ hr => rw [hr]
  | done _ hr => rw [hr]
  | next _ hr hf =>
    rw [hr]
    by_cases hk : k + 1 < self.attempts
    · simp only [if_pos hk, hf hk]
    · simp only [if_neg hk]
  | overflowed _ hr hk hf =>
    rw [hr]
    simp only [if_pos hk, hf]

/-- The posts of a world that `j` attempts have made it to. -/
theorem posts_posted_of_none (hd : self.deadline = none) (net : PostNet) {j : Nat}
    (hs : s.posts = w.posts ++ List.replicate j (self.file, self.timeout)) :
    (self.posted net s).posts =
      w.posts ++ List.replicate (j + 1) (self.file, self.timeout) := by
  rw [posts_posted, effectiveTimeout_of_none hd, hs, List.append_assoc, List.replicate_succ']

variable (hd : self.deadline = none)
  (hnet : ∀ k, (outcomes k).Is ((net k).post self.timeout).answer)
include hd hnet

/-- After outcomes that may pass, the next attempt is made, and knows the last of them. -/
theorem reached_transient {j : Nat} (hj : ∀ i < j, (outcomes i).transient = true)
    (hpause : ∀ i < j, i + 1 < self.attempts → self.backoff.Pausable i) :
    ∃ b s, Reached (fun k lastError => self.attempt (net k) k lastError) 0 none w j b s ∧
      s.posts = w.posts ++ List.replicate j (self.file, self.timeout) ∧
      ∀ i, j = i + 1 → b = (outcomes i).lastError := by
  induction j with
  | zero => exact ⟨none, w, .start, by simp, by simp⟩
  | succ j ih =>
    obtain ⟨b, s, hreached, hposts, -⟩ :=
      ih (fun i hi => hj i (by omega)) fun i hi => hpause i (by omega)
    obtain ⟨e, hlast, hreaction⟩ := (hnet j).reaction_transient (hj j (by omega))
    have hturn := exec_attempt_of_none hd (net j) j b s
    have hfault : (if j + 1 < self.attempts then
        self.pauseFault j (self.posted (net j) s).clock.mono else none) = none := by
      split
      · next hk => exact (pauseFault_eq_none hd).mpr (hpause j (by omega) hk)
      · rfl
    rw [hreaction] at hturn
    dsimp only at hturn
    rw [hfault] at hturn
    refine ⟨some e, _, .next hreached hturn, ?_, ?_⟩
    · rw [posts_rested]
      exact posts_posted_of_none hd (net j) hposts
    · intro i hi
      obtain rfl : j = i := by omega
      exact hlast.symm

/-- A call whose first outcomes may pass, and whose outcome `j` may not. -/
theorem run_settled {j : Nat} (hj : j < self.attempts)
    (hearlier : ∀ i < j, (outcomes i).transient = true)
    (hpause : ∀ i < j, i + 1 < self.attempts → self.backoff.Pausable i)
    (hsettled : (outcomes j).transient = false) :
    ((self.run net).exec w).2.posts =
        w.posts ++ List.replicate (j + 1) (self.file, self.timeout) ∧
      (∀ link, outcomes j = .pinned link → ((self.run net).exec w).1 = .ok link) ∧
      ∀ statusCode, (outcomes j).refusal = some statusCode →
        ∃ cause, ((self.run net).exec w).1 = .error ⟨.ogpu (gatewayError statusCode), cause⟩ := by
  obtain ⟨b, s, hreached, hposts, -⟩ := reached_transient hd hnet hearlier hpause
  have hturn := exec_attempt_of_none hd (net j) j b s
  have hposts' := posts_posted_of_none hd (net j) hposts
  have his := hnet j
  unfold run
  rcases PostOutcome.settled_cases hsettled with ⟨link, hlink⟩ | ⟨statusCode, hstatus⟩
  · rw [hlink] at his
    rw [his.reaction_pinned] at hturn
    rw [hreached.done afterLoop (by omega) hturn, hlink]
    refine ⟨hposts', ?_, ?_⟩
    · rintro _ ⟨⟩
      rfl
    · rintro statusCode ⟨⟩
  · obtain ⟨cause, hreaction⟩ := his.reaction_refused hstatus
    rw [hreaction] at hturn
    rw [hreached.raised afterLoop (by omega) hturn]
    refine ⟨hposts', ?_, ?_⟩
    · intro link hlink
      rw [hlink] at hstatus
      cases hstatus
    · intro statusCode' hstatus'
      rw [hstatus, Option.some.injEq] at hstatus'
      subst hstatus'
      exact ⟨cause, rfl⟩

/-- A call that comes to a pause it cannot make. -/
theorem run_overflowed {j : Nat} (hj : j + 1 < self.attempts)
    (hall : ∀ i ≤ j, (outcomes i).transient = true)
    (hpause : ∀ i < j, i + 1 < self.attempts → self.backoff.Pausable i)
    (hfault : ¬ self.backoff.Pausable j) :
    ((self.run net).exec w).2.posts =
      w.posts ++ List.replicate (j + 1) (self.file, self.timeout) := by
  obtain ⟨b, s, hreached, hposts, -⟩ :=
    reached_transient hd hnet (fun i hi => hall i (le_of_lt hi)) hpause (w := w)
  obtain ⟨e, -, hreaction⟩ := (hnet j).reaction_transient (hall j (le_refl j))
  have hturn := exec_attempt_of_none hd (net j) j b s
  rw [hreaction] at hturn
  dsimp only at hturn
  rw [if_pos hj] at hturn
  cases hf : self.pauseFault j (self.posted (net j) s).clock.mono with
  | none => exact absurd ((pauseFault_eq_none hd).mp hf) hfault
  | some exc =>
    rw [hf] at hturn
    unfold run
    rw [hreached.raised afterLoop (by omega) hturn]
    exact posts_posted_of_none hd (net j) hposts

/-- A call all of whose outcomes may pass. -/
theorem run_exhausted (hall : ∀ i < self.attempts, (outcomes i).transient = true)
    (hpause : ∀ i < self.attempts, i + 1 < self.attempts → self.backoff.Pausable i) :
    ((self.run net).exec w).2.posts =
        w.posts ++ List.replicate self.attempts (self.file, self.timeout) ∧
      ((self.run net).exec w).1 =
        ((afterLoop (outcomes (self.attempts - 1)).lastError).exec w).1 := by
  obtain ⟨b, s, hreached, hposts, hlast⟩ := reached_transient hd hnet (w := w) hall hpause
  have hpos : 0 < self.attempts := by
    unfold attempts
    omega
  obtain rfl := hlast (self.attempts - 1) (by omega)
  obtain ⟨e, hafter⟩ := exec_afterLoop (outcomes (self.attempts - 1)).lastError
  have husedUp := Reached.usedUp (n := self.attempts) afterLoop
    (show Reached _ 0 none w (0 + self.attempts) _ s by rw [Nat.zero_add]; exact hreached)
  unfold run
  rw [husedUp, hafter, hafter]
  exact ⟨hposts, rfl⟩

omit hd hnet in
/-- Where the outcomes of a call split, their numbers say. -/
theorem outcomes_split {n : Nat} {before after : List PostOutcome} {o : PostOutcome}
    (h : (List.range n).map outcomes = before ++ o :: after) :
    before.length < n ∧ outcomes before.length = o ∧ ∀ i < before.length, outcomes i ∈ before := by
  have hlen : n = before.length + (after.length + 1) := by
    have := congrArg List.length h
    simpa using this
  have hget : ∀ i < n, (before ++ o :: after)[i]? = some (outcomes i) := by
    intro i hi
    rw [← h]
    simp [hi]
  refine ⟨by omega, ?_, ?_⟩
  · have := hget before.length (by omega)
    simpa using this.symm
  · intro i hi
    have := hget i (by omega)
    rw [List.getElem?_append_left hi] at this
    exact List.mem_of_getElem? this

/-- Every pause the call comes to can be made: those after an attempt that is not the last, whose
outcome and those before it may pass. -/
def CanPause (exe : IpfsPublish) (outcomes : Nat → PostOutcome) : Prop :=
  ∀ k, k + 1 < exe.attempts → (∀ i ≤ k, (outcomes i).transient = true) → exe.backoff.Pausable k

/-- Where every outcome may pass, no outcome is found and the last one speaks. -/
theorem retryProtocol_of_transient (hpause : self.CanPause outcomes)
    (hall : ∀ o ∈ (List.range self.attempts).map outcomes, o.transient = true) :
    self.RetryProtocol ((List.range self.attempts).map outcomes) w ((self.run net).exec w) := by
  have hfind : ((List.range self.attempts).map outcomes).find? (!·.transient) = none :=
    List.find?_eq_none.mpr (by simpa using hall)
  have htransient : ∀ i < self.attempts, (outcomes i).transient = true := fun i hi =>
    hall _ (List.mem_map.mpr ⟨i, List.mem_range.mpr hi, rfl⟩)
  obtain ⟨hposts, hresult⟩ := run_exhausted hd hnet (w := w) htransient fun i _ hi =>
    hpause i hi fun i' hi' => htransient i' (by omega)
  have hlead : ((List.range self.attempts).map outcomes).takeWhile (·.transient) =
      (List.range self.attempts).map outcomes := List.takeWhile_eq_self_iff.mpr hall
  have hlast : ∀ o, ((List.range self.attempts).map outcomes).getLast? = some o →
      outcomes (self.attempts - 1) = o := by
    intro o ho
    rw [List.getLast?_map, List.getLast?_range] at ho
    split at ho
    · cases ho
    · simpa using ho
  obtain ⟨e, hafter⟩ := exec_afterLoop (outcomes (self.attempts - 1)).lastError
  refine ⟨?_, ?_, ?_, ?_, ?_⟩
  · rw [hlead, hposts, List.length_map, List.length_range, min_eq_left (by omega)]
  · intro link
    rw [hfind, hresult, hafter]
    simp
  · intro o statusCode ho
    rw [hfind] at ho
    cases ho
  · intro statusCode _ ho
    rw [hresult, hlast _ ho]
    rfl
  · intro text _ ho
    rw [hresult, hlast _ ho]
    rfl

/-- The first outcome that does not pass decides. -/
theorem retryProtocol_of_settled {before after : List PostOutcome} {o : PostOutcome}
    (hpause : self.CanPause outcomes)
    (heq : (List.range self.attempts).map outcomes = before ++ o :: after)
    (htransient : ∀ o' ∈ before, o'.transient = true) (hsettled : o.transient = false) :
    self.RetryProtocol ((List.range self.attempts).map outcomes) w ((self.run net).exec w) := by
  have hfind : ((List.range self.attempts).map outcomes).find? (!·.transient) = some o :=
    List.find?_eq_some_iff_append.mpr
      ⟨by simpa using hsettled, before, after, heq, by simpa using htransient⟩
  obtain ⟨hlt, hat, hearlier⟩ := outcomes_split heq
  obtain ⟨hposts, hlink, hrefused⟩ := run_settled hd hnet (w := w) hlt
    (fun i hi => htransient _ (hearlier i hi))
    (fun i hi hlast => hpause i hlast fun i' hi' => htransient _ (hearlier i' (by omega)))
    (hat.symm ▸ hsettled)
  rw [hat] at hlink hrefused
  have hlead : ((List.range self.attempts).map outcomes).takeWhile (·.transient) = before := by
    rw [heq, List.takeWhile_append_of_pos htransient,
      List.takeWhile_cons_of_neg (by simp [hsettled]), List.append_nil]
  have hmem : o ∈ (List.range self.attempts).map outcomes := by
    rw [heq]
    simp
  have hnever : ¬ ∀ o' ∈ (List.range self.attempts).map outcomes, o'.transient = true := by
    intro hall
    rw [hall o hmem] at hsettled
    cases hsettled
  refine ⟨?_, ?_, ?_, fun _ hall => absurd hall hnever, fun _ hall => absurd hall hnever⟩
  · rw [hlead, hposts, List.length_map, List.length_range, Nat.add_comm 1,
      min_eq_right (by omega)]
  · intro link
    rw [hfind, Option.some.injEq]
    constructor
    · intro hok
      rcases PostOutcome.settled_cases hsettled with ⟨link', rfl⟩ | ⟨statusCode, hstatus⟩
      · rw [hlink link' rfl] at hok
        cases hok
        rfl
      · obtain ⟨cause, herror⟩ := hrefused statusCode hstatus
        rw [herror] at hok
        cases hok
    · exact hlink link
  · intro o' statusCode ho' hstatus
    rw [hfind, Option.some.injEq] at ho'
    subst ho'
    exact hrefused statusCode hstatus

theorem retryProtocol_of_canPause (hpause : self.CanPause outcomes) :
    self.RetryProtocol ((List.range self.attempts).map outcomes) w ((self.run net).exec w) := by
  cases hfind : ((List.range self.attempts).map outcomes).find? (!·.transient) with
  | none =>
    apply retryProtocol_of_transient hd hnet hpause
    simpa using List.find?_eq_none.mp hfind
  | some o =>
    obtain ⟨hsettled, before, after, heq, hbefore⟩ := List.find?_eq_some_iff_append.mp hfind
    exact retryProtocol_of_settled hd hnet hpause heq (by simpa using hbefore) (by simpa using hsettled)

omit hd hnet in
/-- Outcomes that may pass are among the leading ones. -/
theorem lt_takeWhile_length {n j : Nat} (hj : j < n)
    (hall : ∀ i ≤ j, (outcomes i).transient = true) :
    j < (((List.range n).map outcomes).takeWhile (·.transient)).length := by
  have hsplit := List.take_append_drop (j + 1) ((List.range n).map outcomes)
  have hlead : ∀ o ∈ ((List.range n).map outcomes).take (j + 1), o.transient = true := by
    intro o ho
    rw [← List.map_take, List.take_range, List.mem_map] at ho
    obtain ⟨i, hi, rfl⟩ := ho
    rw [List.mem_range] at hi
    exact hall i (by omega)
  rw [← hsplit, List.takeWhile_append_of_pos hlead, List.length_append, List.length_take,
    List.length_map, List.length_range]
  omega

/-- What a call without a deadline does follows the retry protocol exactly when it can make its
pauses. -/
theorem run_retryProtocol_iff :
    self.RetryProtocol ((List.range self.attempts).map outcomes) w ((self.run net).exec w) ↔
      self.CanPause outcomes := by
  refine ⟨fun h k => ?_, retryProtocol_of_canPause hd hnet⟩
  -- The first pause that cannot be made ends the call a request too early.
  induction k using Nat.strong_induction_on with
  | _ k ih =>
    intro hk hall
    by_contra hfault
    have hposts := run_overflowed hd hnet (w := w) hk hall
      (fun i hi hlast => ih i hi hlast fun i' hi' => hall i' (by omega)) hfault
    have hlead : k < (((List.range self.attempts).map outcomes).takeWhile (·.transient)).length :=
      lt_takeWhile_length (by omega) hall
    rw [h.posts, List.append_cancel_left_eq, List.length_map, List.length_range] at hposts
    have hlength := congrArg List.length hposts
    rw [List.length_replicate, List.length_replicate] at hlength
    omega

end

end IpfsPublish

/-- An upload without a deadline follows the retry protocol, on the outcomes of its first
`max 1 retries` attempts, exactly when it can make the pauses it comes to. -/
theorem publishToIpfs_retries_iff (data : Content) (filename contentType : String) (timeout : ℚ)
    (retries : ℤ) (backoff : Seconds) (net : Nat → PostNet) (outcomes : Nat → PostOutcome)
    (w : World) (hnet : ∀ k, (outcomes k).Is ((net k).post timeout).answer) :
    IpfsPublish.RetryProtocol ⟨⟨filename, data, contentType⟩, timeout, retries, backoff, none⟩
      ((List.range (max 1 retries).toNat).map outcomes) w
      ((publishToIpfs data filename contentType timeout retries backoff none net).exec w) ↔
    ∀ k : Nat, k + 1 < max 1 retries → (∀ i ≤ k, (outcomes i).transient = true) →
      backoff.Pausable k := by
  refine (IpfsPublish.run_retryProtocol_iff rfl hnet).trans ?_
  have hattempts : ∀ k : Nat, k + 1 < (max 1 retries).toNat ↔ k + 1 < max 1 retries := by omega
  exact forall_congr' fun k => imp_congr_left (hattempts k)

/-- A request that times out, a status of 502, and then a link. -/
def recovering (k : Nat) : PostNet where
  post := fun _ => ⟨⟨0, 0⟩, match k with
    | 0 => .error (.raw ⟨.requestException, "timed out"⟩)
    | 1 => .ok ⟨502, .error (.raw ⟨.jsonDecodeError, ""⟩)⟩
    | _ => .ok ⟨201, .ok (.obj [("link", .str "ipfs://a")])⟩⟩
  sleep := fun seconds => ⟨seconds.toNNRat, seconds⟩

theorem publishToIpfs_retries_recovering :
    IpfsPublish.RetryProtocol
      ⟨⟨"taskConfig.json", .raw "", "application/json"⟩, 30, 5, .float (1 / 2), none⟩
      [.requestException "timed out", .serverError 502, .pinned "ipfs://a", .pinned "ipfs://a",
        .pinned "ipfs://a"]
      (.imported ⟨0, 0⟩)
      ((publishToIpfs (.raw "") "taskConfig.json" "application/json" 30 5 (.float (1 / 2)) none
        recovering).exec (.imported ⟨0, 0⟩)) := by
  refine (publishToIpfs_retries_iff _ _ _ _ 5 _ recovering (fun
    | 0 => .requestException "timed out"
    | 1 => .serverError 502
    | _ => .pinned "ipfs://a") _ ?_).mpr ?_
  · rintro (_ | _ | k)
    · exact .requestException
    · exact .serverError (by decide)
    · exact .pinned (.inr rfl) rfl
  · -- No pause is made from the third attempt on.
    rintro (_ | _ | k) - hall
    · exact ⟨by simp, by norm_num [Seconds.value]⟩
    · exact ⟨by simp, by norm_num [Seconds.value]⟩
    · cases hall (k + 2) (le_refl _)

/-- A service that is never there. -/
def unreachable : PostNet where
  post := fun _ => ⟨⟨0, 0⟩, .error (.raw ⟨.requestException, "Connection refused"⟩)⟩
  sleep := fun seconds => ⟨seconds.toNNRat, seconds⟩

/-- A backoff of `0.0` and 1026 attempts: the pause after attempt 1025 multiplies it by
`2 ** 1024`. -/
theorem not_publishToIpfs_retries :
    ¬ IpfsPublish.RetryProtocol
      ⟨⟨"taskConfig.json", .raw "", "application/json"⟩, 30, 1026, .float 0, none⟩
      ((List.range (max 1 (1026 : ℤ)).toNat).map fun _ => .requestException "Connection refused")
      (.imported ⟨0, 0⟩)
      ((publishToIpfs (.raw "") "taskConfig.json" "application/json" 30 1026 (.float 0) none
        fun _ => unreachable).exec (.imported ⟨0, 0⟩)) := by
  intro h
  have hpause := (IpfsPublish.run_retryProtocol_iff rfl fun _ => .requestException).mp h 1024
    (by decide) fun _ _ => rfl
  exact absurd (hpause.1 0 rfl) (by decide)

end OgpuSdk
