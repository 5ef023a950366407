import OgpuSdk.Ipfs.Fetch
import OgpuSdk.Ipfs.Retry

/-!
# What becomes of a reply body

`Usable` are the replies that are used as they are declared or end in one of
the two IPFS errors. The handlers tell an object without a `link` and a body
that is no JSON apart from the rest, but not the other shapes a body can have,
so an upload returns a string it found under `link` or raises an IPFS error
exactly when every request it makes gets a usable reply.
-/

namespace OgpuSdk

open Prog

/-- `IPFSFetchError` or `IPFSGatewayError`. -/
def Exc.isIpfsError : Exc → Bool
  | .ogpu (.ipfsFetchError _ _) | .ogpu (.ipfsGatewayError _ _) => true
  | _ => false

def Exc.isRequestException : Exc → Bool
  | .raw ⟨.requestException, _⟩ => true
  | _ => false

/-! ## The upload -/

namespace IpfsPublish

/-- A success body that is an object whose `link`, if it has one, is a string, or no JSON. -/
def UsableBody : Except Exc Json → Prop
  | .ok (.obj fields) =>
    ∀ value, Json.field? fields "link" = some value → ∃ link, value = .str link
  | .ok _ => False
  | .error (.raw exc) => exc.cls = .jsonDecodeError ∨ exc.cls = .keyError
  | .error (.ogpu e) => (Exc.ogpu e).isIpfsError = true

def Usable : Except Exc HttpResponse → Prop
  | .error exc => exc.isRequestException = true ∨ exc.isIpfsError = true
  | .ok response => response.statusCode = 200 ∨ response.statusCode = 201 →
    UsableBody response.json

/-- What comes of a reply is the string under `link`, an IPFS error or another attempt. -/
def Sound (answer : Except Exc HttpResponse) : Except Raised (String ⊕ LastError) → Prop
  | .error e => e.exc.isIpfsError = true
  | .ok (.inl link) => (PostOutcome.pinned link).Is answer
  | .ok (.inr _) => True

theorem pinned_iff {response : HttpResponse} {link : String}
    (hstatus : response.statusCode = 200 ∨ response.statusCode = 201) :
    (PostOutcome.pinned link).Is (.ok response) ↔
      ∃ fields, response.json = .ok (.obj fields) ∧
        Json.field? fields "link" = some (.str link) := by
  constructor
  · rintro (_ | _ | _ | ⟨-, hlink⟩ | _ | _)
    exact ⟨_, rfl, hlink⟩
  · rintro ⟨fields, hjson, hlink⟩
    obtain ⟨statusCode, json⟩ := response
    cases hjson
    exact .pinned hstatus hlink

theorem reaction_object {response : HttpResponse} {fields : List (String × Json)}
    (hstatus : response.statusCode = 200 ∨ response.statusCode = 201)
    (hjson : response.json = .ok (.obj fields)) :
    reaction (.ok response) =
      match Json.field? fields "link" with
      | some value => .ok (.inl value.pyStr)
      | none =>
        .error ((gatewayError response.statusCode).from (.raw ⟨.keyError, "'link'"⟩)) := by
  unfold reaction
  simp only [hstatus, if_true, hjson, Except.bind, link]
  cases Json.field? fields "link" <;> rfl

theorem sound_success {response : HttpResponse}
    (hstatus : response.statusCode = 200 ∨ response.statusCode = 201) :
    Sound (.ok response) (reaction (.ok response)) ↔ UsableBody response.json := by
  cases hjson : response.json with
  | error exc =>
    unfold reaction
    simp only [hstatus, if_true, hjson, Except.bind]
    rcases exc with e | ⟨cls, text⟩
    · exact Iff.rfl
    · cases cls <;> simp [Sound, UsableBody, OGPUError.from, Exc.raised, gatewayError,
        Exc.isIpfsError]
  | ok body =>
    cases body with
    | obj fields =>
      rw [reaction_object hstatus hjson]
      cases hlink : Json.field? fields "link" with
      | none => simp [Sound, UsableBody, OGPUError.from, gatewayError, Exc.isIpfsError, hlink]
      | some value =>
        show (PostOutcome.pinned value.pyStr).Is (.ok response) ↔ _
        rw [pinned_iff hstatus]
        constructor
        · rintro ⟨fields', hjson', hlink'⟩ value' hvalue
          rw [hjson] at hjson'
          cases hjson'
          rw [hlink'] at hvalue
          exact ⟨_, (Option.some.inj hvalue).symm⟩
        · intro hstring
          obtain ⟨link, rfl⟩ := hstring value hlink
          exact ⟨fields, hjson, hlink⟩
    | _ =>
      unfold reaction
      simp only [hstatus, if_true, hjson, Except.bind, link]
      simp [Sound, UsableBody, Exc.raised, Exc.isIpfsError]

/-- The usable replies are those that come to something sound. -/
theorem sound_iff (answer : Except Exc HttpResponse) :
    Sound answer (reaction answer) ↔ Usable answer := by
  rcases answer with exc | response
  · rcases exc with e | ⟨cls, text⟩
    · simp [Sound, Usable, reaction, Exc.raised, Exc.isRequestException]
    · cases cls <;> simp [Sound, Usable, reaction, Exc.raised, Exc.isRequestException,
        Exc.isIpfsError]
  · by_cases hstatus : response.statusCode = 200 ∨ response.statusCode = 201
    · rw [sound_success hstatus]
      exact ⟨fun h _ => h, fun h => h hstatus⟩
    · have hsound : Sound (.ok response) (reaction (.ok response)) := by
        unfold reaction
        simp only [hstatus, if_false]
        split
        · rfl
        · trivial
      exact ⟨fun _ h => absurd h hstatus, fun _ => hsound⟩

section

variable {self : IpfsPublish} {net : Nat → PostNet} {w s s' : World} {k k' : Nat}

/-- The call made in `w` makes the request of attempt `k`, in the world `s`. -/
def Requested (exe : IpfsPublish) (net : Nat → PostNet) (w : World) (k : Nat) (s : World) : Prop :=
  ∃ b, Reached (fun k lastError => exe.attempt (net k) k lastError) 0 none w k b s ∧
    k < exe.attempts ∧ exe.exhausted s.clock.mono = false

/-- Every request the call makes gets a usable reply. -/
def AnsweredUsably (exe : IpfsPublish) (net : Nat → PostNet) (w : World) : Prop :=
  ∀ k s, exe.Requested net w k s → Usable (exe.reply (net k) s)

/-- Every pause the call comes to, after a request that is not the last and got a reply that may
pass, can be made. -/
def CanRest (exe : IpfsPublish) (net : Nat → PostNet) (w : World) : Prop :=
  ∀ k s lastError, exe.Requested net w k s →
    reaction (exe.reply (net k) s) = .ok (.inr lastError) → k + 1 < exe.attempts →
      exe.pauseFault k (exe.posted (net k) s).clock.mono = none

/-- A call returns the string under `link` in the JSON object of a reply, or raises one of the two
IPFS errors. -/
structure PublishesString (exe : IpfsPublish) (net : Nat → PostNet) (w : World)
    (result : Except Raised String) : Prop where
  returns : ∀ link, result = .ok link →
    ∃ k s, exe.Requested net w k s ∧ (PostOutcome.pinned link).Is (exe.reply (net k) s)
  raises : ∀ e, result = .error e → e.exc.isIpfsError = true

theorem afterLoop_raises {b : Option LastError} {e : Raised} {s : World}
    (h : (afterLoop b).exec s = (.error e, s')) : e.exc.isIpfsError = true := by
  rcases b with _ | text | statusCode <;>
    (cases h; rfl)

/-- The request that gets a link is the last. -/
theorem Requested.le_of_linked (h : self.Requested net w k s) {link : String}
    (hr : reaction (self.reply (net k) s) = .ok (.inl link)) (h' : self.Requested net w k' s') :
    k' ≤ k := by
  by_contra hlt
  obtain ⟨b, hreached, -, hx⟩ := h
  obtain ⟨b', hreached', -, -⟩ := h'
  obtain ⟨c, t, c', t', hturn, hnext, -⟩ := hreached'.earlier (Nat.zero_le k) (by omega)
  obtain ⟨rfl, rfl⟩ := hreached.unique hturn
  obtain ⟨lastError, -, hr', -⟩ := attempt_next hnext
  rw [hr] at hr'
  cases hr'

/-- Two requests that get a link are one. -/
theorem Requested.unique_of_linked (h : self.Requested net w k s) (h' : self.Requested net w k' s')
    {link link' : String} (hr : reaction (self.reply (net k) s) = .ok (.inl link))
    (hr' : reaction (self.reply (net k') s') = .ok (.inl link')) : k = k' ∧ s = s' := by
  have hle := h.le_of_linked hr h'
  have hge := h'.le_of_linked hr' h
  obtain rfl : k = k' := by omega
  obtain ⟨b, hreached, -, -⟩ := h
  obtain ⟨b', hreached', -, -⟩ := h'
  exact ⟨rfl, (hreached.unique hreached').2⟩

theorem run_sound (h : self.AnsweredUsably net w) (hrest : self.CanRest net w) :
    self.PublishesString net w ((self.run net).exec w).1 := by
  have hsound : ∀ k b s, Reached (fun k lastError => self.attempt (net k) k lastError) 0 none w
      k b s → k < 0 + self.attempts → self.exhausted s.clock.mono = false →
      Sound (self.reply (net k) s) (reaction (self.reply (net k) s)) := by
    intro k b s hreached hk hx
    exact (sound_iff _).mpr (h k s ⟨b, hreached, by omega, hx⟩)
  have hafter : ∀ b s, self.PublishesString net w ((afterLoop b).exec s).1 := by
    intro b s
    obtain ⟨e, he⟩ := exec_afterLoop b
    have hipfs := afterLoop_raises (he s)
    rw [he]
    refine ⟨fun link hlink => ?_, fun e' he' => ?_⟩
    · cases hlink
    · cases he'
      exact hipfs
  unfold run
  have hends := loop_ends (fun k lastError => self.attempt (net k) k lastError) afterLoop
    self.attempts 0 none w
  generalize (loop (fun k lastError => self.attempt (net k) k lastError) afterLoop
    self.attempts 0 none).exec w = r at hends
  cases hends with
  | stopped | usedUp => exact hafter _ _
  | @done k b s s' link hreached hk hturn =>
    obtain ⟨hx, hr, -⟩ := attempt_done hturn
    have hpinned := hsound k b s hreached hk hx
    rw [hr] at hpinned
    refine ⟨fun link' hlink => ?_, fun e he => ?_⟩
    · cases hlink
      exact ⟨k, s, ⟨b, hreached, by omega, hx⟩, hpinned⟩
    · cases he
  | @raised k b s s' e hreached hk hturn =>
    obtain ⟨hx, -, hr | ⟨lastError, exc, hr, hnext, hf, -⟩⟩ := attempt_raised hturn
    · have hipfs := hsound k b s hreached hk hx
      rw [hr] at hipfs
      refine ⟨fun link hlink => ?_, fun e' he' => ?_⟩
      · cases hlink
      · cases he'
        exact hipfs
    · rw [hrest k s lastError ⟨b, hreached, by omega, hx⟩ hr hnext] at hf
      cases hf

/-- What is raised instead of a pause is no IPFS error. -/
theorem pauseFault_raises {now : ℚ} {exc : Exc} (h : self.pauseFault k now = some exc) :
    exc.isIpfsError = false := by
  have hdoubled : ∀ x : Seconds, x.doubled k = .error exc → exc.isIpfsError = false := by
    rintro (n | q) hexc
    · cases hexc
    · by_cases hk : k < 1024
      · simp [Seconds.doubled, if_pos hk] at hexc
      · simp only [Seconds.doubled, if_neg hk, Except.error.injEq] at hexc
        rw [← hexc]
        rfl
  unfold pauseFault at h
  cases hs : self.sleepFor k now with
  | error exc' =>
    rw [hs] at h
    cases h
    exact hdoubled _ (self.sleepFor_error hs)
  | ok seconds =>
    rw [hs] at h
    simp only [Seconds.unsleepable] at h
    split at h
    · split at h
      · cases h
      · cases h
        rfl
    · cases h

theorem run_publishes_iff :
    self.PublishesString net w ((self.run net).exec w).1 ↔
      self.AnsweredUsably net w ∧ self.CanRest net w := by
  refine ⟨fun h => ⟨fun k s hrequested => ?_, fun k s lastError hrequested hr hk => ?_⟩,
    fun h => run_sound h.1 h.2⟩
  · obtain ⟨b, hreached, hk, hx⟩ := hrequested
    rw [← sound_iff]
    -- The attempt's turn decides the call, unless it asks for another one.
    have hrun := self.attempt_run (net k) k b s
    generalize hans : (self.attempt (net k) k b).exec s = r at hrun
    cases hrun with
    | exhausted hx' =>
      rw [hx] at hx'
      cases hx'
    | raised _ hr =>
      have hexec := hreached.raised afterLoop (n := self.attempts) (by omega) hans
      rw [hr]
      exact h.raises _ (by unfold run; rw [hexec])
    | @done link _ hr =>
      have hexec := hreached.done afterLoop (n := self.attempts) (by omega) hans
      obtain ⟨k', s', hrequested', hpinned⟩ := h.returns link (by unfold run; rw [hexec])
      obtain ⟨rfl, rfl⟩ := Requested.unique_of_linked ⟨b, hreached, hk, hx⟩ hrequested' hr
        hpinned.reaction_pinned
      rw [hr]
      exact hpinned
    | next _ hr =>
      rw [hr]
      trivial
    | overflowed _ hr =>
      rw [hr]
      trivial
  · obtain ⟨b, hreached, -, hx⟩ := hrequested
    cases hf : self.pauseFault k (self.posted (net k) s).clock.mono with
    | none => rfl
    | some exc =>
      -- The call ends with what the pause raises, which is typed by nothing.
      have hexec := hreached.raised afterLoop (n := self.attempts) (by omega)
        (attempt_overflowed hx hr hk hf)
      have hipfs := h.raises exc.raised (by unfold run; rw [hexec])
      have hraw := pauseFault_raises hf
      exact absurd (hraw.symm.trans hipfs) (by decide)

end

end IpfsPublish

/-! ## The fetch -/

namespace IpfsFetch

/-- A body with status 200 that is an object, or raises what the handler catches. -/
def UsableBody : Except Exc Json → Prop
  | .ok (.obj _) => True
  | .ok _ => False
  | .error (.raw exc) => exc.isValueError = true
  | .error (.ogpu e) => (Exc.ogpu e).isIpfsError = true

def Usable : Except Exc HttpResponse → Prop
  | .error exc => exc.isRequestException = true ∨ exc.isIpfsError = true
  | .ok response => response.statusCode = 200 → UsableBody response.json

/-- A call returns the JSON object of the reply, or raises one of the two IPFS errors. -/
structure FetchesObject (answer : Except Exc HttpResponse) (result : Except Raised Json) :
    Prop where
  returns : ∀ data, result = .ok data →
    ∃ fields, data = .obj fields ∧ answer = .ok ⟨200, .ok data⟩
  raises : ∀ e, result = .error e → e.exc.isIpfsError = true

theorem fetchesObject_error {answer : Except Exc HttpResponse} {e : Raised} :
    FetchesObject answer (.error e) ↔ e.exc.isIpfsError = true := by
  constructor
  · intro h
    exact h.raises e rfl
  · intro h
    refine ⟨fun data hdata => ?_, fun e' he' => ?_⟩
    · cases hdata
    · cases he'
      exact h

theorem parsed_iff (url : String) (answer : Except Exc HttpResponse) :
    FetchesObject answer (parsed url answer) ↔ Usable answer := by
  rcases answer with exc | response
  · rcases exc with e | ⟨cls, text⟩
    · simp [parsed, fetchesObject_error, Usable, Exc.raised, Exc.isRequestException]
    · cases cls <;> simp [parsed, fetchesObject_error, Usable, Exc.raised, OGPUError.from,
        Exc.isRequestException, Exc.isIpfsError]
  · obtain ⟨statusCode, json⟩ := response
    by_cases hstatus : statusCode = 200
    · subst hstatus
      have husable : Usable (.ok ⟨200, json⟩) ↔ UsableBody json :=
        ⟨fun h => h rfl, fun h _ => h⟩
      rw [husable]
      rcases json with (e | exc) | data
      · exact fetchesObject_error
      · by_cases hvalue : exc.isValueError = true
        · simp [parsed, fetchesObject_error, UsableBody, hvalue, OGPUError.from, Exc.isIpfsError]
        · simp [parsed, fetchesObject_error, UsableBody, hvalue, Exc.raised, Exc.isIpfsError]
      · constructor
        · intro h
          obtain ⟨fields, rfl, -⟩ := h.returns data rfl
          trivial
        · intro hbody
          refine ⟨fun data' hdata => ?_, fun e he => ?_⟩
          · cases hdata
            cases data with
            | obj fields => exact ⟨fields, rfl, rfl⟩
            | _ => cases hbody
          · cases he
    · simp [parsed, fetchesObject_error, Usable, hstatus, OGPUError.raised, Exc.isIpfsError]

end IpfsFetch

end OgpuSdk
