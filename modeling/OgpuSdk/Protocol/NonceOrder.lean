import OgpuSdk.Lib.Machine
import OgpuSdk.Lib.Timeline
import OgpuSdk.Protocol.Runs

/-!
# The order of the nonces

A node takes the transactions of an address in the order of their nonces, so a
transaction behind a gap waits for ever, and one at a nonce that is taken
replaces another or is refused. What a program sends is free of gaps (`Gapless`)
if every pending count it reads counts only what the node has accepted by then
(`CountRead.Counts`), however far the count lags behind; if the counts are
exact, its nonces rise as well (`Rising`). `Accounted` is what carries this
from call to call: below a cached nonce, everything is accepted. All of it is
kept for the events since any moment too (`AccountedSince`), whatever happened
before it. The node is one: the events are taken to be of calls on one network,
and whoever uses these accounts sees to that.
-/

namespace OgpuSdk

open Prog

/-! ## What the node has accepted -/

/-- The nonces of an address in transactions that a node has taken. -/
def takenNonces (events : List Event) (address : Address) : Set ℕ :=
  {n | ∃ x ∈ events.filterMap (·.op.send?),
    x.1.sender = address ∧ x.1.nonce = n ∧ x.2.taken = true}

/-- The nonces of an address that the node has accepted at a time: those of other wallets, and those
of the transactions among the events, which were all sent to it. -/
def acceptedNonces (others : ℚ → Address → Set ℕ) (t : ℚ) (events : List Event)
    (address : Address) : Set ℕ := others t address ∪ takenNonces events address

/-- What other wallets have accepted stays accepted. -/
def Growing (others : ℚ → Address → Set ℕ) : Prop :=
  ∀ address ⦃t t' : ℚ⦄, t ≤ t' → ∀ n ∈ others t address, n ∈ others t' address

/-- When a transaction is sent, every smaller nonce of its sender is accepted. -/
def Gapless (others : ℚ → Address → Set ℕ) : List Event → Prop :=
  EachAfter fun before e => ∀ tx answer, e.op = .send tx answer →
    ∀ n < tx.nonce, n ∈ acceptedNonces others e.start.mono before tx.sender

/-- `Gapless`, for the transactions of some senders. -/
def GaplessOf (senders : Set Address) (others : ℚ → Address → Set ℕ) : List Event → Prop :=
  EachAfter fun before e => ∀ tx answer, e.op = .send tx answer → tx.sender ∈ senders →
    ∀ n < tx.nonce, n ∈ acceptedNonces others e.start.mono before tx.sender

/-- `Rising`, for the transactions of some senders. -/
def RisingOf (senders : Set Address) : List Event → Prop :=
  EachAfter fun before e => ∀ tx answer, e.op = .send tx answer → tx.sender ∈ senders →
    ∀ n ∈ takenNonces before tx.sender, n < tx.nonce

/-- The world without the first `past` events. -/
def World.since (past : ℕ) (w : World) : World := { w with events := w.events.drop past }

/-- A pending count that is read for the reservation of an attempt. -/
structure CountRead where
  address : Address
  /-- the world the attempt is made in -/
  world : World
  took : Elapsed
  pending : ℕ

namespace CountRead

variable (others : ℚ → Address → Set ℕ) (r : CountRead)

/-- What is counted is accepted by the time the answer is there. -/
def Counts : Prop := ∀ n < r.pending,
  n ∈ acceptedNonces others (r.world.clock.advance r.took).mono r.world.events r.address

/-- What comes after it was not accepted when the attempt was made. -/
def Exact : Prop := r.pending ∉ acceptedNonces others r.world.clock.mono r.world.events r.address

def since (past : ℕ) : CountRead := { r with world := r.world.since past }

end CountRead

/-- Nothing that the process has to account for is missing. -/
structure Accounted (others : ℚ → Address → Set ℕ) (w : World) : Prop where
  covers : ∀ address,
    (w.nonces address).Covers (acceptedNonces others w.clock.mono w.events address)
  below : ∀ address, ∀ n ∈ takenNonces w.events address, ∀ m ≤ n,
    m ∈ acceptedNonces others w.clock.mono w.events address
  gapless : Gapless others w.events

/-- Of what happened after the first `past` events, nothing is missing. -/
structure AccountedSince (others : ℚ → Address → Set ℕ) (past : ℕ) (w : World) : Prop where
  le : past ≤ w.events.length
  accounted : Accounted others (w.since past)

section

variable {others : ℚ → Address → Set ℕ} {w w' : World}

/-- Everything is accepted of those who are not looked at. -/
def onlyOf (senders : Set Address) (others : ℚ → Address → Set ℕ) : ℚ → Address → Set ℕ :=
  fun t address => {n | address ∈ senders → n ∈ others t address}

theorem Growing.onlyOf (hothers : Growing others) (senders : Set Address) :
    Growing (onlyOf senders others) :=
  fun address _ _ ht n hn hmem => hothers address ht n (hn hmem)

theorem mem_acceptedNonces_onlyOf {senders : Set Address} {t : ℚ} {events : List Event}
    {address : Address} {n : ℕ} : n ∈ acceptedNonces (onlyOf senders others) t events address ↔
      (address ∈ senders → n ∈ acceptedNonces others t events address) := by
  unfold acceptedNonces onlyOf
  simp only [Set.mem_union, Set.mem_ofPred_eq]
  tauto

/-- Gaps of those who are looked at are gaps. -/
theorem Gapless.gaplessOf {senders : Set Address} {events : List Event}
    (h : Gapless (onlyOf senders others) events) : GaplessOf senders others events :=
  fun before e hprefix tx answer hop hsender n hn =>
    mem_acceptedNonces_onlyOf.mp (h before e hprefix tx answer hop n hn) hsender

/-- A path leads on since any moment before it. -/
theorem World.Path.since {P Q : World → Op → Prop} {past : ℕ} (h : World.Path P w w')
    (hpast : past ≤ w.events.length) (hPQ : ∀ u op, P u op → Q (u.since past) op) :
    World.Path Q (w.since past) (w'.since past) := by
  induction h with
  | refl => exact .refl
  | advance e _ ih => exact ih.advance e
  | setNonce address c _ ih => exact ih.setNonce address c
  | setChain c _ ih => exact ih.setChain c
  | @record u op hpath hP ih =>
    have hrecord : (u.record op).since past = (u.since past).record op := by
      unfold World.since World.record
      rw [List.drop_append_of_le_length (hpast.trans hpath.events_isPrefix.length_le)]
    rw [hrecord]
    exact ih.record (hPQ u op hP)

theorem takenNonces_append (events more : List Event) (address : Address) :
    takenNonces (events ++ more) address =
      takenNonces events address ∪ takenNonces more address := by
  ext n
  simp only [takenNonces, List.filterMap_append, List.mem_append, or_and_right, exists_or,
    Set.mem_ofPred_eq, Set.mem_union]

theorem takenNonces_mono {events events' : List Event} (h : events <+: events')
    (address : Address) : takenNonces events address ⊆ takenNonces events' address := by
  obtain ⟨more, rfl⟩ := h
  rw [takenNonces_append]
  exact Set.subset_union_left

theorem acceptedNonces_mono {t t' : ℚ} {events events' : List Event}
    (hothers : Growing others) (ht : t ≤ t') (h : events <+: events')
    (address : Address) :
    acceptedNonces others t events address ⊆ acceptedNonces others t' events' address :=
  Set.union_subset_union (hothers address ht) (takenNonces_mono h address)

/-- What is accepted stays accepted. -/
theorem World.Path.accepted {P : World → Op → Prop} (h : World.Path P w w')
    (hothers : Growing others) (address : Address) :
    acceptedNonces others w.clock.mono w.events address ⊆
      acceptedNonces others w'.clock.mono w'.events address :=
  acceptedNonces_mono hothers h.clock_le h.events_isPrefix address

/-- The operation leaves no gap. -/
def InOrder (others : ℚ → Address → Set ℕ) (w : World) (op : Op) : Prop :=
  ∀ tx answer, op = .send tx answer →
    ∀ n < tx.nonce, n ∈ acceptedNonces others w.clock.mono w.events tx.sender

theorem mem_takenNonces_concat {events : List Event} {e : Event} {address : Address} {n : ℕ} :
    n ∈ takenNonces (events ++ [e]) address ↔ n ∈ takenNonces events address ∨
      ∃ tx answer, e.op = .send tx answer ∧ tx.sender = address ∧ tx.nonce = n ∧
        answer.taken = true := by
  rw [takenNonces_append]
  refine or_congr Iff.rfl ?_
  unfold takenNonces
  obtain ⟨start, op⟩ := e
  cases op <;> simp [Op.send?]

/-- Along a path without gaps there is none, and nothing is taken above one. -/
theorem World.Path.inOrder (h : World.Path (InOrder others) w w')
    (hothers : Growing others) (hgapless : Gapless others w.events)
    (hbelow : ∀ address, ∀ n ∈ takenNonces w.events address, ∀ m ≤ n,
      m ∈ acceptedNonces others w.clock.mono w.events address) :
    Gapless others w'.events ∧ ∀ address, ∀ n ∈ takenNonces w'.events address, ∀ m ≤ n,
      m ∈ acceptedNonces others w'.clock.mono w'.events address := by
  induction h with
  | refl => exact ⟨hgapless, hbelow⟩
  | @advance u e _ ih =>
    refine ⟨ih.1, fun address n hn m hm => ?_⟩
    exact acceptedNonces_mono hothers (Clock.le_advance _ _) List.prefix_rfl address
      (ih.2 address n hn m hm)
  | setNonce _ _ _ ih => exact ih
  | setChain _ _ ih => exact ih
  | @record u op _ hop ih =>
    have hstays : ∀ address, acceptedNonces others u.clock.mono u.events address ⊆
        acceptedNonces others u.clock.mono (u.events ++ [⟨u.clock, op⟩]) address :=
      fun address => acceptedNonces_mono hothers (le_refl _) (List.prefix_append _ _) address
    refine ⟨ih.1.concat hop, fun address n hn m hm => ?_⟩
    rcases mem_takenNonces_concat.mp hn with hn | ⟨tx, answer, rfl, rfl, rfl, htaken⟩
    · exact hstays address (ih.2 address n hn m hm)
    · rcases Nat.lt_or_eq_of_le hm with hlt | rfl
      · exact hstays _ (hop tx answer rfl m hlt)
      · exact .inr (mem_takenNonces_concat.mpr (.inr ⟨tx, answer, rfl, rfl, rfl, htaken⟩))

/-- Accounts stay in order along a path without gaps that ends with covered counters. -/
theorem Accounted.path (h : Accounted others w) (hpath : World.Path (InOrder others) w w')
    (hothers : Growing others)
    (hcovers : ∀ address,
      (w'.nonces address).Covers (acceptedNonces others w'.clock.mono w'.events address)) :
    Accounted others w' := by
  obtain ⟨hgapless, hbelow⟩ := hpath.inOrder hothers h.gapless h.below
  exact ⟨hcovers, hbelow, hgapless⟩

end

/-! ## Attempts -/

namespace TxExecutor

/-- The count that an attempt made in `w` reads. -/
inductive Reads (self : TxExecutor) (net : AttemptNet) (w : World) : CountRead → Prop where
  | mk {pending : ℕ} : self.expired w.clock.mono = false →
      net.pendingCount.answer = .ok pending →
      Reads self net w ⟨self.signer.address, w, net.pendingCount.took, pending⟩

variable {self : TxExecutor} {others : ℚ → Address → Set ℕ} {w w' u : World} {k : Nat}
  {nonce pending past : ℕ} {senders : Set Address}

section

variable {net : AttemptNet} {a : Except Raised (Turn Receipt (Option RawExc))}

theorem settled_counter {broadcast : Bool} {e : Raised} {S : Set ℕ}
    (h : (u.nonces self.signer.address).Covers S) :
    ((self.settled net k broadcast e u).nonces self.signer.address).Covers S := by
  have hdrop : ((if resets e then self.dropped u else u).nonces self.signer.address).Covers S := by
    cases resets e with
    | true =>
      rw [if_pos rfl, dropped, World.setNonce_nonces, Function.update_self]
      exact .none
    | false => exact h
  unfold settled
  cases self.retried k broadcast e with
  | none => exact hdrop
  | some exc =>
    rw [slept_nonces]
    exact hdrop

/-- Handing a nonce back uncovers nothing else. -/
theorem handedBack_counter {S : Set ℕ}
    (h : (u.nonces self.signer.address).Covers (insert nonce S)) :
    ((self.handedBack nonce u).nonces self.signer.address).Covers S := by
  rw [handedBack, World.setNonce_nonces, Function.update_self]
  refine h.release fun n hn hne => ?_
  exact (Set.mem_insert_iff.mp hn).resolve_left hne

theorem nonces_ne {address : Address} (hne : address ≠ self.signer.address)
    (h : self.AttemptRun net k w (a, w')) : w'.nonces address = w.nonces address := by
  have hupdate : ∀ (u : World) (c : Counter),
      (u.setNonce self.signer.address c).nonces address = u.nonces address :=
    fun u c => Function.update_of_ne hne _ _
  have hreserved : ∀ pending, (self.reserved net pending w).nonces address = w.nonces address :=
    fun pending => hupdate _ _
  have hsettled : ∀ (broadcast : Bool) (e : Raised) (u : World),
      (self.settled net k broadcast e u).nonces address = u.nonces address := by
    intro broadcast e u
    have hdrop : (if resets e then self.dropped u else u).nonces address = u.nonces address := by
      cases resets e with
      | true => exact hupdate _ _
      | false => rfl
    unfold settled
    cases self.retried k broadcast e with
    | none => exact hdrop
    | some exc => rwa [slept_nonces]
  generalize hr : (a, w') = r at h
  cases h with
  | expired =>
    cases hr
    rfl
  | unreserved =>
    cases hr
    rfl
  | @handled pending broadcast e u hx hp hraise =>
    cases hr
    rw [hsettled, ← hreserved pending]
    cases hraise with
    | unsent => exact (hupdate _ _).trans (congrFun (faultAt_nonces _) _)
    | refused => exact hupdate _ _
    | unconfirmed => rfl
  | @done pending r u hx hp hret =>
    cases hr
    obtain ⟨-, -, -⟩ := hret
    exact hreserved pending

/-- What is reserved lies above accepted nonces only. -/
theorem issue_accepted (hothers : Growing others) (hw : Accounted others (w.since past))
    (hcounts : (CountRead.since ⟨self.signer.address, w, net.pendingCount.took, pending⟩
      past).Counts others) :
    ∀ n < self.issue pending w, n ∈ acceptedNonces others
      (w.clock.advance net.pendingCount.took).mono (w.events.drop past) self.signer.address := by
  have hcovers := (hw.covers self.signer.address).mono (acceptedNonces_mono hothers
    (Clock.le_advance w.clock net.pendingCount.took) List.prefix_rfl self.signer.address)
  exact hcovers.current hcounts

/-- A nonce sent with an answer is taken. -/
theorem AttemptRun.taken (hpast : past ≤ w.events.length) (hx : self.expired w.clock.mono = false)
    (hp : net.pendingCount.answer = .ok pending)
    (hf : self.fault net (w.clock.advance net.pendingCount.took) = none) {hash : TxHash}
    (hresult : net.send.result = .ok hash) (h : self.AttemptRun net k w (a, w')) :
    self.issue pending w ∈ takenNonces (w'.events.drop past) self.signer.address := by
  obtain ⟨later, hlater⟩ := h.anyPath.events_isPrefix
  have hsends : later.filterMap (·.op.send?) = [(self.tx (self.issue pending w), net.send)] := by
    have hall := h.sends
    rw [sending_eq_some.mpr ⟨pending, hp, hx, hf, rfl⟩] at hall
    unfold World.sends at hall
    rw [← hlater, List.filterMap_append] at hall
    exact List.append_cancel_left hall
  rw [← hlater, List.drop_append_of_le_length hpast, takenNonces_append]
  refine .inr ⟨_, hsends ▸ List.mem_singleton_self _, rfl, rfl, ?_⟩
  rw [SendAnswer.result_eq_ok.mp hresult]
  rfl

theorem AttemptRun.covers (hothers : Growing others) (hw : AccountedSince others past w)
    (hreads : ∀ r, self.Reads net w r → (r.since past).Counts others)
    (h : self.AttemptRun net k w (a, w')) :
    (w'.nonces self.signer.address).Covers
      (acceptedNonces others w'.clock.mono (w'.events.drop past) self.signer.address) := by
  have hrun := h
  generalize hr : (a, w') = r at h
  have hreserved : ∀ pending, self.expired w.clock.mono = false →
      net.pendingCount.answer = .ok pending →
      ((self.reserved net pending w).nonces self.signer.address).Covers
        (insert (self.issue pending w) (acceptedNonces others
          (self.reserved net pending w).clock.mono ((self.reserved net pending w).events.drop past)
          self.signer.address)) := by
    intro pending hx hp
    have hclock := acceptedNonces_mono hothers (Clock.le_advance w.clock net.pendingCount.took)
      (List.prefix_refl (w.events.drop past)) self.signer.address
    have hevents := acceptedNonces_mono hothers
      (le_refl (w.clock.advance net.pendingCount.took).mono)
      ((List.prefix_append w.events [⟨w.clock.advance net.pendingCount.took,
        .reserve self.signer.address (self.issue pending w)⟩]).drop past) self.signer.address
    have hcovers := ((hw.accounted.covers self.signer.address).mono hclock).reserve
      (hreads _ (.mk hx hp))
    have hnonces : (self.reserved net pending w).nonces self.signer.address =
        (w.nonces self.signer.address).reserve pending := Function.update_self _ _ _
    rw [hnonces]
    exact hcovers.mono (Set.insert_subset_insert hevents)
  have hlater : ∀ pending, self.expired w.clock.mono = false →
      net.pendingCount.answer = .ok pending →
      acceptedNonces others (self.reserved net pending w).clock.mono
        ((self.reserved net pending w).events.drop past) self.signer.address ⊆
        acceptedNonces others w'.clock.mono (w'.events.drop past) self.signer.address := by
    intro pending hx hp
    have hpath := hrun.path_reserved (P := fun _ _ => True) (fun _ _ _ => trivial) hx hp
      (fun _ _ _ _ _ => trivial)
    exact acceptedNonces_mono hothers hpath.clock_le (hpath.events_isPrefix.drop past) _
  cases h with
  | expired =>
    cases hr
    exact hw.accounted.covers _
  | unreserved =>
    cases hr
    exact (hw.accounted.covers _).mono
      (acceptedNonces_mono hothers (Clock.le_advance _ _) List.prefix_rfl _)
  | @handled pending broadcast e u hx hp hraise =>
    cases hr
    have hcovers := hreserved pending hx hp
    have hlater := hlater pending hx hp
    apply settled_counter
    cases hraise with
    | unsent =>
      refine (handedBack_counter ?_).mono hlater
      rwa [faultAt_nonces]
    | refused => exact (handedBack_counter hcovers).mono hlater
    | @unconfirmed hash _ hf hresult hconfirm =>
      exact hcovers.mono
        (Set.insert_subset (.inr (hrun.taken hw.le hx hp hf hresult)) hlater)
  | @done pending r u hx hp hret =>
    cases hr
    have hcovers := hreserved pending hx hp
    have hlater := hlater pending hx hp
    obtain @⟨hash, _, hf, hresult, hconfirm⟩ := hret
    exact hcovers.mono (Set.insert_subset (.inr (hrun.taken hw.le hx hp hf hresult)) hlater)

theorem AttemptRun.inOrder (hothers : Growing others) (hw : AccountedSince others past w)
    (hreads : ∀ r, self.Reads net w r → (r.since past).Counts others)
    (h : self.AttemptRun net k w (a, w')) :
    World.Path (InOrder others) (w.since past) (w'.since past) := by
  have hpath : World.Path (fun u op => InOrder others (u.since past) op) w w' := by
    refine h.path ?_ (fun u nonce _ tx answer hop => nomatch hop) ?_
    · intro u op hquiet tx answer hop
      subst hop
      cases hquiet
    · intro u pending' tx hsending hclock hevents tx' answer hop n hn
      cases hop
      obtain ⟨pending, hp, hx, hf, rfl⟩ := sending_eq_some.mp hsending
      have hissue := issue_accepted hothers hw.accounted (hreads _ (.mk hx hp)) n hn
      refine acceptedNonces_mono hothers ?_ ?_ _ hissue
      · show (w.clock.advance net.pendingCount.took).mono ≤ u.clock.mono
        rw [hclock]
        exact (Clock.le_advance _ net.build.took).trans (Clock.le_advance _ net.sign.took)
      · show w.events.drop past <+: u.events.drop past
        rw [hevents]
        exact (List.prefix_append _ _).drop past
  exact hpath.since hw.le fun _ _ h => h

/-- An attempt keeps the accounts. -/
theorem AttemptRun.accounted (hothers : Growing others) (hw : AccountedSince others past w)
    (hreads : ∀ r, self.Reads net w r → (r.since past).Counts others)
    (h : self.AttemptRun net k w (a, w')) : AccountedSince others past w' := by
  have hpath := h.inOrder hothers hw hreads
  refine ⟨hw.le.trans h.anyPath.events_isPrefix.length_le, ?_⟩
  refine hw.accounted.path hpath hothers fun address => ?_
  by_cases haddress : address = self.signer.address
  · subst haddress
    exact h.covers hothers hw hreads
  · show (w'.nonces address).Covers _
    rw [nonces_ne haddress h]
    exact (hw.accounted.covers address).mono (hpath.accepted hothers address)

/-- Against an exact count, the cached nonce makes no difference. -/
theorem issue_exact (hw : Accounted others (w.since past))
    (hexact : (CountRead.since ⟨self.signer.address, w, net.pendingCount.took, pending⟩
      past).Exact others) :
    self.issue pending w = pending := by
  rcases (w.nonces self.signer.address).current_cases pending with hcase | hcase
  · exact hcase
  · by_contra hne
    have hlt : pending < self.issue pending w :=
      Nat.lt_of_le_of_ne (Nat.le_max_right _ _) (Ne.symm hne)
    exact hexact (hw.covers _ _ hcase pending hlt)

theorem AttemptRun.rising (hw : AccountedSince others past w)
    (hreads : ∀ r, self.Reads net w r → r.address ∈ senders → (r.since past).Exact others)
    (h : self.AttemptRun net k w (a, w')) (hrising : RisingOf senders (w.since past).events) :
    RisingOf senders (w'.since past).events := by
  have hpath : World.Path (fun u op => ∀ tx answer, op = .send tx answer → tx.sender ∈ senders →
      ∀ n ∈ takenNonces (u.events.drop past) tx.sender, n < tx.nonce) w w' := by
    refine h.path ?_ (fun u nonce _ tx answer hop => nomatch hop) ?_
    · intro u op hquiet tx answer hop
      subst hop
      cases hquiet
    · intro u pending' tx hsending hclock hevents tx' answer hop hsender n hn
      cases hop
      obtain ⟨pending, hp, hx, hf, rfl⟩ := sending_eq_some.mp hsending
      have hexact := hreads _ (.mk hx hp) hsender
      have hreserved : (self.reserved net pending' w).events.drop past =
          w.events.drop past ++ [⟨w.clock.advance net.pendingCount.took,
            .reserve self.signer.address (self.issue pending' w)⟩] :=
        List.drop_append_of_le_length hw.le
      rw [hevents, hreserved] at hn
      have hn' : n ∈ takenNonces (w.events.drop past) self.signer.address := by
        rcases mem_takenNonces_concat.mp hn with hn | ⟨_, _, hop, -⟩
        · exact hn
        · cases hop
      -- What is taken has everything below it accepted, and the count is not.
      by_contra hle
      have hissue : self.issue pending w = pending := issue_exact hw.accounted hexact
      refine hexact (hw.accounted.below _ n hn' pending ?_)
      rw [← hissue]
      exact Nat.le_of_not_lt hle
  have hsince : World.Path (fun u op => ∀ tx answer, op = .send tx answer → tx.sender ∈ senders →
      ∀ n ∈ takenNonces u.events tx.sender, n < tx.nonce) (w.since past) (w'.since past) :=
    hpath.since hw.le fun _ _ h => h
  exact hsince.events_inv (I := RisingOf senders) (fun u op hop hu => hu.concat hop) hrising

end

variable {net : ℕ → AttemptNet} {connected : Reply Bool}

/-- The counts that a call made in `w` reads. -/
def CallReads (self : TxExecutor) (net : ℕ → AttemptNet) (connected : Reply Bool) (w : World)
    (r : CountRead) : Prop :=
  ∃ k s, self.Made net connected w k s ∧ self.Reads (net k) s r

end TxExecutor

/-! ## Programs -/

/-- Accounts that are in order in `w`, since whatever moment, are in order in `w'`, as far as the
counts read in between are what they should be. -/
def KeepsAccounts (others : ℚ → Address → Set ℕ) (w w' : World) (reads : CountRead → Prop) : Prop :=
  ∀ past, AccountedSince others past w → (∀ r, reads r → (r.since past).Counts others) →
    AccountedSince others past w' ∧ ∀ senders,
      (∀ r, reads r → r.address ∈ senders → (r.since past).Exact others) →
      RisingOf senders (w.since past).events → RisingOf senders (w'.since past).events

/-- From every world, the program keeps the accounts. -/
def SDK.Accounts {α : Type} (others : ℚ → Address → Set ℕ) (x : SDK α)
    (reads : World → CountRead → Prop) : Prop :=
  ∀ w, KeepsAccounts others w (x.exec w).2 (reads w)

/-- What is cached is what was, or was forgotten. -/
def World.Forgets (nonces : Nonces) (w : World) : Prop :=
  ∀ address, w.nonces address = nonces address ∨ w.nonces address = none

/-- The program sends nothing, and of the cached nonces it forgets some at most. -/
structure SDK.Uninvolved {α : Type} (x : SDK α) : Prop where
  keeps : SDK.Keeps (fun _ op => op.send? = none) x
  nonces : ∀ nonces, Preserves (World.Forgets nonces) x

namespace KeepsAccounts

variable {others : ℚ → Address → Set ℕ} {w w' w'' : World} {reads reads' : CountRead → Prop}

theorem refl : KeepsAccounts others w w fun _ => False := fun _ hw _ => ⟨hw, fun _ _ h => h⟩

theorem trans (h : KeepsAccounts others w w' reads) (h' : KeepsAccounts others w' w'' reads') :
    KeepsAccounts others w w'' fun r => reads r ∨ reads' r := by
  intro past hw hcounts
  obtain ⟨hw', hrising⟩ := h past hw fun r hr => hcounts r (.inl hr)
  obtain ⟨hw'', hrising'⟩ := h' past hw' fun r hr => hcounts r (.inr hr)
  exact ⟨hw'', fun senders hexact hw => hrising' senders (fun r hr => hexact r (.inr hr))
    (hrising senders (fun r hr => hexact r (.inl hr)) hw)⟩

theorem mono (h : KeepsAccounts others w w' reads) (hreads : ∀ r, reads r → reads' r) :
    KeepsAccounts others w w' reads' := by
  intro past hw hcounts
  obtain ⟨hw', hrising⟩ := h past hw fun r hr => hcounts r (hreads r hr)
  exact ⟨hw', fun senders hexact => hrising senders fun r hr => hexact r (hreads r hr)⟩

/-- Where nothing is sent and only some nonces are forgotten, nothing has to be read. -/
theorem silent (hothers : Growing others) (hsilent : World.Path (fun _ op => op.send? = none) w w')
    (hnonces : w'.Forgets w.nonces) : KeepsAccounts others w w' fun _ => False := by
  intro past hw _
  have hsince : World.Path (fun _ op => op.send? = none) (w.since past) (w'.since past) :=
    hsilent.since hw.le fun _ _ h => h
  have hpath : World.Path (InOrder others) (w.since past) (w'.since past) := by
    refine hsince.imp fun u op hop tx answer hsend => ?_
    subst hsend
    cases hop
  refine ⟨⟨hw.le.trans hsilent.events_isPrefix.length_le, ?_⟩, fun senders _ hrising => ?_⟩
  · refine hw.accounted.path hpath hothers fun address => ?_
    show (w'.nonces address).Covers _
    rcases hnonces address with hsame | hforgotten
    · rw [hsame]
      exact (hw.accounted.covers address).mono (hpath.accepted hothers address)
    · rw [hforgotten]
      exact .none
  · refine hsince.events_inv (I := RisingOf senders) (fun u op hop hu => hu.concat ?_) hrising
    intro tx answer hsend
    rw [show op = .send tx answer from hsend] at hop
    cases hop

/-- What every step of a machine does, a run does. -/
theorem run {σ α : Type} {M : Machine σ α} (world : σ → World)
    (readsOf : σ → α → CountRead → Prop) {s₀ s : σ} {as : List α}
    (hstep : ∀ s a s', M.step s a = some s' →
      KeepsAccounts others (world s) (world s') (readsOf s a)) (hr : M.run s₀ as = some s) :
    KeepsAccounts others (world s₀) (world s) (M.Bears readsOf s₀ as) := by
  refine Machine.run_inv (P := fun _ => True)
    (I := fun as s => KeepsAccounts others (world s₀) (world s) (M.Bears readsOf s₀ as))
    (refl.mono fun _ h => h.elim) ?_ (by simp) hr
  intro as s a s' _ hs ha ih
  refine (ih.trans (hstep s a s' ha)).mono ?_
  rintro r (hr | hr)
  · exact hr.earlier [a]
  · exact .last hs hr

end KeepsAccounts

namespace SDK

variable {α β : Type} {others : ℚ → Address → Set ℕ} {x : SDK α}

theorem Uninvolved.of_unchanged (h : ∀ w, (x.exec w).2 = w) : x.Uninvolved :=
  ⟨.of_unchanged h, fun _ => .of_unchanged h⟩

theorem Uninvolved.bind {f : α → SDK β} (hx : x.Uninvolved) (hf : ∀ a, (f a).Uninvolved) :
    (x >>= f).Uninvolved :=
  ⟨.bind hx.keeps fun a => (hf a).keeps, fun n => .bind (hx.nonces n) fun a => (hf a).nonces n⟩

theorem Uninvolved.accounts (hothers : Growing others)
    (h : x.Uninvolved) : x.Accounts others fun _ _ => False :=
  fun w => .silent hothers (h.keeps w) (h.nonces w.nonces w fun _ => .inl rfl)

theorem Accounts.bind {f : α → SDK β} {reads : World → CountRead → Prop}
    {readsOf : α → World → CountRead → Prop} (hx : x.Accounts others reads)
    (hf : ∀ a, (f a).Accounts others (readsOf a)) :
    (x >>= f).Accounts others fun w r =>
      reads w r ∨ ∃ a w', x.exec w = (.ok a, w') ∧ readsOf a w' r := by
  intro w
  have hfirst := hx w
  rw [exec_bind]
  rcases h : x.exec w with ⟨e | a, w'⟩
  · rw [h] at hfirst
    exact hfirst.mono fun r hr => .inl hr
  · rw [h] at hfirst
    refine (hfirst.trans (hf a w')).mono ?_
    rintro r (hr | hr)
    · exact .inl hr
    · exact .inr ⟨a, w', h, hr⟩

theorem Accounts.mono {reads reads' : World → CountRead → Prop} (h : x.Accounts others reads)
    (hreads : ∀ w r, reads w r → reads' w r) : x.Accounts others reads' :=
  fun w => (h w).mono (hreads w)

end SDK

theorem uninvolved_getWeb3 (connected : Reply Bool) : (getWeb3 connected).Uninvolved :=
  ⟨keeps_getWeb3 _, fun _ w hw address => by rw [getWeb3_nonces]; exact hw address⟩

namespace TxExecutor

variable {self : TxExecutor} {others : ℚ → Address → Set ℕ} {net : ℕ → AttemptNet}
  {connected : Reply Bool} {w s : World} {k : ℕ}

theorem AttemptRun.keepsAccounts (hothers : Growing others) {net : AttemptNet} {w' : World}
    {a : Except Raised (Turn Receipt (Option RawExc))} (h : self.AttemptRun net k w (a, w')) :
    KeepsAccounts others w w' (self.Reads net w) :=
  fun _ hw hcounts => ⟨h.accounted hothers hw hcounts, fun _ hexact => h.rising hw hexact⟩

/-- Every attempt of a call is made with the accounts in order. -/
theorem Made.keepsAccounts (hothers : Growing others) (h : self.Made net connected w k s) :
    KeepsAccounts others w s (self.CallReads net connected w) := by
  refine h.induct (fun _ s => KeepsAccounts others w s (self.CallReads net connected w)) ?_ ?_
  · intro url w₀ hw₀
    have hstart := (uninvolved_getWeb3 connected).accounts hothers w
    rw [hw₀] at hstart
    exact hstart.mono fun _ h => h.elim
  · intro j t t' ht ih hretry
    obtain ⟨exc, hrun⟩ := hretry.attemptRun
    refine (ih.trans (hrun.keepsAccounts hothers)).mono ?_
    rintro r (hr | hr)
    · exact hr
    · exact ⟨j, t, ht, hr⟩

theorem execute_accounts (hothers : Growing others) (self : TxExecutor)
    (net : ℕ → AttemptNet) (connected : Reply Bool) :
    (self.execute net connected).Accounts others (self.CallReads net connected) := by
  intro w
  have hlast : ∀ k s a w', self.Made net connected w k s → self.AttemptRun (net k) k s (a, w') →
      KeepsAccounts others w w' (self.CallReads net connected w) := by
    intro k s a w' hm hrun
    refine ((hm.keepsAccounts hothers).trans (hrun.keepsAccounts hothers)).mono ?_
    rintro r (hr | hr)
    · exact hr
    · exact ⟨k, s, hm, hr⟩
  have hrun := self.execute_run net connected w
  generalize (self.execute net connected).exec w = r at hrun
  cases hrun with
  | unconnected hw₀ =>
    have hstart := (uninvolved_getWeb3 connected).accounts hothers w
    rw [hw₀] at hstart
    exact hstart.mono fun _ h => h.elim
  | raised hm ha => exact hlast _ _ _ _ hm ha
  | done hm ha => exact hlast _ _ _ _ hm ha

end TxExecutor

end OgpuSdk
