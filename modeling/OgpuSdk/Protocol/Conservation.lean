import OgpuSdk.Protocol.Runs
import Mathlib.Data.List.TakeWhile

/-!
# Reservations are conserved

Each nonce a call reserves is consumed by one send that returns or handed back
by one `release_nonce`, and nothing else that settles a reservation happens
before the next one. `Ledger` is the shape of what a call does, one turn for
each reservation; what it means for every reservation (`Conserves`) is read off
the shape.
-/

namespace OgpuSdk

open Prog

/-! ## Turns -/

namespace Op

def reserves : Op → Bool
  | .reserve _ _ => true
  | _ => false

/-- What can settle a reservation: a hand-back, or a send that returned. -/
def settles : Op → Bool
  | .release _ _ | .send _ (.accepted _) => true
  | _ => false

def resetsCache : Op → Bool
  | .reset _ => true
  | _ => false

/-- The operation settles the reservation of `nonce` for `address`. -/
inductive Settles (address : Address) (nonce : Nat) : Op → Prop where
  | handedBack : Settles address nonce (.release address nonce)
  | consumed {tx : Tx} {hash : TxHash} : tx.sender = address → tx.nonce = nonce →
      Settles address nonce (.send tx (.accepted hash))

end Op

/-- Up to the next reservation or the end, each reservation is settled once: nothing else that
could settle one happens, and nothing resets the cache before. -/
def Conserves (ops : List Op) : Prop :=
  ∀ before address nonce after, ops = before ++ .reserve address nonce :: after →
    ∃ first op rest, after.takeWhile (!·.reserves) = first ++ op :: rest ∧
      op.Settles address nonce ∧
      (∀ o ∈ first, o.settles = false ∧ o.resetsCache = false) ∧ ∀ o ∈ rest, o.settles = false

/-- Turns, one for each reservation. -/
inductive Ledger : List Op → Prop where
  | nil : Ledger []
  | turn {ops first rest : List Op} {op : Op} {address : Address} {nonce : Nat} : Ledger ops →
      (∀ o ∈ first, o.reserves = false ∧ o.settles = false ∧ o.resetsCache = false) →
      op.Settles address nonce → (∀ o ∈ rest, o.reserves = false ∧ o.settles = false) →
      Ledger (ops ++ .reserve address nonce :: (first ++ op :: rest))

theorem Op.Settles.not_reserves {address : Address} {nonce : Nat} {op : Op}
    (h : op.Settles address nonce) : op.reserves = false := by
  cases h <;> rfl

/-- A reservation ends the turn before it. -/
theorem takeWhile_reserve (xs ys : List Op) (address : Address) (nonce : Nat) :
    (xs ++ .reserve address nonce :: ys).takeWhile (!·.reserves) = xs.takeWhile (!·.reserves) := by
  induction xs with
  | nil => rfl
  | cons x xs ih =>
    rw [List.cons_append, List.takeWhile_cons, List.takeWhile_cons, ih]

theorem takeWhile_turn {xs : List Op} (h : ∀ o ∈ xs, o.reserves = false) :
    xs.takeWhile (!·.reserves) = xs := by
  rw [List.takeWhile_eq_self_iff]
  intro o ho
  rw [h o ho]
  rfl

theorem Ledger.conserves {ops : List Op} (h : Ledger ops) : Conserves ops := by
  induction h with
  | nil =>
    intro before address nonce after heq
    simp at heq
  | @turn ops first rest op address nonce hledger hfirst hop hrest ih =>
    have hturn : ∀ o ∈ first ++ op :: rest, o.reserves = false := by
      intro o ho
      rcases List.mem_append.mp ho with ho | ho
      · exact (hfirst o ho).1
      · rcases List.mem_cons.mp ho with rfl | ho
        · exact hop.not_reserves
        · exact (hrest o ho).1
    -- What the last turn's own reservation asks for.
    have hlast : ∃ first' op' rest', (first ++ op :: rest).takeWhile (!·.reserves) =
          first' ++ op' :: rest' ∧ op'.Settles address nonce ∧
        (∀ o ∈ first', o.settles = false ∧ o.resetsCache = false) ∧
        ∀ o ∈ rest', o.settles = false := by
      rw [takeWhile_turn hturn]
      exact ⟨first, op, rest, rfl, hop, fun o ho => (hfirst o ho).2, fun o ho => (hrest o ho).2⟩
    intro before address' nonce' after heq
    rcases List.append_eq_append_iff.mp heq with ⟨early, hbefore, hafter⟩ | ⟨late, hops, hafter⟩
    · cases early with
      | nil =>
        cases hafter
        exact hlast
      | cons o early =>
        rw [List.cons_append, List.cons.injEq] at hafter
        have hmem : Op.reserve address' nonce' ∈ first ++ op :: rest := by
          rw [hafter.2]
          simp
        cases hturn _ hmem
    · cases late with
      | nil =>
        cases hafter
        exact hlast
      | cons o late =>
        rw [List.cons_append, List.cons.injEq] at hafter
        obtain ⟨rfl, rfl⟩ := hafter
        rw [takeWhile_reserve]
        exact ih before address' nonce' late hops

/-! ## What an attempt does -/

namespace World

/-- What has been done so far. -/
def ops (w : World) : List Op := w.events.map (·.op)

@[simp] theorem ops_advance (w : World) (e : Elapsed) : (w.advance e).ops = w.ops := rfl

@[simp] theorem ops_setNonce (w : World) (address : Address) (c : Counter) :
    (w.setNonce address c).ops = w.ops := rfl

@[simp] theorem ops_record (w : World) (op : Op) : (w.record op).ops = w.ops ++ [op] := by
  simp [ops]

end World

namespace TxExecutor

section

variable {self : TxExecutor} {net : AttemptNet} {w w' : World} {nonce : Nat}

/-- From `w` to `w'` the reservation of `nonce` is settled, once and before anything else. -/
def SettlesOnce (self : TxExecutor) (nonce : Nat) (w w' : World) : Prop :=
  ∃ first op rest, w'.ops = w.ops ++ (first ++ op :: rest) ∧
    (∀ o ∈ first, o.reserves = false ∧ o.settles = false ∧ o.resetsCache = false) ∧
    op.Settles self.signer.address nonce ∧
    ∀ o ∈ rest, o.reserves = false ∧ o.settles = false

theorem SettlesOnce.append {u : World} (h : self.SettlesOnce nonce w w') {more : List Op}
    (hu : u.ops = w'.ops ++ more) (hmore : ∀ o ∈ more, o.reserves = false ∧ o.settles = false) :
    self.SettlesOnce nonce w u := by
  obtain ⟨first, op, rest, hops, hfirst, hop, hrest⟩ := h
  refine ⟨first, op, rest ++ more, by simp [hu, hops], hfirst, hop, ?_⟩
  intro o ho
  rcases List.mem_append.mp ho with ho | ho
  · exact hrest o ho
  · exact hmore o ho

@[simp] theorem ops_faultAt (w : World) : (faultAt net w).ops = w.ops := by
  unfold faultAt
  cases net.build.answer <;> rfl

theorem ops_sent (nonce : Nat) (w : World) :
    (self.sent net nonce w).ops = w.ops ++ [.send (self.tx nonce) net.send] := by
  simp [sent, ready]

theorem ops_handedBack (nonce : Nat) (w : World) :
    (self.handedBack nonce w).ops = w.ops ++ [.release self.signer.address nonce] := by
  simp [handedBack]

theorem ops_awaited (hash : TxHash) (w : World) :
    (self.awaited net hash w).ops =
      w.ops ++ [.wait hash (self.effectiveTimeout w.clock.mono)] := by
  simp [awaited]

theorem ops_slept (net : AttemptNet) (exc : RawExc) (w : World) :
    ∃ more, (slept net exc w).ops = w.ops ++ more ∧
      ∀ o ∈ more, o.reserves = false ∧ o.settles = false := by
  unfold slept
  cases backoff exc with
  | none => exact ⟨[], (List.append_nil _).symm, by simp⟩
  | some seconds => exact ⟨[.sleep seconds], by simp, by simp [Op.reserves, Op.settles]⟩

theorem ops_dropped (self : TxExecutor) (e : Raised) (w : World) :
    ∃ more, (if resets e then self.dropped w else w).ops = w.ops ++ more ∧
      ∀ o ∈ more, o.reserves = false ∧ o.settles = false := by
  cases resets e with
  | true =>
    exact ⟨[.reset self.signer.address], by simp [dropped], by simp [Op.reserves, Op.settles]⟩
  | false => exact ⟨[], (List.append_nil _).symm, by simp⟩

/-- The handlers reset the cache and sleep, at most. -/
theorem SettlesOnce.settled {k : Nat} {broadcast : Bool} {e : Raised} {u : World}
    (h : self.SettlesOnce nonce w u) :
    self.SettlesOnce nonce w (self.settled net k broadcast e u) := by
  obtain ⟨more, hops, hmore⟩ := ops_dropped self e u
  have hdropped := h.append hops hmore
  unfold TxExecutor.settled
  cases self.retried k broadcast e with
  | none => exact hdropped
  | some exc =>
    obtain ⟨more, hops, hmore⟩ := ops_slept net exc _
    exact hdropped.append hops hmore

/-- A send that returned settles the reservation. -/
theorem settlesOnce_awaited {hash : TxHash} (h : net.send.result = .ok hash) :
    self.SettlesOnce nonce w (self.awaited net hash (self.sent net nonce w)) := by
  have hsend := SendAnswer.result_eq_ok.mp h
  refine ⟨[], .send (self.tx nonce) net.send,
    [.wait hash (self.effectiveTimeout (self.sent net nonce w).clock.mono)], ?_, by simp, ?_, ?_⟩
  · rw [ops_awaited, ops_sent, List.append_assoc]
    rfl
  · rw [hsend]
    exact .consumed rfl rfl
  · simp [Op.reserves, Op.settles]

theorem Raises.settlesOnce {broadcast : Bool} {e : Raised}
    (h : self.Raises net nonce w broadcast e w') : self.SettlesOnce nonce w w' := by
  cases h with
  | unsent =>
    refine ⟨[], .release self.signer.address nonce, [], ?_, by simp, .handedBack, by simp⟩
    rw [ops_handedBack, ops_faultAt]
    rfl
  | refused _ hresult =>
    refine ⟨[.send (self.tx nonce) net.send], .release self.signer.address nonce, [], ?_, ?_,
      .handedBack, by simp⟩
    · rw [ops_handedBack, ops_sent, List.append_assoc]
    · intro o ho
      rw [List.mem_singleton.mp ho]
      cases hsend : net.send with
      | accepted hash => rw [hsend] at hresult; cases hresult
      | _ => exact ⟨rfl, rfl, rfl⟩
  | unconfirmed _ hresult _ => exact settlesOnce_awaited hresult

theorem Returns.settlesOnce {r : Receipt} (h : self.Returns net nonce w r w') :
    self.SettlesOnce nonce w w' := by
  obtain ⟨-, hresult, -⟩ := h
  exact settlesOnce_awaited hresult

/-- What has been done since `w₀` is a ledger. -/
def Conserving (w₀ w : World) : Prop := ∃ ops, w.ops = w₀.ops ++ ops ∧ Ledger ops

theorem Conserving.turn {w₀ : World} (h : Conserving w₀ w) {pending : Nat}
    (hs : self.SettlesOnce (self.issue pending w) (self.reserved net pending w) w') :
    Conserving w₀ w' := by
  obtain ⟨ops, hops, hledger⟩ := h
  obtain ⟨first, op, rest, hw', hfirst, hop, hrest⟩ := hs
  refine ⟨_, ?_, hledger.turn hfirst hop hrest⟩
  simp [hw', reserved, hops]

/-- An attempt settles what it reserves. -/
theorem AttemptRun.conserving {w₀ : World} {k : Nat}
    {a : Except Raised (Turn Receipt (Option RawExc))} (h : self.AttemptRun net k w (a, w'))
    (hw : Conserving w₀ w) : Conserving w₀ w' := by
  generalize hr : (a, w') = r at h
  cases h with
  | expired =>
    cases hr
    exact hw
  | unreserved =>
    cases hr
    exact hw
  | @handled pending broadcast e u hx hp hraise =>
    cases hr
    exact hw.turn hraise.settlesOnce.settled
  | done hx hp hret =>
    cases hr
    exact hw.turn hret.settlesOnce

end

/-! ## Calls -/

variable {self : TxExecutor} {net : Nat → AttemptNet} {connected : Reply Bool} {w s : World}

theorem conserving_getWeb3 (connected : Reply Bool) (w : World) :
    Conserving w ((getWeb3 connected).exec w).2 := by
  refine ⟨[], ?_, .nil⟩
  rw [List.append_nil, World.ops, getWeb3_events]
  rfl

theorem Made.conserving {k : Nat} (h : self.Made net connected w k s) : Conserving w s := by
  refine h.induct (fun _ s => Conserving w s) ?_ ?_
  · intro url w₀ hw
    have hstart := conserving_getWeb3 connected w
    rw [hw] at hstart
    exact hstart
  · intro j t t' _ ih hretry
    obtain ⟨exc, ha⟩ := hretry.attemptRun
    exact ha.conserving ih

/-- Whatever the outside answers, a call of `execute` conserves its reservations. -/
theorem execute_conserves (self : TxExecutor) (net : Nat → AttemptNet) (connected : Reply Bool)
    (w : World) :
    ∃ ops, ((self.execute net connected).exec w).2.ops = w.ops ++ ops ∧ Conserves ops := by
  have hconserving : Conserving w ((self.execute net connected).exec w).2 := by
    have hrun := self.execute_run net connected w
    generalize (self.execute net connected).exec w = r at hrun
    cases hrun with
    | unconnected hw =>
      have hstart := conserving_getWeb3 connected w
      rw [hw] at hstart
      exact hstart
    | raised hm ha => exact ha.conserving hm.conserving
    | done hm ha => exact ha.conserving hm.conserving
  obtain ⟨ops, hops, hledger⟩ := hconserving
  exact ⟨ops, hops, hledger.conserves⟩

end TxExecutor

end OgpuSdk
