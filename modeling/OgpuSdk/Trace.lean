import OgpuSdk.Lib.Invariant
import OgpuSdk.World

/-!
# What happens along a run

`World.Path P w w'` says that `w'` comes from `w` by passing time, rewriting
caches and doing only what `P` allows in the world it is started in. A program
that `Keeps P` does so from every world; the rules for `Keeps` follow the
constructs programs are made of. What a path preserves is derived once: time
does not go back, nothing done is undone, events stay in order.
-/

namespace OgpuSdk

open Prog

namespace Op

/-- What is handed to `send_raw_transaction`, and what becomes of it. -/
def send? : Op → Option (Tx × SendAnswer)
  | .send tx answer => some (tx, answer)
  | _ => none

/-- Nothing but cleaning up and waiting: no nonce is taken, no transaction sent and no content
uploaded. -/
def quiet : Op → Bool
  | .reserve _ _ | .send _ _ | .post _ _ => false
  | .release _ _ | .reset _ | .wait _ _ | .sleep _ => true

end Op

namespace World

/-- The transactions sent so far, with what became of each. -/
def sends (w : World) : List (Tx × SendAnswer) := w.events.filterMap (·.op.send?)

@[simp] theorem sends_advance (w : World) (e : Elapsed) : (w.advance e).sends = w.sends := rfl

@[simp] theorem sends_setNonce (w : World) (address : Address) (c : Counter) :
    (w.setNonce address c).sends = w.sends := rfl

@[simp] theorem sends_record (w : World) (op : Op) :
    (w.record op).sends = w.sends ++ op.send?.toList := by
  unfold sends
  rw [record_events, List.filterMap_append]
  cases h : op.send? <;> simp [h]

/-- `w'` comes from `w` by passing time, rewriting caches and doing what `P` allows in the world
it starts in. -/
inductive Path (P : World → Op → Prop) (w : World) : World → Prop where
  | refl : Path P w w
  | advance {w' : World} (e : Elapsed) : Path P w w' → Path P w (w'.advance e)
  | setNonce {w' : World} (address : Address) (c : Counter) : Path P w w' →
      Path P w (w'.setNonce address c)
  | setChain {w' : World} (c : ChainState) : Path P w w' → Path P w { w' with chain := c }
  | record {w' : World} {op : Op} : Path P w w' → P w' op → Path P w (w'.record op)

namespace Path

variable {P : World → Op → Prop} {w w' w'' : World}

theorem trans (h : Path P w w') (h' : Path P w' w'') : Path P w w'' := by
  induction h' with
  | refl => exact h
  | advance e _ ih => exact ih.advance e
  | setNonce address c _ ih => exact ih.setNonce address c
  | setChain c _ ih => exact ih.setChain c
  | record _ hP ih => exact ih.record hP

/-- What allows more takes every path. -/
theorem imp {Q : World → Op → Prop} (h : Path P w w') (hPQ : ∀ u op, P u op → Q u op) :
    Path Q w w' := by
  induction h with
  | refl => exact .refl
  | advance e _ ih => exact ih.advance e
  | setNonce address c _ ih => exact ih.setNonce address c
  | setChain c _ ih => exact ih.setChain c
  | record _ hP ih => exact ih.record (hPQ _ _ hP)

theorem clock_le (h : Path P w w') : w.clock.mono ≤ w'.clock.mono := by
  induction h with
  | refl => exact le_refl _
  | advance e _ ih => exact le_trans ih (Clock.le_advance _ _)
  | setNonce _ _ _ ih => exact ih
  | setChain _ _ ih => exact ih
  | record _ _ ih => exact ih

/-- Nothing done is undone. -/
theorem events_isPrefix (h : Path P w w') : w.events <+: w'.events := by
  induction h with
  | refl => exact List.prefix_rfl
  | advance _ _ ih => exact ih
  | setNonce _ _ _ ih => exact ih
  | setChain _ _ ih => exact ih
  | record _ _ ih => exact ih.trans (List.prefix_append _ _)

/-- What recording an allowed operation preserves of the events is preserved along the way. -/
theorem events_inv {I : List Event → Prop} (h : Path P w w')
    (hrec : ∀ u op, P u op → I u.events → I (u.record op).events) (hw : I w.events) :
    I w'.events := by
  induction h with
  | refl => exact hw
  | advance _ _ ih => exact ih
  | setNonce _ _ _ ih => exact ih
  | setChain _ _ ih => exact ih
  | record _ hP ih => exact hrec _ _ hP ih

/-- A path on which nothing may be sent leaves the sends as they were. -/
theorem sends_eq (h : Path (fun _ op => op.send? = none) w w') : w'.sends = w.sends := by
  refine h.events_inv (I := fun es => es.filterMap (·.op.send?) = w.sends) ?_ rfl
  intro u op hop ih
  rw [record_events, List.filterMap_append, ih]
  simp [hop]

/-- What every send allowed along the way satisfies, all sends satisfy. -/
theorem sends_allowed {Q : Tx × SendAnswer → Prop}
    (h : Path (fun _ op => ∀ x, op.send? = some x → Q x) w w') (hw : ∀ x ∈ w.sends, Q x) :
    ∀ x ∈ w'.sends, Q x := by
  refine h.events_inv (I := fun es => ∀ x ∈ es.filterMap fun e : Event => e.op.send?, Q x) ?_ hw
  intro u op hop ih x hx
  have hsends : (u.record op).sends = u.sends ++ op.send?.toList := sends_record u op
  unfold sends at hsends
  rw [hsends, List.mem_append, Option.mem_toList] at hx
  rcases hx with hx | hx
  · exact ih x hx
  · exact hop x hx

/-- Whatever was done along the way was allowed at its time. -/
theorem allowed {Q : Clock → Op → Prop} (h : Path (fun u => Q u.clock) w w')
    (hw : ∀ e ∈ w.events, Q e.start e.op) : ∀ e ∈ w'.events, Q e.start e.op := by
  refine h.events_inv (I := fun es => ∀ e ∈ es, Q e.start e.op) ?_ hw
  intro u op hP ih e he
  rw [record_events, List.mem_append, List.mem_singleton] at he
  rcases he with he | rfl
  · exact ih e he
  · exact hP

end Path

/-- The events are stamped in order, none later than now. -/
def Timed (w : World) : Prop :=
  w.events.Pairwise (·.start.mono ≤ ·.start.mono) ∧ ∀ e ∈ w.events, e.start.mono ≤ w.clock.mono

theorem Path.timed {P : World → Op → Prop} {w w' : World} (h : Path P w w') (hw : w.Timed) :
    w'.Timed := by
  induction h with
  | refl => exact hw
  | advance e _ ih => exact ⟨ih.1, fun ev hev => le_trans (ih.2 ev hev) (Clock.le_advance _ _)⟩
  | setNonce _ _ _ ih => exact ih
  | setChain _ _ ih => exact ih
  | record _ _ ih =>
    obtain ⟨hsorted, hpast⟩ := ih
    refine ⟨?_, ?_⟩
    · rw [record_events, List.pairwise_append]
      refine ⟨hsorted, List.pairwise_singleton _ _, fun e he e' he' => ?_⟩
      rw [List.mem_singleton] at he'
      subst he'
      exact hpast e he
    · intro e he
      rw [record_events, List.mem_append, List.mem_singleton] at he
      rcases he with he | rfl
      · exact hpast e he
      · exact le_refl _

end World

namespace SDK

/-- From every world, `x` does only what `P` allows. -/
def Keeps {α : Type} (P : World → Op → Prop) (x : SDK α) : Prop :=
  ∀ w, World.Path P w (x.exec w).2

namespace Keeps

variable {α β : Type} {P : World → Op → Prop}

/-- A program that changes nothing does only what is allowed. -/
theorem of_unchanged {x : SDK α} (h : ∀ w, (x.exec w).2 = w) : Keeps P x := by
  intro w
  rw [h]
  exact .refl

theorem pure (a : α) : Keeps P (Pure.pure a : SDK α) := of_unchanged fun _ => rfl

theorem raise (e : Raised) : Keeps P (Prog.raise e : SDK α) := of_unchanged fun _ => rfl

theorem elapse (e : Elapsed) : Keeps P (SDK.elapse e) := fun _ => .advance e .refl

theorem monotonic : Keeps P SDK.monotonic := fun _ => .refl

theorem lift (answer : Except Exc α) : Keeps P (SDK.lift answer) := by
  cases answer with
  | ok a => exact .pure a
  | error exc => exact .raise _

theorem chain (x : ChainProg α) : Keeps P (SDK.chain x) := fun _ => .setChain _ .refl

theorem record {op : Op} (h : ∀ w, P w op) : Keeps P (SDK.record op) := fun w =>
  .record .refl (h w)

theorem preserves {x : SDK α} (h : Keeps P x) (w : World) : Preserves (World.Path P w) x :=
  fun w' hw' => hw'.trans (h w')

theorem of_preserves {x : SDK α} (h : ∀ w, Preserves (World.Path P w) x) : Keeps P x :=
  fun w => h w w .refl

theorem bind {x : SDK α} {f : α → SDK β} (hx : Keeps P x) (hf : ∀ a, Keeps P (f a)) :
    Keeps P (x >>= f) :=
  of_preserves fun w => .bind (hx.preserves w) fun a => (hf a).preserves w

theorem sleep (took : ℚ → Elapsed) {seconds : ℚ} (h : ∀ w, P w (.sleep seconds)) :
    Keeps P (SDK.sleep took seconds) := .bind (.record h) fun _ => .elapse _

theorem loop {body : Nat → β → SDK (Turn α β)} {after : β → SDK α}
    (hbody : ∀ k b, Keeps P (body k b)) (hafter : ∀ b, Keeps P (after b)) (n k : Nat) (b : β) :
    Keeps P (Prog.loop body after n k b) :=
  of_preserves fun w => .loop (fun k b => (hbody k b).preserves w)
    (fun b => (hafter b).preserves w) n k b

end Keeps

end SDK

theorem keeps_getWeb3 {P : World → Op → Prop} (connected : Reply Bool) :
    SDK.Keeps P (getWeb3 connected) := by
  intro w
  rw [exec_getWeb3]
  refine .setChain _ ?_
  unfold connecting
  cases w.chain.probes with
  | true => exact .advance _ .refl
  | false => exact .refl

end OgpuSdk
