import OgpuSdk.Client.Runs

/-!
# Nothing is started past the deadline

The upload and the executor share one absolute deadline, and each looks at the
clock right before what it starts. Both loops are covered at once: a request
or a send is allowed only before the deadline, in every turn.
-/

namespace OgpuSdk.Client

open Prog

/-- Uploads and sends start before `deadline`, and an upload is given no more than what is left. -/
def Before (deadline : ℚ) (c : Clock) : Op → Prop
  | .post _ timeout => c.mono < deadline ∧ timeout ≤ deadline - c.mono
  | .send _ _ => c.mono < deadline
  | _ => True

/-- Once anything is started at or past `deadline`, nothing is sent. -/
def NoLateSend (deadline : ℚ) (events : List Event) : Prop :=
  events.Pairwise fun e e' => deadline ≤ e.start.mono → e'.op.send? = none

variable {keys : Keys} {info : TaskInfo} {privateKey : Option Signer} {options : Options}
  {net : PublishNet} {w : World}

theorem publishTask_before {B : ℚ} (hB : options.totalTimeout = some B) :
    World.Path (fun u => Before (w.clock.mono + B) u.clock) w
      ((publishTask keys info privateKey options net).exec w).2 := by
  refine publishTask_path ?_ ?_ (fun _ _ _ => trivial) ?_
  · intro u timeout h
    exact h B hB
  · intro u op hq
    cases op with
    | send => cases hq
    | post => cases hq
    | _ => trivial
  · rintro exe k s u tx ⟨w₁, hp, -⟩ hs hu
    have hx := TxExecutor.sending_clock hs
    unfold TxExecutor.expired at hx
    rw [prepare_deadline hp, hB, Option.map_some, Option.any_some, decide_eq_false_iff_not,
      not_le, ← hu] at hx
    exact hx

/-- Throughout a publish with a total budget, every upload and every send is started strictly
before the deadline, every upload with a timeout no larger than the time left, and once the
deadline has passed nothing is sent any more. -/
theorem publishTask_deadline (keys : Keys) (info : TaskInfo) (privateKey : Option Signer)
    (options : Options) (net : PublishNet) (w : World) (B : ℚ) :
    let options := { options with totalTimeout := some B }
    let events := ((publishTask keys info privateKey options net).exec w.blank).2.events
    (∀ e ∈ events, Before (w.clock.mono + B) e.start e.op) ∧
      NoLateSend (w.clock.mono + B) events := by
  intro options events
  have hpath : World.Path (fun u => Before (w.clock.mono + B) u.clock) w.blank
      ((publishTask keys info privateKey options net).exec w.blank).2 :=
    publishTask_before (w := w.blank) (B := B) rfl
  have hbefore : ∀ e ∈ events, Before (w.clock.mono + B) e.start e.op :=
    hpath.allowed (by simp [World.blank])
  refine ⟨hbefore, ?_⟩
  have htimed := hpath.timed ⟨List.Pairwise.nil, by simp [World.blank]⟩
  -- The events are in order, so a send after one past the deadline would be past it as well.
  refine htimed.1.imp_of_mem ?_
  intro e e' _ he' hle hlate
  have h := hbefore e' he'
  cases hop : e'.op with
  | send tx answer =>
    rw [hop] at h
    have hlt : e'.start.mono < w.clock.mono + B := h
    linarith
  | _ => rfl

end OgpuSdk.Client
