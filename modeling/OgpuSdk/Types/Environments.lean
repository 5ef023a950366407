import OgpuSdk.Lib.Flags
import Mathlib.Data.List.Basic

/-!
# Environments

The hardware environments a source can run on, and the bit mask the contracts
keep a set of them in.
-/

namespace OgpuSdk

inductive Environment where
  | cpu | nvidia | amd
  deriving DecidableEq, Repr

namespace Environment

def name : Environment → String
  | .cpu => "CPU"
  | .nvidia => "NVIDIA"
  | .amd => "AMD"

def flags : Flags Environment where
  all := [.cpu, .nvidia, .amd]
  bit
    | .cpu => 0
    | .nvidia => 1
    | .amd => 2
  bit_injective := by
    intro e e' h
    cases e <;> cases e' <;> first | rfl | cases h
  mem_all := by
    intro e
    cases e <;> decide

/-- `env.value` -/
def value (e : Environment) : ℤ := flags.value e

example : flags.all.map value = [1, 2, 4] := by decide

theorem name_injective : Function.Injective name := by
  intro e e' h
  cases e <;> cases e' <;> first | rfl | (revert h; decide)

end Environment

def combineEnvironments (environments : List Environment) : ℤ :=
  Environment.flags.combine environments

def parseEnvironments (mask : ℤ) : List Environment := Environment.flags.parse mask

def environmentNames (mask : ℤ) : List String := (parseEnvironments mask).map Environment.name

/-- Parsing inverts combining up to order and repetition, combining inverts parsing up to the bits
that stand for no environment, and those bits are all that the names of a mask leave open. -/
theorem environments_inverse :
    (∀ environments, parseEnvironments (combineEnvironments environments) =
        Environment.flags.all.filter (· ∈ environments)) ∧
      (∀ mask, combineEnvironments (parseEnvironments mask) = Int.land mask 7) ∧
      (∀ environments environments',
        combineEnvironments environments = combineEnvironments environments' ↔
          ∀ e, e ∈ environments ↔ e ∈ environments') ∧
      ∀ mask mask', environmentNames mask = environmentNames mask' ↔
        Int.land mask 7 = Int.land mask' 7 := by
  have hall : Environment.flags.combine Environment.flags.all = 7 := by decide
  refine ⟨Environment.flags.parse_combine, ?_, fun _ _ => Environment.flags.combine_eq_iff, ?_⟩
  · intro mask
    rw [← hall]
    exact Environment.flags.combine_parse mask
  · intro mask mask'
    rw [← hall, ← Environment.flags.parse_eq_iff]
    exact (List.map_injective_iff.mpr Environment.name_injective).eq_iff

end OgpuSdk
