import PeakSlowness.Proofs.Config
import PeakSlowness.Proofs.Effects

set_option autoImplicit false

/-!
Why a settled configuration is rejected. Everything that can be wrong with its values is reported,
but for an infinite checkpoint, of which no integer can be made.
-/

namespace PeakSlowness

open Text Config

variable {cfg : Setting} {failure : Failure}

/-- A failure to write a value as text is reported. -/
theorem reportable_of_toText {v : Setting} (h : v.toText.mapError .numeral = .error failure) :
    failure.Reportable := by
  obtain ⟨fault, -, rfl⟩ := mapError_eq_error h
  exact .of_value rfl

theorem toInteger_error {v : Setting} (h : v.toInteger = .error failure) :
    failure.kind = .value ∨ (∃ kind, failure = .value (.notAnInteger kind)) ∨
      ∃ x, v = .scalar (.float x) ∧ x.isInfinite = true ∧ failure = .value .infinityAsInteger := by
  have numeral {r : Except Numeral.Fault Int} (h : r.mapError .numeral = .error failure) :
      failure.kind = .value := by
    obtain ⟨fault, -, rfl⟩ := mapError_eq_error h
    rfl
  cases v with
  | scalar value =>
    cases value with
    | float x =>
      rw [Setting.toInteger] at h
      split at h
      · cases h
        exact .inl rfl
      · split at h
        · next infinite =>
          cases h
          exact .inr (.inr ⟨x, rfl, infinite, rfl⟩)
        · cases h
    | bool _ | int _ => cases h
    | text _ | broken _ | octets _ => exact .inl (numeral h)
    | null | date _ | moment _ =>
      cases h
      exact .inr (.inl ⟨_, rfl⟩)
  | list _ | map _ | set _ | pairs _ | cycle _ =>
    cases h
    exact .inr (.inl ⟨_, rfl⟩)

/-- The start, the end or the step of the checkpoints is infinite. -/
def InfiniteCheckpoint (cfg : Setting) : Prop :=
  ∃ part name x, cfg.sectionAt "checkpoints" = .ok (.map part) ∧ name ∈ ["start", "end", "step"] ∧
    valueAt? part (.text name) = some (.scalar (.float x)) ∧ x.isInfinite = true

theorem sweepNumber_error {part : List (Scalar × Setting)} {name : String} {fallback : Int}
    (h : sweepNumber (.map part) name fallback = .error failure) :
    failure.kind = .value ∨ failure = .value .infinityAsInteger ∧
      ∃ x, valueAt? part (.text name) = some (.scalar (.float x)) ∧ x.isInfinite = true := by
  rw [sweepNumber, getD_map, mapError_ok, ok_bind] at h
  split at h
  · cases h
    exact .inl rfl
  · next other =>
    rcases toInteger_error h with value | ⟨kind, rfl⟩ | ⟨x, given, infinite, rfl⟩
    · exact .inl value
    · exact absurd h (other kind)
    · refine .inr ⟨rfl, x, ?_, infinite⟩
      cases found : valueAt? part (.text name) with
      | none =>
        rw [found] at given
        cases given
      | some v =>
        rw [found] at given
        exact congrArg some given

theorem sweep_error (settled : Settled cfg) (h : sweep cfg = .error failure) :
    failure.Reportable ∨ failure = .value .infinityAsInteger ∧ InfiniteCheckpoint cfg := by
  have named : "checkpoints" ∈ sectionNames := by decide
  obtain ⟨part, there⟩ := settled.sectionAt named
  have number {name : String} {fallback : Int} (hn : name ∈ ["start", "end", "step"])
      (h : sweepNumber (.map part) name fallback = .error failure) :
      failure.Reportable ∨ failure = .value .infinityAsInteger ∧ InfiniteCheckpoint cfg := by
    rcases sweepNumber_error h with value | ⟨same, x, given, infinite⟩
    · exact .inl (.of_value value)
    · exact .inr ⟨same, part, name, x, there, hn, given, infinite⟩
  rw [sweep, settled.orEmpty, there, mapError_ok, ok_bind] at h
  split at h
  · cases h
    exact .inl (.of_value rfl)
  · rcases bind_eq_error h with h | ⟨start, -, h⟩
    · exact number (by decide) h
    rcases bind_eq_error h with h | ⟨stop, -, h⟩
    · exact number (by decide) h
    rcases bind_eq_error h with h | ⟨step, -, h⟩
    · exact number (by decide) h
    obtain ⟨fault, -, rfl⟩ := mapError_eq_error h
    exact .inl (.of_value rfl)

theorem mode_error (settled : Settled cfg) (h : mode cfg = .error failure) :
    failure.Reportable := by
  have named : "parsing" ∈ sectionNames := by decide
  obtain ⟨part, there⟩ := settled.sectionAt named
  rw [mode, settled.orEmpty, there, mapError_ok, ok_bind, getD_map, mapError_ok, ok_bind] at h
  rcases bind_eq_error h with h | ⟨text, -, h⟩
  · exact reportable_of_toText h
  · extract_lets name at h
    split at h
    · cases h
    · cases h
      exact .of_value rfl

namespace Plan

theorem readFormat_error {part : List (Scalar × Setting)}
    (h : readFormat (.map part) = .error failure) : failure.Reportable := by
  rw [readFormat, getD_map, mapError_ok, ok_bind] at h
  rcases bind_eq_error h with h | ⟨text, -, h⟩
  · exact reportable_of_toText h
  · extract_lets name at h
    split at h
    · cases h
    · cases h
      exact .of_value rfl

theorem ofConfig_error (settled : Settled cfg) (h : ofConfig cfg = .error failure) :
    failure.Reportable ∨ failure = .value .infinityAsInteger ∧ InfiniteCheckpoint cfg := by
  have named : "output" ∈ sectionNames := by decide
  obtain ⟨part, there⟩ := settled.sectionAt named
  rcases bind_eq_error h with h | ⟨s, -, h⟩
  · exact sweep_error settled h
  · rw [there, mapError_ok, ok_bind] at h
    rcases bind_eq_error h with h | ⟨format, -, h⟩
    · exact .inl (readFormat_error h)
    · cases h

/-- The section of a plan that a settled configuration has led to is a mapping. -/
theorem output_of_ofConfig {plan : Plan} (settled : Settled cfg) (h : ofConfig cfg = .ok plan) :
    ∃ part, plan.output = .map part := by
  have named : "output" ∈ sectionNames := by decide
  obtain ⟨part, there⟩ := settled.sectionAt named
  obtain ⟨s, -, h⟩ := bind_eq_ok_iff.1 h
  rw [there, mapError_ok, ok_bind] at h
  obtain ⟨format, -, h⟩ := bind_eq_ok_iff.1 h
  cases h
  exact ⟨part, rfl⟩

theorem variableName_error {plan : Plan} (settled : Settled cfg) (hp : ofConfig cfg = .ok plan)
    (h : plan.variableName = .error failure) : failure.Reportable := by
  obtain ⟨part, output⟩ := output_of_ofConfig settled hp
  rw [variableName, output, getD_map, mapError_ok, ok_bind] at h
  exact reportable_of_toText h

end Plan

end PeakSlowness
