import Mathlib.Data.List.Basic
import PeakSlowness.Proofs.Field
import PeakSlowness.Proofs.StatLine

set_option autoImplicit false

/-!
The two modes of reading a statistics file. Lines that strict reading gets through are no trouble to
lenient reading, and describe as many applications with the same slownesses. They describe the same
applications if no release date and no duration is written with underscores; with them, the two
modes may read two different numbers.
-/

namespace PeakSlowness.StatLine

open Text

/-- The integers of a line are written without underscores. -/
def Plain (line : List Char) : Prop :=
  '_' ∉ fieldAt line releaseField ∧ '_' ∉ fieldAt line durationField

instance (line : List Char) : Decidable (Plain line) := inferInstanceAs (Decidable (_ ∧ _))

/-- Lenient reading takes what a line describes strictly, its slowness unchanged. -/
theorem Describes.lenient {line : List Char} {release duration : Int} {slowness : Binary64}
    (h : Describes .strict line release duration slowness) :
    ∃ release' duration', Describes .lenient line release' duration' slowness ∧
      (Plain line → release' = release ∧ duration' = duration) := by
  obtain ⟨release', hr, same_release⟩ := Field.integer_lenient_of_strict h.release
  obtain ⟨duration', hd, same_duration⟩ := Field.integer_lenient_of_strict h.duration
  have hs := Field.decimal_lenient_of_strict h.slowness
  refine ⟨release', duration', ⟨h.enough, hr, hd, hs⟩, ?_⟩
  rintro ⟨plain_release, plain_duration⟩
  exact ⟨same_release plain_release, same_duration plain_duration⟩

theorem ofFields_lenient {line : List Char} {a : Application}
    (h : ofFields .strict (fields line) = .ok a) :
    ∃ b, ofFields .lenient (fields line) = .ok b ∧ b.slowness = a.slowness ∧
      (Plain line → b = a) := by
  obtain ⟨release, duration, described, same⟩ := (ofFields_eq_ok_iff.1 h).lenient
  refine ⟨⟨release, release + duration, a.slowness⟩, ofFields_eq_ok_iff.2 ?_, rfl, ?_⟩
  · rw [Int.add_comm, Int.add_sub_cancel]
    exact described
  · intro plain
    obtain ⟨rfl, rfl⟩ := same plain
    rw [Int.add_comm, Int.sub_add_cancel]

theorem Accepted.lenient {line : List Char} (h : Accepted .strict line) :
    Accepted .lenient line := by
  intro data
  obtain ⟨a, ha⟩ := h data
  obtain ⟨b, hb, -⟩ := ofFields_lenient ha
  exact ⟨b, hb⟩

/-- What the two modes make of a line that both accept. -/
theorem application?_lenient {line : List Char} (h : Accepted .strict line) :
    (application? .lenient line).map (·.slowness) = (application? .strict line).map (·.slowness) ∧
      ((isData line = true → Plain line) →
        application? .lenient line = application? .strict line) := by
  cases data : isData line with
  | false => simp [application?, data]
  | true =>
    obtain ⟨a, ha⟩ := h data
    obtain ⟨b, hb, slowness, same⟩ := ofFields_lenient ha
    rw [application?_eq_some_iff.2 ⟨data, ha⟩, application?_eq_some_iff.2 ⟨data, hb⟩]
    refine ⟨congrArg some slowness, ?_⟩
    intro plain
    exact congrArg some (same (plain rfl))

/-- Strict reading only rejects. What it gets through, lenient reading gets through with the same
slownesses in order, and with the same applications if no integer is written with underscores. -/
theorem lenient_agrees_with_strict {lines : List (List Char)}
    (h : (readLines .strict lines).fault = none) :
    (readLines .lenient lines).fault = none ∧
      (readLines .lenient lines).apps.map (·.slowness) =
        (readLines .strict lines).apps.map (·.slowness) ∧
      ((∀ line ∈ lines, isData line = true → Plain line) →
        (readLines .lenient lines).apps = (readLines .strict lines).apps) := by
  have strict : ∀ line ∈ lines, Accepted .strict line := fault_eq_none_iff.1 h
  have lenient : ∀ line ∈ lines, Accepted .lenient line := fun line hl => (strict line hl).lenient
  unfold readLines
  rw [readFrom_of_accepted strict, readFrom_of_accepted lenient]
  refine ⟨rfl, ?_, ?_⟩
  · rw [List.map_filterMap, List.map_filterMap]
    exact List.filterMap_congr fun line hl => (application?_lenient (strict line hl)).1
  · intro plain
    apply List.filterMap_congr
    intro line hl
    exact (application?_lenient (strict line hl)).2 (plain line hl)

/-- Blanks, a sign, digits of another script, and an exponent, read alike in both modes. -/
theorem lenient_agrees_on_signed_line :
    (readLines .strict ["# A\n".toList, "a,b,c,d,e,f, +٣٤ ,h,i,-5,k,1e1 \n".toList]).fault = none ∧
      (readLines .lenient ["# A\n".toList, "a,b,c,d,e,f, +٣٤ ,h,i,-5,k,1e1 \n".toList]).apps =
        (readLines .strict ["# A\n".toList, "a,b,c,d,e,f, +٣٤ ,h,i,-5,k,1e1 \n".toList]).apps ∧
      (readLines .lenient ["# A\n".toList, "a,b,c,d,e,f, +٣٤ ,h,i,-5,k,1e1 \n".toList]).apps.map
        (fun a => (a.release, a.finish)) = [(34, 29)] := by
  have read : (readLines .strict
      ["# A\n".toList, "a,b,c,d,e,f, +٣٤ ,h,i,-5,k,1e1 \n".toList]).fault = none := by decide
  exact ⟨read, (lenient_agrees_with_strict read).2.2 (by decide), by decide⟩

/-- A thousand written with an underscore is a thousand to strict reading and one to lenient
reading. -/
theorem lenient_not_always_strict :
    ¬ ∀ lines : List (List Char), (readLines .strict lines).fault = none →
      (readLines .lenient lines).fault = none ∧
        (readLines .lenient lines).apps = (readLines .strict lines).apps := by
  intro always
  have same := (always ["a,b,c,d,e,f,1_000,h,i,5,k,1.0\n".toList] (by decide)).2
  have releases := congrArg (List.map (·.release)) same
  revert releases
  decide

end PeakSlowness.StatLine
