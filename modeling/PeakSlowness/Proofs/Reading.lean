import Mathlib.Algebra.BigOperators.Intervals
import PeakSlowness.Proofs.StatLine

set_option autoImplicit false

/-!
Reading lines up to the first bad one. The lines that hold no data are counted and otherwise of no
account: reading takes the data lines one by one, in order, and a line that is rejected is named by
its place among all lines. So other lines put in anywhere, if they hold no data, change nothing but
that place, by their number.
-/

namespace PeakSlowness.StatLine

open Text

variable {mode : Mode}

/-- A line is taken for an application, whichever number it has. -/
def Yields (mode : Mode) (line : List Char) (a : Application) : Prop :=
  ∀ number, parse mode number line = .ok a

theorem yields_iff {line : List Char} {a : Application} :
    Yields mode line a ↔ ofFields mode (fields line) = .ok a := by
  simp only [Yields, parse_eq, mapError_eq_ok_iff, forall_const]

theorem accepted_iff_yields {line : List Char} :
    Accepted mode line ↔ (isData line = true → ∃ a, Yields mode line a) := by
  simp only [Accepted, yields_iff]

/-- Of accepted lines, each data line yields its application, and the other lines yield none. -/
theorem forall₂_yields {lines : List (List Char)} (h : ∀ line ∈ lines, Accepted mode line) :
    List.Forall₂ (Yields mode) (lines.filter isData) (lines.filterMap (application? mode)) := by
  induction lines with
  | nil => exact .nil
  | cons line rest ih =>
    obtain ⟨here, others⟩ := List.forall_mem_cons.1 h
    cases data : isData line with
    | false =>
      have nothing : application? mode line = none := by simp [application?, data]
      rw [List.filter_cons_of_neg (by simp [data]), List.filterMap_cons_none nothing]
      exact ih others
    | true =>
      obtain ⟨a, ha⟩ := here data
      rw [List.filter_cons_of_pos data,
        List.filterMap_cons_some (application?_eq_some_iff.2 ⟨data, ha⟩)]
      exact .cons (yields_iff.2 ha) (ih others)

/-- Reading stops at a data line that is rejected, behind lines that are all accepted. -/
theorem readFrom_rejected {before : List (List Char)} {line : List Char} {reason : Reason}
    (number : ℤ) (ok : ∀ l ∈ before, Accepted mode l) (data : isData line = true)
    (bad : ofFields mode (fields line) = .error reason) (after : List (List Char)) :
    readFrom mode number (before ++ line :: after) =
      ⟨before.filterMap (application? mode),
        some ⟨number + before.length, String.ofList (dropLineEnd line), reason⟩⟩ := by
  rw [readFrom_append number ok, readFrom_stop data bad, List.append_nil]

/-- Lines with other lines put in: `gaps k` in front of the line that has `k` lines before it, and at
the end what the gap there has. -/
def padded (gaps : ℕ → List (List Char)) : List (List Char) → List (List Char)
  | [] => gaps 0
  | line :: rest => gaps 0 ++ line :: padded (fun k => gaps (k + 1)) rest

section Padded

variable {gaps : ℕ → List (List Char)} {lines : List (List Char)}

theorem padded_append (gaps : ℕ → List (List Char)) (first : List (List Char)) (line : List Char)
    (second : List (List Char)) :
    padded gaps (first ++ line :: second) =
      padded gaps first ++ line :: padded (fun k => gaps (k + first.length + 1)) second := by
  induction first generalizing gaps with
  | nil => rfl
  | cons other rest ih =>
    simp only [List.cons_append, padded, ih, List.append_assoc, List.length_cons]
    rfl

theorem length_padded (gaps : ℕ → List (List Char)) (lines : List (List Char)) :
    (padded gaps lines).length =
      lines.length + ∑ k ∈ Finset.range (lines.length + 1), (gaps k).length := by
  induction lines generalizing gaps with
  | nil => simp [padded]
  | cons line rest ih =>
    rw [padded, List.length_append, List.length_cons, ih, List.length_cons,
      Finset.sum_range_succ' _ (rest.length + 1)]
    omega

theorem accepted_of_no_data {line : List Char} (h : isData line = false) : Accepted mode line := by
  intro data
  rw [h] at data
  cases data

theorem accepted_padded (none_in : ∀ k, ∀ line ∈ gaps k, isData line = false)
    (h : ∀ line ∈ lines, Accepted mode line) : ∀ line ∈ padded gaps lines, Accepted mode line := by
  induction lines generalizing gaps with
  | nil => exact fun line hl => accepted_of_no_data (none_in 0 line hl)
  | cons line rest ih =>
    obtain ⟨here, others⟩ := List.forall_mem_cons.1 h
    refine List.forall_mem_append.2 ⟨fun l hl => accepted_of_no_data (none_in 0 l hl), ?_⟩
    exact List.forall_mem_cons.2 ⟨here, ih (fun k => none_in (k + 1)) others⟩

theorem application?_padded (none_in : ∀ k, ∀ line ∈ gaps k, isData line = false) :
    (padded gaps lines).filterMap (application? mode) = lines.filterMap (application? mode) := by
  have gap (k : ℕ) : (gaps k).filterMap (application? mode) = [] :=
    List.filterMap_eq_nil_iff.2 fun line hl => by simp [application?, none_in k line hl]
  induction lines generalizing gaps with
  | nil => exact gap 0
  | cons line rest ih =>
    rw [padded, List.filterMap_append, gap, List.nil_append, List.filterMap_cons,
      List.filterMap_cons, ih (fun k => none_in (k + 1)) fun k => gap (k + 1)]

end Padded

/-- Reading takes the data lines in order. It yields an application for each, if all are accepted;
otherwise it stops at the first one that is not, names it by its place among all lines, and has
yielded those before it. Lines without data that are put in anywhere leave the applications, and
move that place by as many lines as are put in before it. -/
theorem reads_up_to_first_rejected (mode : Mode) (lines : List (List Char)) :
    ((∀ line ∈ lines, isData line = true → ∃ a, Yields mode line a) →
      ∃ apps, readLines mode lines = ⟨apps, none⟩ ∧
        List.Forall₂ (Yields mode) (lines.filter isData) apps) ∧
    (∀ before line after, lines = before ++ line :: after →
      (∀ l ∈ before, isData l = true → ∃ a, Yields mode l a) →
      isData line = true → (¬ ∃ a, Yields mode line a) →
      ∃ apps fault, readLines mode lines = ⟨apps, some fault⟩ ∧
        List.Forall₂ (Yields mode) (before.filter isData) apps ∧
        parse mode (before.length + 1) line = .error fault ∧
        fault.number = before.length + 1 ∧ fault.line = String.ofList (dropLineEnd line)) ∧
    (∀ gaps : ℕ → List (List Char), (∀ k, ∀ line ∈ gaps k, isData line = false) →
      (readLines mode (padded gaps lines)).apps = (readLines mode lines).apps ∧
        (readLines mode (padded gaps lines)).fault = (readLines mode lines).fault.map fun m =>
          { m with number := m.number + ∑ k ∈ Finset.range m.number.toNat, (gaps k).length }) := by
  refine ⟨?_, ?_, ?_⟩
  · intro all
    have all : ∀ line ∈ lines, Accepted mode line := fun l hl => accepted_iff_yields.2 (all l hl)
    exact ⟨_, readFrom_of_accepted all 1, forall₂_yields all⟩
  · rintro before line after rfl ok data bad
    have ok : ∀ l ∈ before, Accepted mode l := fun l hl => accepted_iff_yields.2 (ok l hl)
    cases found : ofFields mode (fields line) with
    | ok a => exact absurd ⟨a, yields_iff.2 found⟩ bad
    | error reason =>
      refine ⟨_, ⟨before.length + 1, String.ofList (dropLineEnd line), reason⟩, ?_,
        forall₂_yields ok, ?_, rfl, rfl⟩
      · rw [readLines, readFrom_rejected 1 ok data found, Int.add_comm]
      · rw [parse_eq, found, mapError_error]
  · intro gaps none_in
    rcases accepted_or_rejects mode 1 lines with
      all | ⟨-, before, line, after, reason, rfl, ok, data, bad, -⟩
    · rw [readLines, readLines, readFrom_of_accepted all,
        readFrom_of_accepted (accepted_padded none_in all), application?_padded none_in]
      exact ⟨rfl, rfl⟩
    · have place : (1 + (before.length : ℤ)).toNat = before.length + 1 := by omega
      rw [padded_append, readLines, readLines, readFrom_rejected 1 ok data bad,
        readFrom_rejected 1 (accepted_padded none_in ok) data bad, application?_padded none_in]
      refine ⟨rfl, ?_⟩
      rw [Option.map_some, place, length_padded, Int.natCast_add, Int.add_assoc]

/-- A comment and a blank line in front of the second line, and a comment at the end. -/
def twoGaps : ℕ → List (List Char)
  | 1 => ["# B\n".toList, " \n".toList]
  | 2 => ["#".toList]
  | _ => []

def shortSecond : List (List Char) := ["a,b,c,d,e,f,0,h,i,2,k,1.5\n".toList, "a,b\r\n".toList]

/-- A line that is too short is the second, or the fourth behind two lines more. -/
theorem short_line_moves_by_two :
    (∃ apps, readLines .strict shortSecond = ⟨apps, some ⟨2, "a,b", .tooFewFields 2⟩⟩ ∧
      apps.map (·.finish) = [2]) ∧
    (readLines .strict (padded twoGaps shortSecond)).fault =
      some ⟨4, "a,b", .tooFewFields 2⟩ := by
  obtain ⟨-, stops, moves⟩ := reads_up_to_first_rejected .strict shortSecond
  have good : ∀ l ∈ ["a,b,c,d,e,f,0,h,i,2,k,1.5\n".toList], isData l = true →
      ∃ a, Yields .strict l a := by
    intro l hl _
    obtain rfl := List.mem_singleton.1 hl
    exact ⟨⟨0, 2, ⟨false, 0x3FF8000000000000, by decide⟩⟩, yields_iff.2 rfl⟩
  have bad : ¬ ∃ a, Yields .strict "a,b\r\n".toList a := by
    rintro ⟨a, yields⟩
    cases yields 2
  have blank : ∀ k, ∀ line ∈ twoGaps k, isData line = false := by
    intro k
    match k with
    | 1 | 2 => decide
    | 0 | _ + 3 => exact nofun
  obtain ⟨apps, fault, read, yields, parsed, -⟩ := stops _ _ [] rfl good (by decide) bad
  cases parsed
  refine ⟨⟨apps, read, ?_⟩, ?_⟩
  · obtain ⟨a, here, rfl⟩ : ∃ a, Yields .strict "a,b,c,d,e,f,0,h,i,2,k,1.5\n".toList a ∧
        apps = [a] := by
      cases yields with
      | cons first none_left =>
        cases none_left
        exact ⟨_, first, rfl⟩
    cases here 1
    rfl
  · rw [(moves twoGaps blank).2, read]
    rfl

end PeakSlowness.StatLine
