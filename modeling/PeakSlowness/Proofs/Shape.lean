import PeakSlowness.Proofs.Endings
import PeakSlowness.Proofs.Override

set_option autoImplicit false

/-!
Which values are configurations. A configuration is a mapping with sections that are mappings or null, and a
file without a value is the empty one; every other value is rejected, for its kind or for that of the first
section that is neither. Values that do not count as set slip through: they are replaced by the empty mapping
before their kind is looked at, so false, zero and what is empty are configurations as well.
-/

namespace PeakSlowness

open PeakSlowness.Action (outcome loadConfig)

namespace Config

variable {v part : Setting} {name : String} {fault : ValueFault}

/-- A section is not there, null or a mapping. -/
def Fits (v : Setting) (name : String) : Prop :=
  ∀ part, v.get? name = .ok (some part) → part.kind = .null ∨ part.kind = .map

/-- A mapping with sections that are null or mappings. -/
def WellShaped (v : Setting) : Prop := v.kind = .map ∧ ∀ name ∈ sectionNames, Fits v name

/-- Why a value is rejected: it is no mapping, or a section, the first such one, is neither null nor a
mapping. -/
inductive Rejects (v : Setting) : ValueFault → Prop
  | topLevel (other : v.kind ≠ .map) : Rejects v (.topLevelNoMapping v.kind)
  | section {before after : List String} {name : String} {part : Setting} (isMap : v.kind = .map)
      (order : sectionNames = before ++ name :: after) (fine : ∀ earlier ∈ before, Fits v earlier)
      (there : v.get? name = .ok (some part)) (other : part.kind ≠ .null ∧ part.kind ≠ .map) :
      Rejects v (.sectionNoMapping name part.kind)

theorem Rejects.kind (h : Rejects v fault) : Failure.kind (.value fault) = .value := by
  cases h with
  | topLevel _ => rfl
  | «section» _ _ _ _ _ => rfl

/-- A value that is neither null nor a mapping, and that does not count as set. -/
inductive Overlooked : Setting → Prop
  | false : Overlooked (.scalar (.bool Bool.false))
  | zero : Overlooked (.scalar (.int 0))
  | zeroDecimal {x : Binary64} (zero : x.isZero = true) : Overlooked (.scalar (.float x))
  | noText : Overlooked (.scalar (.text ""))
  | noOctets : Overlooked (.scalar (.octets []))
  | noItems : Overlooked (.list [])
  | noMembers : Overlooked (.set [])
  | noPairs : Overlooked (.pairs [])

theorem overlooked_iff : Overlooked v ↔ v.truthy = false ∧ v.kind ≠ .null ∧ v.kind ≠ .map := by
  constructor
  · intro overlooked
    cases overlooked with
    | zeroDecimal zero => simp [Setting.truthy, Scalar.truthy, Setting.kind, Scalar.kind, zero]
    | false | zero | noText | noOctets | noItems | noMembers | noPairs => decide
  · rintro ⟨unset, not_null, not_map⟩
    cases v with
    | scalar s =>
      cases s with
      | null => exact absurd rfl not_null
      | bool b =>
        cases unset
        exact .false
      | int n =>
        obtain rfl : n = 0 := by simpa [Setting.truthy, Scalar.truthy] using unset
        exact .zero
      | float x => exact .zeroDecimal (by simpa [Setting.truthy, Scalar.truthy] using unset)
      | text s =>
        obtain rfl : s = "" := by simpa [Setting.truthy, Scalar.truthy] using unset
        exact .noText
      | octets bytes =>
        obtain rfl : bytes = [] := by simpa [Setting.truthy, Scalar.truthy] using unset
        exact .noOctets
      | broken _ | date _ | moment _ => cases unset
    | list items =>
      obtain rfl : items = [] := by simpa [Setting.truthy] using unset
      exact .noItems
    | map entries => exact absurd rfl not_map
    | set members =>
      obtain rfl : members = [] := by simpa [Setting.truthy] using unset
      exact .noMembers
    | pairs items =>
      obtain rfl : items = [] := by simpa [Setting.truthy] using unset
      exact .noPairs
    | cycle isMap => cases unset

theorem forM_eq_ok_iff {ε α : Type} {f : α → Except ε Unit} {items : List α} :
    items.forM f = .ok () ↔ ∀ a ∈ items, f a = .ok () := by
  refine ⟨forM_ok, fun fine => ?_⟩
  induction items with
  | nil => rfl
  | cons a rest ih =>
    obtain ⟨first, others⟩ := List.forall_mem_cons.1 fine
    exact bind_eq_ok_iff.2 ⟨(), first, ih others⟩

/-- A row of checks fails with the first one that fails. -/
theorem forM_eq_error_iff {ε α : Type} {f : α → Except ε Unit} {items : List α} {e : ε} :
    items.forM f = .error e ↔ ∃ before a after, items = before ++ a :: after ∧
      (∀ b ∈ before, f b = .ok ()) ∧ f a = .error e := by
  induction items with
  | nil => simp [pure, Except.pure]
  | cons a rest ih =>
    change (f a >>= fun _ => rest.forM f) = .error e ↔ _
    constructor
    · intro failed
      rcases bind_eq_error failed with first | ⟨_, first, later⟩
      · exact ⟨[], a, rest, rfl, nofun, first⟩
      · obtain ⟨before, b, after, rfl, fine, bad⟩ := ih.1 later
        exact ⟨a :: before, b, after, rfl, List.forall_mem_cons.2 ⟨first, fine⟩, bad⟩
    · rintro ⟨before, b, after, order, fine, bad⟩
      cases before with
      | nil =>
        obtain ⟨rfl, rfl⟩ := List.cons.inj order
        rw [bad, error_bind]
      | cons first before =>
        obtain ⟨rfl, rfl⟩ := List.cons.inj order
        obtain ⟨fine, others⟩ := List.forall_mem_cons.1 fine
        rw [fine, ok_bind]
        exact ih.2 ⟨before, b, after, rfl, others, bad⟩

section Sections

variable (isMap : v.kind = .map)

include isMap

/-- The check of a section of a mapping. -/
theorem checkSection_eq : ∃ found, v.get? name = .ok found ∧
    checkSection v name =
      if (found.getD (.scalar .null)).kind = .null ∨ (found.getD (.scalar .null)).kind = .map then .ok ()
      else .error (.sectionNoMapping name (found.getD (.scalar .null)).kind) := by
  obtain ⟨entries, -, lookup⟩ := get?_of_map isMap
  refine ⟨_, lookup name, ?_⟩
  rw [checkSection, Setting.getD, lookup, ok_bind, pure_eq_ok, ok_bind]
  simp only [Bool.or_eq_true, decide_eq_true_eq]
  rfl

theorem checkSection_eq_ok_iff : checkSection v name = .ok () ↔ Fits v name := by
  obtain ⟨found, there, checked⟩ := checkSection_eq isMap
  rw [checked, Fits, there]
  cases found with
  | none => exact iff_of_true rfl nofun
  | some part =>
    by_cases fine : part.kind = .null ∨ part.kind = .map
    · simp [fine]
    · simp [fine]

theorem checkSection_eq_error_iff : checkSection v name = .error fault ↔
    ∃ part, v.get? name = .ok (some part) ∧ (part.kind ≠ .null ∧ part.kind ≠ .map) ∧
      fault = .sectionNoMapping name part.kind := by
  obtain ⟨found, there, checked⟩ := checkSection_eq isMap
  rw [checked, there]
  cases found with
  | none => exact iff_of_false nofun nofun
  | some part =>
    by_cases fine : part.kind = .null ∨ part.kind = .map
    · simp only [Option.getD_some, if_pos fine]
      refine iff_of_false nofun ?_
      rintro ⟨_, ⟨⟩, other, -⟩
      exact (not_or.2 other) fine
    · simp only [Option.getD_some, if_neg fine]
      constructor
      · rintro ⟨⟩
        exact ⟨part, rfl, not_or.1 fine, rfl⟩
      · rintro ⟨_, ⟨⟩, -, rfl⟩
        rfl

theorem ofValue_of_mapping : ofValue v = (do sectionNames.forM (checkSection v); return v) := by
  have whole : v.orEmpty = v := by
    rcases eq_of_kind_map isMap with ⟨entries, rfl⟩ | rfl
    · exact orEmpty_map entries
    · rfl
  rw [ofValue, whole]
  simp only [isMap, ne_eq, not_true_eq_false, if_false]

end Sections

theorem ofValue_of_unset (unset : v.truthy = false) : ofValue v = .ok .empty := by
  rw [ofValue, Setting.orEmpty, unset]
  rfl

theorem ofValue_of_other (set : v.truthy = true) (other : v.kind ≠ .map) :
    ofValue v = .error (.topLevelNoMapping v.kind) := by
  rw [ofValue, Setting.orEmpty, if_pos set]
  simp only [ne_eq, other, not_false_eq_true, if_true]
  rfl

/-- The configurations are the mappings of the right shape. -/
theorem ofValue_of_wellShaped (h : WellShaped v) : ofValue v = .ok v := by
  rw [ofValue_of_mapping h.1, bind_eq_ok_iff]
  refine ⟨(), ?_, rfl⟩
  exact forM_eq_ok_iff.2 fun name hn => (checkSection_eq_ok_iff h.1).2 (h.2 name hn)

/-- Every other value is rejected if it counts as set. -/
theorem rejects_of_not_wellShaped (set : v.truthy = true) (h : ¬ WellShaped v) :
    ∃ fault, Rejects v fault ∧ ofValue v = .error fault := by
  by_cases isMap : v.kind = .map
  · rw [ofValue_of_mapping isMap]
    cases checked : sectionNames.forM (checkSection v) with
    | ok _ =>
      refine absurd ⟨isMap, fun name hn => ?_⟩ h
      exact (checkSection_eq_ok_iff isMap).1 (forM_ok checked name hn)
    | error fault =>
      obtain ⟨before, name, after, order, fine, failed⟩ := forM_eq_error_iff.1 checked
      obtain ⟨part, there, other, rfl⟩ := (checkSection_eq_error_iff isMap).1 failed
      have fits : ∀ earlier ∈ before, Fits v earlier :=
        fun earlier he => (checkSection_eq_ok_iff isMap).1 (fine earlier he)
      exact ⟨_, .section isMap order fits there other, rfl⟩
  · exact ⟨_, .topLevel isMap, ofValue_of_other set isMap⟩

theorem wellShaped_empty : WellShaped .empty := by
  refine ⟨rfl, fun name _ part there => ?_⟩
  cases there

/-- What does not count as set is null, the empty mapping, or overlooked. -/
theorem set_of_other (not_null : v.kind ≠ .null) (other : ¬ WellShaped v) (seen : ¬ Overlooked v) :
    v.truthy = true := by
  by_contra unset
  have unset : v.truthy = false := by simpa using unset
  by_cases isMap : v.kind = .map
  · rcases eq_of_kind_map isMap with ⟨entries, rfl⟩ | rfl
    · obtain rfl : entries = [] := by simpa [Setting.truthy] using unset
      exact other wellShaped_empty
    · cases unset
  · exact seen (overlooked_iff.2 ⟨unset, not_null, isMap⟩)

/-- What is said of loading a value: null is the empty configuration, a mapping of the right shape is one, and
everything else is rejected as a bad value. -/
structure LoadedAsSaid (path : FilePath) (v : Setting) (w : World) : Prop where
  null : v.kind = .null → outcome (loadConfig path) w = (.ok .empty, w)
  mapping : WellShaped v → outcome (loadConfig path) w = (.ok v, w)
  other : v.kind ≠ .null → ¬ WellShaped v → ∃ fault, Rejects v fault ∧
    Failure.kind (.value fault) = .value ∧ outcome (loadConfig path) w = (.error (.value fault), w)

section Loading

variable {w : World} {path : FilePath} {octets : List UInt8}

theorem not_wellShaped_of_overlooked (h : Overlooked v) : ¬ WellShaped v :=
  fun shaped => (overlooked_iff.1 h).2.2 shaped.1

theorem outcome_of_overlooked (h : Overlooked v) (content : w.disk.read w.host.cwd path = .ok octets)
    (parsed : Yaml.readOctets octets = .ok v) : outcome (loadConfig path) w = (.ok .empty, w) := by
  rw [Action.outcome_loadConfig_of_read content parsed, ofValue_of_unset (overlooked_iff.1 h).1]
  rfl

theorem not_loadedAsSaid_of_overlooked (h : Overlooked v)
    (content : w.disk.read w.host.cwd path = .ok octets) (parsed : Yaml.readOctets octets = .ok v) :
    ¬ LoadedAsSaid path v w := by
  intro said
  obtain ⟨fault, -, -, rejected⟩ :=
    said.other (overlooked_iff.1 h).2.1 (not_wellShaped_of_overlooked h)
  rw [outcome_of_overlooked h content parsed] at rejected
  cases rejected

/-- Loading a configuration goes as it is said exactly if its value is not overlooked; an overlooked value is
loaded as the empty configuration. -/
theorem loadedAsSaid_iff (content : w.disk.read w.host.cwd path = .ok octets)
    (parsed : Yaml.readOctets octets = .ok v) :
    (LoadedAsSaid path v w ↔ ¬ Overlooked v) ∧
      (Overlooked v → outcome (loadConfig path) w = (.ok .empty, w)) := by
  have loaded := Action.outcome_loadConfig_of_read content parsed
  refine ⟨⟨fun said h => not_loadedAsSaid_of_overlooked h content parsed said, fun seen => ?_⟩,
    fun h => outcome_of_overlooked h content parsed⟩
  refine ⟨fun null => ?_, fun shaped => ?_, fun not_null other => ?_⟩
  · rw [loaded, eq_of_kind_null null]
    rfl
  · rw [loaded, ofValue_of_wellShaped shaped]
    rfl
  · obtain ⟨fault, rejects, rejected⟩ := rejects_of_not_wellShaped (set_of_other not_null other seen) other
    rw [loaded, rejected]
    exact ⟨fault, rejects, rejects.kind, rfl⟩

/-- A world with a configuration file. -/
def withConfig (octets : List UInt8) : World := ⟨⟨[], "", []⟩, ⟨[(["c"], .file octets)]⟩, []⟩

theorem content_withConfig (octets : List UInt8) :
    (withConfig octets).disk.read (withConfig octets).host.cwd (.ofPlace ["c"]) = .ok octets := by cbv

/-- Whether a text has been read as an empty list. -/
def isEmptyList : Except YamlFault Setting → Bool
  | .ok (.list []) => true
  | _ => false

theorem eq_of_isEmptyList {r : Except YamlFault Setting} (h : isEmptyList r = true) :
    r = .ok (.list []) := by
  unfold isEmptyList at h
  split at h
  · rfl
  · cases h

theorem read_emptyList : Yaml.readOctets (Text.Utf8.encode "[]".toList) = .ok (.list []) :=
  eq_of_isEmptyList (by decide +kernel)

/-- An empty list is loaded as a configuration. -/
theorem not_always_loadedAsSaid :
    ¬ ∀ (path : FilePath) (octets : List UInt8) (v : Setting) (w : World),
      w.disk.read w.host.cwd path = .ok octets → Yaml.readOctets octets = .ok v →
      LoadedAsSaid path v w := by
  intro always
  have content := content_withConfig (Text.Utf8.encode "[]".toList)
  exact not_loadedAsSaid_of_overlooked .noItems content read_emptyList
    (always _ _ _ _ content read_emptyList)

/-- Whether a text has been read as a mapping with a number for the section of the input. -/
def isNumberSection : Except YamlFault Setting → Bool
  | .ok (.map [(.text "input", .scalar (.int 3))]) => true
  | _ => false

theorem eq_of_isNumberSection {r : Except YamlFault Setting} (h : isNumberSection r = true) :
    r = .ok (.map [(.text "input", .scalar (.int 3))]) := by
  unfold isNumberSection at h
  split at h
  · rfl
  · cases h

theorem read_numberSection : Yaml.readOctets (Text.Utf8.encode "input: 3".toList) =
    .ok (.map [(.text "input", .scalar (.int 3))]) :=
  eq_of_isNumberSection (by decide +kernel)

/-- A number for a section is rejected. -/
theorem loadedAsSaid_of_number_section :
    (withConfig (Text.Utf8.encode "input: 3".toList)).disk.read [] (.ofPlace ["c"]) =
        .ok (Text.Utf8.encode "input: 3".toList) ∧
      Yaml.readOctets (Text.Utf8.encode "input: 3".toList) =
        .ok (.map [(.text "input", .scalar (.int 3))]) ∧
      LoadedAsSaid (.ofPlace ["c"]) (.map [(.text "input", .scalar (.int 3))])
        (withConfig (Text.Utf8.encode "input: 3".toList)) := by
  have content := content_withConfig (Text.Utf8.encode "input: 3".toList)
  refine ⟨content, read_numberSection, (loadedAsSaid_iff content read_numberSection).1.2 ?_⟩
  intro overlooked
  cases overlooked

end Loading

end Config

end PeakSlowness
