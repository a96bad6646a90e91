import PeakSlowness.Proofs.Endings
import PeakSlowness.Proofs.Override
import PeakSlowness.Proofs.VerboseOption

set_option autoImplicit false

/-!
Configurations that differ in their section about messages. They are accepted alike, or rejected for
one reason; and with arguments over them that differ in nothing but the option for messages, the
work that they stand for is the same.
-/

namespace PeakSlowness

open CommandLine

namespace Config

/-- Two values with one and the same content in all sections but the one about messages. That section
is a mapping in both of them, or not set. -/
structure SameButLogging (v v' : Setting) : Prop where
  isMap : v.orEmpty.kind = .map
  isMap' : v'.orEmpty.kind = .map
  others : ∀ name ∈ sectionNames, name ≠ "logging" → v'.orEmpty.get? name = v.orEmpty.get? name
  logging : checkSection v.orEmpty "logging" = .ok ()
  logging' : checkSection v'.orEmpty "logging" = .ok ()

/-- A value with an entry in its section about messages, in place of the one that was there. -/
def withVerbose (v value : Setting) : Except ValueFault Setting := do
  let entries ← v.orEmpty.asEntries
  let old ← ((valueAt? entries (.text "logging")).getD .empty).orEmpty.asEntries
  return .map (putEntry entries (.text "logging") (.map (putEntry old (.text "verbose") value)))

/-- Two accepted configurations with the same sections but for messages. -/
structure Alike (cfg cfg' : Setting) : Prop where
  accepted : ∃ v, ofValue v = .ok cfg
  accepted' : ∃ v, ofValue v = .ok cfg'
  others : ∀ name ∈ sectionNames, name ≠ "logging" → cfg'.get? name = cfg.get? name

theorem Alike.refl {v cfg : Setting} (h : ofValue v = .ok cfg) : Alike cfg cfg :=
  ⟨⟨v, h⟩, ⟨v, h⟩, fun _ _ _ => rfl⟩

section

variable {v v' cfg cfg' : Setting}

theorem forM_congr {ε α : Type} {f g : α → Except ε Unit} {items : List α}
    (h : ∀ a ∈ items, f a = g a) : items.forM f = items.forM g := by
  induction items with
  | nil => rfl
  | cons a rest ih =>
    obtain ⟨here, there⟩ := List.forall_mem_cons.1 h
    change (f a >>= fun _ => rest.forM f) = (g a >>= fun _ => rest.forM g)
    rw [here, ih there]

theorem ofValue_of_map (h : v.orEmpty.kind = .map) :
    ofValue v = sectionNames.forM (checkSection v.orEmpty) >>= fun _ => pure v.orEmpty := by
  unfold ofValue
  extract_lets cfg rest
  exact if_neg (not_not.2 h)

/-- Values that differ in the section about messages are accepted alike, or rejected for one
reason. -/
theorem ofValue_alike (h : SameButLogging v v') :
    (∃ fault, ofValue v = .error fault ∧ ofValue v' = .error fault) ∨
      ∃ cfg cfg', ofValue v = .ok cfg ∧ ofValue v' = .ok cfg' ∧ Alike cfg cfg' := by
  have each : ∀ name ∈ sectionNames, checkSection v'.orEmpty name = checkSection v.orEmpty name := by
    intro name hn
    by_cases logging : name = "logging"
    · rw [logging, h.logging, h.logging']
    · rw [checkSection, Setting.getD, h.others name hn logging]
      rfl
  have accepts := ofValue_of_map h.isMap
  have accepts' := ofValue_of_map h.isMap'
  rw [forM_congr each] at accepts'
  cases checked : sectionNames.forM (checkSection v.orEmpty) with
  | error fault =>
    rw [checked] at accepts accepts'
    exact .inl ⟨fault, accepts, accepts'⟩
  | ok done =>
    rw [checked] at accepts accepts'
    exact .inr ⟨_, _, accepts, accepts', ⟨_, accepts⟩, ⟨_, accepts'⟩, h.others⟩

/-- Whether messages are asked for can be set in every value whose section about them is one. -/
theorem exists_withVerbose (isMap : v.orEmpty.kind = .map)
    (logging : checkSection v.orEmpty "logging" = .ok ()) (value : Setting) :
    ∃ v', withVerbose v value = .ok v' ∧ SameButLogging v v' := by
  obtain ⟨entries, held, there⟩ := asEntries_of_map isMap
  obtain ⟨old, inside, -⟩ := asEntries_of_map (kind_section logging there)
  obtain ⟨listed, held', lookup⟩ := get?_of_map isMap
  obtain rfl : entries = listed := Except.ok.inj (held.symm.trans held')
  have put : withVerbose v value = .ok (.map (putEntry entries (.text "logging")
      (.map (putEntry old (.text "verbose") value)))) := by
    rw [withVerbose, held, ok_bind, inside]
    rfl
  refine ⟨_, put, isMap, ?_, ?_, logging, ?_⟩
  · rw [orEmpty_map]
    rfl
  · intro name _ aside
    rw [orEmpty_map, lookup, Setting.get?, valueAt?_putEntry_of_ne aside]
  · rw [orEmpty_map, checkSection, getD_map, valueAt?_putEntry_self]
    rfl

theorem entriesFor_loud (a : Arguments) {name : String} (h : name ≠ "logging") :
    a.loud.entriesFor name = a.entriesFor name := by
  unfold Arguments.entriesFor
  split
  · rfl
  · rfl
  · rfl
  · rfl
  · exact absurd rfl h
  · rfl

/-- Arguments that differ in the option for messages, over configurations that differ in the section
about them, come to the same sections but for that one. -/
theorem override_alike {a a' : Arguments} (same : a'.loud = a.loud) (h : Alike cfg cfg') :
    ∃ s s', a.override cfg = .ok s ∧ a'.override cfg' = .ok s' ∧ Settled s ∧ Settled s' ∧
      ∀ name ∈ sectionNames, name ≠ "logging" → s'.sectionAt name = s.sectionAt name := by
  obtain ⟨⟨v, accepted⟩, ⟨v', accepted'⟩, others⟩ := h
  obtain ⟨s, put⟩ := exists_override a accepted
  obtain ⟨s', put'⟩ := exists_override a' accepted'
  refine ⟨s, s', put, put', settled_of_override put, settled_of_override put', ?_⟩
  intro name hn aside
  obtain ⟨entries, old, held, there, found⟩ := sectionAt_override put hn
  obtain ⟨entries', old', held', there', found'⟩ := sectionAt_override put' hn
  obtain ⟨listed, held₁, lookup⟩ := get?_of_map (ofValue_eq_ok accepted).1
  obtain ⟨listed', held₂, lookup'⟩ := get?_of_map (ofValue_eq_ok accepted').1
  obtain rfl : entries = listed := Except.ok.inj (held.symm.trans held₁)
  obtain rfl : entries' = listed' := Except.ok.inj (held'.symm.trans held₂)
  have value : valueAt? entries' (.text name) = valueAt? entries (.text name) := by
    have looked := others name hn aside
    rw [lookup, lookup'] at looked
    exact Except.ok.inj looked
  rw [value, there] at there'
  obtain rfl : old = old' := Except.ok.inj there'
  rw [found, found', ← entriesFor_loud a aside, ← entriesFor_loud a' aside, same]

end

end Config

namespace Action

open Config

variable {cfg cfg' : Setting}

/-- What a settled configuration has the program do is in its sections, that about messages aside. -/
theorem work_congr (h : Settled cfg) (h' : Settled cfg')
    (same : ∀ name ∈ sectionNames, name ≠ "logging" → cfg'.sectionAt name = cfg.sectionAt name) :
    work cfg' = work cfg := by
  have input := same "input" (by decide) (by decide)
  have parsing := same "parsing" (by decide) (by decide)
  have checkpoints := same "checkpoints" (by decide) (by decide)
  have output := same "output" (by decide) (by decide)
  have path : inputPath cfg' = inputPath cfg := by
    simp only [inputPath, sectionEntry, input, parsing]
  have mode : Config.mode cfg' = Config.mode cfg := by
    simp only [Config.mode, h.orEmpty, h'.orEmpty, parsing]
  have sweep : Config.sweep cfg' = Config.sweep cfg := by
    simp only [Config.sweep, h.orEmpty, h'.orEmpty, checkpoints]
  have plan : Plan.ofConfig cfg' = Plan.ofConfig cfg := by
    simp only [Plan.ofConfig, sweep, output]
  simp only [work, path, load, mode, summarize, plan]

end Action

end PeakSlowness
