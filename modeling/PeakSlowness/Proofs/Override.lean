import Mathlib.Data.List.Forall2
import PeakSlowness.Proofs.Config

set_option autoImplicit false

/-!
Looking values up in a configuration that arguments were put over. Each section is the one of the
configuration with the entries of the arguments put into it; an entry that the arguments give comes
from them, and every other one from the configuration.
-/

namespace PeakSlowness

open CommandLine

theorem putEntries_append (entries first second : List (Scalar × Setting)) :
    putEntries entries (first ++ second) = putEntries (putEntries entries first) second :=
  List.foldl_append

theorem valueAt?_putEntries_given (entries : List (Scalar × Setting)) (key name : String)
    (value : Option Scalar) :
    valueAt? (putEntries entries (Arguments.given key value)) (.text name) =
      if name = key then (value.map Setting.scalar).or (valueAt? entries (.text name))
      else valueAt? entries (.text name) := by
  cases value with
  | none =>
    split
    · rfl
    · rfl
  | some s =>
    have put : putEntries entries (Arguments.given key (some s)) =
        putEntry entries (.text key) (.scalar s) := rfl
    rw [put]
    by_cases same : name = key
    · subst same
      rw [if_pos rfl, valueAt?_putEntry_self]
      rfl
    · rw [if_neg same, valueAt?_putEntry_of_ne same]

namespace Config

/-- What the section of a name is, with the arguments over it. -/
theorem sectionAt_override {a : Arguments} {cfg cfg' : Setting} (h : a.override cfg = .ok cfg')
    {name : String} (hn : name ∈ sectionNames) :
    ∃ entries old, cfg.asEntries = .ok entries ∧
      (((valueAt? entries (.text name)).getD .empty).orEmpty).asEntries = .ok old ∧
      cfg'.sectionAt name = .ok (.map (putEntries old (a.entriesFor name))) := by
  obtain ⟨entries, held, h⟩ := bind_eq_ok_iff.1 h
  obtain ⟨sections, settled, h⟩ := bind_eq_ok_iff.1 h
  cases h
  have named : List.Forall₂ (fun n e => ∃ part, e = (.text n, part) ∧
      ∃ old, (((valueAt? entries (.text n)).getD .empty).orEmpty).asEntries = .ok old ∧
        part = .map (putEntries old (a.entriesFor n))) sectionNames sections := by
    refine (mapM_eq_ok_iff.1 settled).imp fun n e he => ?_
    obtain ⟨old, there, he⟩ := bind_eq_ok_iff.1 he
    cases he
    exact ⟨_, rfl, old, there, rfl⟩
  obtain ⟨part, found, old, there, rfl⟩ := exists_valueAt?_putEntries entries named (.inl hn)
  refine ⟨entries, old, held, there, ?_⟩
  rw [Setting.sectionAt, getD_map, found]
  exact congrArg Except.ok (orEmpty_map _)

theorem get?_of_map {v : Setting} (h : v.kind = .map) :
    ∃ entries, v.asEntries = .ok entries ∧
      ∀ name, v.get? name = .ok (valueAt? entries (.text name)) := by
  rcases eq_of_kind_map h with ⟨entries, rfl⟩ | rfl
  · exact ⟨entries, rfl, fun _ => rfl⟩
  · exact ⟨[], rfl, fun _ => rfl⟩

/-- The entry of a section. -/
def valueIn? (cfg : Setting) (sect name : String) : Option Setting :=
  ((cfg.sectionAt sect).toOption.bind fun part => (part.get? name).toOption).join

/-- A configuration with arguments over it has, in each section, the entries of the arguments put
over those of the configuration. -/
theorem sectionAt_override_of_ofValue {a : Arguments} {v cfg cfg' : Setting}
    (h : ofValue v = .ok cfg)
    (ho : a.override cfg = .ok cfg') {sect : String} (hn : sect ∈ sectionNames) :
    ∃ old, (∀ name, valueAt? old (.text name) = valueIn? cfg sect name) ∧
      cfg'.sectionAt sect = .ok (.map (putEntries old (a.entriesFor sect))) := by
  obtain ⟨entries, old, held, there, found⟩ := sectionAt_override ho hn
  refine ⟨old, fun name => ?_, found⟩
  obtain ⟨isMap, checked⟩ := ofValue_eq_ok h
  obtain ⟨entries', held', lookup⟩ := asEntries_of_map isMap
  rw [held] at held'
  cases held'
  have part : cfg.sectionAt sect = .ok ((valueAt? entries (.text sect)).getD .empty).orEmpty := by
    rw [Setting.sectionAt, lookup]
    rfl
  have kind : ((valueAt? entries (.text sect)).getD .empty).orEmpty.kind = .map :=
    kind_section (checked sect hn) lookup
  obtain ⟨old', there', get⟩ := get?_of_map kind
  rw [there] at there'
  cases there'
  rw [valueIn?, part]
  simp only [Except.toOption, Option.bind_some, get, Option.join_some]

end Config

end PeakSlowness
