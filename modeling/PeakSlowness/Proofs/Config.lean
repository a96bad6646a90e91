import Mathlib.Data.List.Forall2
import PeakSlowness.Config.Override
import PeakSlowness.Proofs.Steps

set_option autoImplicit false

/-!
Settled configurations: mappings in which all five sections are mappings. What arguments make of a
configuration is settled, and looking a value up in it does not fail.
-/

namespace PeakSlowness

theorem Scalar.sameKey_text (a : Scalar) (name : String) :
    a.sameKey (.text name) = decide (a = .text name) := by
  cases a <;> simp [sameKey, asInt?]

section Entries

variable {entries : List (Scalar × Setting)} {name other : String}

theorem valueAt?_cons (e : Scalar × Setting) (rest : List (Scalar × Setting)) (name : String) :
    valueAt? (e :: rest) (.text name) =
      if e.1 = .text name then some e.2 else valueAt? rest (.text name) := by
  by_cases here : e.1 = .text name
  · simp [valueAt?, Scalar.sameKey_text, here]
  · simp [valueAt?, Scalar.sameKey_text, here]

theorem putEntry_cons (e : Scalar × Setting) (rest : List (Scalar × Setting)) (name : String)
    (value : Setting) : putEntry (e :: rest) (.text name) value =
      if e.1 = .text name then (e.1, value) :: rest else e :: putEntry rest (.text name) value := by
  by_cases here : e.1 = .text name
  · simp [putEntry, Scalar.sameKey_text, here]
  · simp [putEntry, Scalar.sameKey_text, here]

theorem valueAt?_putEntry_self (entries : List (Scalar × Setting)) (name : String)
    (value : Setting) :
    valueAt? (putEntry entries (.text name) value) (.text name) = some value := by
  induction entries with
  | nil => rw [putEntry, valueAt?_cons, if_pos rfl]
  | cons e rest ih =>
    rw [putEntry_cons]
    by_cases here : e.1 = .text name
    · rw [if_pos here, valueAt?_cons, if_pos here]
    · rw [if_neg here, valueAt?_cons, if_neg here, ih]

theorem valueAt?_putEntry_of_ne (h : name ≠ other) (entries : List (Scalar × Setting))
    (value : Setting) :
    valueAt? (putEntry entries (.text other) value) (.text name) =
      valueAt? entries (.text name) := by
  have apart : Scalar.text other ≠ .text name := by
    rintro ⟨⟩
    exact h rfl
  induction entries with
  | nil => rw [putEntry, valueAt?_cons, if_neg apart]
  | cons e rest ih =>
    rw [putEntry_cons]
    by_cases here : e.1 = .text other
    · rw [if_pos here, valueAt?_cons, valueAt?_cons, here, if_neg apart, if_neg apart]
    · rw [if_neg here, valueAt?_cons, valueAt?_cons, ih]

/-- What all named entries have in common, the entry that is found under one of the names has. -/
theorem exists_valueAt?_putEntries {P : String → Setting → Prop} {names : List String}
    {more : List (Scalar × Setting)} (entries : List (Scalar × Setting))
    (h : List.Forall₂ (fun n e => ∃ part, e = (.text n, part) ∧ P n part) names more)
    (known : name ∈ names ∨ ∃ part, valueAt? entries (.text name) = some part ∧ P name part) :
    ∃ part, valueAt? (putEntries entries more) (.text name) = some part ∧ P name part := by
  induction h generalizing entries with
  | nil => exact known.resolve_left List.not_mem_nil
  | @cons other e names more first _ ih =>
    obtain ⟨new, rfl, there⟩ := first
    apply ih
    by_cases same : name = other
    · subst same
      exact .inr ⟨new, valueAt?_putEntry_self entries _ _, there⟩
    · rcases known with named | ⟨part, held, has⟩
      · exact .inl ((List.mem_cons.1 named).resolve_left same)
      · exact .inr ⟨part, (valueAt?_putEntry_of_ne same entries _).trans held, has⟩

/-- The entries have a mapping under a name. -/
def Holds (entries : List (Scalar × Setting)) (name : String) : Prop :=
  ∃ part, valueAt? entries (.text name) = some (.map part)

/-- An entry of a name is a mapping. -/
def IsSection (name : String) (e : Scalar × Setting) : Prop := ∃ part, e = (.text name, .map part)

theorem holds_putEntries {names : List String} {sections : List (Scalar × Setting)}
    (h : List.Forall₂ IsSection names sections) (known : name ∈ names ∨ Holds entries name) :
    Holds (putEntries entries sections) name := by
  have mapped : List.Forall₂ (fun n e => ∃ part, e = (.text n, part) ∧
      ∃ held, part = .map held) names sections :=
    h.imp fun _ _ ⟨held, is⟩ => ⟨_, is, held, rfl⟩
  obtain ⟨_, found, held, rfl⟩ := exists_valueAt?_putEntries entries mapped
    (known.imp_right fun ⟨held, there⟩ => ⟨_, there, held, rfl⟩)
  exact ⟨held, found⟩

end Entries

namespace Config

/-- A mapping in which all sections are mappings. -/
def Settled (cfg : Setting) : Prop :=
  ∃ entries, cfg = .map entries ∧ ∀ name ∈ sectionNames, Holds entries name

theorem orEmpty_map (entries : List (Scalar × Setting)) :
    (Setting.map entries).orEmpty = .map entries := by
  cases entries <;> rfl

theorem Settled.orEmpty {cfg : Setting} (h : Settled cfg) : cfg.orEmpty = cfg := by
  obtain ⟨entries, rfl, -⟩ := h
  exact orEmpty_map entries

theorem Settled.sectionAt {cfg : Setting} (h : Settled cfg) {name : String}
    (hn : name ∈ sectionNames) : ∃ part, cfg.sectionAt name = .ok (.map part) := by
  obtain ⟨entries, rfl, held⟩ := h
  obtain ⟨part, there⟩ := held name hn
  refine ⟨part, ?_⟩
  rw [Setting.sectionAt, Setting.getD, Setting.get?, there]
  exact congrArg Except.ok (orEmpty_map part)

theorem getD_map (part : List (Scalar × Setting)) (key : String) (fallback : Setting) :
    (Setting.map part).getD key fallback = .ok ((valueAt? part (.text key)).getD fallback) := rfl

end Config

theorem mapM_eq_ok_iff {ε α β : Type} {f : α → Except ε β} {items : List α} {results : List β} :
    items.mapM f = .ok results ↔ List.Forall₂ (fun a b => f a = .ok b) items results := by
  induction items generalizing results with
  | nil =>
    rw [List.mapM_nil, List.forall₂_nil_left_iff]
    constructor
    · rintro ⟨⟩
      rfl
    · rintro rfl
      rfl
  | cons a rest ih =>
    rw [List.mapM_cons, List.forall₂_cons_left_iff, bind_eq_ok_iff]
    constructor
    · rintro ⟨b, first, h⟩
      obtain ⟨bs, others, h⟩ := bind_eq_ok_iff.1 h
      cases h
      exact ⟨b, bs, first, ih.1 others, rfl⟩
    · rintro ⟨b, bs, first, others, rfl⟩
      exact ⟨b, first, bind_eq_ok_iff.2 ⟨bs, ih.2 others, rfl⟩⟩

theorem exists_mapM {ε α β : Type} {f : α → Except ε β} {items : List α}
    (h : ∀ a ∈ items, ∃ b, f a = .ok b) : ∃ results, items.mapM f = .ok results := by
  induction items with
  | nil => exact ⟨[], rfl⟩
  | cons a rest ih =>
    obtain ⟨b, first⟩ := h a List.mem_cons_self
    obtain ⟨bs, others⟩ := ih fun c hc => h c (List.mem_cons_of_mem _ hc)
    refine ⟨b :: bs, ?_⟩
    rw [List.mapM_cons, first, ok_bind, others]
    rfl

theorem forM_error {ε α : Type} {f : α → Except ε Unit} {items : List α} {e : ε}
    (h : items.forM f = .error e) : ∃ a ∈ items, f a = .error e := by
  induction items with
  | nil => cases h
  | cons a rest ih =>
    change (f a >>= fun _ => rest.forM f) = _ at h
    cases first : f a with
    | error e' =>
      rw [first] at h
      cases h
      exact ⟨a, List.mem_cons_self, first⟩
    | ok _ =>
      rw [first, ok_bind] at h
      obtain ⟨b, hb, found⟩ := ih h
      exact ⟨b, List.mem_cons_of_mem _ hb, found⟩

theorem forM_ok {ε α : Type} {f : α → Except ε Unit} {items : List α}
    (h : items.forM f = .ok ()) : ∀ a ∈ items, f a = .ok () := by
  induction items with
  | nil => exact nofun
  | cons a rest ih =>
    change (f a >>= fun _ => rest.forM f) = _ at h
    obtain ⟨_, first, others⟩ := bind_eq_ok_iff.1 h
    exact List.forall_mem_cons.2 ⟨first, ih others⟩

namespace Config

theorem eq_of_kind_map {v : Setting} (h : v.kind = .map) :
    (∃ entries, v = .map entries) ∨ v = .cycle true := by
  cases v with
  | map entries => exact .inl ⟨entries, rfl⟩
  | cycle isMap =>
    cases isMap with
    | true => exact .inr rfl
    | false => cases h
  | scalar value => cases value <;> cases h
  | list _ | set _ | pairs _ => cases h

theorem eq_of_kind_null {v : Setting} (h : v.kind = .null) : v = .scalar .null := by
  cases v with
  | scalar value =>
    cases value with
    | null => rfl
    | bool _ | int _ | float _ | text _ | broken _ | octets _ | date _ | moment _ => cases h
  | cycle isMap => cases isMap <;> cases h
  | list _ | map _ | set _ | pairs _ => cases h

theorem kind_orEmpty {v : Setting} (h : v.kind = .null ∨ v.kind = .map) :
    v.orEmpty.kind = .map := by
  rcases h with null | map
  · rw [eq_of_kind_null null]
    rfl
  · rcases eq_of_kind_map map with ⟨entries, rfl⟩ | rfl
    · rw [orEmpty_map]
      rfl
    · rfl

theorem asEntries_of_map {v : Setting} (h : v.kind = .map) :
    ∃ entries, v.asEntries = .ok entries ∧
      ∀ name fallback,
        v.getD name fallback = .ok ((valueAt? entries (.text name)).getD fallback) := by
  rcases eq_of_kind_map h with ⟨entries, rfl⟩ | rfl
  · exact ⟨entries, rfl, fun _ _ => rfl⟩
  · exact ⟨[], rfl, fun _ _ => rfl⟩

theorem kind_of_checkSection {v part : Setting} {name : String} (h : checkSection v name = .ok ())
    (there : v.getD name (.scalar .null) = .ok part) : part.kind = .null ∨ part.kind = .map := by
  rw [checkSection, there, ok_bind] at h
  split at h
  · next fine => simpa using fine
  · cases h

theorem ofValue_eq_ok {v cfg : Setting} (h : ofValue v = .ok cfg) :
    cfg.kind = .map ∧ ∀ name ∈ sectionNames, checkSection cfg name = .ok () := by
  unfold ofValue at h
  extract_lets whole rest at h
  split at h
  · cases h
  · next isMap =>
    obtain ⟨_, checked, h⟩ := bind_eq_ok_iff.1 h
    have same : whole = cfg := Except.ok.inj h
    rw [← same]
    exact ⟨not_not.1 isMap, forM_ok checked⟩

/-- Only values of the wrong kind are no configurations. -/
theorem kind_of_ofValue_error {v : Setting} {fault : ValueFault} (h : ofValue v = .error fault) :
    Failure.kind (.value fault) = .value := by
  unfold ofValue at h
  extract_lets whole rest at h
  split at h
  · cases h
    rfl
  · next isMap =>
    obtain ⟨entries, -, there⟩ := asEntries_of_map (not_not.1 isMap)
    cases checked : sectionNames.forM (checkSection whole) with
    | ok _ =>
      unfold rest at h
      rw [checked] at h
      cases h
    | error e =>
      unfold rest at h
      rw [checked] at h
      cases h
      obtain ⟨name, -, failed⟩ := forM_error checked
      rw [checkSection, there, ok_bind] at failed
      split at failed
      · cases failed
      · cases failed
        rfl

theorem kind_section {cfg : Setting} {entries : List (Scalar × Setting)} {name : String}
    (checked : checkSection cfg name = .ok ())
    (there : ∀ name fallback,
      cfg.getD name fallback = .ok ((valueAt? entries (.text name)).getD fallback)) :
    (((valueAt? entries (.text name)).getD .empty).orEmpty).kind = .map := by
  have kind := kind_of_checkSection checked (there name _)
  apply kind_orEmpty
  cases found : valueAt? entries (.text name) with
  | none => exact .inr rfl
  | some part =>
    rw [found] at kind
    exact kind

theorem overrideSection_eq_ok (a : CommandLine.Arguments) {cfg : Setting}
    {entries : List (Scalar × Setting)} {name : String} (checked : checkSection cfg name = .ok ())
    (there : ∀ name fallback,
      cfg.getD name fallback = .ok ((valueAt? entries (.text name)).getD fallback)) :
    ∃ e, a.overrideSection entries name = .ok e := by
  obtain ⟨part, held, -⟩ := asEntries_of_map (kind_section checked there)
  refine ⟨(.text name, .map (putEntries part (a.entriesFor name))), ?_⟩
  rw [CommandLine.Arguments.overrideSection, held]
  rfl

theorem isSection_of_overrideSection {a : CommandLine.Arguments} {entries : List (Scalar × Setting)}
    {name : String} {e : Scalar × Setting} (h : a.overrideSection entries name = .ok e) :
    IsSection name e := by
  obtain ⟨old, -, h⟩ := bind_eq_ok_iff.1 h
  cases h
  exact ⟨_, rfl⟩

theorem settled_of_override {a : CommandLine.Arguments} {cfg cfg' : Setting}
    (h : a.override cfg = .ok cfg') : Settled cfg' := by
  obtain ⟨entries, -, h⟩ := bind_eq_ok_iff.1 h
  obtain ⟨sections, settled, h⟩ := bind_eq_ok_iff.1 h
  cases h
  refine ⟨_, rfl, ?_⟩
  intro name hn
  apply holds_putEntries _ (.inl hn)
  exact (mapM_eq_ok_iff.1 settled).imp fun _ _ => isSection_of_overrideSection

/-- Arguments can be put over every configuration. -/
theorem exists_override (a : CommandLine.Arguments) {v cfg : Setting} (h : ofValue v = .ok cfg) :
    ∃ cfg', a.override cfg = .ok cfg' := by
  obtain ⟨isMap, checked⟩ := ofValue_eq_ok h
  obtain ⟨entries, held, there⟩ := asEntries_of_map isMap
  obtain ⟨sections, settled⟩ := exists_mapM fun name hn =>
    overrideSection_eq_ok a (checked name hn) there
  refine ⟨.map (putEntries entries sections), ?_⟩
  rw [CommandLine.Arguments.override, held, ok_bind, settled]
  rfl

end Config

end PeakSlowness
