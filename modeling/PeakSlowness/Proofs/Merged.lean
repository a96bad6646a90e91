import PeakSlowness.Proofs.Shape

set_option autoImplicit false

/-!
Arguments over a configuration, entry by entry. Each of the nine options has an entry of a section. Where the
arguments give an option its entry is theirs, and everything else, in the sections and beside them, is
what it was. So it does not matter how often arguments are put over a configuration, nor what it has held
in the entries that they give.
-/

namespace PeakSlowness

open CommandLine

section Entries

variable {entries more : List (Scalar × Setting)} {names : List String} {name : String}
  {value : Setting}

/-- The entries that are not under one of these names. -/
def others (names : List String) (entries : List (Scalar × Setting)) : List (Scalar × Setting) :=
  entries.filter fun e => !names.any fun name => e.1 = .text name

theorem others_cons_of_named (hn : name ∈ names) (value : Setting) (rest : List (Scalar × Setting)) :
    others names ((.text name, value) :: rest) = others names rest := by
  apply List.filter_cons_of_neg
  simpa using hn

theorem others_putEntry (hn : name ∈ names) (entries : List (Scalar × Setting)) (value : Setting) :
    others names (putEntry entries (.text name) value) = others names entries := by
  induction entries with
  | nil => exact others_cons_of_named hn value []
  | cons e rest ih =>
    rw [putEntry_cons]
    obtain ⟨key, old⟩ := e
    by_cases here : key = .text name
    · subst here
      rw [if_pos rfl, others_cons_of_named hn, others_cons_of_named hn]
    · simp only [others, if_neg here, List.filter_cons] at ih ⊢
      rw [ih]

theorem others_putEntries (h : ∀ e ∈ more, ∃ name ∈ names, e.1 = .text name)
    (entries : List (Scalar × Setting)) : others names (putEntries entries more) = others names entries := by
  induction more generalizing entries with
  | nil => rfl
  | cons e rest ih =>
    obtain ⟨⟨name, hn, same⟩, fine⟩ := List.forall_mem_cons.1 h
    have put : putEntries entries (e :: rest) = putEntries (putEntry entries (.text name) e.2) rest := by
      rw [← same]
      rfl
    rw [put, ih fine, others_putEntry hn]

/-- Putting what is there changes nothing. -/
theorem putEntry_of_held (held : valueAt? entries (.text name) = some value) :
    putEntry entries (.text name) value = entries := by
  induction entries with
  | nil => cases held
  | cons e rest ih =>
    rw [valueAt?_cons] at held
    rw [putEntry_cons]
    by_cases here : e.1 = .text name
    · rw [if_pos here] at held ⊢
      rw [← Option.some.inj held]
    · rw [if_neg here] at held ⊢
      rw [ih held]

theorem putEntries_of_held (h : ∀ e ∈ more, ∃ name, e.1 = .text name ∧
    valueAt? entries (.text name) = some e.2) : putEntries entries more = entries := by
  induction more with
  | nil => rfl
  | cons e rest ih =>
    obtain ⟨⟨name, same, held⟩, fine⟩ := List.forall_mem_cons.1 h
    have put : putEntries entries (e :: rest) = putEntries (putEntry entries (.text name) e.2) rest := by
      rw [← same]
      rfl
    rw [put, putEntry_of_held held, ih fine]

theorem mem_iff_valueAt? (distinct : (entries.map Prod.fst).Nodup) (value : Setting) :
    (.text name, value) ∈ entries ↔ valueAt? entries (.text name) = some value := by
  induction entries with
  | nil => exact iff_of_false List.not_mem_nil nofun
  | cons e rest ih =>
    obtain ⟨key, held⟩ := e
    obtain ⟨new, distinct⟩ := List.nodup_cons.1 distinct
    have ih := ih distinct
    rw [valueAt?_cons, List.mem_cons, ih]
    by_cases here : key = .text name
    · subst here
      have none_below : valueAt? rest (.text name) ≠ some value :=
        fun found => new (List.mem_map.2 ⟨_, ih.2 found, rfl⟩)
      simp [none_below, eq_comm]
    · simp [here, Ne.symm here]

/-- Entries with distinct keys that agree under some names and have the same other entries are the same ones
in some order. -/
theorem perm_of_others {entries' : List (Scalar × Setting)} (distinct : (entries.map Prod.fst).Nodup)
    (distinct' : (entries'.map Prod.fst).Nodup)
    (named : ∀ name ∈ names, valueAt? entries (.text name) = valueAt? entries' (.text name))
    (beside : (others names entries).Perm (others names entries')) : entries.Perm entries' := by
  rw [List.perm_ext_iff_of_nodup (.of_map _ distinct) (.of_map _ distinct')]
  rintro ⟨key, value⟩
  by_cases known : ∃ name ∈ names, key = .text name
  · obtain ⟨name, hn, rfl⟩ := known
    rw [mem_iff_valueAt? distinct, mem_iff_valueAt? distinct', named name hn]
  · have kept (es : List (Scalar × Setting)) : (key, value) ∈ others names es ↔ (key, value) ∈ es := by
      have apart : ∀ name ∈ names, key ≠ .text name := by simpa using known
      simpa [others] using fun _ => apart
    rw [← kept entries, ← kept entries', beside.mem_iff]

/-- Values under several names, each put if there is one. -/
def putNamed (entries : List (Scalar × Setting)) (names : List String)
    (value? : String → Option Setting) : List (Scalar × Setting) :=
  putEntries entries (names.filterMap fun name => (value? name).map (Prod.mk (.text name)))

section Named

variable {value? other? : String → Option Setting}

theorem putNamed_cons (entries : List (Scalar × Setting)) (name : String) (names : List String)
    (value? : String → Option Setting) : putNamed entries (name :: names) value? =
      putNamed (match value? name with
        | none => entries
        | some value => putEntry entries (.text name) value) names value? := by
  unfold putNamed
  cases found : value? name with
  | none => simp [found]
  | some value =>
    simp only [List.filterMap_cons, found, Option.map_some]
    rfl

theorem putNamed_congr (h : ∀ name ∈ names, value? name = other? name)
    (entries : List (Scalar × Setting)) : putNamed entries names value? = putNamed entries names other? := by
  unfold putNamed
  congr 1
  apply List.filterMap_congr
  intro name hn
  rw [h name hn]

theorem valueAt?_putNamed (distinct : names.Nodup) (entries : List (Scalar × Setting)) (name : String) :
    valueAt? (putNamed entries names value?) (.text name) =
      if name ∈ names then (value? name).or (valueAt? entries (.text name))
      else valueAt? entries (.text name) := by
  induction names generalizing entries with
  | nil => rfl
  | cons first rest ih =>
    obtain ⟨new, distinct⟩ := List.nodup_cons.1 distinct
    rw [putNamed_cons, ih distinct]
    by_cases same : name = first
    · subst same
      cases found : value? name with
      | none => simp [new]
      | some value => simp [new, valueAt?_putEntry_self]
    · cases found : value? first with
      | none => simp [same]
      | some value => simp [same, valueAt?_putEntry_of_ne same]

theorem others_putNamed (entries : List (Scalar × Setting)) (names : List String)
    (value? : String → Option Setting) : others names (putNamed entries names value?) = others names entries := by
  apply others_putEntries
  intro e he
  obtain ⟨name, hn, found⟩ := List.mem_filterMap.1 he
  obtain ⟨value, -, rfl⟩ := Option.map_eq_some_iff.1 found
  exact ⟨name, hn, rfl⟩

theorem putNamed_putNamed (distinct : names.Nodup) (entries : List (Scalar × Setting)) :
    putNamed (putNamed entries names value?) names value? = putNamed entries names value? := by
  apply putEntries_of_held
  intro e he
  obtain ⟨name, hn, found⟩ := List.mem_filterMap.1 he
  obtain ⟨value, given, rfl⟩ := Option.map_eq_some_iff.1 found
  refine ⟨name, rfl, ?_⟩
  rw [valueAt?_putNamed distinct, if_pos hn, given]
  rfl

end Named

end Entries

namespace CommandLine.Arguments

/-- The options that have an entry in a section, by the keys of their entries. -/
def optionNames : String → List String
  | "input" => ["path"]
  | "checkpoints" => ["start", "end", "step"]
  | "parsing" => ["mode"]
  | "output" => ["root", "format", "plot"]
  | "logging" => ["verbose"]
  | _ => []

/-- The value that arguments give for the entry of an option. -/
def given? (a : Arguments) : String → String → Option Scalar
  | "input", "path" => a.input.map .text
  | "checkpoints", "start" => a.start.map .int
  | "checkpoints", "end" => a.stop.map .int
  | "checkpoints", "step" => a.step.map .int
  | "parsing", "mode" => a.mode.map fun m => .text m.name
  | "output", "root" => a.out.map fun p => .text p.toText
  | "output", "format" => a.format.map fun f => .text f.name
  | "output", "plot" => if a.plot then some (.bool true) else none
  | "logging", "verbose" => if a.verbose then some (.bool true) else none
  | _, _ => none

/-- Arguments and others after them: an option that both give is the one of the others. -/
def followedBy (a b : Arguments) : Arguments where
  input := b.input.or a.input
  config := b.config.or a.config
  start := b.start.or a.start
  stop := b.stop.or a.stop
  step := b.step.or a.step
  mode := b.mode.or a.mode
  out := b.out.or a.out
  format := b.format.or a.format
  plot := b.plot || a.plot
  verbose := b.verbose || a.verbose

variable (a b : Arguments) (sect name : String)

theorem nodup_optionNames : (optionNames sect).Nodup := by
  unfold optionNames
  split <;> decide

theorem given_append (value? : String → Option Scalar) (name : String) (names : List String) :
    (name :: names).filterMap (fun n => ((value? n).map Setting.scalar).map (Prod.mk (.text n))) =
      given name (value? name) ++
        names.filterMap fun n => ((value? n).map Setting.scalar).map (Prod.mk (.text n)) := by
  rw [List.filterMap_cons]
  cases value? name with
  | none => rfl
  | some value => rfl

theorem entriesFor_eq : a.entriesFor sect =
    (optionNames sect).filterMap fun name =>
      ((a.given? sect name).map Setting.scalar).map (Prod.mk (.text name)) := by
  unfold entriesFor optionNames
  split
  all_goals simp only [given_append, List.filterMap_nil, List.append_nil, List.append_assoc]
  all_goals rfl

theorem flag_or (first second : Bool) (value : Scalar) :
    (if first || second then some value else none) =
      (if first then some value else none).or (if second then some value else none) := by
  cases first with
  | true => rfl
  | false => rfl

theorem given?_followedBy :
    (a.followedBy b).given? sect name = (b.given? sect name).or (a.given? sect name) := by
  unfold given?
  split
  case h_8 | h_9 => exact flag_or _ _ _
  case h_10 => rfl
  all_goals exact Option.map_or

end CommandLine.Arguments

namespace Config

variable {v cfg cfg' : Setting} {a : Arguments} {sect name : String}

/-- The entries of a configuration. -/
def topEntries : Setting → List (Scalar × Setting)
  | .map entries => entries
  | _ => []

/-- The entries of a section, none where it is not set. -/
def sectionEntries (cfg : Setting) (sect : String) : List (Scalar × Setting) :=
  match cfg.sectionAt sect with
  | .ok part => topEntries part
  | .error _ => []

/-- The entries of a section with those of the arguments put over them. -/
def mergedEntries (a : Arguments) (cfg : Setting) (sect : String) : List (Scalar × Setting) :=
  putNamed (sectionEntries cfg sect) (Arguments.optionNames sect) fun name =>
    (a.given? sect name).map Setting.scalar

theorem mergedEntries_eq (a : Arguments) (cfg : Setting) (sect : String) :
    mergedEntries a cfg sect = putEntries (sectionEntries cfg sect) (a.entriesFor sect) := by
  rw [Arguments.entriesFor_eq]
  rfl

/-- A configuration with arguments put over it. -/
def merged (a : Arguments) (cfg : Setting) : Setting :=
  .map (putNamed (topEntries cfg) sectionNames fun sect => some (.map (mergedEntries a cfg sect)))

theorem nodup_sectionNames : sectionNames.Nodup := by decide

theorem asEntries_eq (isMap : v.kind = .map) : v.asEntries = .ok (topEntries v) ∧
    ∀ name, v.get? name = .ok (valueAt? (topEntries v) (.text name)) := by
  rcases eq_of_kind_map isMap with ⟨entries, rfl⟩ | rfl
  · exact ⟨rfl, fun _ => rfl⟩
  · exact ⟨rfl, fun _ => rfl⟩

theorem sectionEntries_eq (h : WellShaped cfg) (hn : sect ∈ sectionNames) :
    (((valueAt? (topEntries cfg) (.text sect)).getD .empty).orEmpty).asEntries =
      .ok (sectionEntries cfg sect) := by
  obtain ⟨-, lookup⟩ := asEntries_eq h.1
  have fits := h.2 sect hn
  rw [Fits, lookup] at fits
  have isMap : (((valueAt? (topEntries cfg) (.text sect)).getD .empty).orEmpty).kind = .map := by
    apply kind_orEmpty
    cases found : valueAt? (topEntries cfg) (.text sect) with
    | none => exact .inr rfl
    | some part => exact fits part (congrArg Except.ok found)
  rw [(asEntries_eq isMap).1, sectionEntries, Setting.sectionAt, Setting.getD, lookup]
  rfl

/-- Putting arguments over a configuration. -/
theorem override_eq (h : WellShaped cfg) (a : Arguments) : a.override cfg = .ok (merged a cfg) := by
  have sections : sectionNames.mapM (a.overrideSection (topEntries cfg)) =
      .ok (sectionNames.map fun sect => (.text sect, .map (mergedEntries a cfg sect))) := by
    rw [mapM_eq_ok_iff, List.forall₂_map_right_iff]
    refine List.forall₂_same.2 fun sect hn => ?_
    rw [Arguments.overrideSection, sectionEntries_eq h hn, ok_bind, mergedEntries_eq]
    rfl
  rw [Arguments.override, (asEntries_eq h.1).1, ok_bind, sections]
  rfl

section Merged

theorem topEntries_merged (a : Arguments) (cfg : Setting) : topEntries (merged a cfg) =
    putNamed (topEntries cfg) sectionNames fun sect => some (.map (mergedEntries a cfg sect)) := rfl

theorem valueAt?_merged (hn : sect ∈ sectionNames) (a : Arguments) (cfg : Setting) :
    valueAt? (topEntries (merged a cfg)) (.text sect) = some (.map (mergedEntries a cfg sect)) := by
  rw [topEntries_merged, valueAt?_putNamed nodup_sectionNames, if_pos hn]
  rfl

theorem sectionEntries_merged (hn : sect ∈ sectionNames) (a : Arguments) (cfg : Setting) :
    sectionEntries (merged a cfg) sect = mergedEntries a cfg sect := by
  have found : (merged a cfg).get? sect = .ok (some (.map (mergedEntries a cfg sect))) :=
    congrArg Except.ok (valueAt?_merged hn a cfg)
  rw [sectionEntries, Setting.sectionAt, Setting.getD, found]
  exact congrArg topEntries (orEmpty_map _)

theorem wellShaped_merged (a : Arguments) (cfg : Setting) : WellShaped (merged a cfg) := by
  refine ⟨rfl, fun sect hn part there => ?_⟩
  have found : (merged a cfg).get? sect = .ok (some (.map (mergedEntries a cfg sect))) :=
    congrArg Except.ok (valueAt?_merged hn a cfg)
  cases found.symm.trans there
  exact .inr rfl

theorem wellShaped_of_ofValue (h : ofValue v = .ok cfg) : WellShaped cfg := by
  obtain ⟨isMap, checked⟩ := ofValue_eq_ok h
  exact ⟨isMap, fun name hn => (checkSection_eq_ok_iff isMap).1 (checked name hn)⟩

/-- What arguments over a configuration change: the entries that they give. -/
structure Overrides (a : Arguments) (cfg cfg' : Setting) : Prop where
  settled : Settled cfg'
  entry : ∀ sect ∈ sectionNames, ∀ name ∈ Arguments.optionNames sect,
    valueAt? (sectionEntries cfg' sect) (.text name) =
      ((a.given? sect name).map Setting.scalar).or (valueAt? (sectionEntries cfg sect) (.text name))
  inside : ∀ sect ∈ sectionNames, others (Arguments.optionNames sect) (sectionEntries cfg' sect) =
    others (Arguments.optionNames sect) (sectionEntries cfg sect)
  beside : others sectionNames (topEntries cfg') = others sectionNames (topEntries cfg)

theorem valueAt?_mergedEntries (name : String) : valueAt? (mergedEntries a cfg sect) (.text name) =
    if name ∈ Arguments.optionNames sect then
      ((a.given? sect name).map Setting.scalar).or (valueAt? (sectionEntries cfg sect) (.text name))
    else valueAt? (sectionEntries cfg sect) (.text name) :=
  valueAt?_putNamed (Arguments.nodup_optionNames sect) _ name

theorem overrides_merged (a : Arguments) (cfg : Setting) : Overrides a cfg (merged a cfg) := by
  refine ⟨⟨_, rfl, fun sect hn => ⟨_, valueAt?_merged hn a cfg⟩⟩, ?_, ?_, ?_⟩
  · intro sect hn name ho
    rw [sectionEntries_merged hn, valueAt?_mergedEntries, if_pos ho]
  · intro sect hn
    rw [sectionEntries_merged hn]
    exact others_putNamed _ _ _
  · exact others_putNamed _ _ _

theorem merged_merged (a : Arguments) (cfg : Setting) : merged a (merged a cfg) = merged a cfg := by
  have same : ∀ sect ∈ sectionNames, mergedEntries a (merged a cfg) sect = mergedEntries a cfg sect := by
    intro sect hn
    rw [mergedEntries, sectionEntries_merged hn]
    exact putNamed_putNamed (Arguments.nodup_optionNames sect) _
  rw [merged, topEntries_merged]
  congr 1
  rw [putNamed_congr fun sect hn => congrArg (fun part => some (Setting.map part)) (same sect hn)]
  exact putNamed_putNamed nodup_sectionNames _

/-- Configurations that agree on the entries of some options and on everything that belongs to no option. -/
structure Agree (options : String → String → Prop) (cfg cfg' : Setting) : Prop where
  entry : ∀ sect ∈ sectionNames, ∀ name ∈ Arguments.optionNames sect, options sect name →
    valueAt? (sectionEntries cfg sect) (.text name) = valueAt? (sectionEntries cfg' sect) (.text name)
  inside : ∀ sect ∈ sectionNames, (others (Arguments.optionNames sect) (sectionEntries cfg sect)).Perm
    (others (Arguments.optionNames sect) (sectionEntries cfg' sect))
  beside : (others sectionNames (topEntries cfg)).Perm (others sectionNames (topEntries cfg'))

/-- Configurations are equal if they agree on everything. -/
def Equal (cfg cfg' : Setting) : Prop := Agree (fun _ _ => True) cfg cfg'

/-- Equal configurations with distinct keys in a section have the same entries there. -/
theorem Equal.perm (h : Equal cfg cfg') (hn : sect ∈ sectionNames)
    (distinct : ((sectionEntries cfg sect).map Prod.fst).Nodup)
    (distinct' : ((sectionEntries cfg' sect).map Prod.fst).Nodup) :
    (sectionEntries cfg sect).Perm (sectionEntries cfg' sect) :=
  perm_of_others distinct distinct' (fun name ho => h.entry sect hn name ho trivial) (h.inside sect hn)

/-- Configurations that differ in entries that arguments give come to the same with them. -/
theorem equal_merged_of_agree (h : Agree (fun sect name => a.given? sect name = none) cfg cfg') :
    Equal (merged a cfg) (merged a cfg') := by
  have before := overrides_merged a cfg
  have after := overrides_merged a cfg'
  refine ⟨fun sect hn name ho _ => ?_, fun sect hn => ?_, ?_⟩
  · rw [before.entry sect hn name ho, after.entry sect hn name ho]
    cases given : a.given? sect name with
    | none => rw [h.entry sect hn name ho given]
    | some value => rfl
  · rw [before.inside sect hn, after.inside sect hn]
    exact h.inside sect hn
  · rw [before.beside, after.beside]
    exact h.beside

/-- Arguments and others after them are put over a configuration at once or one after the other. -/
theorem equal_merged_followedBy (a b : Arguments) (cfg : Setting) :
    Equal (merged b (merged a cfg)) (merged (a.followedBy b) cfg) := by
  have first := overrides_merged a cfg
  have second := overrides_merged b (merged a cfg)
  have both := overrides_merged (a.followedBy b) cfg
  refine ⟨fun sect hn name ho _ => ?_, fun sect hn => ?_, ?_⟩
  · rw [second.entry sect hn name ho, first.entry sect hn name ho, both.entry sect hn name ho,
      Arguments.given?_followedBy, Option.map_or, Option.or_assoc]
  · rw [second.inside sect hn, first.inside sect hn, both.inside sect hn]
  · rw [second.beside, first.beside, both.beside]

end Merged

end Config

end PeakSlowness
