import PeakSlowness.Proofs.Merged

set_option autoImplicit false

/-!
Arguments over a configuration that is kept in mappings with addresses, where a section may be shared with
other entries or other configurations. The configuration and its sections are copied before the first entry
is put, so every mapping that was there before is the same afterwards, and the copy holds the configuration
with the arguments over it.
-/

namespace PeakSlowness

open CommandLine

namespace Config

/-- What a configuration holds under a key: a mapping at an address, or a value that is no mapping. -/
inductive Held where
  | mapping (address : Nat)
  | value (v : Setting)

/-- The entries of a configuration in memory. -/
abbrev Row := List (Scalar × Held)

/-- Mappings in memory: the configurations, and the mappings that they hold, by their addresses. -/
structure Memory where
  parts : List (List (Scalar × Setting))
  rows : List Row

def heldAt? (row : Row) (key : Scalar) : Option Held := (row.find? fun e => e.1.sameKey key).map (·.2)

/-- Sets what a configuration holds under a key: in place if the key is there, otherwise at the end. -/
def putHeld : Row → Scalar → Held → Row
  | [], key, held => [(key, held)]
  | e :: rest, key, held =>
    if e.1.sameKey key then (e.1, held) :: rest else e :: putHeld rest key held

/-- Sets the sections of a configuration to mappings at addresses. -/
def putSections (row : Row) (addresses : List (String × Nat)) : Row :=
  addresses.foldl (fun row e => putHeld row (.text e.1) (.mapping e.2)) row

namespace Memory

/-- The value that is held somewhere. -/
def valueOf (m : Memory) : Held → Setting
  | .mapping address => .map (m.parts[address]?.getD [])
  | .value v => v

/-- Copies the sections of a configuration. A section that is not set is copied as an empty mapping. Gives
the addresses of the copies. -/
def copySections (row : Row) : List String → Memory → Except ValueFault (List (String × Nat) × Memory)
  | [], m => .ok ([], m)
  | name :: rest, m => do
    let section_ := ((heldAt? row (.text name)).map m.valueOf).getD .empty
    let entries ← section_.orEmpty.asEntries
    let (addresses, m') ← copySections row rest { m with parts := m.parts ++ [entries] }
    return ((name, m.parts.length) :: addresses, m')

/-- Puts what arguments give into sections at their addresses. -/
def fillSections (a : Arguments) : List (String × Nat) → Memory → Memory
  | [], m => m
  | (name, address) :: rest, m =>
    fillSections a rest { m with parts := m.parts.modify address (putEntries · (a.entriesFor name)) }

/-- Puts arguments over the configuration at an address. Gives the address of the result. -/
def override (m : Memory) (a : Arguments) (address : Nat) : Except ValueFault (Nat × Memory) := do
  let row := m.rows[address]?.getD []
  let copy := m.rows.length
  let (addresses, m) ← copySections row sectionNames { m with rows := m.rows ++ [row] }
  let m := fillSections a addresses m
  return (copy, { m with rows := m.rows.modify copy (putSections · addresses) })

/-- All mappings that a configuration holds are in memory. -/
def Sound (m : Memory) (row : Row) : Prop :=
  ∀ e ∈ row, ∀ address, e.2 = .mapping address → address < m.parts.length

/-- The entries of a configuration. -/
def read (m : Memory) (row : Row) : List (Scalar × Setting) := row.map fun e => (e.1, m.valueOf e.2)

/-- A configuration is kept at an address. -/
def Keeps (m : Memory) (address : Nat) (cfg : Setting) : Prop :=
  ∃ row, m.rows[address]? = some row ∧ m.Sound row ∧ cfg = .map (m.read row)

/-- What has been in memory stays as it was. -/
structure Extends (m m' : Memory) : Prop where
  parts : m.parts <+: m'.parts
  rows : m.rows <+: m'.rows

section Reading

variable {m m' : Memory} {row : Row} {cfg : Setting} {address : Nat}

theorem Sound.extends (h : m.Sound row) (more : m.Extends m') : m'.Sound row :=
  fun e he part held => Nat.lt_of_lt_of_le (h e he part held) more.parts.length_le

theorem Sound.read_eq (h : m.Sound row) (more : m.Extends m') : m'.read row = m.read row := by
  apply List.map_congr_left
  rintro ⟨key, held⟩ he
  cases held with
  | value v => rfl
  | mapping address =>
    obtain ⟨new, parts⟩ := more.parts
    have inside := h _ he address rfl
    simp only [valueOf, ← parts, List.getElem?_append_left inside]

/-- A configuration that is kept stays what it was. -/
theorem Keeps.extends (h : m.Keeps address cfg) (more : m.Extends m') : m'.Keeps address cfg := by
  obtain ⟨row, there, sound, rfl⟩ := h
  obtain ⟨new, rows⟩ := more.rows
  refine ⟨row, ?_, sound.extends more, by rw [sound.read_eq more]⟩
  rw [← rows, List.getElem?_append_left (List.getElem?_eq_some_iff.1 there).1, there]

theorem valueAt?_read (m : Memory) (row : Row) (key : Scalar) :
    valueAt? (m.read row) key = (heldAt? row key).map m.valueOf := by
  simp only [valueAt?, heldAt?, read, List.find?_map, Option.map_map]
  rfl

theorem read_putHeld (m : Memory) (row : Row) (key : Scalar) (held : Held) :
    m.read (putHeld row key held) = putEntry (m.read row) key (m.valueOf held) := by
  induction row with
  | nil => rfl
  | cons e rest ih =>
    simp only [read] at ih
    simp only [putHeld, read, List.map_cons, putEntry]
    split
    · rfl
    · rw [List.map_cons, ih]

theorem Sound.putHeld (h : m.Sound row) (inside : address < m.parts.length) (key : Scalar) :
    m.Sound (putHeld row key (.mapping address)) := by
  induction row with
  | nil =>
    intro e he part held
    rw [List.mem_singleton.1 he] at held
    cases held
    exact inside
  | cons e rest ih =>
    obtain ⟨first, others⟩ := List.forall_mem_cons.1 h
    unfold Config.putHeld
    split
    · refine List.forall_mem_cons.2 ⟨fun part held => ?_, others⟩
      cases held
      exact inside
    · exact List.forall_mem_cons.2 ⟨first, ih others⟩

theorem read_putSections (m : Memory) (row : Row) (addresses : List (String × Nat)) :
    m.read (putSections row addresses) = putEntries (m.read row)
      (addresses.map fun e => (.text e.1, m.valueOf (.mapping e.2))) := by
  induction addresses generalizing row with
  | nil => rfl
  | cons e rest ih =>
    have step : putSections row (e :: rest) = putSections (putHeld row (.text e.1) (.mapping e.2)) rest := rfl
    rw [step, ih, read_putHeld]
    rfl

theorem Sound.putSections {addresses : List (String × Nat)} (h : m.Sound row)
    (inside : ∀ e ∈ addresses, e.2 < m.parts.length) : m.Sound (putSections row addresses) := by
  induction addresses generalizing row with
  | nil => exact h
  | cons e rest ih =>
    obtain ⟨first, others⟩ := List.forall_mem_cons.1 inside
    exact ih (h.putHeld first _) others

end Reading

section Overriding

variable {m : Memory} {row : Row} {names : List String} {part : String → List (Scalar × Setting)}

theorem copySections_eq (sound : m.Sound row) (there : ∀ name ∈ names,
    (((valueAt? (m.read row) (.text name)).getD .empty).orEmpty).asEntries = .ok (part name)) :
    copySections row names m =
      .ok (names.zipIdx m.parts.length, { m with parts := m.parts ++ names.map part }) := by
  induction names generalizing m with
  | nil => simp [copySections]
  | cons name rest ih =>
    obtain ⟨first, others⟩ := List.forall_mem_cons.1 there
    have more : m.Extends { m with parts := m.parts ++ [part name] } :=
      ⟨List.prefix_append _ _, List.prefix_rfl⟩
    rw [← sound.read_eq more] at others
    have copied := ih (sound.extends more) others
    rw [valueAt?_read] at first
    simp only [copySections, first, ok_bind, copied, pure_eq_ok]
    simp [List.zipIdx_cons]

/-- Where each name is found behind so many others, what is kept for it is found. -/
theorem fillSections_eq (a : Arguments) (before : List (List (Scalar × Setting))) (rows : List Row) :
    fillSections a (names.zipIdx before.length) ⟨before ++ names.map part, rows⟩ =
      ⟨before ++ names.map fun name => putEntries (part name) (a.entriesFor name), rows⟩ := by
  induction names generalizing before with
  | nil => rfl
  | cons name rest ih =>
    have put : (before ++ part name :: rest.map part).modify before.length
        (putEntries · (a.entriesFor name)) =
          (before ++ [putEntries (part name) (a.entriesFor name)]) ++ rest.map part := by
      simp [List.modify_eq_take_cons_drop]
    have further := ih (before ++ [putEntries (part name) (a.entriesFor name)])
    rw [List.length_append, List.length_singleton] at further
    simp only [List.zipIdx_cons, fillSections, List.map_cons, put, further]
    rw [← List.append_cons]

theorem values_of_zipIdx (before : List (List (Scalar × Setting))) (rows : List Row)
    (names : List String) (part : String → List (Scalar × Setting)) :
    ((names.zipIdx before.length).map fun e =>
        (Scalar.text e.1, valueOf ⟨before ++ names.map part, rows⟩ (.mapping e.2))) =
      names.map fun name => (.text name, .map (part name)) := by
  induction names generalizing before with
  | nil => rfl
  | cons name rest ih =>
    have further := ih (before ++ [part name])
    rw [List.length_append, List.length_singleton] at further
    have here : valueOf ⟨before ++ [part name] ++ rest.map part, rows⟩ (.mapping before.length) =
        .map (part name) := by
      simp [valueOf]
    rw [List.zipIdx_cons, List.map_cons, List.map_cons, List.map_cons, List.append_cons, further, here]

/-- Putting arguments over a configuration in memory changes nothing that was there, and gives the address
of the configuration with the arguments over it. -/
theorem override_spec {address : Nat} {cfg : Setting} (keeps : m.Keeps address cfg)
    (shaped : WellShaped cfg) (a : Arguments) :
    ∃ copy m', m.override a address = .ok (copy, m') ∧ m.Extends m' ∧ m'.Keeps copy (merged a cfg) := by
  obtain ⟨row, there, sound, rfl⟩ := keeps
  have copied : copySections row sectionNames { m with rows := m.rows ++ [row] } =
      .ok (sectionNames.zipIdx m.parts.length, ⟨m.parts ++ sectionNames.map
        (sectionEntries (.map (m.read row))), m.rows ++ [row]⟩) :=
    copySections_eq sound fun name hn => sectionEntries_eq shaped hn
  have filled : fillSections a (sectionNames.zipIdx m.parts.length) ⟨m.parts ++ sectionNames.map
        (sectionEntries (.map (m.read row))), m.rows ++ [row]⟩ =
      ⟨m.parts ++ sectionNames.map (mergedEntries a (.map (m.read row))), m.rows ++ [row]⟩ := by
    rw [fillSections_eq, funext (mergedEntries_eq a _)]
  have updated : (m.rows ++ [row]).modify m.rows.length
      (putSections · (sectionNames.zipIdx m.parts.length)) =
        m.rows ++ [putSections row (sectionNames.zipIdx m.parts.length)] := by
    simp [List.modify_eq_take_cons_drop]
  have more : m.Extends ⟨m.parts ++ sectionNames.map (mergedEntries a (.map (m.read row))),
      m.rows ++ [putSections row (sectionNames.zipIdx m.parts.length)]⟩ :=
    ⟨List.prefix_append _ _, List.prefix_append _ _⟩
  refine ⟨m.rows.length, _, ?_, more, ?_⟩
  · simp only [override, there, Option.getD_some, copied, ok_bind, filled, updated, pure_eq_ok]
  · refine ⟨_, List.getElem?_concat_length, ?_, ?_⟩
    · refine (sound.extends more).putSections fun e he => ?_
      have bound := List.snd_lt_of_mem_zipIdx he
      simpa [Nat.add_comm] using bound
    · rw [read_putSections, sound.read_eq more, values_of_zipIdx]
      rfl

end Overriding

end Memory

/-- Putting arguments over a configuration. Each entry of an option is the one that is given, or stays what it
was; all other entries stay, and all sections are mappings. Doing it again changes nothing. Putting other
arguments over the result comes to the same as putting both over the configuration at once, and what the
configuration had in the entries that are given does not matter. Where the configuration is kept in memory,
nothing that was there is changed. -/
theorem override_overrides {v cfg : Setting} (accepted : ofValue v = .ok cfg) (a : Arguments) :
    ∃ cfg', a.override cfg = .ok cfg' ∧ Overrides a cfg cfg' ∧ a.override cfg' = .ok cfg' ∧
      (∀ b, ∃ last both, b.override cfg' = .ok last ∧ (a.followedBy b).override cfg = .ok both ∧
        Equal last both) ∧
      (∀ v₂ cfg₂, ofValue v₂ = .ok cfg₂ → Agree (fun sect name => a.given? sect name = none) cfg cfg₂ →
        ∃ other, a.override cfg₂ = .ok other ∧ Equal cfg' other) ∧
      ∀ (m : Memory) address, m.Keeps address cfg → ∃ copy m', m.override a address = .ok (copy, m') ∧
        m.Extends m' ∧ m'.Keeps address cfg ∧ m'.Keeps copy cfg' := by
  have shaped := wellShaped_of_ofValue accepted
  have again := override_eq (wellShaped_merged a cfg)
  refine ⟨merged a cfg, override_eq shaped a, overrides_merged a cfg, ?_, fun b => ?_, ?_, ?_⟩
  · rw [again a, merged_merged]
  · exact ⟨_, _, again b, override_eq shaped _, equal_merged_followedBy a b cfg⟩
  · intro v₂ cfg₂ accepted₂ agree
    exact ⟨_, override_eq (wellShaped_of_ofValue accepted₂) a, equal_merged_of_agree agree⟩
  · intro m address keeps
    obtain ⟨copy, m', put, more, kept⟩ := Memory.override_spec keeps shaped a
    exact ⟨copy, m', put, more, keeps.extends more, kept⟩

/-- A configuration with a section that is null, one with a number of no option, and an entry beside. -/
def sparse : Setting :=
  .map
    [(.text "note", .ofText "x"), (.text "checkpoints", .scalar .null),
     (.text "output", .map [entry "root" (.text "o"), entry "depth" (.int 3)])]

def sparseArguments : Arguments := { start := some 0, input := some "", plot := true }

def sparseMerged : Setting :=
  .map
    [(.text "note", .ofText "x"), (.text "checkpoints", .map [entry "start" (.int 0)]),
     (.text "output", .map [entry "root" (.text "o"), entry "depth" (.int 3), entry "plot" (.bool true)]),
     (.text "input", .map [entry "path" (.text "")]), (.text "parsing", .empty), (.text "logging", .empty)]

theorem override_overrides_sparse : ofValue sparse = .ok sparse ∧
    sparseArguments.override sparse = .ok sparseMerged ∧ Overrides sparseArguments sparse sparseMerged ∧
      sparseArguments.override sparseMerged = .ok sparseMerged := by
  have accepted : ofValue sparse = .ok sparse := by rfl
  have given : sparseArguments.override sparse = .ok sparseMerged := by rfl
  obtain ⟨cfg', put, overrides, again, -⟩ := override_overrides accepted sparseArguments
  obtain rfl : cfg' = sparseMerged := Except.ok.inj (put.symm.trans given)
  exact ⟨accepted, put, overrides, again⟩

end Config

end PeakSlowness
