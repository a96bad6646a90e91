import PeakSlowness.Disk.Tree
import PeakSlowness.Proofs.Steps

set_option autoImplicit false

/-!
File trees that change. The calls put a file where there is a file or nothing, and a directory where
there is nothing. Neither of them changes where a path leads that has led somewhere before, so a
path that leads to a file goes on leading to it.
-/

namespace PeakSlowness.Disk

variable {disk : Disk} {place other : Place} {entry : Entry}

theorem find?_root (disk : Disk) : disk.find? [] = some .directory := rfl

@[simp] theorem rights_put (disk : Disk) (place : Place) (entry : Entry) :
    (disk.put place entry).rights = disk.rights := rfl

@[simp] theorem may_put (disk : Disk) (place : Place) (entry : Entry) :
    (disk.put place entry).may = disk.may := rfl

/-- An entry, or the one that is put in its place. -/
def overwritten (place : Place) (entry : Entry) (e : Place × Entry) : Place × Entry :=
  if e.1 == place then (place, entry) else e

theorem overwritten_of_ne {e : Place × Entry} (h : e.1 ≠ place) :
    overwritten place entry e = e := by
  simp [overwritten, h]

theorem overwritten_of_eq {e : Place × Entry} (h : e.1 = place) :
    overwritten place entry e = (place, entry) := by
  simp [overwritten, h]

@[simp] theorem overwritten_fst (place : Place) (entry : Entry) (e : Place × Entry) :
    (overwritten place entry e).1 = e.1 := by
  by_cases h : e.1 = place
  · rw [overwritten_of_eq h, h]
  · rw [overwritten_of_ne h]

@[simp] theorem overwritten_overwritten (place : Place) (entry entry' : Entry)
    (e : Place × Entry) :
    overwritten place entry' (overwritten place entry e) = overwritten place entry' e := by
  by_cases h : e.1 = place
  · have same : (place, entry).1 = place := rfl
    rw [overwritten_of_eq h, overwritten_of_eq same, overwritten_of_eq h]
  · rw [overwritten_of_ne h]

theorem put_of_taken (h : ∃ e ∈ disk.entries, e.1 = place) :
    disk.put place entry = { disk with entries := disk.entries.map (overwritten place entry) } := by
  have there : disk.entries.any (fun e => e.1 == place) = true := by simpa using h
  unfold put
  rw [if_pos there]
  rfl

theorem put_of_free (h : ∀ e ∈ disk.entries, e.1 ≠ place) :
    disk.put place entry = { disk with entries := disk.entries ++ [(place, entry)] } := by
  have nothing : ¬ disk.entries.any (fun e => e.1 == place) = true := by
    intro there
    obtain ⟨e, he, here⟩ := List.any_eq_true.1 there
    exact h e he (by simpa using here)
  unfold put
  rw [if_neg nothing]

theorem find?_put_self (h : place ≠ []) (disk : Disk) (entry : Entry) :
    (disk.put place entry).find? place = some entry := by
  by_cases there : ∃ e ∈ disk.entries, e.1 = place
  · obtain ⟨e, he, here⟩ := there
    rw [put_of_taken ⟨e, he, here⟩]
    simp only [find?, if_neg h, List.find?_map, Function.comp_def, overwritten_fst]
    cases found : disk.entries.find? (fun e => e.1 == place) with
    | none => exact absurd here (by simpa using List.find?_eq_none.1 found e he)
    | some e' =>
      have here' : e'.1 = place := by simpa using List.find?_some found
      simp only [Option.map_some, overwritten_of_eq here']
  · have nothing : disk.entries.find? (fun e => e.1 == place) = none := by
      rw [List.find?_eq_none]
      intro e he here
      exact there ⟨e, he, by simpa using here⟩
    rw [put_of_free fun e he here => there ⟨e, he, here⟩]
    simp only [find?, if_neg h, List.find?_append, nothing]
    simp

theorem find?_put_of_ne (h : other ≠ place) (disk : Disk) (entry : Entry) :
    (disk.put place entry).find? other = disk.find? other := by
  by_cases root : other = []
  · rw [root]
    rfl
  by_cases there : ∃ e ∈ disk.entries, e.1 = place
  · rw [put_of_taken there]
    simp only [find?, if_neg root, List.find?_map, Function.comp_def, overwritten_fst]
    cases found : disk.entries.find? (fun e => e.1 == other) with
    | none => rfl
    | some e =>
      have at_other : e.1 = other := by simpa using List.find?_some found
      rw [Option.map_some, overwritten_of_ne (at_other ▸ h)]
  · rw [put_of_free fun e he here => there ⟨e, he, here⟩]
    simp only [find?, if_neg root, List.find?_append]
    simp [Ne.symm h]

theorem put_put (disk : Disk) (place : Place) (entry entry' : Entry) :
    (disk.put place entry).put place entry' = disk.put place entry' := by
  by_cases there : ∃ e ∈ disk.entries, e.1 = place
  · have still : ∃ e ∈ disk.entries.map (overwritten place entry), e.1 = place := by
      obtain ⟨e, he, here⟩ := there
      exact ⟨_, List.mem_map_of_mem he, (overwritten_fst place entry e).trans here⟩
    rw [put_of_taken there, put_of_taken still, put_of_taken there]
    simp only [List.map_map, Function.comp_def, overwritten_overwritten]
  · have nothing : ∀ e ∈ disk.entries, e.1 ≠ place := fun e he here => there ⟨e, he, here⟩
    have kept : disk.entries.map (overwritten place entry') = disk.entries := by
      refine Eq.trans ?_ (List.map_id disk.entries)
      apply List.map_congr_left
      intro e he
      exact overwritten_of_ne (nothing e he)
    rw [put_of_free nothing, put_of_free nothing, put_of_taken ⟨(place, entry), by simp, rfl⟩]
    simp only [List.map_append, kept, List.map_cons, List.map_nil, overwritten_of_eq]

/-- An entry may be put at a place: it is no link, and there is nothing yet, or a file that becomes
another. -/
def Fits (disk : Disk) (place : Place) (entry : Entry) : Prop :=
  (∀ target, entry ≠ .link target) ∧
    (disk.find? place = none ∨ ∃ octets octets', disk.find? place = some (.file octets) ∧
    entry = .file octets')

namespace Fits

theorem file_of_none (h : disk.find? place = none) (octets : List UInt8) :
    disk.Fits place (.file octets) := by
  constructor
  · intro target he
    cases he
  · exact .inl h

theorem file_of_file {octets : List UInt8} (h : disk.find? place = some (.file octets))
    (octets' : List UInt8) :
    disk.Fits place (.file octets') := by
  constructor
  · intro target he
    cases he
  · exact .inr ⟨octets, octets', h, rfl⟩

theorem ne_root (h : disk.Fits place entry) : place ≠ [] := by
  rintro rfl
  rcases h.2 with none | ⟨octets, -, file, -⟩
  · rw [find?_root] at none
    cases none
  · rw [find?_root] at file
    cases file

theorem ne_of_directory (h : disk.Fits place entry) (hd : disk.find? other = some .directory) :
    other ≠ place := by
  rintro rfl
  rcases h.2 with none | ⟨octets, -, file, -⟩
  · rw [hd] at none
    cases none
  · rw [hd] at file
    cases file

theorem ne_of_link (h : disk.Fits place entry) {target : String}
    (hl : disk.find? other = some (.link target)) :
    other ≠ place := by
  rintro rfl
  rcases h.2 with none | ⟨octets, -, file, -⟩
  · rw [hl] at none
    cases none
  · rw [hl] at file
    cases file

theorem entry_eq (h : disk.Fits place entry) {octets : List UInt8}
    (hf : disk.find? place = some (.file octets)) : ∃ octets', entry = .file octets' := by
  rcases h.2 with none | ⟨-, octets', -, he⟩
  · rw [hf] at none
    cases none
  · exact ⟨octets', he⟩

end Fits

/-- A name that is followed by others on a way; at a dot or an empty name the way stays or goes
back. -/
structure Named (purpose : Purpose) (name : String) (rest : List String) : Prop where
  proper : name ≠ "" ∧ name ≠ "." ∧ name ≠ ".."
  no_slash : ¬ (purpose = .write ∧ rest = [""])
  short : FileName.size name ≤ nameLimit

/-- What a walk checks of a name. -/
theorem named_of_checks {purpose : Purpose} {name : String} {rest : List String} (h₁ : name ≠ "")
    (h₂ : name ≠ ".") (h₃ : name ≠ "..")
    (no_slash : ¬ (decide (purpose = .write) && decide (rest = [""])) = true)
    (short : ¬ nameLimit < FileName.size name) : Named purpose name rest :=
  ⟨⟨h₁, h₂, h₃⟩, by simpa using no_slash, Nat.le_of_not_lt short⟩

/-- Walking names from a place, following so many links at most, leads to a spot. -/
inductive Walks (disk : Disk) (purpose : Purpose) : Nat → Place → List String → Spot → Prop
  | stop {links : Nat} {place : Place} {entry : Entry} (at_end : disk.find? place = some entry) :
      Walks disk purpose links place [] (.taken place entry)
  | skip {links : Nat} {place : Place} {rest : List String} {s : Spot}
      (on : Walks disk purpose links place rest s) :
      Walks disk purpose links place ("" :: rest) s
  | stay {links : Nat} {place : Place} {rest : List String} {s : Spot}
      (searchable : disk.may place .search) (on : Walks disk purpose links place rest s) :
      Walks disk purpose links place ("." :: rest) s
  | back {links : Nat} {place : Place} {rest : List String} {s : Spot}
      (searchable : disk.may place .search) (on : Walks disk purpose links place.dropLast rest s) :
      Walks disk purpose links place (".." :: rest) s
  | free {links : Nat} {place : Place} {name : String} (named : Named purpose name [])
      (searchable : disk.may place .search) (here : disk.find? (place ++ [name]) = none) :
      Walks disk purpose links place [name] (.free (place ++ [name]))
  | enter {links : Nat} {place : Place} {name : String} {rest : List String} {s : Spot}
      (named : Named purpose name rest) (searchable : disk.may place .search)
      (here : disk.find? (place ++ [name]) = some .directory)
      (on : Walks disk purpose links (place ++ [name]) rest s) :
      Walks disk purpose links place (name :: rest) s
  | file {links : Nat} {place : Place} {name : String} {octets : List UInt8}
      (named : Named purpose name []) (searchable : disk.may place .search)
      (here : disk.find? (place ++ [name]) = some (.file octets)) :
      Walks disk purpose links place [name] (.taken (place ++ [name]) (.file octets))
  | link {links : Nat} {place : Place} {name target : String} (named : Named purpose name [])
      (searchable : disk.may place .search) (itself : purpose = .findLink)
      (here : disk.find? (place ++ [name]) = some (.link target)) :
      Walks disk purpose links place [name] (.taken (place ++ [name]) (.link target))
  | follow {links : Nat} {place : Place} {name target : String} {rest : List String} {s : Spot}
      (named : Named purpose name rest) (searchable : disk.may place .search)
      (through : ¬ (rest = [] ∧ purpose = .findLink))
      (here : disk.find? (place ++ [name]) = some (.link target))
      (on : Walks disk purpose links (linkStart place target) (linkNames target.toList ++ rest) s) :
      Walks disk purpose (links + 1) place (name :: rest) s

theorem walks_of_walk {purpose : Purpose} {links : Nat} {names : List String} {s : Spot}
    (h : disk.walk purpose links place names = .ok s) : Walks disk purpose links place names s := by
  fun_induction walk disk purpose links place names with
  | case1 links place entry here =>
    cases h
    exact .stop here
  | case3 links place rest ih => exact .skip (ih h)
  | case4 links place rest searchable ih => exact .stay searchable (ih h)
  | case6 links place rest searchable ih => exact .back searchable (ih h)
  | case11 links place name rest h₁ h₂ h₃ searchable open_end short here none last =>
    cases h
    obtain rfl := List.isEmpty_iff.1 last
    exact .free (named_of_checks h₁ h₂ h₃ open_end short) (by simpa using searchable) none
  | case13 links place name rest h₁ h₂ h₃ searchable open_end short here found ih =>
    exact .enter (named_of_checks h₁ h₂ h₃ open_end short) (by simpa using searchable) found (ih h)
  | case14 links place name rest h₁ h₂ h₃ searchable open_end short here octets found last =>
    cases h
    obtain rfl := List.isEmpty_iff.1 last
    exact .file (named_of_checks h₁ h₂ h₃ open_end short) (by simpa using searchable) found
  | case16 links place name rest h₁ h₂ h₃ searchable open_end short here target found last =>
    cases h
    simp only [Bool.and_eq_true, List.isEmpty_iff, decide_eq_true_eq] at last
    obtain ⟨rfl, itself⟩ := last
    exact .link (named_of_checks h₁ h₂ h₃ open_end short) (by simpa using searchable) itself found
  | case18 place name rest h₁ h₂ h₃ searchable open_end short here target found through links ih =>
    have through' : ¬ (rest = [] ∧ purpose = .findLink) := by simpa using through
    exact .follow (named_of_checks h₁ h₂ h₃ open_end short) (by simpa using searchable) through' found
      (ih h)
  | case2 | case5 | case7 | case8 | case9 | case10 | case12 | case15 | case17 => cases h

theorem walk_named {purpose : Purpose} {name : String} {rest : List String}
    (h : Named purpose name rest) (searchable : disk.may place .search) (links : Nat) :
    disk.walk purpose links place (name :: rest) =
      match disk.find? (place ++ [name]) with
      | none => if rest.isEmpty then .ok (.free (place ++ [name])) else .error .noEntry
      | some .directory => disk.walk purpose links (place ++ [name]) rest
      | some (.file octets) =>
        if rest.isEmpty then .ok (.taken (place ++ [name]) (.file octets)) else .error .notDirectory
      | some (.link target) =>
        if rest.isEmpty && purpose = .findLink then .ok (.taken (place ++ [name]) (.link target))
        else
          match links with
          | 0 => .error .tooManyLinks
          | links + 1 =>
            disk.walk purpose links (linkStart place target) (linkNames target.toList ++ rest) := by
  obtain ⟨⟨h₁, h₂, h₃⟩, no_slash, short⟩ := h
  have open_end : (decide (purpose = .write) && decide (rest = [""])) = false := by
    simpa using no_slash
  rw [walk.eq_5 disk purpose links place name rest h₁ h₂ h₃, if_neg (by simp [searchable]), open_end,
    if_neg (Nat.not_lt.2 short)]
  rfl

theorem walk_of_walks {purpose : Purpose} {links : Nat} {names : List String} {s : Spot}
    (h : Walks disk purpose links place names s) : disk.walk purpose links place names = .ok s := by
  induction h with
  | stop at_end => rw [walk, at_end]
  | skip _ ih => rw [walk, ih]
  | stay searchable _ ih => rw [walk, if_pos searchable, ih]
  | back searchable _ ih => rw [walk, if_pos searchable, ih]
  | free named searchable here =>
    rw [walk_named named searchable, here]
    rfl
  | enter named searchable here _ ih => rw [walk_named named searchable, here, ← ih]
  | file named searchable here =>
    rw [walk_named named searchable, here]
    rfl
  | link named searchable itself here =>
    rw [walk_named named searchable, here, itself]
    rfl
  | @follow links place name target rest s named searchable through here _ ih =>
    have further : (rest.isEmpty && decide (purpose = .findLink)) = false := by simpa using through
    rw [walk_named named searchable, here]
    simp only [further, Bool.false_eq_true, if_false, ih]

theorem walk_eq_ok_iff {purpose : Purpose} {links : Nat} {names : List String} {s : Spot} :
    disk.walk purpose links place names = .ok s ↔ Walks disk purpose links place names s :=
  ⟨walks_of_walk, walk_of_walks⟩

namespace Walks

variable {purpose : Purpose} {links : Nat} {names : List String}

theorem find?_of_taken {here : Place}
    (h : Walks disk purpose links place names (.taken here entry)) :
    disk.find? here = some entry := by
  generalize hs : Spot.taken here entry = s at h
  induction h with
  | stop at_end =>
    cases hs
    exact at_end
  | skip _ ih => exact ih hs
  | stay _ _ ih => exact ih hs
  | back _ _ ih => exact ih hs
  | free _ _ _ => cases hs
  | enter _ _ _ _ ih => exact ih hs
  | file _ _ here =>
    cases hs
    exact here
  | link _ _ _ here =>
    cases hs
    exact here
  | follow _ _ _ _ _ ih => exact ih hs

theorem find?_of_free {here : Place} (h : Walks disk purpose links place names (.free here)) :
    disk.find? here = none := by
  generalize hs : Spot.free here = s at h
  induction h with
  | stop _ => cases hs
  | skip _ ih => exact ih hs
  | stay _ _ ih => exact ih hs
  | back _ _ ih => exact ih hs
  | free _ _ here =>
    cases hs
    exact here
  | enter _ _ _ _ ih => exact ih hs
  | file _ _ _ => cases hs
  | link _ _ _ _ => cases hs
  | follow _ _ _ _ _ ih => exact ih hs

theorem find_of_write {s : Spot} (h : Walks disk .write links place names s) :
    Walks disk .find links place names s := by
  have named {name : String} {rest : List String} (h : Named .write name rest) :
      Named .find name rest :=
    ⟨h.proper, fun both => (nomatch both.1), h.short⟩
  induction h with
  | stop at_end => exact .stop at_end
  | skip _ ih => exact .skip ih
  | stay searchable _ ih => exact .stay searchable ih
  | back searchable _ ih => exact .back searchable ih
  | free hn searchable here => exact .free (named hn) searchable here
  | enter hn searchable here _ ih => exact .enter (named hn) searchable here ih
  | file hn searchable here => exact .file (named hn) searchable here
  | link _ _ itself _ => cases itself
  | follow hn searchable _ here _ ih =>
    exact .follow (named hn) searchable (fun both => nomatch both.2) here ih

/-- The empty path is walked as a dot, which takes a right but leads nowhere else. -/
theorem parts_of_names {p : FilePath} {s : Spot} (h : Walks disk purpose links place p.names s) :
    Walks disk purpose links place p.parts s := by
  unfold FilePath.names at h
  split at h
  · next empty =>
    have walked := walk_of_walks h
    rw [walk] at walked
    split at walked
    · rw [empty.2]
      exact walks_of_walk walked
    · cases walked
  · exact h

end Walks

/-- What a walk to a spot leads to once an entry has been put at a place. -/
def after (place : Place) (entry : Entry) : Spot → Spot
  | .taken here e => .taken here (if here = place then entry else e)
  | .free here => if here = place then .taken here entry else .free here

/-- Where a walk leads does not change with an entry that fits. -/
theorem Walks.put {purpose : Purpose} {links : Nat} {start : Place} {names : List String} {s : Spot}
    (h : Walks disk purpose links start names s) (fits : disk.Fits place entry) :
    Walks (disk.put place entry) purpose links start names (after place entry s) := by
  have self := find?_put_self fits.ne_root disk entry
  induction h with
  | @stop links start e at_end =>
    by_cases same : start = place
    · rw [after, if_pos same]
      exact .stop (same ▸ self)
    · rw [after, if_neg same]
      exact .stop ((find?_put_of_ne same disk entry).trans at_end)
  | skip _ ih => exact .skip ih
  | stay searchable _ ih => exact .stay searchable ih
  | back searchable _ ih => exact .back searchable ih
  | @free links start name named searchable here =>
    by_cases same : start ++ [name] = place
    · rw [after, if_pos same]
      rw [← same] at self ⊢
      cases entry with
      | directory => exact .enter named searchable self (.stop self)
      | file octets => exact .file named searchable self
      | link target => exact absurd rfl (fits.1 target)
    · rw [after, if_neg same]
      exact .free named searchable ((find?_put_of_ne same disk entry).trans here)
  | enter named searchable here _ ih =>
    have apart := fits.ne_of_directory here
    exact .enter named searchable ((find?_put_of_ne apart disk entry).trans here) ih
  | @file links start name octets named searchable here =>
    by_cases same : start ++ [name] = place
    · obtain ⟨octets', rfl⟩ := fits.entry_eq (same ▸ here)
      rw [after, if_pos same]
      exact .file named searchable (same ▸ self)
    · rw [after, if_neg same]
      exact .file named searchable ((find?_put_of_ne same disk entry).trans here)
  | link named searchable itself here =>
    have apart := fits.ne_of_link here
    rw [after, if_neg apart]
    exact .link named searchable itself ((find?_put_of_ne apart disk entry).trans here)
  | follow named searchable through here _ ih =>
    have apart := fits.ne_of_link here
    exact .follow named searchable through ((find?_put_of_ne apart disk entry).trans here) ih

section Calls

variable {cwd : Place} {p : FilePath}

theorem locate_eq_ok_iff {purpose : Purpose} {s : Spot} :
    disk.locate cwd purpose p = .ok s ↔
      (p.flaw = none ∧ p.hasNul = false ∧ p.size ≤ pathLimit) ∧
        Walks disk purpose linkLimit (if p.isAbsolute then [] else cwd) p.names s := by
  unfold locate
  cases p.flaw with
  | some u => simp
  | none =>
    cases p.hasNul with
    | true => simp
    | false =>
      by_cases long : pathLimit < p.size
      · simp [long, Nat.not_le.2 long]
      · simp [long, Nat.le_of_not_lt long, mapError_eq_ok_iff, walk_eq_ok_iff]

theorem locate_put {purpose : Purpose} {s : Spot} (h : disk.locate cwd purpose p = .ok s)
    (fits : disk.Fits place entry) :
    (disk.put place entry).locate cwd purpose p = .ok (after place entry s) := by
  obtain ⟨callable, walks⟩ := locate_eq_ok_iff.1 h
  exact locate_eq_ok_iff.2 ⟨callable, walks.put fits⟩

theorem find?_of_locate_taken {purpose : Purpose} {here : Place}
    (h : disk.locate cwd purpose p = .ok (.taken here entry)) : disk.find? here = some entry :=
  (locate_eq_ok_iff.1 h).2.find?_of_taken

theorem find?_of_locate_free {purpose : Purpose} {here : Place}
    (h : disk.locate cwd purpose p = .ok (.free here)) : disk.find? here = none :=
  (locate_eq_ok_iff.1 h).2.find?_of_free

/-- A path leads to a file at a place. -/
def LeadsTo (disk : Disk) (cwd : Place) (p : FilePath) (here : Place) : Prop :=
  ∃ octets, disk.locate cwd .find p = .ok (.taken here (.file octets))

theorem LeadsTo.put {here : Place} (h : disk.LeadsTo cwd p here) (fits : disk.Fits place entry) :
    (disk.put place entry).LeadsTo cwd p here := by
  obtain ⟨octets, found⟩ := h
  have there := locate_put found fits
  by_cases same : here = place
  · subst same
    obtain ⟨octets', rfl⟩ := fits.entry_eq (find?_of_locate_taken found)
    rw [after, if_pos rfl] at there
    exact ⟨octets', there⟩
  · rw [after, if_neg same] at there
    exact ⟨octets, there⟩

theorem LeadsTo.exists_file {here : Place} (h : disk.LeadsTo cwd p here) :
    ∃ octets, disk.find? here = some (.file octets) := by
  obtain ⟨octets, found⟩ := h
  exact ⟨octets, find?_of_locate_taken found⟩

theorem LeadsTo.unique {here here' : Place} (h : disk.LeadsTo cwd p here)
    (h' : disk.LeadsTo cwd p here') : here = here' := by
  obtain ⟨octets, found⟩ := h
  obtain ⟨octets', found'⟩ := h'
  cases found.symm.trans found'
  rfl

theorem read_of_leadsTo {here : Place} {octets : List UInt8} (h : disk.LeadsTo cwd p here)
    (readable : disk.may here .read) (file : disk.find? here = some (.file octets)) :
    disk.read cwd p = .ok octets := by
  obtain ⟨octets', found⟩ := h
  have there := find?_of_locate_taken found
  rw [file] at there
  cases there
  simp only [read, entryAt, found, ok_bind, pure_eq_ok, readable, if_true]

theorem change_eq_ok_iff {changed here : Place} {disk' : Disk} :
    disk.change changed place entry = .ok (here, disk') ↔
      disk.may changed .write = true ∧ here = place ∧ disk' = disk.put place entry := by
  unfold change
  split
  · next writable => simp [writable, eq_comm]
  · next refused => simp [refused]

theorem fault_of_change {changed : Place} {fault : CallFault}
    (h : disk.change changed place entry = .error fault) : fault = .errno .accessDenied := by
  unfold change at h
  split at h
  · cases h
  · cases h
    rfl

theorem fault_of_locate {purpose : Purpose} {fault : CallFault} (flaw : p.flaw = none)
    (h : disk.locate cwd purpose p = .error fault) :
    fault = .nul ∧ p.hasNul = true ∨ ∃ e, fault = .errno e := by
  unfold locate at h
  rw [flaw] at h
  dsimp only at h
  split at h
  · next nul =>
    cases h
    exact .inl ⟨rfl, nul⟩
  · split at h
    · cases h
      exact .inr ⟨_, rfl⟩
    · obtain ⟨e, -, rfl⟩ := mapError_eq_error h
      exact .inr ⟨e, rfl⟩

theorem locate_of_hasNul {purpose : Purpose} (flaw : p.flaw = none) (nul : p.hasNul = true) :
    disk.locate cwd purpose p = .error .nul := by
  simp only [locate, flaw, nul, if_true]

theorem fault_of_makeDirectory {fault : CallFault} (flaw : p.flaw = none)
    (h : disk.makeDirectory cwd p = .error fault) :
    fault = .nul ∧ p.hasNul = true ∨ ∃ e, fault = .errno e := by
  rcases bind_eq_error h with h | ⟨spot, -, h⟩
  · exact fault_of_locate flaw h
  · cases spot with
    | taken place entry =>
      cases h
      exact .inr ⟨_, rfl⟩
    | free place => exact .inr ⟨_, fault_of_change h⟩

theorem fits_of_makeDirectory {disk' : Disk} (h : disk.makeDirectory cwd p = .ok (place, disk')) :
    disk.Fits place .directory ∧ disk' = disk.put place .directory := by
  obtain ⟨s, found, made⟩ := bind_eq_ok_iff.1 h
  cases s with
  | taken here e => cases made
  | free here =>
    obtain ⟨-, rfl, rfl⟩ := change_eq_ok_iff.1 made
    exact ⟨⟨nofun, .inl (find?_of_locate_free found)⟩, rfl⟩

theorem openToWrite_of_free {here : Place} (writable : disk.may here.dropLast .write)
    (h : disk.locate cwd .write p = .ok (.free here)) :
    disk.openToWrite cwd p = .ok (here, disk.put here (.file [])) := by
  rw [openToWrite, h]
  exact change_eq_ok_iff.2 ⟨writable, rfl, rfl⟩

theorem openToWrite_of_file {here : Place} {octets : List UInt8} (writable : disk.may here .write)
    (h : disk.locate cwd .write p = .ok (.taken here (.file octets))) :
    disk.openToWrite cwd p = .ok (here, disk.put here (.file [])) := by
  rw [openToWrite, h]
  exact change_eq_ok_iff.2 ⟨writable, rfl, rfl⟩

/-- A file that has been opened is empty, and its path leads to it. -/
theorem leadsTo_of_openToWrite {disk' : Disk} (h : disk.openToWrite cwd p = .ok (place, disk')) :
    disk.Fits place (.file []) ∧ disk' = disk.put place (.file []) ∧ disk'.LeadsTo cwd p place := by
  obtain ⟨s, found, opened⟩ := bind_eq_ok_iff.1 h
  obtain ⟨callable, walks⟩ := locate_eq_ok_iff.1 found
  have fits : disk.Fits place (.file []) ∧ disk' = disk.put place (.file []) ∧
      after place (.file []) s = .taken place (.file []) := by
    cases s with
    | taken here e =>
      cases e with
      | directory => cases opened
      | link target => cases opened
      | file octets =>
        obtain ⟨-, rfl, rfl⟩ := change_eq_ok_iff.1 opened
        exact ⟨.file_of_file walks.find?_of_taken [], rfl, by rw [after, if_pos rfl]⟩
    | free here =>
      obtain ⟨-, rfl, rfl⟩ := change_eq_ok_iff.1 opened
      exact ⟨.file_of_none walks.find?_of_free [], rfl, by rw [after, if_pos rfl]⟩
  obtain ⟨fits, rfl, there⟩ := fits
  have walks' := walks.find_of_write.put fits
  rw [there] at walks'
  exact ⟨fits, rfl, [], locate_eq_ok_iff.2 ⟨callable, walks'⟩⟩

end Calls

end PeakSlowness.Disk
