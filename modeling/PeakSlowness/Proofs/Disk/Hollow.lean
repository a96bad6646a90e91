import PeakSlowness.Disk.Canonical
import PeakSlowness.Proofs.Disk.Tree

set_option autoImplicit false

/-!
File trees without what is in their files. Where a path leads, whether a call goes through and why it
fails does not depend on the octets of any file; these count only for the call that reads them.
-/

namespace PeakSlowness

/-- An entry without the octets of a file. -/
def Entry.hollow : Entry → Entry
  | .file _ => .file []
  | e => e

def Spot.hollow : Spot → Spot
  | .taken place e => .taken place e.hollow
  | .free place => .free place

namespace Disk

variable {disk disk' : Disk} {cwd : Place}

/-- The tree with all files emptied. -/
def hollow (disk : Disk) : Disk := { disk with entries := disk.entries.map fun e => (e.1, e.2.hollow) }

@[simp] theorem may_hollow (disk : Disk) : disk.hollow.may = disk.may := rfl

theorem find?_hollow (disk : Disk) (place : Place) :
    disk.hollow.find? place = (disk.find? place).map Entry.hollow := by
  unfold find?
  split
  · rfl
  · simp only [hollow, List.find?_map, Option.map_map]
    rfl

theorem find?_hollow_of {place : Place} {e : Option Entry} (h : disk.find? place = e) :
    disk.hollow.find? place = e.map Entry.hollow := by
  rw [find?_hollow, h]

theorem hollow_put (disk : Disk) (place : Place) (e : Entry) :
    (disk.put place e).hollow = disk.hollow.put place e.hollow := by
  have there : disk.hollow.entries.any (fun e => e.1 == place) =
      disk.entries.any (fun e => e.1 == place) := by
    rw [hollow, List.any_map]
    rfl
  unfold put
  rw [there]
  split
  · simp only [hollow, List.map_map]
    congr 2
    funext other
    simp only [Function.comp_apply]
    split <;> rfl
  · simp [hollow]

theorem walk_hollow (disk : Disk) (purpose : Purpose) (links : Nat) (place : Place)
    (names : List String) :
    disk.hollow.walk purpose links place names =
      (disk.walk purpose links place names).map Spot.hollow := by
  fun_induction walk disk purpose links place names with
  | case1 links place entry here =>
    rw [walk, find?_hollow, here]
    rfl
  | case2 links place here =>
    rw [walk, find?_hollow, here]
    rfl
  | case3 links place rest ih => rw [walk, ih]
  | case4 links place rest searchable ih => rw [walk, may_hollow, if_pos searchable, ih]
  | case5 links place rest denied =>
    rw [walk, may_hollow, if_neg denied]
    rfl
  | case6 links place rest searchable ih => rw [walk, may_hollow, if_pos searchable, ih]
  | case7 links place rest denied =>
    rw [walk, may_hollow, if_neg denied]
    rfl
  | case8 links place name rest h₁ h₂ h₃ denied =>
    rw [walk.eq_5 _ _ _ _ _ _ h₁ h₂ h₃, may_hollow, if_pos denied]
    rfl
  | case9 links place name rest h₁ h₂ h₃ searchable slash =>
    rw [walk.eq_5 _ _ _ _ _ _ h₁ h₂ h₃, may_hollow, if_neg searchable, if_pos slash]
    rfl
  | case10 links place name rest h₁ h₂ h₃ searchable no_slash long =>
    rw [walk.eq_5 _ _ _ _ _ _ h₁ h₂ h₃, may_hollow, if_neg searchable, if_neg no_slash, if_pos long]
    rfl
  | case11 links place name rest h₁ h₂ h₃ searchable no_slash short here none last =>
    rw [walk_named (named_of_checks h₁ h₂ h₃ no_slash short) (by simpa using searchable),
      find?_hollow_of none]
    exact if_pos last
  | case12 links place name rest h₁ h₂ h₃ searchable no_slash short here none last =>
    rw [walk_named (named_of_checks h₁ h₂ h₃ no_slash short) (by simpa using searchable),
      find?_hollow_of none]
    exact if_neg last
  | case13 links place name rest h₁ h₂ h₃ searchable no_slash short here found ih =>
    rw [walk_named (named_of_checks h₁ h₂ h₃ no_slash short) (by simpa using searchable),
      find?_hollow_of found]
    exact ih
  | case14 links place name rest h₁ h₂ h₃ searchable no_slash short here octets found last =>
    rw [walk_named (named_of_checks h₁ h₂ h₃ no_slash short) (by simpa using searchable),
      find?_hollow_of found]
    exact if_pos last
  | case15 links place name rest h₁ h₂ h₃ searchable no_slash short here octets found last =>
    rw [walk_named (named_of_checks h₁ h₂ h₃ no_slash short) (by simpa using searchable),
      find?_hollow_of found]
    exact if_neg last
  | case16 links place name rest h₁ h₂ h₃ searchable no_slash short here target found last =>
    rw [walk_named (named_of_checks h₁ h₂ h₃ no_slash short) (by simpa using searchable),
      find?_hollow_of found]
    exact if_pos last
  | case17 place name rest h₁ h₂ h₃ searchable no_slash short here target found through =>
    rw [walk_named (named_of_checks h₁ h₂ h₃ no_slash short) (by simpa using searchable),
      find?_hollow_of found]
    exact if_neg through
  | case18 place name rest h₁ h₂ h₃ searchable no_slash short here target found through links ih =>
    rw [walk_named (named_of_checks h₁ h₂ h₃ no_slash short) (by simpa using searchable),
      find?_hollow_of found]
    exact (if_neg through).trans ih

theorem locate_hollow (disk : Disk) (cwd : Place) (purpose : Purpose) (p : FilePath) :
    disk.hollow.locate cwd purpose p = (disk.locate cwd purpose p).map Spot.hollow := by
  unfold locate
  split
  · rfl
  · split
    · rfl
    · split
      · rfl
      · rw [walk_hollow]
        cases disk.walk purpose linkLimit (if p.isAbsolute then [] else cwd) p.names <;> rfl

theorem entryAt_hollow (disk : Disk) (cwd : Place) (p : FilePath) :
    disk.hollow.entryAt cwd p = (disk.entryAt cwd p).map fun found => (found.1, found.2.hollow) := by
  unfold entryAt
  rw [locate_hollow]
  cases disk.locate cwd .find p with
  | error fault => rfl
  | ok s => cases s <;> rfl

theorem isDirectory_hollow (disk : Disk) (cwd : Place) (p : FilePath) :
    disk.hollow.isDirectory cwd p = disk.isDirectory cwd p := by
  unfold isDirectory
  rw [entryAt_hollow]
  cases disk.entryAt cwd p with
  | error fault =>
    cases fault <;> rfl
  | ok found =>
    obtain ⟨place, e⟩ := found
    cases e <;> rfl

theorem isUsable_hollow (disk : Disk) (cwd : Place) (p : FilePath) :
    disk.hollow.isUsable cwd p = disk.isUsable cwd p := by
  unfold isUsable
  rw [entryAt_hollow]
  cases disk.entryAt cwd p <;> rfl

theorem change_hollow (disk : Disk) (changed place : Place) (e : Entry) :
    disk.hollow.change changed place e.hollow =
      (disk.change changed place e).map fun made => (made.1, made.2.hollow) := by
  unfold change
  rw [may_hollow, ← hollow_put]
  split <;> rfl

theorem makeDirectory_hollow (disk : Disk) (cwd : Place) (p : FilePath) :
    disk.hollow.makeDirectory cwd p =
      (disk.makeDirectory cwd p).map fun made => (made.1, made.2.hollow) := by
  unfold makeDirectory
  rw [locate_hollow]
  cases disk.locate cwd .findLink p with
  | error fault => rfl
  | ok s =>
    cases s with
    | taken place e => rfl
    | free place => exact change_hollow disk _ place .directory

theorem openToWrite_hollow (disk : Disk) (cwd : Place) (p : FilePath) :
    disk.hollow.openToWrite cwd p =
      (disk.openToWrite cwd p).map fun opened => (opened.1, opened.2.hollow) := by
  unfold openToWrite
  rw [locate_hollow]
  cases disk.locate cwd .write p with
  | error fault => rfl
  | ok s =>
    cases s with
    | taken place e =>
      cases e with
      | file octets => exact change_hollow disk place place (.file [])
      | directory | link target => rfl
    | free place => exact change_hollow disk _ place (.file [])

/-- A path leads to one place in both of two trees that differ in the octets of files. -/
theorem entryAt_alike (h : disk'.hollow = disk.hollow) (cwd : Place) (p : FilePath) :
    (∃ fault, disk.entryAt cwd p = .error fault ∧ disk'.entryAt cwd p = .error fault) ∨
      ∃ place e e', disk.entryAt cwd p = .ok (place, e) ∧ disk'.entryAt cwd p = .ok (place, e') ∧
        e'.hollow = e.hollow := by
  have same := entryAt_hollow disk' cwd p
  rw [h, entryAt_hollow disk cwd p] at same
  cases here : disk.entryAt cwd p with
  | error fault =>
    cases there : disk'.entryAt cwd p with
    | error fault' =>
      rw [here, there] at same
      cases same
      exact .inl ⟨fault, rfl, rfl⟩
    | ok found =>
      rw [here, there] at same
      cases same
  | ok found =>
    obtain ⟨place, e⟩ := found
    cases there : disk'.entryAt cwd p with
    | error fault' =>
      rw [here, there] at same
      cases same
    | ok found' =>
      obtain ⟨place', e'⟩ := found'
      rw [here, there] at same
      obtain ⟨rfl, kind⟩ := Prod.mk.inj (Except.ok.inj same)
      exact .inr ⟨place, e, e', rfl, rfl, kind.symm⟩

/-- A call that puts an entry in some place goes through in both of two trees that differ in the
octets of files, at one place, or fails in both for one reason. -/
theorem alike_of_hollow {call : Disk → Except CallFault (Place × Disk)} {e : Entry}
    (hollow : ∀ disk, call disk.hollow = (call disk).map fun done => (done.1, done.2.hollow))
    (puts : ∀ disk place done, call disk = .ok (place, done) → done = disk.put place e)
    (h : disk'.hollow = disk.hollow) :
    (∃ fault, call disk = .error fault ∧ call disk' = .error fault) ∨
      ∃ place, call disk = .ok (place, disk.put place e) ∧
        call disk' = .ok (place, disk'.put place e) := by
  have same := hollow disk'
  rw [h, hollow disk] at same
  cases here : call disk with
  | error fault =>
    cases there : call disk' with
    | error fault' =>
      rw [here, there] at same
      cases same
      exact .inl ⟨fault, rfl, rfl⟩
    | ok done =>
      rw [here, there] at same
      cases same
  | ok done =>
    obtain ⟨place, made⟩ := done
    cases there : call disk' with
    | error fault' =>
      rw [here, there] at same
      cases same
    | ok done' =>
      obtain ⟨place', made'⟩ := done'
      rw [here, there] at same
      obtain rfl : place = place' := congrArg Prod.fst (Except.ok.inj same)
      rw [puts disk place made here, puts disk' place made' there]
      exact .inr ⟨place, rfl, rfl⟩

theorem makeDirectory_alike (h : disk'.hollow = disk.hollow) (cwd : Place) (p : FilePath) :
    (∃ fault, disk.makeDirectory cwd p = .error fault ∧ disk'.makeDirectory cwd p = .error fault) ∨
      ∃ place, disk.makeDirectory cwd p = .ok (place, disk.put place .directory) ∧
        disk'.makeDirectory cwd p = .ok (place, disk'.put place .directory) :=
  alike_of_hollow (fun disk => disk.makeDirectory_hollow cwd p)
    (fun _ _ _ made => (fits_of_makeDirectory made).2) h

theorem openToWrite_alike (h : disk'.hollow = disk.hollow) (cwd : Place) (p : FilePath) :
    (∃ fault, disk.openToWrite cwd p = .error fault ∧ disk'.openToWrite cwd p = .error fault) ∨
      ∃ place, disk.openToWrite cwd p = .ok (place, disk.put place (.file [])) ∧
        disk'.openToWrite cwd p = .ok (place, disk'.put place (.file [])) :=
  alike_of_hollow (fun disk => disk.openToWrite_hollow cwd p)
    (fun _ _ _ opened => (leadsTo_of_openToWrite opened).2.1) h

theorem linkAt?_hollow (disk : Disk) (place : Place) :
    disk.hollow.linkAt? place = disk.linkAt? place := by
  unfold linkAt?
  rw [find?_hollow]
  cases disk.find? place with
  | none => rfl
  | some e => cases e <;> rfl

theorem linkOn?_hollow (disk : Disk) (cwd : Place) (way : Way) :
    disk.hollow.linkOn? cwd way = disk.linkOn? cwd way := by
  unfold linkOn?
  rw [linkAt?_hollow, may_hollow]

theorem resolveFrom_hollow (disk : Disk) (cwd : Place) (fuel : Nat) (inside : List Way) (way : Way)
    (names : List String) :
    disk.hollow.resolveFrom cwd fuel inside way names =
      disk.resolveFrom cwd fuel inside way names := by
  fun_induction resolveFrom disk cwd fuel inside way names with
  | case1 fuel inside way => rw [resolveFrom]
  | case2 fuel inside way rest ih => rw [resolveFrom, ih]
  | case3 fuel inside way rest ih => rw [resolveFrom, ih]
  | case4 fuel inside way rest ih => rw [resolveFrom, ih]
  | case5 fuel inside way name rest h₁ h₂ h₃ next no_link =>
    rename_i ih
    have no_link : disk.linkOn? cwd (way.child name) = none := no_link
    rw [resolveFrom.eq_5 _ _ _ _ _ _ _ h₁ h₂ h₃, linkOn?_hollow, no_link]
    exact ih
  | case6 fuel inside way name rest h₁ h₂ h₃ next target link stuck again =>
    have link : disk.linkOn? cwd (way.child name) = some target := link
    rw [resolveFrom.eq_5 _ _ _ _ _ _ _ h₁ h₂ h₃, linkOn?_hollow, link]
    exact if_pos again
  | case7 inside way name rest h₁ h₂ h₃ next target link stuck new =>
    have link : disk.linkOn? cwd (way.child name) = some target := link
    rw [resolveFrom.eq_5 _ _ _ _ _ _ _ h₁ h₂ h₃, linkOn?_hollow, link]
    exact if_neg new
  | case8 inside way name rest h₁ h₂ h₃ next target link new fuel start names led inner =>
    have link : disk.linkOn? cwd (way.child name) = some target := link
    rw [resolveFrom.eq_5 _ _ _ _ _ _ _ h₁ h₂ h₃, linkOn?_hollow, link]
    refine (if_neg new).trans ?_
    have led' : disk.hollow.resolveFrom cwd fuel (way.child name :: inside)
        (if target.toList.head? = some '/' then .root else way) (writtenNames target.toList) =
        .stuck names := inner.trans led
    dsimp only
    rw [led']
  | case9 inside way name rest h₁ h₂ h₃ next target link new fuel start there led inner =>
    rename_i outer
    have link : disk.linkOn? cwd (way.child name) = some target := link
    rw [resolveFrom.eq_5 _ _ _ _ _ _ _ h₁ h₂ h₃, linkOn?_hollow, link]
    refine (if_neg new).trans ?_
    have led' : disk.hollow.resolveFrom cwd fuel (way.child name :: inside)
        (if target.toList.head? = some '/' then .root else way) (writtenNames target.toList) =
        .way there := inner.trans led
    dsimp only
    rw [led']
    exact outer

theorem canonical_hollow (disk : Disk) (cwd : Place) (p : FilePath) :
    disk.hollow.canonical cwd p = disk.canonical cwd p := by
  have limit : disk.hollow.resolveLimit cwd = disk.resolveLimit cwd := by
    rw [resolveLimit, resolveLimit, hollow, List.length_map]
  unfold canonical
  dsimp only
  rw [limit, resolveFrom_hollow]

end Disk

end PeakSlowness
