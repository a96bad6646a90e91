import PeakSlowness.Proofs.Disk.Directory

set_option autoImplicit false

/-!
What may be touched on the way to a directory and in it. A tree is touched by entries that are put where they
fit, so a directory is made where nothing has been and a file goes over nothing but a file. Two rounds
of it come to one: what is a directory behind the first round stays one, and so does a file.
-/

namespace PeakSlowness.Disk

variable {cwd : Place} {root : FilePath} {names : String → Prop} {disk disk' disk'' : Disk}
  {place here : Place}

/-- What a place may have come to: it is as before, or a new directory on the way along a path, or a file with
some name in the directory at the end of it. -/
inductive Touch (cwd : Place) (root : FilePath) (names : String → Prop) (disk disk' : Disk)
    (place : Place) : Prop where
  | kept (same : disk'.find? place = disk.find? place)
  | paved {above : List String} (up_to : above <+: root.parts) (free : disk.find? place = none)
      (there : disk'.locate cwd .find { anchor := root.anchor, parts := above } =
        .ok (.taken place .directory))
  | filed {here : Place} {name : String} (named : names name) (inside : place = here ++ [name])
      (there : disk'.locate cwd .find root = .ok (.taken here .directory))
      (before : ∀ entry, disk.find? place = some entry → ∃ octets, entry = .file octets)
      (file : ∃ octets, disk'.find? place = some (.file octets))

/-- Nothing else has been touched, and what has led to a directory or a file leads there still. -/
structure Touched (cwd : Place) (root : FilePath) (names : String → Prop) (disk disk' : Disk) :
    Prop where
  tree : disk'.IsTree cwd
  stays : ∀ p here, disk.locate cwd .find p = .ok (.taken here .directory) →
    disk'.locate cwd .find p = .ok (.taken here .directory)
  leads : ∀ p here, disk.LeadsTo cwd p here → disk'.LeadsTo cwd p here
  only : ∀ place, Touch cwd root names disk disk' place

namespace Touched

theorem refl (tree : disk.IsTree cwd) : Touched cwd root names disk disk :=
  ⟨tree, fun _ _ h => h, fun _ _ h => h, fun _ => .kept rfl⟩

theorem trans (h : Touched cwd root names disk disk') (h' : Touched cwd root names disk' disk'') :
    Touched cwd root names disk disk'' := by
  refine ⟨h'.tree, fun p here there => h'.stays p here (h.stays p here there),
    fun p here leads => h'.leads p here (h.leads p here leads), fun place => ?_⟩
  -- behind the first round, a new directory and a file are not free, and a directory is no file
  cases h'.only place with
  | kept same' =>
    cases h.only place with
    | kept same => exact .kept (same'.trans same)
    | paved up_to free there => exact .paved up_to free (h'.stays _ _ there)
    | filed named inside there before file =>
      exact .filed named inside (h'.stays _ _ there) before (same' ▸ file)
  | paved up_to free' there' =>
    cases h.only place with
    | kept same => exact .paved up_to (same ▸ free') there'
    | paved _ _ there =>
      rw [find?_of_locate_taken there] at free'
      cases free'
    | filed _ _ _ _ file =>
      obtain ⟨octets, file⟩ := file
      rw [file] at free'
      cases free'
  | filed named inside there' before' file' =>
    cases h.only place with
    | kept same => exact .filed named inside there' (same ▸ before') file'
    | paved _ _ there =>
      obtain ⟨octets, file⟩ := before' _ (find?_of_locate_taken there)
      cases file
    | filed _ _ _ before _ => exact .filed named inside there' before file'

/-- A link that is there has been there. -/
theorem link (h : Touched cwd root names disk disk') {target : String}
    (found : disk'.find? place = some (.link target)) : disk.find? place = some (.link target) := by
  cases h.only place with
  | kept same => rwa [← same]
  | paved _ _ there =>
    rw [find?_of_locate_taken there] at found
    cases found
  | filed _ _ _ _ file =>
    obtain ⟨octets, file⟩ := file
    rw [file] at found
    cases found

end Touched

/-- One entry that is put where it fits. -/
theorem touched_of_put {entry : Entry} (fits : disk.Fits place entry)
    (tree : (disk.put place entry).IsTree cwd)
    (touch : Touch cwd root names disk (disk.put place entry) place) :
    Touched cwd root names disk (disk.put place entry) := by
  refine ⟨tree, fun p here there => fits.stays there, fun p here leads => leads.put fits,
    fun other => ?_⟩
  by_cases same : other = place
  · subst same
    exact touch
  · exact .kept (find?_put_of_ne same disk entry)

theorem touched_of_made {above : List String} (tree : disk.IsTree cwd) (up_to : above <+: root.parts)
    (made : disk.makeDirectory cwd { anchor := root.anchor, parts := above } = .ok (place, disk')) :
    Touched cwd root names disk disk' := by
  have settled := settled_of_made tree made
  obtain ⟨fits, rfl⟩ := fits_of_makeDirectory made
  exact touched_of_put fits settled.tree (.paved up_to fits.free settled.there)

theorem touched_of_file {name : String} {octets : List UInt8} (tree : disk.IsTree cwd)
    (there : disk.locate cwd .find root = .ok (.taken here .directory)) (hn : IsName name)
    (named : names name) (fits : disk.Fits (here ++ [name]) (.file octets)) :
    Touched cwd root names disk (disk.put (here ++ [name]) (.file octets)) := by
  have directory := find?_of_locate_taken there
  refine touched_of_put fits (tree.put hn directory fits) (.filed named rfl (fits.stays there) ?_ ?_)
  · intro entry found
    rcases fits.2 with none | ⟨before, _, file, -⟩
    · rw [none] at found
      cases found
    · rw [file] at found
      exact ⟨before, (Option.some.inj found).symm⟩
  · exact ⟨octets, find?_put_self fits.ne_root disk _⟩

end PeakSlowness.Disk
