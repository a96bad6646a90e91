import Mathlib.Data.List.Induction
import PeakSlowness.Proofs.Disk.Tree

set_option autoImplicit false

/-!
Directories. A path that leads to a directory leads there for every purpose, and what is behind it
on a longer path is found from there. In a tree, where every entry is in a directory, a new entry is
in one as well, and nothing is below a place that is free.
-/

namespace PeakSlowness.Disk

variable {disk : Disk} {place : Place} {entry : Entry} {purpose : Purpose} {links : Nat}
  {names : List String}

/-- A name that an entry may have. -/
def IsName (name : String) : Prop := name ≠ "" ∧ name ≠ "." ∧ name ≠ ".."

theorem Fits.refile {octets : List UInt8} (h : disk.Fits place (.file octets))
    (octets' : List UInt8) :
    disk.Fits place (.file octets') := by
  rcases h.2 with none | ⟨before, _, file, -⟩
  · exact .file_of_none none octets'
  · exact .file_of_file file octets'

/-- A directory fits where nothing is. -/
theorem Fits.free (h : disk.Fits place .directory) : disk.find? place = none :=
  h.2.resolve_right fun ⟨_, _, _, file⟩ => nomatch file

/-- What leads to a directory leads there behind an entry that fits. -/
theorem Fits.stays {cwd here : Place} {p : FilePath} (fits : disk.Fits place entry)
    (there : disk.locate cwd purpose p = .ok (.taken here .directory)) :
    (disk.put place entry).locate cwd purpose p = .ok (.taken here .directory) := by
  have on := locate_put there fits
  rwa [after, if_neg (fits.ne_of_directory (find?_of_locate_taken there))] at on

section Walks

/-- A name ends a way, or is followed by others, for any purpose but writing. -/
theorem Named.for_reading {other : Purpose} {name : String} {rest more : List String}
    (h : Named other name rest) (reads : purpose ≠ .write) : Named purpose name more :=
  ⟨h.proper, fun both => reads both.1, h.short⟩

namespace Walks

/-- The names behind a directory are walked from there. -/
theorem append {here : Place} (h : Walks disk .find links place names (.taken here .directory)) :
    ∃ left, ∀ rest,
      disk.walk .find links place (names ++ rest) = disk.walk .find left here rest := by
  have reads : Purpose.find ≠ .write := nofun
  generalize hs : Spot.taken here .directory = s at h
  induction h with
  | @stop links place entry at_end =>
    cases hs
    exact ⟨links, fun rest => rfl⟩
  | skip _ ih =>
    obtain ⟨left, on⟩ := ih hs
    refine ⟨left, fun rest => ?_⟩
    rw [List.cons_append, walk, on]
  | stay searchable _ ih | back searchable _ ih =>
    obtain ⟨left, on⟩ := ih hs
    refine ⟨left, fun rest => ?_⟩
    rw [List.cons_append, walk, if_pos searchable, on]
  | free _ _ _ => cases hs
  | enter named searchable found _ ih =>
    obtain ⟨left, on⟩ := ih hs
    refine ⟨left, fun rest => ?_⟩
    rw [List.cons_append, walk_named (named.for_reading reads) searchable, found]
    exact on rest
  | file _ _ _ => cases hs
  | link _ _ _ _ => cases hs
  | follow named searchable through found _ ih =>
    obtain ⟨left, on⟩ := ih hs
    refine ⟨left, fun rest => ?_⟩
    rw [List.cons_append, walk_named (named.for_reading reads) searchable, found]
    simp only [reduceCtorEq, decide_false, Bool.and_false, Bool.false_eq_true, if_false]
    rw [← on rest, List.append_assoc]

theorem findLink_of_find {here : Place}
    (h : Walks disk .find links place names (.taken here entry)) :
    ∃ here' entry', Walks disk .findLink links place names (.taken here' entry') := by
  have reads : Purpose.findLink ≠ .write := nofun
  generalize hs : Spot.taken here entry = s at h
  induction h with
  | stop at_end => exact ⟨_, _, .stop at_end⟩
  | skip _ ih =>
    obtain ⟨here', entry', on⟩ := ih hs
    exact ⟨here', entry', .skip on⟩
  | stay searchable _ ih =>
    obtain ⟨here', entry', on⟩ := ih hs
    exact ⟨here', entry', .stay searchable on⟩
  | back searchable _ ih =>
    obtain ⟨here', entry', on⟩ := ih hs
    exact ⟨here', entry', .back searchable on⟩
  | free _ _ _ => cases hs
  | enter named searchable found _ ih =>
    obtain ⟨here', entry', on⟩ := ih hs
    exact ⟨here', entry', .enter (named.for_reading reads) searchable found on⟩
  | file named searchable found =>
    exact ⟨_, _, .file (named.for_reading reads) searchable found⟩
  | link _ _ itself _ => cases itself
  | @follow links place name target rest s named searchable through found _ ih =>
    by_cases last : rest = []
    · subst last
      exact ⟨_, _, .link (named.for_reading reads) searchable rfl found⟩
    · obtain ⟨here', entry', on⟩ := ih hs
      exact ⟨here', entry',
        .follow (named.for_reading reads) searchable (fun both => last both.1) found on⟩

theorem find_of_findLink {here : Place}
    (h : Walks disk .findLink links place names (.taken here .directory)) :
    Walks disk .find links place names (.taken here .directory) := by
  have reads : Purpose.find ≠ .write := nofun
  generalize hs : Spot.taken here .directory = s at h
  induction h with
  | stop at_end => exact .stop at_end
  | skip _ ih => exact .skip (ih hs)
  | stay searchable _ ih => exact .stay searchable (ih hs)
  | back searchable _ ih => exact .back searchable (ih hs)
  | free _ _ _ => cases hs
  | enter named searchable found _ ih =>
    exact .enter (named.for_reading reads) searchable found (ih hs)
  | file _ _ _ => cases hs
  | link _ _ _ _ => cases hs
  | follow named searchable through found _ ih =>
    exact .follow (named.for_reading reads) searchable (fun both => nomatch both.2) found (ih hs)

end Walks

variable {cwd : Place} {p : FilePath} {here : Place} {name : String}

theorem isDirectory_eq_true_iff :
    disk.isDirectory cwd p = .ok true ↔
      ∃ here, disk.locate cwd .find p = .ok (.taken here .directory) := by
  unfold isDirectory entryAt
  cases disk.locate cwd .find p with
  | error fault =>
    refine iff_of_false (fun h => ?_) nofun
    cases fault with
    | errno e =>
      rw [error_bind] at h
      dsimp only at h
      split at h
      · cases h
      · cases h
    | unencodable _ | nul => cases h
  | ok s =>
    cases s with
    | free here =>
      constructor
      · exact nofun
      · exact nofun
    | taken here entry => simp

theorem parts_child (p : FilePath) (name : String) : (p.child name).parts = p.parts ++ [name] := rfl

theorem names_child (p : FilePath) (name : String) : (p.child name).names = p.parts ++ [name] := by
  simp [FilePath.names, parts_child]

theorem walk_of_denied {rest : List String} (hn : IsName name)
    (denied : disk.may place .search = false) :
    disk.walk purpose links place (name :: rest) = .error .accessDenied := by
  rw [walk.eq_5 disk purpose links place name rest hn.1 hn.2.1 hn.2.2, if_pos (by simp [denied])]

theorem walk_of_long {rest : List String} (hn : IsName name) (searchable : disk.may place .search)
    (long : nameLimit < FileName.size name) :
    disk.walk .find links place (name :: rest) = .error .nameTooLong := by
  rw [walk.eq_5 disk .find links place name rest hn.1 hn.2.1 hn.2.2, if_neg (by simp [searchable]),
    if_neg (by simp), if_pos long]

/-- A name that is walked can be looked up, and is not too long. -/
theorem named_of_walk {rest : List String} {s : Spot} (hn : IsName name)
    (h : disk.walk .find links place (name :: rest) = .ok s) :
    Named .find name rest ∧ disk.may place .search := by
  have searchable : disk.may place .search := by
    by_contra denied
    rw [walk_of_denied hn (Bool.eq_false_iff.2 denied)] at h
    cases h
  refine ⟨⟨hn, nofun, ?_⟩, searchable⟩
  by_contra long
  rw [walk_of_long hn searchable (Nat.lt_of_not_le long)] at h
  cases h

/-- What is in a directory is found there, unless it is a link. -/
theorem spot_of_child (there : disk.locate cwd .find p = .ok (.taken here .directory))
    (hn : IsName name) (no_link : ∀ target, disk.find? (here ++ [name]) ≠ some (.link target))
    {s : Spot} (found : disk.locate cwd .find (p.child name) = .ok s) :
    s = match disk.find? (here ++ [name]) with
      | none => .free (here ++ [name])
      | some entry => .taken (here ++ [name]) entry := by
  obtain ⟨left, on⟩ := (locate_eq_ok_iff.1 there).2.parts_of_names.append
  have walks := (locate_eq_ok_iff.1 found).2
  have anchor : (p.child name).isAbsolute = p.isAbsolute := rfl
  rw [anchor, names_child, ← walk_eq_ok_iff, on] at walks
  obtain ⟨named, searchable⟩ := named_of_walk hn walks
  rw [walk_named named searchable] at walks
  cases content : disk.find? (here ++ [name]) with
  | none =>
    rw [content] at walks
    cases walks
    rfl
  | some entry =>
    rw [content] at walks
    cases entry with
    | directory =>
      have stopped : disk.walk .find left (here ++ [name]) [] =
          .ok (.taken (here ++ [name]) .directory) := by rw [walk, content]
      exact Except.ok.inj (walks.symm.trans stopped)
    | file octets =>
      cases walks
      rfl
    | link target => exact absurd content (no_link target)

/-- A path into a directory leads to a file there alone, unless there is a link. -/
theorem LeadsTo.eq_child (there : disk.locate cwd .find p = .ok (.taken here .directory))
    (hn : IsName name) (no_link : ∀ target, disk.find? (here ++ [name]) ≠ some (.link target))
    {place : Place} (leads : disk.LeadsTo cwd (p.child name) place) : place = here ++ [name] := by
  obtain ⟨octets, found⟩ := leads
  have spot := spot_of_child there hn no_link found
  cases content : disk.find? (here ++ [name]) with
  | none =>
    rw [content] at spot
    cases spot
  | some entry =>
    rw [content] at spot
    cases spot
    rfl

end Walks

section Trees

/-- All entries have names and are in directories, and so is the working directory. -/
structure IsTree (disk : Disk) (cwd : Place) : Prop where
  named : ∀ place name entry, disk.find? (place ++ [name]) = some entry → IsName name
  inside : ∀ place name entry, disk.find? (place ++ [name]) = some entry →
    disk.find? place = some .directory
  cwd : disk.find? cwd = some .directory

variable {cwd : Place} {p : FilePath} {disk' : Disk}

theorem IsTree.isName_of_mem (tree : disk.IsTree cwd) {name : String} (hn : name ∈ cwd) :
    IsName name := by
  have above : ∀ place, disk.find? place = some .directory → ∀ name ∈ place, IsName name := by
    intro place
    induction place using List.reverseRecOn with
    | nil => exact fun _ name hn => absurd hn List.not_mem_nil
    | append_singleton place last ih =>
      intro found name hn
      rcases List.mem_append.1 hn with before | here
      · exact ih (tree.inside place last _ found) name before
      · rw [List.mem_singleton.1 here]
        exact tree.named place last _ found
  exact above cwd tree.cwd name hn

/-- Nothing is below a place that is no directory. -/
theorem IsTree.nothing_below (tree : disk.IsTree cwd) (h : disk.find? place ≠ some .directory)
    (name : String) : disk.find? (place ++ [name]) = none := by
  cases found : disk.find? (place ++ [name]) with
  | none => rfl
  | some entry => exact absurd (tree.inside place name entry found) h

instance (name : String) : Decidable (IsName name) := inferInstanceAs (Decidable (_ ∧ _))

theorem isTree_of_entries (working : disk.find? cwd = some .directory)
    (entries : ∀ e ∈ disk.entries,
      IsName (e.1.getLast?.getD "") ∧ disk.find? e.1.dropLast = some .directory) :
    disk.IsTree cwd := by
  have held : ∀ place name entry, disk.find? (place ++ [name]) = some entry →
      IsName name ∧ disk.find? place = some .directory := by
    intro place name entry found
    unfold find? at found
    rw [if_neg (by simp)] at found
    obtain ⟨e, he, -⟩ := Option.map_eq_some_iff.1 found
    have at_place : e.1 = place ++ [name] := by simpa using List.find?_some he
    have inside := entries e (List.mem_of_find?_eq_some he)
    rw [at_place, List.getLast?_concat, List.dropLast_concat] at inside
    exact inside
  exact ⟨fun place name entry h => (held place name entry h).1,
    fun place name entry h => (held place name entry h).2, working⟩

/-- A free name that a walk in a tree leads to is in a directory. -/
theorem Walks.directory_of_free (tree : disk.IsTree cwd) {start here : Place}
    (begins : disk.find? start = some .directory)
    (h : Walks disk purpose links start names (.free here)) :
    ∃ above name, here = above ++ [name] ∧ IsName name ∧ disk.find? above = some .directory := by
  generalize hs : Spot.free here = s at h
  induction h with
  | stop _ => cases hs
  | skip _ ih => exact ih begins hs
  | stay _ _ ih => exact ih begins hs
  | @back links start rest s _ _ ih =>
    apply ih ?_ hs
    rcases List.eq_nil_or_concat start with rfl | ⟨above, last, rfl⟩
    · rfl
    · rw [List.concat_eq_append] at begins ⊢
      rw [List.dropLast_concat]
      exact tree.inside above last _ begins
  | @free links start name named _ here =>
    cases hs
    exact ⟨start, name, rfl, named.proper, begins⟩
  | enter _ _ found _ ih => exact ih found hs
  | file _ _ _ => cases hs
  | link _ _ _ _ => cases hs
  | @follow links start name target rest s _ _ _ _ _ ih =>
    apply ih ?_ hs
    unfold linkStart
    split
    · exact find?_root disk
    · exact begins

end Trees

section Making

variable {cwd : Place} {anchor : Anchor} {parts : List String} {p : FilePath} {here : Place}
  {disk' disk'' : Disk}

/-- A tree that has grown by directories. -/
structure Grown (cwd : Place) (disk disk' : Disk) : Prop where
  tree : disk'.IsTree cwd
  made : ∀ place entry, disk'.find? place = some entry →
    disk.find? place = some entry ∨ entry = .directory
  stays : ∀ p here, disk.locate cwd .find p = .ok (.taken here .directory) →
    disk'.locate cwd .find p = .ok (.taken here .directory)

theorem Grown.refl (tree : disk.IsTree cwd) : Grown cwd disk disk :=
  ⟨tree, fun _ _ => .inl, fun _ _ h => h⟩

theorem Grown.trans (h : Grown cwd disk disk') (h' : Grown cwd disk' disk'') :
    Grown cwd disk disk'' := by
  refine ⟨h'.tree, ?_, ?_⟩
  · intro place entry found
    rcases h'.made place entry found with before | new
    · exact h.made place entry before
    · exact .inr new
  · exact fun p here there => h'.stays p here (h.stays p here there)

/-- A tree with a new entry in one of its directories, or with a file that holds something else. -/
theorem IsTree.put (tree : disk.IsTree cwd) {above : Place} {name : String} {entry : Entry}
    (hn : IsName name) (directory : disk.find? above = some .directory)
    (fits : disk.Fits (above ++ [name]) entry) : (disk.put (above ++ [name]) entry).IsTree cwd := by
  have old {other : Place} (h : disk.find? other = some .directory) :
      (disk.put (above ++ [name]) entry).find? other = some .directory :=
    (find?_put_of_ne (fits.ne_of_directory h) disk _).trans h
  refine ⟨?_, ?_, old tree.cwd⟩
  · intro q n e hq
    by_cases same : q ++ [n] = above ++ [name]
    · obtain ⟨-, rfl⟩ := List.append_singleton_inj.1 same
      exact hn
    · rw [find?_put_of_ne same] at hq
      exact tree.named q n e hq
  · intro q n e hq
    by_cases same : q ++ [n] = above ++ [name]
    · obtain ⟨rfl, -⟩ := List.append_singleton_inj.1 same
      exact old directory
    · rw [find?_put_of_ne same] at hq
      exact old (tree.inside q n e hq)

/-- A path leads to a directory behind which nothing has changed. It is new if anything is. -/
structure Settled (cwd : Place) (p : FilePath) (here : Place) (disk disk' : Disk) : Prop
    extends Grown cwd disk disk' where
  there : disk'.locate cwd .find p = .ok (.taken here .directory)
  below : ∀ name, disk'.find? (here ++ [name]) = disk.find? (here ++ [name])
  fresh : disk' = disk ∨ disk.find? here = none

theorem settled_of_there (tree : disk.IsTree cwd)
    (there : disk.locate cwd .find p = .ok (.taken here .directory)) :
    Settled cwd p here disk disk :=
  { Grown.refl tree with there, below := fun _ => rfl, fresh := .inl rfl }

/-- A directory that is made is there, and what its place has held before is nothing. -/
theorem settled_of_made (tree : disk.IsTree cwd)
    (made : disk.makeDirectory cwd p = .ok (place, disk')) : Settled cwd p place disk disk' := by
  obtain ⟨s, found, put⟩ := bind_eq_ok_iff.1 made
  obtain ⟨callable, walks⟩ := locate_eq_ok_iff.1 found
  cases s with
  | taken here e => cases put
  | free here =>
    obtain ⟨-, rfl, rfl⟩ := change_eq_ok_iff.1 put
    have free := walks.find?_of_free
    have fits : disk.Fits place .directory := ⟨nofun, .inl free⟩
    have begins : disk.find? (if p.isAbsolute then [] else cwd) = some .directory := by
      split
      · exact find?_root disk
      · exact tree.cwd
    refine ⟨⟨?_, ?_, ?_⟩, ?_, ?_, .inr free⟩
    · obtain ⟨above, name, rfl, hn, directory⟩ := walks.directory_of_free tree begins
      exact tree.put hn directory fits
    · intro other entry found
      by_cases same : other = place
      · subst same
        rw [find?_put_self fits.ne_root] at found
        exact .inr (Option.some.inj found).symm
      · rw [find?_put_of_ne same] at found
        exact .inl found
    · exact fun q here there => fits.stays there
    · have on := walks.put fits
      rw [after, if_pos rfl] at on
      exact locate_eq_ok_iff.2 ⟨callable, on.find_of_findLink⟩
    · exact fun name => find?_put_of_ne (by simp) disk _

/-- How a directory is made sure of: it is made, or there, or the one above it comes first. -/
inductive Ensures (cwd : Place) (anchor : Anchor) : List String → Disk → Disk → Prop where
  | made {parts : List String} {disk disk' : Disk} {place : Place} :
      disk.makeDirectory cwd { anchor, parts } = .ok (place, disk') →
        Ensures cwd anchor parts disk disk'
  | there {parts : List String} {disk : Disk} {here : Place} :
      disk.locate cwd .find { anchor, parts } = .ok (.taken here .directory) →
      Ensures cwd anchor parts disk disk
  | above {parts : List String} {disk disk' disk'' : Disk} : parts ≠ [] →
      disk.makeDirectory cwd { anchor, parts } ≠ disk'.makeDirectory cwd { anchor, parts } →
      Ensures cwd anchor parts.dropLast disk disk' → Ensures cwd anchor parts disk' disk'' →
      Ensures cwd anchor parts disk disk''

/-- A directory that has been made sure of after the one above it is in that one. -/
theorem Settled.eq_child {above : FilePath} {name : String} (tree : disk.IsTree cwd)
    (hn : IsName name) (first : Settled cwd above place disk disk') (changed : disk ≠ disk')
    (second : Settled cwd (above.child name) here disk' disk'') :
    here = place ++ [name] ∧ disk.find? here = none ∧ disk'.find? here = none := by
  have new : disk.find? place = none := first.fresh.resolve_left (Ne.symm changed)
  have nothing : disk.find? (place ++ [name]) = none := by
    apply tree.nothing_below
    rw [new]
    exact nofun
  have still : disk'.find? (place ++ [name]) = none := (first.below name).trans nothing
  have no_link (target : String) : disk''.find? (place ++ [name]) ≠ some (.link target) := by
    intro link
    rcases second.made _ _ link with before | made
    · rw [still] at before
      cases before
    · cases made
  have spot := spot_of_child (second.stays above place first.there) hn no_link second.there
  have here_eq : here = place ++ [name] := by
    cases content : disk''.find? (place ++ [name]) with
    | none =>
      rw [content] at spot
      cases spot
    | some entry =>
      rw [content] at spot
      exact (Spot.taken.inj spot).1
  subst here_eq
  exact ⟨rfl, nothing, still⟩

theorem Settled.child {above : FilePath} {name : String} (tree : disk.IsTree cwd)
    (hn : IsName name) (first : Settled cwd above place disk disk') (changed : disk ≠ disk')
    (second : Settled cwd (above.child name) here disk' disk'') :
    Settled cwd (above.child name) here disk disk'' := by
  obtain ⟨-, nothing, still⟩ := first.eq_child tree hn changed second
  refine { first.toGrown.trans second.toGrown with
    there := second.there
    below := ?_
    fresh := .inr nothing }
  intro name'
  have empty : disk.find? (here ++ [name']) = none := by
    apply tree.nothing_below
    rw [nothing]
    exact nofun
  have empty' : disk'.find? (here ++ [name']) = none := by
    apply first.tree.nothing_below
    rw [still]
    exact nofun
  rw [second.below, empty, empty']

/-- Nothing has changed but that there are new directories on the way to a place. -/
structure NewUpTo (here : Place) (disk disk' : Disk) : Prop where
  rights : disk'.rights = disk.rights
  entries : ∀ place, disk'.find? place = disk.find? place ∨
    place <+: here ∧ disk.find? place = none ∧ disk'.find? place = some .directory

theorem NewUpTo.refl (here : Place) (disk : Disk) : NewUpTo here disk disk := ⟨rfl, fun _ => .inl rfl⟩

theorem NewUpTo.may (h : NewUpTo here disk disk') : disk'.may = disk.may := by
  rw [Disk.may, h.rights, Disk.may]

theorem NewUpTo.trans {above : Place} (prefixed : above <+: here) (h : NewUpTo above disk disk')
    (h' : NewUpTo here disk' disk'') : NewUpTo here disk disk'' := by
  refine ⟨h'.rights.trans h.rights, fun place => ?_⟩
  rcases h'.entries place with same | ⟨up_to, free, made⟩
  · rw [same]
    exact (h.entries place).imp_right fun ⟨up_to, new⟩ => ⟨up_to.trans prefixed, new⟩
  · rcases h.entries place with before | ⟨-, -, directory⟩
    · exact .inr ⟨up_to, before ▸ free, made⟩
    · rw [directory] at free
      cases free

theorem newUpTo_of_made (made : disk.makeDirectory cwd p = .ok (place, disk')) :
    NewUpTo place disk disk' := by
  obtain ⟨fits, rfl⟩ := fits_of_makeDirectory made
  refine ⟨rfl, fun other => ?_⟩
  by_cases same : other = place
  · subst same
    exact .inr ⟨List.prefix_rfl, fits.free, find?_put_self fits.ne_root disk _⟩
  · exact .inl (find?_put_of_ne same disk _)

/-- A directory that is made sure of is there, and what is new is it and what is above it. -/
theorem settled_of_ensures (tree : disk.IsTree cwd) (names : ∀ name ∈ parts, IsName name)
    (h : Ensures cwd anchor parts disk disk') :
    ∃ here, Settled cwd { anchor, parts } here disk disk' ∧ NewUpTo here disk disk' := by
  induction h with
  | made made => exact ⟨_, settled_of_made tree made, newUpTo_of_made made⟩
  | there there => exact ⟨_, settled_of_there tree there, .refl _ _⟩
  | @above parts disk disk' disk'' some changed _ _ first second =>
    obtain ⟨place, first, new⟩ := first tree fun name hn => names name (List.dropLast_subset _ hn)
    obtain ⟨here, second, new'⟩ := second first.tree names
    have cut : FilePath.child { anchor, parts := parts.dropLast } (parts.getLast some) =
        { anchor, parts } := by
      rw [FilePath.child, List.dropLast_concat_getLast some]
    have proper := names _ (List.getLast_mem some)
    have differs : disk ≠ disk' := by
      rintro rfl
      exact changed rfl
    rw [← cut] at second ⊢
    obtain ⟨rfl, -⟩ := first.eq_child tree proper differs second
    exact ⟨_, first.child tree proper differs second, new.trans (List.prefix_append _ _) new'⟩

end Making

end PeakSlowness.Disk
