import Mathlib.Data.List.Perm.Subperm
import PeakSlowness.Proofs.Disk.Canonical

set_option autoImplicit false

/-!
Resolving a path agrees with walking it. Both go through the same links, but a walk takes the names behind a
link together with those of its target, and resolving takes the target by itself. What leads to an entry
is resolved to the place of the entry: a link that is met inside itself would be followed without end, so
such a path leads nowhere, and a walk has the right to search all directories that resolving searches.
-/

namespace PeakSlowness.Disk

variable {disk : Disk} {cwd place there : Place} {names : List String} {links : Nat}

/-- Names lead from a place to another one, over so many links in all. What is no link is passed, whether it
is there or not. Each directory on the way may be searched. -/
inductive Reaches (disk : Disk) : Nat → Place → List String → Place → Prop
  | stop (place : Place) : Reaches disk 0 place [] place
  | stay {links : Nat} {place there : Place} {name : String} {rest : List String}
      (dot : name = "" ∨ name = ".") (on : Reaches disk links place rest there) :
      Reaches disk links place (name :: rest) there
  | back {links : Nat} {place there : Place} {rest : List String} (searchable : disk.may place .search)
      (on : Reaches disk links place.dropLast rest there) :
      Reaches disk links place (".." :: rest) there
  | enter {links : Nat} {place there : Place} {name : String} {rest : List String}
      (proper : IsName name) (searchable : disk.may place .search)
      (no_link : disk.linkAt? (place ++ [name]) = none)
      (on : Reaches disk links (place ++ [name]) rest there) :
      Reaches disk links place (name :: rest) there
  | follow {links more : Nat} {place middle there : Place} {name target : String}
      {rest : List String} (proper : IsName name) (searchable : disk.may place .search)
      (link : disk.linkAt? (place ++ [name]) = some target)
      (inner : Reaches disk links (linkStart place target) (writtenNames target.toList) middle)
      (on : Reaches disk more middle rest there) :
      Reaches disk (links + more + 1) place (name :: rest) there

namespace Reaches

variable {links' : Nat} {there' : Place} {more : List String}

theorem of_dot {name : String} (dot : name = "" ∨ name = ".")
    (h : Reaches disk links place (name :: names) there) : Reaches disk links place names there := by
  cases h with
  | stay _ on => exact on
  | back _ _ => simp at dot
  | enter proper _ _ _ => exact absurd dot (not_or.2 ⟨proper.1, proper.2.1⟩)
  | follow proper _ _ _ _ => exact absurd dot (not_or.2 ⟨proper.1, proper.2.1⟩)

/-- Where names lead, and over how many links, is determined. -/
theorem unique (h : Reaches disk links place names there) (h' : Reaches disk links' place names there') :
    links = links' ∧ there = there' := by
  induction h generalizing links' there' with
  | stop place =>
    cases h'
    exact ⟨rfl, rfl⟩
  | stay dot _ ih => exact ih (h'.of_dot dot)
  | back _ _ ih =>
    cases h' with
    | stay dot _ => simp at dot
    | back _ on => exact ih on
    | enter proper _ _ _ => exact absurd rfl proper.2.2
    | follow proper _ _ _ _ => exact absurd rfl proper.2.2
  | enter proper _ no_link _ ih =>
    cases h' with
    | stay dot _ => exact absurd dot (not_or.2 ⟨proper.1, proper.2.1⟩)
    | back _ _ => exact absurd rfl proper.2.2
    | enter _ _ _ on => exact ih on
    | follow _ _ link _ _ => simp [no_link] at link
  | follow proper _ link _ _ ih ih' =>
    cases h' with
    | stay dot _ => exact absurd dot (not_or.2 ⟨proper.1, proper.2.1⟩)
    | back _ _ => exact absurd rfl proper.2.2
    | enter _ _ no_link _ => simp [link] at no_link
    | follow _ _ other inner on =>
      obtain rfl := Option.some.inj (link.symm.trans other)
      obtain ⟨rfl, rfl⟩ := ih inner
      obtain ⟨rfl, rfl⟩ := ih' on
      exact ⟨rfl, rfl⟩

/-- Names one after the other lead over a place between them. -/
theorem split (h : Reaches disk links place (names ++ more) there) :
    ∃ first second middle, links = first + second ∧ Reaches disk first place names middle ∧
      Reaches disk second middle more there := by
  induction names generalizing links place with
  | nil => exact ⟨0, links, place, (Nat.zero_add links).symm, .stop place, h⟩
  | cons name rest ih =>
    cases h with
    | stay dot on =>
      obtain ⟨first, second, middle, sum, left, right⟩ := ih on
      exact ⟨first, second, middle, sum, .stay dot left, right⟩
    | back searchable on =>
      obtain ⟨first, second, middle, sum, left, right⟩ := ih on
      exact ⟨first, second, middle, sum, .back searchable left, right⟩
    | enter proper searchable no_link on =>
      obtain ⟨first, second, middle, sum, left, right⟩ := ih on
      exact ⟨first, second, middle, sum, .enter proper searchable no_link left, right⟩
    | @follow inner_links _ _ _ _ _ _ _ proper searchable link inner on =>
      obtain ⟨first, second, middle, rfl, left, right⟩ := ih on
      exact ⟨inner_links + first + 1, second, middle, by omega,
        .follow proper searchable link inner left, right⟩

end Reaches

section Ways

variable {way : Way} {name : String} {rest : List String} {fuel : Nat} {inside : List Way}

/-- The names of a way may be looked up. -/
def Opens (disk : Disk) (cwd : Place) (way : Way) : Prop :=
  ∀ place ∈ way.searched cwd, disk.may place .search

theorem opens_iff : disk.Opens cwd way ↔ (∀ place ∈ way.passed cwd, disk.may place .search) ∧
    ∀ i < way.names.length, disk.may (way.base cwd ++ way.names.take i) .search := by
  simp [Opens, Way.searched, or_imp, forall_and]

theorem Opens.child (h : disk.Opens cwd way) (searchable : disk.may (way.place cwd) .search)
    (name : String) : disk.Opens cwd (way.child name) := by
  obtain ⟨passed, above⟩ := opens_iff.1 h
  refine opens_iff.2 ⟨passed, fun i hi => ?_⟩
  have within : i ≤ way.names.length := by simpa [Way.child, Nat.lt_succ_iff] using hi
  have same : (way.child name).names.take i = way.names.take i := List.take_append_of_le_length within
  rw [same]
  rcases Nat.lt_or_eq_of_le within with before | rfl
  · exact above i before
  · rw [List.take_length]
    exact searchable

theorem Opens.parent (h : disk.Opens cwd way) (searchable : disk.may (way.place cwd) .search) :
    disk.Opens cwd way.parent := by
  obtain ⟨passed, above⟩ := opens_iff.1 h
  unfold Way.parent
  split
  · next top =>
    simp only [Bool.and_eq_true, List.isEmpty_iff, Bool.not_eq_true'] at top
    obtain ⟨no_names, relative⟩ := top
    -- the way goes back through one directory more, which is where it has been
    simp only [Way.place, Way.base, no_names, relative, Bool.false_eq_true, if_false,
      List.append_nil] at searchable
    simp only [Way.passed, relative, Bool.false_eq_true, if_false, List.forall_mem_map] at passed
    refine opens_iff.2 ⟨?_, by simp [no_names]⟩
    simp only [Way.passed, relative, Bool.false_eq_true, if_false, List.forall_mem_map]
    intro i hi
    rcases Nat.lt_succ_iff_lt_or_eq.1 (List.mem_range.1 hi) with before | rfl
    · exact passed i (List.mem_range.2 before)
    · exact searchable
  · refine opens_iff.2 ⟨passed, fun i hi => ?_⟩
    have within : i < way.names.length - 1 := by simpa using hi
    have same : way.names.dropLast.take i = way.names.take i := by
      rw [List.dropLast_eq_take, List.take_take, Nat.min_eq_left (Nat.le_of_lt within)]
    have found := above i (by omega)
    rwa [← same] at found

end Ways

/-- Neither a place nor anything above it is a link, as far as the directories above that may be searched. -/
def LinkFree (disk : Disk) (place : Place) : Prop :=
  ∀ above name, above ++ [name] <+: place → (∀ holder, holder <+: above → disk.may holder .search) →
    disk.linkAt? (above ++ [name]) = none

theorem LinkFree.mono {above : Place} (h : disk.LinkFree place) (prefixed : above <+: place) :
    disk.LinkFree above :=
  fun other name ho => h other name (ho.trans prefixed)

/-- Relative paths are not shut off: the directories down to the working directory may be searched. -/
def Searches (disk : Disk) (cwd : Place) (isAbsolute : Bool) : Prop :=
  isAbsolute ∨ ∀ above, above <+: cwd → disk.may above .search

/-- Resolving a path stops at a link that is inside itself. -/
def Sticks (disk : Disk) (cwd : Place) (p : FilePath) : Prop :=
  ∃ names, disk.resolveFrom cwd (disk.resolveLimit cwd) [] (if p.isAbsolute then .root else .here)
    p.parts = .stuck names

end PeakSlowness.Disk
