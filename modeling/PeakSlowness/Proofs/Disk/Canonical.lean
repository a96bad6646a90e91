import PeakSlowness.Disk.Canonical
import PeakSlowness.Proofs.Disk.Directory

set_option autoImplicit false

/-!
Canonical paths. They have names only, no dots, and every letter of theirs has octets.
-/

namespace PeakSlowness.Disk

variable {disk : Disk} {cwd : Place}

/-- All names of a way are names of entries. -/
def Way.Proper (way : Way) : Prop := ∀ name ∈ way.names, IsName name

theorem Way.Proper.parent {way : Way} (h : way.Proper) : way.parent.Proper := by
  unfold Way.parent
  split
  · exact h
  · exact fun name hn => h name (List.dropLast_subset _ hn)

theorem Way.Proper.child {way : Way} (h : way.Proper) {name : String} (hn : IsName name) :
    (way.child name).Proper := by
  intro other ho
  rcases List.mem_append.1 ho with before | here
  · exact h other before
  · rw [List.mem_singleton.1 here]
    exact hn

theorem Way.Proper.place {way : Way} (h : way.Proper) (working : ∀ name ∈ cwd, IsName name) :
    ∀ name ∈ way.place cwd, IsName name := by
  intro name hn
  rcases List.mem_append.1 hn with above | below
  · unfold Way.base at above
    split at above
    · cases above
    · exact working name (List.mem_of_mem_take above)
  · exact h name below

theorem proper_of_resolveFrom {fuel : Nat} {inside : List Way} {way there : Way}
    {names : List String}
    (proper : way.Proper) (h : disk.resolveFrom cwd fuel inside way names = .way there) :
    there.Proper := by
  fun_induction resolveFrom disk cwd fuel inside way names generalizing there with
  | case1 fuel inside way =>
    cases h
    exact proper
  | case2 fuel inside way rest ih => exact ih proper h
  | case3 fuel inside way rest ih => exact ih proper h
  | case4 fuel inside way rest ih => exact ih proper.parent h
  | case5 fuel inside way name rest h₁ h₂ h₃ next no_link =>
    rename_i ih
    exact ih (proper.child ⟨h₁, h₂, h₃⟩) h
  | case9 inside way name rest h₁ h₂ h₃ next target link new fuel start middle led inner =>
    rename_i outer
    -- behind the link the names go on from where it leads
    apply outer (inner ?_ led) h
    unfold start
    split
    · exact fun name hn => absurd hn List.not_mem_nil
    · exact proper
  | case6 | case7 | case8 => nomatch h

theorem isName_of_mem_collapse (names : List String) : ∀ name ∈ collapse names, IsName name := by
  unfold collapse
  apply List.foldlRecOn names _ (motive := fun place => ∀ name ∈ place, IsName name)
  · exact fun name hn => absurd hn List.not_mem_nil
  · intro place proper next _
    split
    · exact proper
    · exact proper
    · exact fun name hn => proper name (List.dropLast_subset _ hn)
    · next h₁ h₂ h₃ =>
      intro name hn
      rcases List.mem_append.1 hn with before | here
      · exact proper name before
      · rw [List.mem_singleton.1 here]
        exact ⟨h₁, h₂, h₃⟩

theorem canonical_eq (disk : Disk) (p : FilePath) (working : ∀ name ∈ cwd, IsName name) :
    ∃ place, disk.canonical cwd p = .ofPlace place ∧ ∀ name ∈ place, IsName name := by
  have begins : (if p.isAbsolute then Way.root else Way.here).Proper := by
    split
    · exact fun name hn => absurd hn List.not_mem_nil
    · exact fun name hn => absurd hn List.not_mem_nil
  unfold canonical
  dsimp only
  split
  · next way resolved => exact ⟨_, rfl, (proper_of_resolveFrom begins resolved).place working⟩
  · next names _ => exact ⟨_, rfl, isName_of_mem_collapse names⟩

end PeakSlowness.Disk
