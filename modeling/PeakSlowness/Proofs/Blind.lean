import PeakSlowness.Program
import PeakSlowness.Proofs.Disk.Hollow
import PeakSlowness.Proofs.Effects

set_option autoImplicit false

/-!
What the program does without looking at the octets of files. Two worlds that differ in nothing else
go on alike: such an action comes to the same result in both, by the same events. All actions of a
run are of this kind but the two that read a file.
-/

namespace PeakSlowness

open Text (Letter)

namespace Event

theorem hollow_apply {disk disk' : Disk} (h : disk'.hollow = disk.hollow) (e : Event) :
    (e.apply disk').hollow = (e.apply disk).hollow := by
  cases e with
  | printed text => exact h
  | logged level text => exact h
  | directoryMade place | fileOpened place | fileWritten place octets =>
    simp only [apply, Disk.hollow_put, h]

theorem hollow_foldl_apply (trace : List Event) {disk disk' : Disk}
    (h : disk'.hollow = disk.hollow) :
    (trace.foldl apply disk').hollow = (trace.foldl apply disk).hollow := by
  induction trace generalizing disk disk' with
  | nil => exact h
  | cons e rest ih => exact ih (hollow_apply h e)

end Event

namespace World

/-- Two worlds that differ in nothing but the octets of files. -/
structure Twins (w w' : World) : Prop where
  host : w'.host = w.host
  past : w'.past = w.past
  disk : w'.disk.hollow = w.disk.hollow

theorem Twins.refl (w : World) : w.Twins w := ⟨rfl, rfl, rfl⟩

/-- The same events keep twins apart no further. -/
theorem Twins.after {w w' : World} (h : w.Twins w') (trace : List Event) :
    (w.after trace).Twins (w'.after trace) := by
  refine ⟨h.host, ?_, Event.hollow_foldl_apply trace h.disk⟩
  simp only [World.after, h.past]

end World

namespace Action

variable {α β : Type}

/-- An action comes to one result in two worlds, by the same events. -/
def InStep (x : Action α) (w w' : World) : Prop :=
  ∃ result trace, outcome x w = (result, w.after trace) ∧ outcome x w' = (result, w'.after trace)

/-- An action goes on alike in twins. -/
def Blind (x : Action α) : Prop := ∀ w w' : World, w.Twins w' → InStep x w w'

section Steps

variable {x : Action α} {w w' : World}

theorem InStep.bind {f : α → Action β} (hx : InStep x w w')
    (hf : ∀ a trace, outcome x w = (.ok a, w.after trace) →
      outcome x w' = (.ok a, w'.after trace) → InStep (f a) (w.after trace) (w'.after trace)) :
    InStep (x >>= f) w w' := by
  obtain ⟨result, first, here, there⟩ := hx
  cases result with
  | error failure =>
    exact ⟨.error failure, first, outcome_bind_of_error here, outcome_bind_of_error there⟩
  | ok a =>
    obtain ⟨last, second, here', there'⟩ := hf a first here there
    refine ⟨last, first ++ second, ?_, ?_⟩
    · rw [outcome_bind_of_ok here, here', World.after_append]
    · rw [outcome_bind_of_ok there, there', World.after_append]

theorem Blind.bind {f : α → Action β} (hx : Blind x) (hf : ∀ a, Blind (f a)) :
    Blind (x >>= f) := fun w w' twins =>
  (hx w w' twins).bind fun a trace _ _ => hf a _ _ (twins.after trace)

theorem Blind.tryCatch {handle : Failure → Action α} (hx : Blind x)
    (hf : ∀ failure, Blind (handle failure)) : Blind (tryCatch x handle) := by
  intro w w' twins
  obtain ⟨result, first, here, there⟩ := hx w w' twins
  cases result with
  | ok a => exact ⟨.ok a, first, by rw [outcome_tryCatch, here], by rw [outcome_tryCatch, there]⟩
  | error failure =>
    obtain ⟨last, second, here', there'⟩ := hf failure _ _ (twins.after first)
    refine ⟨last, first ++ second, ?_, ?_⟩
    · rw [outcome_tryCatch, here, World.after_append]
      exact here'
    · rw [outcome_tryCatch, there, World.after_append]
      exact there'

theorem blind_pure (a : α) : Blind (pure a) := fun _ _ _ => ⟨.ok a, [], rfl, rfl⟩

theorem blind_throw (failure : Failure) : Blind (throw failure : Action α) :=
  fun _ _ _ => ⟨.error failure, [], rfl, rfl⟩

theorem Blind.map (f : α → β) (hx : Blind x) : Blind (f <$> x) := hx.bind fun a => blind_pure (f a)

theorem blind_ofExcept {ε : Type} (cause : ε → Failure) (r : Except ε α) :
    Blind (ofExcept cause r) := by
  cases r with
  | error e => exact blind_throw (cause e)
  | ok a => exact blind_pure a

theorem blind_log (level : Level) (text : String) : Blind (log level text) :=
  fun _ _ _ => ⟨.ok (), [.logged level text], rfl, rfl⟩

theorem blind_print (text : String) : Blind (print text) :=
  fun _ _ _ => ⟨.ok (), [.printed text], rfl, rfl⟩

theorem blind_writeFile (place : Place) (octets : List UInt8) : Blind (writeFile place octets) :=
  fun _ _ _ => ⟨.ok (), [.fileWritten place octets], rfl, rfl⟩

theorem blind_logWritten (level : Level) (text : Except Numeral.Fault String) :
    Blind (logWritten level text) := by
  cases text with
  | error fault => exact blind_pure ()
  | ok text => exact blind_log level text

/-- What is looked up in the world and does not depend on the octets of files. -/
theorem blind_get_bind {f : World → Action β} (same : ∀ w w' : World, w.Twins w' → f w' = f w)
    (hf : ∀ w, Blind (f w)) : Blind (get >>= f) := by
  intro w w' twins
  obtain ⟨result, trace, here, there⟩ := hf w w w' twins
  refine ⟨result, trace, here, ?_⟩
  rw [outcome_bind_of_ok (outcome_get w'), same w w' twins]
  exact there

theorem blind_query {f : Disk → Place → α}
    (same : ∀ disk cwd, f disk.hollow cwd = f disk cwd) : Blind (query f) := by
  refine blind_get_bind ?_ fun w => blind_pure _
  intro w w' twins
  rw [← same w'.disk, ← same w.disk, twins.disk, twins.host]

end Steps

section Calls

theorem blind_isDirectory (p : FilePath) : Blind (query fun d cwd => d.isDirectory cwd p) :=
  blind_query fun disk cwd => disk.isDirectory_hollow cwd p

theorem blind_makeDirectory (p : FilePath) : Blind (makeDirectory p) := by
  intro w w' twins
  rcases Disk.makeDirectory_alike twins.disk w.host.cwd p with
    ⟨fault, here, there⟩ | ⟨place, here, there⟩
  · refine ⟨.ok (.error fault), [], ?_, ?_⟩
    · rw [outcome_makeDirectory, here, World.after_nil]
    · rw [outcome_makeDirectory, twins.host, there, World.after_nil]
  · refine ⟨.ok (.ok ()), [.directoryMade place], ?_, ?_⟩
    · rw [outcome_makeDirectory, here]
      rfl
    · rw [outcome_makeDirectory, twins.host, there, ← twins.host]
      rfl

theorem blind_openFile (p : FilePath) : Blind (openFile p) := by
  intro w w' twins
  rcases Disk.openToWrite_alike twins.disk w.host.cwd p with
    ⟨fault, here, there⟩ | ⟨place, here, there⟩
  · rw [← twins.host] at there
    exact ⟨.ok (.error fault), [], outcome_openFile_of_refused here, outcome_openFile_of_refused there⟩
  · rw [← twins.host] at there
    exact ⟨.ok (.ok place), [.fileOpened place], outcome_openFile_of_opened here,
      outcome_openFile_of_opened there⟩

theorem blind_expandHome (p : FilePath) : Blind (expandHome p) := by
  intro w w' twins
  refine ⟨p.expanded w.host, [], outcome_expandHome p w, ?_⟩
  rw [← twins.host]
  exact outcome_expandHome p w'

theorem blind_excuse (p : FilePath) (fault : CallFault) : Blind (excuse p fault) := by
  unfold excuse
  cases fault with
  | unencodable u => exact blind_throw _
  | nul => exact blind_throw _
  | errno e =>
    refine (blind_isDirectory p).bind ?_
    intro found
    split
    · exact blind_pure ()
    · exact blind_throw _
    · exact blind_throw _

theorem blind_makeDirectories (anchor : Anchor) (parts : List String) :
    Blind (makeDirectories anchor parts) := by
  induction size : parts.length using Nat.strongRecOn generalizing parts with
  | ind n ih =>
    rw [makeDirectories]
    refine (blind_makeDirectory _).bind ?_
    intro result
    split
    · exact blind_pure ()
    · split
      · exact blind_throw _
      · next above =>
        -- the directory above it comes first
        have shorter : parts.dropLast.length < n := by
          have := List.length_pos_iff.2 above
          rw [List.length_dropLast]
          omega
        refine (ih _ shorter parts.dropLast rfl).bind fun _ => (blind_makeDirectory _).bind ?_
        intro result
        split
        · exact blind_pure ()
        · exact blind_throw _
        · exact blind_excuse _ _
    · exact blind_excuse _ _

end Calls

section Parts

theorem blind_resolveInput (p : FilePath) : Blind (resolveInput p) := by
  unfold resolveInput
  refine (blind_expandHome p).bind fun q => (blind_isDirectory q).bind ?_
  intro found
  split
  · exact blind_pure _
  · exact blind_pure _
  · exact blind_throw _

theorem blind_inputPath (cfg : Setting) : Blind (inputPath cfg) := by
  unfold inputPath sectionEntry
  refine (blind_ofExcept _ _).bind fun named => (blind_ofExcept _ _).bind fun path => ?_
  refine (blind_resolveInput path).bind fun path => (blind_ofExcept _ _).bind fun mode => ?_
  exact (blind_logWritten _ _).bind fun _ => blind_pure path

theorem blind_makeRoot (directory : FilePath) : Blind (makeRoot directory) := by
  have usable : Blind (query fun d cwd => d.isUsable cwd directory) :=
    blind_query fun disk cwd => disk.isUsable_hollow cwd directory
  unfold makeRoot
  refine ((blind_makeDirectories directory.anchor directory.parts).tryCatch ?_).bind
    fun _ => usable.bind ?_
  · intro failure
    split
    · exact blind_throw _
    · exact blind_throw _
  · intro found
    split
    · exact blind_pure _
    · exact blind_throw _

theorem blind_settleRoot (q : FilePath) : Blind (settleRoot q) := by
  have stopped {f : Unit → Action FilePath} (failure : Failure) : Blind (throw failure >>= f) :=
    fun _ _ _ => ⟨.error failure, [], rfl, rfl⟩
  unfold settleRoot
  extract_lets found checked
  have found_ok : Blind (found ()) := by
    apply blind_get_bind
    · intro w w' twins
      have place : w'.disk.canonical w'.host.cwd q = w.disk.canonical w.host.cwd q := by
        rw [← Disk.canonical_hollow, ← w.disk.canonical_hollow, twins.disk, twins.host]
      dsimp only
      rw [place, twins.host]
      rcases Disk.entryAt_alike twins.disk w.host.cwd (w.disk.canonical w.host.cwd q) with
        ⟨fault, here, there⟩ | ⟨at_end, e, e', here, there, kind⟩
      · rw [here, there]
      · rw [here, there]
        cases e <;> cases e' <;> first | rfl | cases kind
    · intro w
      extract_lets directory
      split
      · exact blind_throw _
      · split
        · exact blind_makeRoot directory
        · exact blind_throw _
      · exact blind_throw _
      · exact blind_throw _
      · exact blind_makeRoot directory
  have checked_ok : Blind (checked ()) := by
    unfold checked
    split
    · exact stopped _
    · exact found_ok
  split
  · exact stopped _
  · exact checked_ok

theorem blind_prepareRoot (root : Setting) : Blind (prepareRoot root) :=
  (blind_ofExcept _ _).bind fun p => (blind_expandHome p).bind fun q => blind_settleRoot q

theorem blind_printRows (s : Series) : Blind (printRows s) := by
  induction s with
  | nil => exact blind_pure ()
  | cons r rest ih =>
    rw [printRows_cons]
    exact ((blind_ofExcept _ _).bind fun text => blind_print _).bind fun _ => ih

theorem blind_announce (apps : List Application) (sweep : Sweep) : Blind (announce apps sweep) := by
  unfold announce
  split
  · exact blind_logWritten _ _
  · exact blind_throw _

variable (table : Table) (directory : FilePath) (title : String) (format : ReportFormat)
    (name : List Letter)

theorem blind_writeCsv : Blind (writeCsv table (reportBase directory) title) := by
  unfold writeCsv
  rw [reportPath_base, pure_bind]
  refine (blind_makeDirectories _ _).bind fun _ => (blind_openFile _).bind fun opened => ?_
  cases opened with
  | error fault => exact blind_throw _
  | ok place =>
    exact (blind_writeFile _ _).bind fun _ => (blind_log _ _).bind fun _ => blind_pure _

theorem blind_fillMat (place : Place) : Blind (fillMat table place name) := by
  unfold fillMat
  refine (blind_writeFile _ _).bind fun _ => ?_
  split
  · exact blind_throw _
  · exact blind_pure ()
  · exact (blind_ofExcept _ _).bind fun octets => blind_writeFile _ _

theorem blind_writeMat : Blind (writeMat table (reportBase directory) title name) := by
  unfold writeMat
  rw [reportPath_base, pure_bind]
  refine (blind_makeDirectories _ _).bind fun _ => (blind_openFile _).bind fun opened => ?_
  split
  · exact blind_throw _
  · exact blind_throw _
  · refine (blind_fillMat table name _).bind fun _ => ?_
    exact (blind_log _ _).bind fun _ => blind_pure _

theorem blind_savePlot : Blind (savePlot table directory) := by
  unfold savePlot
  split
  · exact (blind_log _ _).bind fun _ => blind_pure _
  · refine (blind_makeDirectories _ _).bind fun _ => (blind_ofExcept _ _).bind fun _ => ?_
    refine (blind_openFile _).bind fun opened => ?_
    cases opened with
    | error fault => exact blind_throw _
    | ok place =>
      exact (blind_writeFile _ _).bind fun _ => (blind_log _ _).bind fun _ => blind_pure _

theorem blind_writeFiles (plan : Plan) : Blind (writeFiles plan table directory) := by
  rw [writeFiles_eq]
  refine (blind_ofExcept _ _).bind fun name => Blind.bind (Blind.map _ ?_) fun _ => ?_
  · rw [writeReports_eq, csvStep, matStep]
    refine Blind.bind ?_ fun first => Blind.bind ?_ fun second => blind_pure _
    · split
      · exact (blind_writeCsv table directory _).map _
      · exact blind_pure _
    · split
      · exact (blind_writeMat table directory _ name).map _
      · exact blind_pure _
  · rw [plotStep]
    split
    · exact (blind_savePlot table directory).map _
    · exact blind_pure _

theorem blind_summarize (apps : List Application) (cfg : Setting) : Blind (summarize apps cfg) := by
  cases planned : Plan.ofConfig cfg with
  | error failure =>
    unfold summarize
    rw [planned]
    exact fun _ _ _ => ⟨.error failure, [], rfl, rfl⟩
  | ok plan =>
    rw [summarize_eq planned]
    refine Blind.bind ?_ fun root => Blind.bind ?_ fun _ => Blind.bind ?_ fun table =>
      Blind.bind ?_ fun _ => blind_pure table
    · cases plan.root with
      | none => exact blind_pure none
      | some root => exact (blind_prepareRoot root).map some
    · unfold warning
      split
      · exact blind_log _ _
      · exact blind_pure ()
    · unfold printing
      refine (blind_announce _ _).bind fun _ => (blind_printRows _).bind fun _ => ?_
      split
      · exact blind_pure _
      · exact blind_throw _
    · cases root with
      | none => exact blind_pure ()
      | some directory => exact blind_writeFiles table directory plan

end Parts

end Action

end PeakSlowness
