import PeakSlowness.Proofs.Disk.Tree
import PeakSlowness.Proofs.Session

set_option autoImplicit false

/-!
What happens on the way. An action leaves the world that its events lead to, one after the other:
the file tree is what they have made of the tree before, and none of them is taken back when the
action fails. What holds of the events and the failures of the parts of an action holds of the
whole.
-/

namespace PeakSlowness

namespace Event

/-- What an event does to a file tree. -/
def apply (disk : Disk) : Event → Disk
  | printed _ | logged .. => disk
  | directoryMade place => disk.put place .directory
  | fileOpened place => disk.put place (.file [])
  | fileWritten place octets => disk.put place (.file octets)

/-- A message, or a directory that is made. -/
def Prepares : Event → Prop
  | logged .. | directoryMade _ => True
  | _ => False

/-- A message, or text on standard output. -/
def Speaks : Event → Prop
  | logged .. | printed _ => True
  | _ => False

/-- All but text on standard output. -/
def Files (e : Event) : Prop := e.printed? = none

/-- A file is opened, or written. -/
def Opens : Event → Prop
  | fileOpened _ | fileWritten .. => True
  | _ => False

theorem Prepares.files {e : Event} (h : e.Prepares) : e.Files := by
  cases e with
  | printed text => exact h.elim
  | logged _ _ | directoryMade _ | fileOpened _ | fileWritten _ _ => rfl

theorem Prepares.not_opens {e : Event} (h : e.Prepares) : ¬ e.Opens := by
  cases e with
  | fileOpened place | fileWritten place octets => exact h.elim
  | printed _ | logged _ _ | directoryMade _ => exact id

theorem Speaks.not_opens {e : Event} (h : e.Speaks) : ¬ e.Opens := by
  cases e with
  | fileOpened place | fileWritten place octets => exact h.elim
  | printed _ | logged _ _ | directoryMade _ => exact id

end Event

/-- The texts on standard output among events. -/
def texts (trace : List Event) : List String := trace.filterMap Event.printed?

@[simp] theorem texts_append (first second : List Event) :
    texts (first ++ second) = texts first ++ texts second := List.filterMap_append

theorem texts_of_files {trace : List Event} (h : ∀ e ∈ trace, e.Files) : texts trace = [] :=
  List.filterMap_eq_nil_iff.2 h

theorem texts_mono {first second : List Event} (h : first <+: second) :
    texts first <+: texts second := by
  obtain ⟨rest, rfl⟩ := h
  rw [texts_append]
  exact List.prefix_append _ _

/-- What comes before an opened file comes after all events of a part in which none is opened. -/
theorem prefix_of_opens {first second before after : List Event} {e : Event}
    (cut : first ++ second = before ++ e :: after) (opens : e.Opens)
    (h : ∀ e ∈ first, ¬ e.Opens) : first <+: before := by
  rcases List.append_eq_append_iff.1 cut with ⟨more, rfl, -⟩ | ⟨more, rfl, rest⟩
  · exact List.prefix_append _ _
  · cases more with
    | nil => exact ⟨[], by simp⟩
    | cons other others =>
      cases rest
      exact absurd opens (h e (by simp))

/-- A file that is there after something was put in its place is what was put, or was there before. -/
theorem Disk.find?_of_put {disk : Disk} {place other : Place} {entry : Entry} {octets : List UInt8}
    (h : (disk.put other entry).find? place = some (.file octets)) :
    disk.find? place = some (.file octets) ∨ entry = .file octets := by
  by_cases same : place = other
  · subst same
    by_cases root : place = []
    · subst root
      cases h
    · rw [find?_put_self root] at h
      exact .inr (Option.some.inj h)
  · rw [find?_put_of_ne same] at h
    exact .inl h

namespace World

/-- The world after events, the first of which comes first. -/
def after (w : World) (trace : List Event) : World :=
  ⟨w.host, trace.foldl Event.apply w.disk, trace.reverse ++ w.past⟩

@[simp] theorem after_nil (w : World) : w.after [] = w := rfl

@[simp] theorem after_append (w : World) (first second : List Event) :
    w.after (first ++ second) = (w.after first).after second := by
  simp [after]

theorem events_after (w : World) (trace : List Event) :
    (w.after trace).events = w.events ++ trace := by
  simp [events, after]

theorem printed_after (w : World) (trace : List Event) :
    (w.after trace).printed = w.printed ++ texts trace := by
  rw [printed, events_after, List.filterMap_append]
  rfl

/-- A file that is there after events was there before, or it is as one of them has left it. -/
theorem exists_of_find?_after {w : World} {trace : List Event} {place : Place} {octets : List UInt8}
    (file : (w.after trace).disk.find? place = some (.file octets)) :
    w.disk.find? place = some (.file octets) ∨
      ∃ other, (.fileOpened other ∈ trace ∧ octets = []) ∨ .fileWritten other octets ∈ trace := by
  induction trace generalizing w with
  | nil => exact .inl file
  | cons e rest ih =>
    have step := ih (w := w.after [e]) (by
      rw [← after_append]
      exact file)
    rcases step with before | ⟨other, later⟩
    · cases e with
      | logged level text => exact .inl before
      | printed text => exact .inl before
      | directoryMade other =>
        rcases Disk.find?_of_put before with before | same
        · exact .inl before
        · cases same
      | fileOpened other =>
        rcases Disk.find?_of_put before with before | same
        · exact .inl before
        · cases same
          exact .inr ⟨other, .inl ⟨List.mem_cons_self, rfl⟩⟩
      | fileWritten other content =>
        rcases Disk.find?_of_put before with before | same
        · exact .inl before
        · cases same
          exact .inr ⟨other, .inr List.mem_cons_self⟩
    · refine .inr ⟨other, later.imp ?_ (List.mem_cons_of_mem e)⟩
      exact And.imp_left (List.mem_cons_of_mem e)

/-- A file was there before events of which none opens a file. -/
theorem find?_of_after {w : World} {trace : List Event} (h : ∀ e ∈ trace, ¬ e.Opens)
    {place : Place} {octets : List UInt8}
    (file : (w.after trace).disk.find? place = some (.file octets)) :
    w.disk.find? place = some (.file octets) := by
  rcases exists_of_find?_after file with before | ⟨other, ⟨opened, -⟩ | written⟩
  · exact before
  · exact absurd trivial (h _ opened)
  · exact absurd trivial (h _ written)

theorem disk_after_of_speaks {w : World} {trace : List Event} (h : ∀ e ∈ trace, e.Speaks) :
    (w.after trace).disk = w.disk := by
  induction trace generalizing w with
  | nil => rfl
  | cons e rest ih =>
    have later := ih (w := w.after [e]) fun e he => h e (List.mem_cons_of_mem _ he)
    rw [← after_append] at later
    refine Eq.trans later ?_
    have here := h e List.mem_cons_self
    cases e with
    | logged level text => rfl
    | printed text => rfl
    | fileOpened other | fileWritten other octets | directoryMade other => exact here.elim

end World

namespace Action

variable {α β : Type} {events : Event → Prop} {causes : Failure → Prop}

/-- An action leaves a trace of such events alone, and fails for such causes alone. -/
structure Within (events : Event → Prop) (causes : Failure → Prop) (x : Action α) (w : World) :
    Prop where
  trace : ∃ trace, (outcome x w).2 = w.after trace ∧ ∀ e ∈ trace, events e
  cause : ∀ failure, (outcome x w).1 = .error failure → causes failure

section Within

variable {x : Action α} {w : World}

theorem within_of_outcome (result : Except Failure α) (trace : List Event)
    (h : outcome x w = (result, w.after trace)) (allowed : ∀ e ∈ trace, events e)
    (cause : ∀ failure, result = .error failure → causes failure) : Within events causes x w := by
  constructor <;> rw [h]
  · exact ⟨trace, rfl, allowed⟩
  · exact cause

theorem Within.of_outcome_eq {y : Action α} (same : outcome x w = outcome y w)
    (h : Within events causes y w) : Within events causes x w := by
  constructor <;> rw [same]
  · exact h.trace
  · exact h.cause

theorem within_pure (a : α) (w : World) : Within events causes (pure a) w :=
  within_of_outcome _ [] rfl nofun nofun

theorem within_throw {failure : Failure} (h : causes failure) (w : World) :
    Within events causes (throw failure : Action α) w := by
  refine within_of_outcome _ [] rfl nofun ?_
  rintro _ ⟨⟩
  exact h

theorem within_get (w : World) : Within events causes get w :=
  within_of_outcome _ [] rfl nofun nofun

theorem within_query (f : Disk → Place → α) (w : World) :
    Within events causes (query f) w :=
  within_of_outcome _ [] rfl nofun nofun

theorem within_ofExcept {ε : Type} {cause : ε → Failure} {r : Except ε α}
    (h : ∀ e, r = .error e → causes (cause e)) (w : World) :
    Within events causes (ofExcept cause r) w := by
  cases r with
  | error e => exact within_throw (h e rfl) w
  | ok a => exact within_pure a w

theorem within_log {level : Level} {text : String} (h : events (.logged level text)) (w : World) :
    Within events causes (log level text) w :=
  within_of_outcome _ [.logged level text] rfl (List.forall_mem_singleton.2 h) nofun

theorem within_print {text : String} (h : events (.printed text)) (w : World) :
    Within events causes (print text) w :=
  within_of_outcome _ [.printed text] rfl (List.forall_mem_singleton.2 h) nofun

theorem Within.bind {f : α → Action β} (hx : Within events causes x w)
    (hf : ∀ a, (outcome x w).1 = .ok a → Within events causes (f a) (outcome x w).2) :
    Within events causes (x >>= f) w := by
  obtain ⟨first, there, allowed⟩ := hx.trace
  have run := outcome_bind x f w
  rcases h : outcome x w with ⟨failure | a, w'⟩ <;> rw [h] at run there hf
  · subst there
    refine within_of_outcome (.error failure) first run allowed ?_
    rintro _ ⟨⟩
    exact hx.cause failure (congrArg Prod.fst h)
  · obtain ⟨second, behind, allowed'⟩ := (hf a rfl).trace
    subst there
    refine within_of_outcome _ (first ++ second) (run.trans ?_) ?_ (hf a rfl).cause
    · rw [World.after_append, ← behind]
    · exact List.forall_mem_append.2 ⟨allowed, allowed'⟩

theorem Within.map (f : α → β) (hx : Within events causes x w) :
    Within events causes (f <$> x) w :=
  hx.bind fun a _ => within_pure (f a) _

theorem Within.mono {more : Event → Prop} {others : Failure → Prop} (hx : Within events causes x w)
    (he : ∀ e, events e → more e) (hc : ∀ failure, causes failure → others failure) :
    Within more others x w := by
  obtain ⟨trace, there, allowed⟩ := hx.trace
  constructor
  · exact ⟨trace, there, fun e h => he e (allowed e h)⟩
  · exact fun failure h => hc failure (hx.cause failure h)

theorem Within.tryCatch {inner : Failure → Prop} {handle : Failure → Action α}
    (hx : Within events inner x w)
    (hf : ∀ failure, inner failure → Within events causes (handle failure) (outcome x w).2) :
    Within events causes (tryCatch x handle) w := by
  obtain ⟨first, there, allowed⟩ := hx.trace
  have run := outcome_tryCatch x handle w
  rcases h : outcome x w with ⟨failure | a, w'⟩ <;> rw [h] at run there hf
  · obtain ⟨second, behind, allowed'⟩ := (hf failure (hx.cause failure (congrArg Prod.fst h))).trace
    have cause := (hf failure (hx.cause failure (congrArg Prod.fst h))).cause
    subst there
    refine within_of_outcome _ (first ++ second) (run.trans ?_) ?_ cause
    · rw [World.after_append, ← behind]
    · exact List.forall_mem_append.2 ⟨allowed, allowed'⟩
  · subst there
    exact within_of_outcome (.ok a) first run allowed nofun

/-- The world behind an action, and its result. -/
theorem Within.outcome_eq (hx : Within events causes x w) :
    ∃ trace, outcome x w = ((outcome x w).1, w.after trace) ∧ ∀ e ∈ trace, events e := by
  obtain ⟨trace, there, allowed⟩ := hx.trace
  exact ⟨trace, Prod.ext rfl there, allowed⟩

theorem within_makeDirectory (made : ∀ place, events (.directoryMade place)) (p : FilePath)
    (w : World) : Within events causes (makeDirectory p) w := by
  unfold makeDirectory
  apply Within.bind (within_get w)
  rintro _ ⟨⟩
  cases h : w.disk.makeDirectory w.host.cwd p with
  | error fault => exact within_pure _ _
  | ok result =>
    obtain ⟨place, disk⟩ := result
    obtain ⟨-, rfl⟩ := Disk.fits_of_makeDirectory h
    exact within_of_outcome _ [.directoryMade place] rfl
      (List.forall_mem_singleton.2 (made place)) nofun

theorem within_openFile (opened : ∀ place, events (.fileOpened place)) (p : FilePath) (w : World) :
    Within events causes (openFile p) w := by
  unfold openFile
  apply Within.bind (within_get w)
  rintro _ ⟨⟩
  cases h : w.disk.openToWrite w.host.cwd p with
  | error fault => exact within_pure _ _
  | ok result =>
    obtain ⟨place, disk⟩ := result
    obtain ⟨-, rfl, -⟩ := Disk.leadsTo_of_openToWrite h
    exact within_of_outcome _ [.fileOpened place] rfl
      (List.forall_mem_singleton.2 (opened place)) nofun

theorem within_writeFile {place : Place} {octets : List UInt8}
    (written : events (.fileWritten place octets)) (w : World) :
    Within events causes (writeFile place octets) w :=
  within_of_outcome _ [.fileWritten place octets] rfl
    (List.forall_mem_singleton.2 written) nofun

end Within

end Action

end PeakSlowness
