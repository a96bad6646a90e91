import PeakSlowness.Session

set_option autoImplicit false

/-!
What actions come to. `outcome` is the result of an action in a world and the world behind it; each
way to build an action has its equation. An action leaves something as it was if that is the same in
the world behind it, whether the action failed or not.
-/

namespace PeakSlowness

def Event.printed? : Event → Option String
  | .printed text => some text
  | _ => none

def World.printed (w : World) : List String := w.events.filterMap Event.printed?

def World.record (w : World) (event : Event) : World := { w with past := event :: w.past }

@[simp] theorem World.record_printed (w : World) (event : Event) :
    (w.record event).printed = w.printed ++ event.printed?.toList := by
  simp only [World.printed, World.events, World.record, List.reverse_cons, List.filterMap_append]
  cases h : event.printed? with
  | none => simp [h]
  | some text => simp [h]

/-- Two worlds have one host, one file tree and one text on standard output. -/
structure World.Alike (w w' : World) : Prop where
  host : w'.host = w.host
  disk : w'.disk = w.disk
  printed : w'.printed = w.printed

namespace World.Alike

variable {w w' w'' : World}

theorem refl (w : World) : w.Alike w := ⟨rfl, rfl, rfl⟩

theorem trans (h : w.Alike w') (h' : w'.Alike w'') : w.Alike w'' :=
  ⟨h'.host.trans h.host, h'.disk.trans h.disk, h'.printed.trans h.printed⟩

end World.Alike

namespace Action

variable {α β : Type}

/-- The result of an action in a world, and the world behind it. -/
def outcome (x : Action α) (w : World) : Except Failure α × World := x.run.run w

@[simp] theorem outcome_pure (a : α) (w : World) : outcome (pure a) w = (.ok a, w) := rfl

theorem outcome_bind (x : Action α) (f : α → Action β) (w : World) :
    outcome (x >>= f) w =
      match outcome x w with
      | (.ok a, w') => outcome (f a) w'
      | (.error failure, w') => (.error failure, w') := by
  change (ExceptT.bindCont f (outcome x w).1 : StateM World _) (outcome x w).2 = _
  rcases outcome x w with ⟨_ | _, w'⟩ <;> rfl

theorem outcome_bind_of_ok {x : Action α} {f : α → Action β} {w w' : World} {a : α}
    (h : outcome x w = (.ok a, w')) : outcome (x >>= f) w = outcome (f a) w' := by
  rw [outcome_bind, h]

theorem outcome_bind_of_error {x : Action α} {f : α → Action β} {w w' : World} {failure : Failure}
    (h : outcome x w = (.error failure, w')) : outcome (x >>= f) w = (.error failure, w') := by
  rw [outcome_bind, h]

theorem outcome_bind_eq_ok_iff {x : Action α} {f : α → Action β} {w w'' : World} {b : β} :
    outcome (x >>= f) w = (.ok b, w'') ↔
      ∃ a w', outcome x w = (.ok a, w') ∧ outcome (f a) w' = (.ok b, w'') := by
  rw [outcome_bind]
  rcases outcome x w with ⟨failure | a, w'⟩
  · simp
  · constructor
    · exact fun h => ⟨a, w', rfl, h⟩
    · rintro ⟨a', w'', ⟨⟩, h⟩
      exact h

theorem outcome_map (f : α → β) (x : Action α) (w : World) :
    outcome (f <$> x) w = ((outcome x w).1.map f, (outcome x w).2) := by
  change outcome (x >>= fun a => pure (f a)) w = _
  rw [outcome_bind]
  rcases outcome x w with ⟨_ | _, w'⟩ <;> rfl

theorem outcome_map_eq_ok_iff {f : α → β} {x : Action α} {w w' : World} {b : β} :
    outcome (f <$> x) w = (.ok b, w') ↔ ∃ a, outcome x w = (.ok a, w') ∧ f a = b := by
  rw [outcome_map]
  rcases outcome x w with ⟨failure | a, w₁⟩
  · constructor
    · intro h
      cases h
    · rintro ⟨a, h, -⟩
      cases h
  · constructor
    · intro h
      cases h
      exact ⟨a, rfl, rfl⟩
    · rintro ⟨a', h, rfl⟩
      cases h
      rfl

theorem outcome_tryCatch (x : Action α) (handle : Failure → Action α) (w : World) :
    outcome (tryCatch x handle) w =
      match outcome x w with
      | (.ok a, w') => (.ok a, w')
      | (.error failure, w') => outcome (handle failure) w' := by
  simp only [outcome, ExceptT.run_tryCatch, StateT.run_bind]
  rcases x.run.run w with ⟨_ | _, w'⟩ <;> rfl

@[simp] theorem outcome_get (w : World) : outcome get w = (.ok w, w) := rfl

@[simp] theorem outcome_ofExcept_ok {ε : Type} (cause : ε → Failure) (a : α) (w : World) :
    outcome (ofExcept cause (.ok a)) w = (.ok a, w) := rfl

theorem outcome_ofExcept {ε : Type} (cause : ε → Failure) (x : Except ε α) (w : World) :
    outcome (ofExcept cause x) w = (x.mapError cause, w) := by
  cases x <;> rfl

@[simp] theorem outcome_query (f : Disk → Place → α) (w : World) :
    outcome (query f) w = (.ok (f w.disk w.host.cwd), w) := rfl

/-- An action comes to a result and prints texts. Nothing else about the world changes but the
log. -/
structure Says (x : Action α) (w : World) (result : Except Failure α) (texts : List String) :
    Prop where
  result : (outcome x w).1 = result
  host : (outcome x w).2.host = w.host
  disk : (outcome x w).2.disk = w.disk
  printed : (outcome x w).2.printed = w.printed ++ texts

section Says

variable {w : World} {x : Action α} {result : Except Failure α} {texts : List String}

theorem says_of_outcome {w' : World} (h : outcome x w = (result, w')) (host : w'.host = w.host)
    (disk : w'.disk = w.disk) (printed : w'.printed = w.printed ++ texts) :
    Says x w result texts := by
  constructor <;> rw [h] <;> assumption

theorem Says.outcome_eq (h : Says x w result texts) : outcome x w = (result, (outcome x w).2) := by
  rw [← h.result]

theorem says_pure (a : α) (w : World) : Says (pure a) w (.ok a) [] :=
  ⟨rfl, rfl, rfl, (List.append_nil _).symm⟩

theorem says_throw (failure : Failure) (w : World) :
    Says (throw failure : Action α) w (.error failure) [] :=
  ⟨rfl, rfl, rfl, (List.append_nil _).symm⟩

theorem says_query (f : Disk → Place → α) (w : World) :
    Says (query f) w (.ok (f w.disk w.host.cwd)) [] := ⟨rfl, rfl, rfl, (List.append_nil _).symm⟩

theorem says_ofExcept {ε : Type} (cause : ε → Failure) (x : Except ε α) (w : World) :
    Says (ofExcept cause x) w (x.mapError cause) [] := by
  cases x with
  | error e => exact says_throw (cause e) w
  | ok a => exact says_pure a w

theorem says_print (text : String) (w : World) : Says (print text) w (.ok ()) [text] :=
  ⟨rfl, rfl, rfl, World.record_printed w _⟩

theorem says_log (level : Level) (text : String) (w : World) :
    Says (log level text) w (.ok ()) [] :=
  ⟨rfl, rfl, rfl, World.record_printed w _⟩

theorem says_logWritten (level : Level) (text : Except Numeral.Fault String) (w : World) :
    Says (logWritten level text) w (.ok ()) [] := by
  cases text with
  | error fault => exact says_pure () w
  | ok text => exact says_log level text w

theorem Says.bind {f : α → Action β} {a : α} {last : Except Failure β} {more : List String}
    (hx : Says x w (.ok a) texts) (hf : Says (f a) (outcome x w).2 last more) :
    Says (x >>= f) w last (texts ++ more) := by
  have run := outcome_bind_of_ok (f := f) hx.outcome_eq
  refine says_of_outcome (run.trans hf.outcome_eq) ?_ ?_ ?_
  · exact hf.host.trans hx.host
  · exact hf.disk.trans hx.disk
  · rw [hf.printed, hx.printed, List.append_assoc]

theorem Says.bind_of_error {f : α → Action β} {failure : Failure}
    (hx : Says x w (.error failure) texts) :
    Says (x >>= f) w (.error failure) texts :=
  says_of_outcome (outcome_bind_of_error hx.outcome_eq) hx.host hx.disk hx.printed

theorem Says.map (f : α → β) (hx : Says x w result texts) :
    Says (f <$> x) w (result.map f) texts := by
  have run := outcome_map f x w
  rw [hx.result] at run
  exact says_of_outcome run hx.host hx.disk hx.printed

theorem Says.then {f : α → Action β} {a : α} {last : Except Failure β} (hx : Says x w (.ok a) [])
    (hf : Says (f a) (outcome x w).2 last texts) : Says (x >>= f) w last texts := hx.bind hf

end Says

/-- An action prints nothing and changes nothing but the log, whatever it comes to. -/
def Quiet (x : Action α) : Prop := ∀ w, Says x w (outcome x w).1 []

theorem Quiet.alike {x : Action α} (h : Quiet x) (w : World) : w.Alike (outcome x w).2 :=
  ⟨(h w).host, (h w).disk, (h w).printed.trans (List.append_nil _)⟩

theorem quiet_pure (a : α) : Quiet (pure a) := says_pure a

theorem quiet_throw (failure : Failure) : Quiet (throw failure : Action α) := says_throw failure

theorem quiet_query (f : Disk → Place → α) : Quiet (query f) := says_query f

theorem quiet_ofExcept {ε : Type} (cause : ε → Failure) (x : Except ε α) :
    Quiet (ofExcept cause x) := by
  intro w
  rw [(says_ofExcept cause x w).result]
  exact says_ofExcept cause x w

theorem quiet_logWritten (level : Level) (text : Except Numeral.Fault String) :
    Quiet (logWritten level text) := by
  intro w
  rw [(says_logWritten level text w).result]
  exact says_logWritten level text w

theorem quiet_bind {x : Action α} {f : α → Action β} (hx : Quiet x) (hf : ∀ a, Quiet (f a)) :
    Quiet (x >>= f) := by
  intro w
  have first := hx w
  cases h : (outcome x w).1 with
  | error failure =>
    rw [h] at first
    have whole := first.bind_of_error (f := f)
    rw [whole.result]
    exact whole
  | ok a =>
    rw [h] at first
    have whole := first.then (hf a (outcome x w).2)
    rw [whole.result]
    exact whole

end Action

end PeakSlowness
