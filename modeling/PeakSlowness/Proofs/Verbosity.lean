import PeakSlowness.Proofs.Blind
import PeakSlowness.Proofs.LoggingSection
import PeakSlowness.Proofs.Status

set_option autoImplicit false

/-!
Messages are all that asking for messages counts for. Two runs that differ in it, be it by the option
or by the configuration, go the same way: they do the same things in the same order, and end alike.
A configuration that is another one only in its section about messages is read from other octets, so
the two runs take place in worlds that differ in the octets of that file.
-/

namespace PeakSlowness

open PeakSlowness.Action CommandLine Config

namespace Action

variable {α β : Type} {w w' : World}

theorem InStep.of_ok {x : Action α} {f : α → Action β} {a : α} (here : outcome x w = (.ok a, w))
    (there : outcome x w' = (.ok a, w')) (hf : InStep (f a) w w') : InStep (x >>= f) w w' := by
  rw [InStep, outcome_bind_of_ok here, outcome_bind_of_ok there]
  exact hf

theorem InStep.reporting {step : Action Unit} (say : Failure → Option String)
    (h : InStep step w w') : InStep (reporting say step) w w' := by
  obtain ⟨result, trace, here, there⟩ := h
  rw [InStep, outcome_reporting, outcome_reporting, here, there]
  cases result with
  | ok _ => exact ⟨.ok 0, trace, rfl, rfl⟩
  | error failure =>
    cases said : say failure with
    | none => exact ⟨.error failure, trace, by simp only [said], by simp only [said]⟩
    | some text =>
      refine ⟨.ok 1, trace ++ [.logged .error text], ?_, ?_⟩
      · rw [World.after_append]
        simp only [said]
        rfl
      · rw [World.after_append]
        simp only [said]
        rfl

/-- Loading goes alike in worlds with the same octets at the path. -/
theorem inStep_load (cfg : Setting) {path : FilePath} (twins : w.Twins w')
    (same : w'.disk.read w'.host.cwd path = w.disk.read w.host.cwd path) :
    InStep (load path cfg) w w' := by
  unfold load
  cases Config.mode cfg with
  | error failure => exact ⟨.error failure, [], rfl, rfl⟩
  | ok mode =>
    have read := outcome_query (fun d cwd => d.read cwd path) w'
    rw [same] at read
    refine InStep.of_ok rfl rfl (InStep.of_ok (outcome_query _ w) read ?_)
    have parsed : ∀ octets, Blind (ofExcept (StatFile.Fault.failure path) (StatFile.read mode octets)
        >>= fun apps => log .info ("loaded " ++ toString apps.length ++ " app record(s) from " ++
          path.toText ++ " (" ++ mode.name ++ " parsing)") >>= fun _ => pure apps) :=
      fun octets => (blind_ofExcept _ _).bind fun apps => (blind_log _ _).bind fun _ =>
        blind_pure apps
    split
    · exact (blind_pure _).bind parsed w w' twins
    · exact (blind_throw _).bind parsed w w' twins
    · exact (blind_throw _).bind parsed w w' twins

/-- The octets at the path that a configuration leads to are the same in two worlds. -/
def SameInput (cfg : Setting) (w w' : World) : Prop :=
  ∀ path, (outcome (inputPath cfg) w).1 = .ok path →
    w'.disk.read w'.host.cwd path = w.disk.read w.host.cwd path

theorem inStep_work {cfg : Setting} (twins : w.Twins w') (same : SameInput cfg w w') :
    InStep (work cfg) w w' := by
  unfold work
  refine (blind_inputPath cfg w w' twins).bind fun path trace here there => ?_
  -- finding the input has changed neither tree
  have quiet := (quiet_inputPath cfg).alike w
  have quiet' := (quiet_inputPath cfg).alike w'
  rw [here] at quiet
  rw [there] at quiet'
  have read : (w'.after trace).disk.read (w'.after trace).host.cwd path =
      (w.after trace).disk.read (w.after trace).host.cwd path := by
    rw [quiet'.disk, quiet'.host, quiet.disk, quiet.host]
    exact same path (congrArg Prod.fst here)
  apply InStep.reporting
  refine (inStep_load cfg (twins.after trace) read).bind fun apps more _ _ => ?_
  exact Blind.map _ (blind_summarize apps cfg) _ _ ((twins.after trace).after more)

/-- The configuration that arguments name, before they say anything over it. -/
def named : Option FilePath → Action Setting
  | none => pure standard
  | some path => loadConfig path

theorem settle_eq (args : Arguments) :
    settle args = named args.config >>= fun cfg => ofExcept .value (args.override cfg) := by
  unfold settle
  cases args.config <;> rfl

/-- What is named as the configuration is the same in two worlds, but for messages. -/
inductive SameSettings (config : Option FilePath) (w w' : World) : Prop where
  | same : (∀ path, config = some path →
      w'.disk.read w'.host.cwd path = w.disk.read w.host.cwd path) → SameSettings config w w'
  | butLogging {path : FilePath} {octets octets' : List UInt8} {v v' : Setting} :
      config = some path → w.disk.read w.host.cwd path = .ok octets →
      w'.disk.read w'.host.cwd path = .ok octets' → Yaml.readOctets octets = .ok v →
      Yaml.readOctets octets' = .ok v' → SameButLogging v v' → SameSettings config w w'

theorem SameSettings.refl (config : Option FilePath) (w : World) : SameSettings config w w :=
  .same fun _ _ => rfl

theorem outcome_loadConfig_of_unread {path : FilePath} {octets : List UInt8} {fault : YamlFault}
    (h : w.disk.read w.host.cwd path = .ok octets) (unread : Yaml.readOctets octets = .error fault) :
    outcome (loadConfig path) w = (.error (.yaml fault), w) := by
  unfold loadConfig readFile
  rw [outcome_bind_of_ok (outcome_query _ w), h]
  dsimp only
  rw [unread]
  rfl

/-- The same failure in two worlds, or results that are alike; nothing happens in either of them. -/
def Agree (alike : α → α → Prop) (x x' : Action α) (w w' : World) : Prop :=
  (∃ failure, outcome x w = (.error failure, w) ∧ outcome x' w' = (.error failure, w')) ∨
    ∃ a a', outcome x w = (.ok a, w) ∧ outcome x' w' = (.ok a', w') ∧ alike a a'

theorem agree_loadConfig {path : FilePath} {octets octets' : List UInt8} {v v' : Setting}
    (content : w.disk.read w.host.cwd path = .ok octets)
    (content' : w'.disk.read w'.host.cwd path = .ok octets') (parsed : Yaml.readOctets octets = .ok v)
    (parsed' : Yaml.readOctets octets' = .ok v')
    (h : (∃ fault, ofValue v = .error fault ∧ ofValue v' = .error fault) ∨
      ∃ cfg cfg', ofValue v = .ok cfg ∧ ofValue v' = .ok cfg' ∧ Alike cfg cfg') :
    Agree Alike (loadConfig path) (loadConfig path) w w' := by
  have loaded := outcome_loadConfig_of_read content parsed
  have loaded' := outcome_loadConfig_of_read content' parsed'
  rcases h with ⟨fault, rejected, rejected'⟩ | ⟨cfg, cfg', accepted, accepted', alike⟩
  · rw [rejected] at loaded
    rw [rejected'] at loaded'
    exact .inl ⟨_, loaded, loaded'⟩
  · rw [accepted] at loaded
    rw [accepted'] at loaded'
    exact .inr ⟨cfg, cfg', loaded, loaded', alike⟩

theorem agree_named {config : Option FilePath} (h : SameSettings config w w') :
    Agree Alike (named config) (named config) w w' := by
  cases h with
  | butLogging given content content' parsed parsed' aside =>
    subst given
    exact agree_loadConfig content content' parsed parsed' (ofValue_alike aside)
  | same reads =>
    cases config with
    | none =>
      have accepted : ofValue standard = .ok standard := by rfl
      exact .inr ⟨standard, standard, rfl, rfl, .refl accepted⟩
    | some path =>
      have reads := reads path rfl
      cases content : w.disk.read w.host.cwd path with
      | error fault =>
        rw [content] at reads
        exact .inl ⟨_, outcome_loadConfig_of_refused content, outcome_loadConfig_of_refused reads⟩
      | ok octets =>
        rw [content] at reads
        cases parsed : Yaml.readOctets octets with
        | error fault =>
          exact .inl ⟨_, outcome_loadConfig_of_unread content parsed,
            outcome_loadConfig_of_unread reads parsed⟩
        | ok v =>
          refine agree_loadConfig content reads parsed parsed ?_
          cases accepted : ofValue v with
          | error fault => exact .inl ⟨fault, rfl, rfl⟩
          | ok cfg => exact .inr ⟨cfg, cfg, rfl, rfl, .refl accepted⟩

/-- Two settled configurations stand for the same work. -/
def SameWork (cfg cfg' : Setting) : Prop := work cfg' = work cfg

theorem agree_settle {args args' : Arguments} (same : args'.loud = args.loud)
    (h : SameSettings args.config w w') : Agree SameWork (settle args) (settle args') w w' := by
  have config : args'.config = args.config := Arguments.config_of_loud same
  rw [settle_eq, settle_eq, config]
  rcases agree_named h with ⟨failure, here, there⟩ | ⟨cfg, cfg', here, there, alike⟩
  · exact .inl ⟨failure, outcome_bind_of_error here, outcome_bind_of_error there⟩
  · obtain ⟨s, s', put, put', settled, settled', sections⟩ := override_alike same alike
    refine .inr ⟨s, s', ?_, ?_, work_congr settled settled' sections⟩
    · rw [outcome_bind_of_ok here, outcome_ofExcept, put]
      rfl
    · rw [outcome_bind_of_ok there, outcome_ofExcept, put']
      rfl

end Action

namespace Run

/-- Two command lines, each in its world, go the same way: the runs end alike, with the same text on
standard output, and by the same events. -/
structure SameCourse (argv argv' : List String) (w w' : World) : Prop where
  ending : (ofCommandLine argv' w').ending = (ofCommandLine argv w).ending
  output : (ofCommandLine argv' w').output = (ofCommandLine argv w).output
  events : ∃ trace, (ofCommandLine argv w).world = w.after trace ∧
    (ofCommandLine argv' w').world = w'.after trace

variable {argv argv' : List String} {w w' : World}

theorem sameCourse_of_inStep {x x' : Action Nat} {verbose verbose' : Bool} (twins : w.Twins w')
    (run : ofCommandLine argv w = ⟨endingOf (outcome x w).1, verbose, (outcome x w).2⟩)
    (run' : ofCommandLine argv' w' = ⟨endingOf (outcome x' w').1, verbose', (outcome x' w').2⟩)
    (same : x' = x) (h : InStep x w w') : SameCourse argv argv' w w' := by
  subst same
  obtain ⟨result, trace, here, there⟩ := h
  rw [here] at run
  rw [there] at run'
  have printed : w'.printed = w.printed := by
    simp only [World.printed, World.events, twins.past]
  constructor
  · rw [run, run']
  · rw [run, run', output_eq (endingOf_ne_refused result), output_eq (endingOf_ne_refused result)]
    simp only [World.printed_after, printed]
  · exact ⟨trace, by rw [run], by rw [run']⟩

theorem sameCourse_of_refused {refusal : Refusal} (parsed : Arguments.parse argv = .error refusal)
    (parsed' : Arguments.parse argv' = .error refusal) : SameCourse argv argv' w w' := by
  have run : ofCommandLine argv w = ⟨.refused refusal, false, w⟩ := by
    rw [ofCommandLine, parsed]
  have run' : ofCommandLine argv' w' = ⟨.refused refusal, false, w'⟩ := by
    rw [ofCommandLine, parsed']
  constructor
  · rw [run, run']
  · rw [run, run']
    rfl
  · exact ⟨[], by rw [run, World.after_nil], by rw [run', World.after_nil]⟩

/-- Arguments that differ in the option for messages, over configurations that differ in their section
about messages, lead to runs that go the same way. -/
theorem sameCourse_of_arguments {args args' : Arguments} (parsed : Arguments.parse argv = .ok args)
    (parsed' : Arguments.parse argv' = .ok args') (same : args'.loud = args.loud)
    (twins : w.Twins w') (settings : SameSettings args.config w w')
    (input : ∀ cfg, (outcome (settle args) w).1 = .ok cfg → SameInput cfg w w') :
    SameCourse argv argv' w w' := by
  rcases agree_settle same settings with
    ⟨failure, here, there⟩ | ⟨cfg, cfg', here, there, working⟩
  · have config : args'.config = args.config := Arguments.config_of_loud same
    refine sameCourse_of_inStep twins (ofCommandLine_of_lost parsed here)
      (ofCommandLine_of_lost parsed' there) (by rw [config]) ?_
    exact InStep.reporting _ (blind_throw failure w w' twins)
  · exact sameCourse_of_inStep twins (ofCommandLine_of_settled parsed here)
      (ofCommandLine_of_settled parsed' there) working
      (inStep_work twins (input cfg (congrArg Prod.fst here)))

/-- Command lines that say the same but for messages. -/
def SameButVerbose (argv argv' : List String) : Prop :=
  (Arguments.parse argv').map Arguments.loud = (Arguments.parse argv).map Arguments.loud

theorem sameCourse_of_sameButVerbose (same : SameButVerbose argv argv') (twins : w.Twins w')
    (h : ∀ args, Arguments.parse argv = .ok args → SameSettings args.config w w' ∧
      ∀ cfg, (outcome (settle args) w).1 = .ok cfg → SameInput cfg w w') :
    SameCourse argv argv' w w' := by
  unfold SameButVerbose at same
  cases parsed : Arguments.parse argv with
  | error refusal =>
    cases parsed' : Arguments.parse argv' with
    | error refusal' =>
      rw [parsed, parsed'] at same
      cases same
      exact sameCourse_of_refused parsed parsed'
    | ok args' =>
      rw [parsed, parsed'] at same
      cases same
  | ok args =>
    cases parsed' : Arguments.parse argv' with
    | error refusal' =>
      rw [parsed, parsed'] at same
      cases same
    | ok args' =>
      rw [parsed, parsed'] at same
      obtain ⟨settings, input⟩ := h args parsed
      exact sameCourse_of_arguments parsed parsed' (Except.ok.inj same) twins settings input

theorem sameButVerbose_insert {front back : List String} {word spelling : String}
    (h : Open front back) (hw : classify word = .ok (.flag .verbose spelling none)) :
    SameButVerbose (front ++ back) (front ++ word :: back) := by
  rw [SameButVerbose, parse_insert h hw]
  cases Arguments.parse (front ++ back) <;> rfl

/-- Asking for messages changes neither how a run ends nor what it prints nor what it does to files. The
option may be put in front of all other words, or in between words that leave room for it. The
configuration may say anything about messages, as long as it is no other one in what it says else. -/
theorem verbosity_only_logs :
    (∀ (argv : List String) (w : World), SameCourse argv ("-v" :: argv) w w) ∧
      (∀ (front back : List String) (word spelling : String) (w : World), Open front back →
        classify word = .ok (.flag .verbose spelling none) →
        SameCourse (front ++ back) (front ++ word :: back) w w) ∧
      ∀ (argv argv' : List String) (w w' : World), SameButVerbose argv argv' → w.Twins w' →
        (∀ args, Arguments.parse argv = .ok args → SameSettings args.config w w' ∧
          ∀ cfg, (outcome (settle args) w).1 = .ok cfg → SameInput cfg w w') →
        SameCourse argv argv' w w' := by
  have inserted {front back : List String} {word spelling : String} (w : World)
      (h : Open front back) (hw : classify word = .ok (.flag .verbose spelling none)) :
      SameCourse (front ++ back) (front ++ word :: back) w w :=
    sameCourse_of_sameButVerbose (sameButVerbose_insert h hw) (.refl w)
      fun args _ => ⟨.refl args.config w, fun _ _ _ _ => rfl⟩
  have short : classify "-v" = .ok (.flag .verbose "-v" none) := by rfl
  refine ⟨fun argv w => inserted w (open_nil argv) short, ?_, ?_⟩
  · exact fun front back word spelling w h hw => inserted w h hw
  · exact fun argv argv' w w' same twins h => sameCourse_of_sameButVerbose same twins h

section Asked

/-- An empty statistics file, and the octets of a configuration. -/
def configured (octets : List UInt8) : World :=
  ⟨⟨[], "", []⟩, ⟨[(["c"], .file octets), (["a"], .file [])]⟩, []⟩

/-- A configuration that says nothing but that messages are asked for. -/
def loudOctets : List UInt8 := Text.Utf8.encode "logging: \x7bverbose: true\x7d\n".toList

def loudValue : Setting :=
  .map [(.text "logging", .map [(.text "verbose", .scalar (.bool true))])]

/-- Whether a configuration text has been read as that value. -/
def isLoud : Except YamlFault Setting → Bool
  | .ok (.map [(.text "logging", .map [(.text "verbose", .scalar (.bool true))])]) => true
  | _ => false

/-- Whether a configuration text has been read as one that says nothing. -/
def isSilent : Except YamlFault Setting → Bool
  | .ok (.scalar .null) => true
  | _ => false

theorem eq_of_isLoud {r : Except YamlFault Setting} (h : isLoud r = true) : r = .ok loudValue := by
  unfold isLoud at h
  split at h
  · rfl
  · cases h

theorem eq_of_isSilent {r : Except YamlFault Setting} (h : isSilent r = true) :
    r = .ok (.scalar .null) := by
  unfold isSilent at h
  split at h
  · rfl
  · cases h

theorem read_loud : Yaml.readOctets loudOctets = .ok loudValue :=
  eq_of_isLoud (by decide +kernel)

theorem read_silent : Yaml.readOctets [] = .ok (.scalar .null) :=
  eq_of_isSilent (by decide +kernel)

theorem content_configured (octets : List UInt8) :
    (configured octets).disk.read (configured octets).host.cwd (.ofPlace ["c"]) = .ok octets := by
  cbv

theorem sameSettings_configured :
    SameSettings (some (.ofPlace ["c"])) (configured []) (configured loudOctets) := by
  refine .butLogging rfl (content_configured []) (content_configured loudOctets) read_silent read_loud ?_
  obtain ⟨v', put, same⟩ := exists_withVerbose (v := .scalar .null) rfl rfl (.scalar (.bool true))
  cases put
  exact same

def configuredArguments : Arguments := { input := some "/a", config := some (.ofPlace ["c"]) }

/-- What the arguments make of a configuration that says nothing. -/
def silentConfig : Setting :=
  .map
    [(.text "input", .map [entry "path" (.text "/a")]), (.text "parsing", .empty),
     (.text "checkpoints", .empty), (.text "output", .empty), (.text "logging", .empty)]

theorem settle_configured :
    outcome (settle configuredArguments) (configured []) = (.ok silentConfig, configured []) :=
  (outcome_bind_of_ok (outcome_loadConfig_of_read (content_configured []) read_silent)).trans rfl

theorem sameInput_configured : SameInput silentConfig (configured []) (configured loudOctets) := by
  have found : (outcome (inputPath silentConfig) (configured [])).1 = .ok (.ofPlace ["a"]) := by cbv
  intro path named
  rw [found] at named
  cases named
  cbv

/-- Messages may be asked for behind the input, or in the configuration. -/
theorem same_course_when_asked :
    SameCourse ["/a"] ["/a", "-v"] (configured []) (configured []) ∧
      SameCourse ["--config", "/c", "/a"] ["--config", "/c", "/a"] (configured [])
        (configured loudOctets) := by
  have stands : Open ["/a"] [] := by
    refine ⟨by decide, ?_⟩
    rintro words p ⟨⟩ ⟨⟩
    exact ⟨rfl, nofun⟩
  refine ⟨verbosity_only_logs.2.1 ["/a"] [] "-v" "-v" _ stands rfl, ?_⟩
  refine verbosity_only_logs.2.2 _ _ _ _ rfl ⟨rfl, rfl, rfl⟩ ?_
  have parsed : Arguments.parse ["--config", "/c", "/a"] = .ok configuredArguments := by rfl
  intro args named
  rw [parsed] at named
  cases named
  refine ⟨sameSettings_configured, ?_⟩
  intro cfg settled
  rw [settle_configured] at settled
  cases settled
  exact sameInput_configured

end Asked

end Run

end PeakSlowness
