import ProxyHandshake.Fetch
import ProxyHandshake.Proofs.Utf8

/-!
# Sources of the password

A password on the command line goes before one in the environment, and that before one in a file.  One in
the environment keeps the file from being read.  One on the command line does not: the command line is
followed last, so by then the file has been read, and if it could not be, the command has failed.
-/

namespace ProxyHandshake

namespace Configuration

/-! ## Loading -/

/-- What the configuration file says, before the password is looked for. -/
def said (files : FileSystem) (path : Bytes) (explicit : Bool) :
    Except ConfigurationError Configuration :=
  if !explicit && !files.hasPath path then .ok default
  else
    match files.readText path with
    | .error cause => .error (.io cause)
    | .ok document =>
      match ofDocument? document with
      | none => .error .unreadable
      | some configuration => .ok configuration

theorem loadOrDefault_eq
    (files : FileSystem) (environment : Environment) (path : Bytes) (explicit : Bool) :
    loadOrDefault files environment path explicit =
      match said files path explicit with
      | .error cause => .error cause
      | .ok configuration => configuration.withPassword files environment := by
  unfold loadOrDefault said load
  split
  · rfl
  · cases files.readText path with
    | error cause => rfl
    | ok document =>
        simp only
        cases ofDocument? document <;> rfl

/-- Why the password cannot be looked for: the environment holds none, and the file that is named for it
cannot be read. -/
def passwordFailure? (configuration : Configuration) (files : FileSystem)
    (environment : Environment) : Option ConfigurationCause :=
  match environment.text? passwordVariable, configuration.passwordFile with
  | none, some path =>
    match files.readText path with
    | .error cause => some (.unreadablePassword path cause)
    | .ok _ => none
  | _, _ => none

def holding (configuration : Configuration) (password : Option Secret) : Configuration :=
  { configuration with password := password }

theorem holding_password (configuration : Configuration) :
    configuration.holding configuration.password = configuration := rfl

/-- Looking for the password changes nothing but the password. -/
theorem withPassword_cases
    (configuration : Configuration) (files : FileSystem) (environment : Environment) :
    (∃ cause, configuration.passwordFailure? files environment = some cause ∧
      configuration.withPassword files environment = .error (.invalid cause)) ∨
    (configuration.passwordFailure? files environment = none ∧
      ∃ password, configuration.withPassword files environment =
        .ok (configuration.holding password)) := by
  unfold passwordFailure? withPassword
  cases henvironment : environment.text? passwordVariable with
  | some password => exact .inr ⟨rfl, some ⟨password⟩, rfl⟩
  | none =>
      cases hfile : configuration.passwordFile with
      | none => exact .inr ⟨rfl, configuration.password, rfl⟩
      | some path =>
          cases hread : files.readText path with
          | error cause =>
              left
              exact ⟨.unreadablePassword path cause, by simp [hread], by simp [passwordIn, hread]⟩
          | ok text =>
              right
              refine ⟨by simp [hread], ?_⟩
              cases hblank : Text.isBlankText text with
              | true =>
                  exact ⟨configuration.password,
                    by simp [passwordIn, hread, hblank, holding_password]⟩
              | false =>
                  exact ⟨some ⟨Text.trim text⟩,
                    by simp [passwordIn, hread, hblank, holding, hfile]⟩

/-- A password in the environment goes before every file. -/
theorem withPassword_of_text
    {environment : Environment} {password : String}
    (htext : environment.text? passwordVariable = some password)
    (configuration : Configuration) (files : FileSystem) :
    configuration.withPassword files environment =
      .ok (configuration.holding (some ⟨password⟩)) := by
  rw [withPassword, htext]
  rfl

/-- A password on the command line hides every other. -/
theorem override_holding
    {overrides : Overrides} (hgiven : overrides.password.isSome = true)
    (configuration : Configuration) (password : Option Secret) :
    (configuration.holding password).override overrides = configuration.override overrides := by
  obtain ⟨text, htext⟩ := Option.isSome_iff_exists.mp hgiven
  simp [override, holding, htext]

end Configuration

namespace Fetch

open CommandLine

/-! ## The command -/

/-- The path of the configuration file that a command line asks for, and whether it does. -/
def World.configurationPath (world : World) (arguments : Arguments) : Bytes × Bool :=
  Configuration.resolvePath arguments.configPath world.environment

def World.said (world : World) (arguments : Arguments) :
    Except ConfigurationError Configuration :=
  Configuration.said world.files (world.configurationPath arguments).1
    (world.configurationPath arguments).2

def World.passwordFailure? (world : World) (arguments : Arguments) : Option ConfigurationCause :=
  (world.said arguments).toOption.bind fun configuration =>
    configuration.passwordFailure? world.files world.environment

/-- What comes of a loaded configuration behind the command line. -/
def overridden (overrides : Overrides) (configuration : Configuration) :
    Except Report Configuration :=
  let configuration := configuration.override overrides
  match configuration.validate with
  | .error cause => .error (.of (.configuration (.invalid cause)))
  | .ok () => .ok configuration

/-- The report of a configuration file at `path` that cannot be loaded. -/
def loadReport (path : Bytes) (cause : ConfigurationError) : Report :=
  (Report.of (.configuration cause)).within
    ("failed to load config from " ++ Utf8.decodeLossy path)

theorem loadConfiguration_eq (world : World) (arguments : Arguments) :
    loadConfiguration world arguments =
      match world.said arguments with
      | .error cause => .error (loadReport (world.configurationPath arguments).1 cause)
      | .ok configuration =>
        match configuration.withPassword world.files world.environment with
        | .error cause => .error (loadReport (world.configurationPath arguments).1 cause)
        | .ok configuration => overridden arguments.overrides configuration := by
  have hload :
      loadConfiguration world arguments =
        match Configuration.loadOrDefault world.files world.environment
            (world.configurationPath arguments).1 (world.configurationPath arguments).2 with
        | .error cause => .error (loadReport (world.configurationPath arguments).1 cause)
        | .ok configuration => overridden arguments.overrides configuration := rfl
  rw [hload, Configuration.loadOrDefault_eq]
  unfold World.said
  cases Configuration.said world.files (world.configurationPath arguments).1
    (world.configurationPath arguments).2 <;> rfl

theorem overridden_ne_loadReport
    (overrides : Overrides) (configuration : Configuration) (path : Bytes)
    (cause : ConfigurationError) :
    overridden overrides configuration ≠ .error (loadReport path cause) := by
  intro hequal
  unfold overridden at hequal
  simp only at hequal
  split at hequal
  · -- A failed check is reported without saying what the command was about.
    have hcontext := congrArg Report.context (Except.error.inj hequal)
    cases hcontext
  · cases hequal

theorem loadReport_inj {path : Bytes} {cause other : ConfigurationCause} :
    loadReport path (.invalid cause) = loadReport path (.invalid other) ↔ cause = other := by
  simp [loadReport, Report.of, Report.within]

/-- What comes of a configuration whose password is on the command line, by what came of the search for
another. -/
def ofFailure? (path : Bytes) (overrides : Overrides) (configuration : Configuration) :
    Option ConfigurationCause → Except Report Configuration
  | some cause => .error (loadReport path (.invalid cause))
  | none => overridden overrides configuration

theorem ofFailure?_inj
    (path : Bytes) (overrides : Overrides) (configuration : Configuration)
    {failure other : Option ConfigurationCause} :
    ofFailure? path overrides configuration failure = ofFailure? path overrides configuration other ↔
      failure = other := by
  constructor
  · intro hequal
    cases failure with
    | none =>
        cases other with
        | none => rfl
        | some cause => exact absurd hequal (overridden_ne_loadReport _ _ _ _)
    | some cause =>
        cases other with
        | none => exact absurd hequal.symm (overridden_ne_loadReport _ _ _ _)
        | some opposed =>
            have hcause := loadReport_inj.mp (Except.error.inj hequal)
            rw [hcause]
  · intro hequal
    rw [hequal]

/-- With a password on the command line, the command goes on with what the file says, unless the password
cannot be looked for. -/
theorem loadConfiguration_of_password
    {world : World} {arguments : Arguments} {configuration : Configuration}
    (hgiven : arguments.overrides.password.isSome = true)
    (hsaid : world.said arguments = .ok configuration) :
    loadConfiguration world arguments =
      ofFailure? (world.configurationPath arguments).1 arguments.overrides configuration
        (world.passwordFailure? arguments) := by
  have hfailure :
      world.passwordFailure? arguments =
        configuration.passwordFailure? world.files world.environment := by
    rw [World.passwordFailure?, hsaid]
    rfl
  rw [loadConfiguration_eq, hsaid, hfailure]
  simp only
  rcases configuration.withPassword_cases world.files world.environment with
    ⟨cause, hcause, hload⟩ | ⟨hnone, password, hload⟩
  · rw [hload, hcause]
    rfl
  · rw [hload, hnone]
    simp only [ofFailure?, overridden, Configuration.override_holding hgiven]

/-! ## Two worlds -/

/-- Two worlds that differ in the passwords alone: in the variable for the password, and in files other
than the configuration file. -/
structure World.SameButPassword (world other : World) (arguments : Arguments) : Prop where
  environment :
    ∀ name, name ≠ Configuration.passwordVariable →
      world.environment.get? name = other.environment.get? name
  found :
    world.files.hasPath (world.configurationPath arguments).1 =
      other.files.hasPath (world.configurationPath arguments).1
  document :
    world.files.readText (world.configurationPath arguments).1 =
      other.files.readText (world.configurationPath arguments).1

section

variable {world other : World} {arguments : Arguments}

theorem World.SameButPassword.configurationPath_eq
    (hsame : world.SameButPassword other arguments) :
    world.configurationPath arguments = other.configurationPath arguments := by
  have hpath :
      world.environment.text? Configuration.pathVariable =
        other.environment.text? Configuration.pathVariable := by
    rw [Environment.text?, Environment.text?, hsame.environment _ (by decide)]
  unfold World.configurationPath Configuration.resolvePath
  rw [hpath]

theorem World.SameButPassword.said_eq (hsame : world.SameButPassword other arguments) :
    world.said arguments = other.said arguments := by
  unfold World.said Configuration.said
  rw [← hsame.configurationPath_eq, hsame.found, hsame.document]

theorem loadConfiguration_of_text
    {world : World} {arguments : Arguments} {password : String}
    (htext : world.environment.text? Configuration.passwordVariable = some password) :
    loadConfiguration world arguments =
      match world.said arguments with
      | .error cause => .error (loadReport (world.configurationPath arguments).1 cause)
      | .ok configuration =>
        overridden arguments.overrides (configuration.holding (some ⟨password⟩)) := by
  rw [loadConfiguration_eq]
  simp only [Configuration.withPassword_of_text htext]

/-- With a password on the command line, two worlds that differ in the other passwords are told apart by
whether the password of the file can be looked for, and by nothing else.  With a password in the
environment, they are not told apart. -/
theorem loadConfiguration_agree_iff (hsame : world.SameButPassword other arguments) :
    (arguments.overrides.password.isSome = true →
      (loadConfiguration world arguments = loadConfiguration other arguments ↔
        world.passwordFailure? arguments = other.passwordFailure? arguments)) ∧
    ((world.environment.text? Configuration.passwordVariable).isSome = true →
      world.environment = other.environment →
      loadConfiguration world arguments = loadConfiguration other arguments) := by
  have hpath := hsame.configurationPath_eq
  have hsaid := hsame.said_eq
  constructor
  · intro hgiven
    cases hworld : world.said arguments with
    | error cause =>
        rw [hworld] at hsaid
        have hequal : loadConfiguration world arguments = loadConfiguration other arguments := by
          rw [loadConfiguration_eq, loadConfiguration_eq, hworld, ← hsaid, hpath]
        have hnone : world.passwordFailure? arguments = other.passwordFailure? arguments := by
          rw [World.passwordFailure?, World.passwordFailure?, hworld, ← hsaid]
          rfl
        exact iff_of_true hequal hnone
    | ok configuration =>
        rw [hworld] at hsaid
        rw [loadConfiguration_of_password hgiven hworld,
          loadConfiguration_of_password hgiven hsaid.symm, hpath]
        exact ofFailure?_inj _ _ _
  · intro htext henvironment
    obtain ⟨password, htext⟩ := Option.isSome_iff_exists.mp htext
    have hother : other.environment.text? Configuration.passwordVariable = some password := by
      rw [← henvironment, htext]
    rw [loadConfiguration_of_text htext, loadConfiguration_of_text hother, hpath, hsaid]

end

/-! ### A password file that is not there -/

/-- A configuration file that names a file for the password. -/
def namingDocument : String := "[proxy]\npassword_file = \"secret\"\n"

/-- A world with this configuration file, other files beside it, and an environment. -/
def namingWorld (others : List (Bytes × FileNode)) (entries : List (String × Bytes)) : World where
  files :=
    { root :=
        .directory ((Configuration.defaultPath, .file (Utf8.encode namingDocument)) :: others)
      workingDirectory := [] }
  environment := ⟨entries⟩

def passwordArguments : Arguments where
  target := "http://[::1]/"
  configPath := none
  overrides :=
    { url := some "http://[::1]:3128/", username := some "alice", domain := none,
      password := some "pw", keytab := none, ticketCache := none, isStrict := false,
      timeoutSeconds := none, service := none }
  method := none
  headers := []
  data := none
  showsHeaders := false

variable (others : List (Bytes × FileNode)) (entries : List (String × Bytes))

theorem readText_namingWorld :
    (namingWorld others entries).files.readText Configuration.defaultPath =
      .ok namingDocument := by
  have hread :
      (namingWorld others entries).files.read Configuration.defaultPath =
        .ok (Utf8.encode namingDocument) := by
    rfl
  rw [FileSystem.readText, hread]
  simp only [Utf8.decode?_encode]

theorem passwordFailure?_namingWorld :
    (namingWorld others []).passwordFailure? passwordArguments =
      match (namingWorld others []).files.readText (Utf8.encode "secret") with
      | .error cause => some (.unreadablePassword (Utf8.encode "secret") cause)
      | .ok _ => none := by
  have hpath :
      (namingWorld others []).configurationPath passwordArguments =
        (Configuration.defaultPath, false) := by
    rfl
  have hfound : (namingWorld others []).files.hasPath Configuration.defaultPath = true := by rfl
  rw [World.passwordFailure?, World.said, hpath, Configuration.said, hfound,
    readText_namingWorld]
  rfl

theorem loadConfiguration_agree_iff_missing :
    let present := [(Utf8.encode "secret", FileNode.file (Utf8.encode "hidden"))]
    let entries := [(Configuration.passwordVariable, Utf8.encode "known")]
    loadConfiguration (namingWorld present []) passwordArguments ≠
        loadConfiguration (namingWorld [] []) passwordArguments ∧
      loadConfiguration (namingWorld present entries) passwordArguments =
        loadConfiguration (namingWorld [] entries) passwordArguments := by
  intro present entries
  have hsame (entries : List (String × Bytes))
      (hunset : entries.lookup Configuration.pathVariable = none) :
      (namingWorld present entries).SameButPassword (namingWorld [] entries)
        passwordArguments := by
    have hvariable :
        (namingWorld present entries).environment.get? Configuration.pathVariable = none := hunset
    have hpath :
        ((namingWorld present entries).configurationPath passwordArguments).1 =
          Configuration.defaultPath := by
      unfold World.configurationPath Configuration.resolvePath
      rw [Environment.text?, hvariable]
      rfl
    constructor
    · intro name _
      rfl
    · rw [hpath]
      rfl
    · rw [hpath, readText_namingWorld, readText_namingWorld]
  constructor
  · intro hequal
    have hfailure := ((loadConfiguration_agree_iff (hsame [] rfl)).1 rfl).mp hequal
    have hread :
        (namingWorld present []).files.readText (Utf8.encode "secret") = .ok "hidden" := by
      have hcontent :
          (namingWorld present []).files.read (Utf8.encode "secret") =
            .ok (Utf8.encode "hidden") := by
        rfl
      rw [FileSystem.readText, hcontent]
      simp only [Utf8.decode?_encode]
    rw [passwordFailure?_namingWorld, passwordFailure?_namingWorld, hread] at hfailure
    cases hfailure
  · have htext :
        (namingWorld present entries).environment.text? Configuration.passwordVariable =
          some "known" :=
      Utf8.decode?_encode "known"
    exact (loadConfiguration_agree_iff (hsame entries rfl)).2 (by rw [htext]; rfl) rfl

end Fetch

end ProxyHandshake
