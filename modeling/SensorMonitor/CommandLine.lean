/-
# CommandLine -- how the monitor is started

Arguments are read from left to right.  An option that takes a path takes whatever
comes next, whether or not it looks like an option; a later option of a kind wins over
an earlier one.  Help and version end the reading, as does the first argument that makes
no sense.
-/

namespace SensorMonitor.CommandLine

set_option autoImplicit false

/-- What the monitor is started with. -/
structure Options where
  config : String
  thresholds : String
  powerOn : Bool
  postComplete : Bool
  manufacturing : Bool
  deriving DecidableEq, Repr

/-- Where the configuration is looked for. -/
def usualConfig : String := "/var/configuration/sensors.json"

/-- Where edits of thresholds are kept. -/
def usualThresholds : String := "/var/lib/sensord/thresholds.json"

/-- What holds where nothing is said. -/
def Options.usual : Options := ⟨usualConfig, usualThresholds, false, false, false⟩

/-- What the arguments ask for. -/
inductive Request where
  | run (options : Options)
  | help
  | version
  deriving DecidableEq, Repr

/-- Why the arguments make no sense. -/
inductive UsageError where
  | missingPath (option : String)
  | unknown (argument : String)
  deriving DecidableEq, Repr

/-- The words for arguments that make no sense. -/
def UsageError.message : UsageError → String
  | .missingPath option => s!"{option} requires a path argument"
  | .unknown argument => s!"unknown argument: {argument}"

/-- What an argument is. -/
inductive Switch where
  | help
  | version
  | config
  | thresholds
  | powerOn
  | postComplete
  | manufacturing
  | unknown
  deriving DecidableEq, Repr

/-- The spellings of the switches. -/
def switchOf : String → Switch
  | "-h" | "--help" => .help
  | "-v" | "--version" => .version
  | "-c" | "--config" => .config
  | "-t" | "--thresholds" => .thresholds
  | "--power-on" => .powerOn
  | "--post-complete" => .postComplete
  | "--manufacturing" => .manufacturing
  | _ => .unknown

/-- Reads arguments on top of what was read before. -/
def readFrom (options : Options) : List String → Except UsageError Request
  | [] => .ok (.run options)
  | argument :: rest =>
      match switchOf argument with
      | .help => .ok .help
      | .version => .ok .version
      | .config =>
          match rest with
          | [] => .error (.missingPath "--config")
          | path :: rest => readFrom { options with config := path } rest
      | .thresholds =>
          match rest with
          | [] => .error (.missingPath "--thresholds")
          | path :: rest => readFrom { options with thresholds := path } rest
      | .powerOn => readFrom { options with powerOn := true } rest
      | .postComplete => readFrom { options with postComplete := true } rest
      | .manufacturing => readFrom { options with manufacturing := true } rest
      | .unknown => .error (.unknown argument)

/-- Reads the arguments behind the name of the program. -/
def read (arguments : List String) : Except UsageError Request := readFrom .usual arguments

/-! ## Texts -/

def version : String := "0.1.0"

/-- The line that tells the version. -/
def versionText : String := s!"sensord {version}\n"

/-- What is told about the use of the program. -/
def helpLines : List String :=
  [s!"sensord {version} - BMC sensor daemon",
    "",
    "USAGE:",
    "    sensord [OPTIONS]",
    "",
    "OPTIONS:",
    s!"    -c, --config PATH       Sensor configuration (default {usualConfig})",
    s!"    -t, --thresholds PATH   Persisted threshold edits (default {usualThresholds})",
    "        --power-on          Start with chassis power reported on",
    "        --post-complete     Start with BIOS POST reported complete",
    "        --manufacturing     Allow value overrides on every sensor",
    "    -v, --version           Print version",
    "    -h, --help              Print this help",
    "",
    "ENVIRONMENT:",
    "    SENSORD_LOG             Log filter (trace, debug, info, warn, error)"]

def helpText : String := String.join (helpLines.map (· ++ "\n"))

/-! ## Outcomes -/

/-- What the program does with its arguments: it runs, or it writes to the standard output and
to the standard error and ends. -/
inductive Outcome where
  | run (options : Options)
  | exit (output error : String) (code : UInt32)
  deriving DecidableEq, Repr

/-- A call for help is no mistake, although its answer goes where mistakes are told. -/
def outcome (arguments : List String) : Outcome :=
  match read arguments with
  | .ok (.run options) => .run options
  | .ok .help => .exit "" helpText 0
  | .ok .version => .exit versionText "" 0
  | .error e => .exit "" s!"Error: {e.message}\n{helpText}" 1

end SensorMonitor.CommandLine
