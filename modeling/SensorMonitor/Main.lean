/-
# Main -- the program

Answers a call for help or for the version, and arguments that make no sense.
Otherwise it loads the edits and the configuration, makes the sensors, and lets them
live: before each moment at which something is due, the attribute files are fetched from
the machine.  Edits that cannot be loaded are done without; a configuration that cannot
be loaded ends the program.
-/
import SensorMonitor.CommandLine
import SensorMonitor.Roster

namespace SensorMonitor

set_option autoImplicit false

/-- Fetches a file from the machine; one that cannot be read is not there. -/
def fetch (files : Files) (path : String) : IO Files := do
  let found ← (some <$> IO.FS.readBinFile path) <|> pure none
  let path := Files.Path.ofText path
  let (files, _) := files.makeDirectories path.parent
  match found with
  | some bytes => return (files.write path bytes).toOption.getD files
  | none => return (files.remove path).1

/-- The surroundings that the options describe. -/
def Site.ofOptions (options : CommandLine.Options) (files : Files) : Site :=
  { Site.fresh with
    conditions := ⟨⟨options.powerOn, options.postComplete⟩, ⟨options.manufacturing, false⟩⟩
    files := files
    store := (EditStore.openAt files options.thresholds).toOption }

/-- The file that a live sensor is read from. -/
def LiveSensor.path? : LiveSensor → Option String
  | .polled poller => some poller.source.path
  | _ => none

/-- The log without the changes; the paths in use are still known. -/
def Bus.settled (bus : Bus) : Bus :=
  ⟨bus.log.filter fun
    | .changed _ _ => false
    | _ => true⟩

/-- The milliseconds until something is due, or to the next look where nothing is. -/
def Roster.pause (r : Roster) : Nat := (r.next?.getD (r.now + FreshnessWatch.usualPeriod)) - r.now

/-- Lets the sensors live, from one moment at which something is due to the next. -/
partial def live (r : Roster) : IO Unit := do
  let pause := r.pause
  IO.sleep pause.toUInt32
  let files ← (r.live.values.filterMap fun entry => entry.live.path?).foldlM fetch r.site.files
  let r := { r with site := { r.site with files := files } }.run pause
  live { r with site := { r.site with bus := r.site.bus.settled } }

/-- Starts the monitor. -/
def start (options : CommandLine.Options) : IO UInt32 := do
  let files ← [options.thresholds, options.config].foldlM fetch .empty
  match Configuration.load files options.config with
  | .error failure =>
      IO.eprintln s!"Error: loading sensor configuration {options.config}: {failure.message}"
      return 1
  | .ok configuration =>
      live ((Roster.ofSite (Site.ofOptions options files)).apply configuration).1
      return 0

end SensorMonitor

open SensorMonitor in
def main (arguments : List String) : IO UInt32 := do
  match CommandLine.outcome arguments with
  | .run options => start options
  | .exit output error code =>
      IO.print output
      IO.eprint error
      return code
