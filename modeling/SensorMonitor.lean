import SensorMonitor.Fleet
import SensorMonitor.Event.Codec
import SensorMonitor.EventFeed
import SensorMonitor.LinePool
import SensorMonitor.Main
import SensorMonitor.Proofs.Sensor.Flips
import SensorMonitor.Proofs.Sensor.Coherence
import SensorMonitor.Proofs.Roster.Reload
import SensorMonitor.Proofs.Poll.Halting
import SensorMonitor.Proofs.Poll.Gating
import SensorMonitor.Proofs.Roster.Progress
import SensorMonitor.Proofs.Roster.Bookkeeping
import SensorMonitor.Proofs.Sensor.Readings
import SensorMonitor.Proofs.Sensor.Override
import SensorMonitor.Proofs.Sensor.Escalation
import SensorMonitor.Proofs.Directory.Watching
import SensorMonitor.Proofs.Roster.Triggers
import SensorMonitor.Proofs.EditStore.Reopening
import SensorMonitor.Proofs.Event.Text
import SensorMonitor.Proofs.Record.Text
import SensorMonitor.Proofs.ExternalSensor.Expiry
import SensorMonitor.Proofs.ExternalSensor.Recovery
import SensorMonitor.Proofs.LinePool.Leasing
import SensorMonitor.Proofs.Sensor.Refusals
import SensorMonitor.Proofs.Thresholds.Latching
import SensorMonitor.Proofs.Sensor.Suppression
import SensorMonitor.Proofs.Sensor.Filtering
import SensorMonitor.Proofs.Thresholds.Defining
import SensorMonitor.Proofs.Thresholds.Nesting
import SensorMonitor.Proofs.Sensor.Replacement
import SensorMonitor.Proofs.Sensor.Refreshing
import SensorMonitor.Proofs.Sensor.Pinning
import SensorMonitor.Proofs.Sensor.Range
import SensorMonitor.Proofs.Number.Overflow
import SensorMonitor.Proofs.Sensor.Bands
import SensorMonitor.Proofs.Hwmon.Reading
import SensorMonitor.Proofs.Files.Resolving
import SensorMonitor.Proofs.Hwmon.Confinement
import SensorMonitor.Proofs.Hwmon.Naming
import SensorMonitor.Proofs.Sensor.Statistics
import SensorMonitor.Proofs.TriggerEdits.LastWriter
import SensorMonitor.Proofs.CommandLine
import SensorMonitor.Proofs.Directory.Showing
