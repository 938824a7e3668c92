import WifiScan.Main
import WifiScan.Clock
import WifiScan.Scanner.Trace
import WifiScan.Simulation.Fixtures
import WifiScan.Storage.Disk
import WifiScan.Proofs.Engine.Handlers
import WifiScan.Proofs.Engine.ClassIndependence
import WifiScan.Proofs.Engine.RequestDiscipline
import WifiScan.Proofs.Engine.TimerDiscipline
import WifiScan.Proofs.Scanner.Endings
import WifiScan.Proofs.Simulation.StaleSignals
import WifiScan.Proofs.Scan.Ranking
import WifiScan.Proofs.Engine.LatestResults
import WifiScan.Proofs.Scanner.Timeline
import WifiScan.Proofs.Scanner.Lifetime
import WifiScan.Proofs.Simulation.Timelines
import WifiScan.Proofs.Engine.Admission
import WifiScan.Proofs.Simulation.Observations
import WifiScan.Proofs.Format.RoundTrip
import WifiScan.Proofs.CommandLine.ScanRun
import WifiScan.Proofs.Scan.ReportOrder
import WifiScan.Proofs.Engine.CompletionViews
import WifiScan.Proofs.Engine.Unaddressed
import WifiScan.Proofs.Channels.Selections
import WifiScan.Proofs.Scanner.TimerRuns
import WifiScan.Proofs.Simulation.RadioSchedule
import WifiScan.Proofs.Simulation.FixtureResults
import WifiScan.Proofs.Channels.Tables
import WifiScan.Proofs.Engine.NamedFrequencies
import WifiScan.Proofs.Format.FilledRecords
