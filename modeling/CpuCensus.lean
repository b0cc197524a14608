import CpuCensus.CommandLine.Arguments
import CpuCensus.CommandLine.EnvFile
import CpuCensus.CommandLine.Failure
import CpuCensus.CommandLine.Help
import CpuCensus.CommandLine.Program
import CpuCensus.Host
import CpuCensus.Host.Cpuinfo
import CpuCensus.Host.FileTree
import CpuCensus.Host.ProcessorTree
import CpuCensus.Host.Sysctl
import CpuCensus.Json.Literal
import CpuCensus.Json.Numeral
import CpuCensus.Json.Skip
import CpuCensus.Json.Token
import CpuCensus.Json.Writer
import CpuCensus.Main
import CpuCensus.Notice
import CpuCensus.Platform
import CpuCensus.Probe.Fault
import CpuCensus.Probe.Sensor
import CpuCensus.Recorder
import CpuCensus.Recording
import CpuCensus.Recording.Event
import CpuCensus.Recording.Ledger
import CpuCensus.Recording.Phase
import CpuCensus.Recording.Queue
import CpuCensus.Recording.Step
import CpuCensus.Sampler
import CpuCensus.Session
import CpuCensus.Settings
import CpuCensus.Settings.Json
import CpuCensus.Simulation
import CpuCensus.Snapshot
import CpuCensus.Text.Alphanumeric
import CpuCensus.Text.Blank
import CpuCensus.Text.Letters
import CpuCensus.Text.Lines
import CpuCensus.Text.Lossy
import CpuCensus.Text.Numeral
import CpuCensus.Text.Quoted
import CpuCensus.Text.Search
import CpuCensus.Text.Visible
import CpuCensus.Time.Date
import CpuCensus.Time.Instant
import CpuCensus.Time.Rfc3339
import CpuCensus.Time.Wait
import CpuCensus.Topology.Counts
import CpuCensus.Topology.Name
import CpuCensus.Proofs.RecordingRuns
import CpuCensus.Proofs.Interleaving
import CpuCensus.Proofs.SamplerTurns
import CpuCensus.Proofs.RecorderRuns
import CpuCensus.Proofs.RecordingCommands
import CpuCensus.Proofs.ProcessorBlocks
import CpuCensus.Proofs.ProcessorCounts
import CpuCensus.Proofs.RecordedViews
import CpuCensus.Proofs.TextReading
import CpuCensus.Proofs.SummarisedTexts
import CpuCensus.Proofs.CpuNames
import CpuCensus.Proofs.HostSnapshots
import CpuCensus.Proofs.ProcessorTrees
import CpuCensus.Proofs.CountedTrees
import CpuCensus.Proofs.TopologySources
import CpuCensus.Proofs.VerifiedEvents
import CpuCensus.Proofs.SteadyTicks
import CpuCensus.Proofs.JsonLiterals
import CpuCensus.Proofs.SettingsJson
import CpuCensus.Proofs.WrittenEvents
import CpuCensus.Proofs.SeparateSessions
import CpuCensus.Proofs.SharedSampling
import CpuCensus.Proofs.HostInputs
import CpuCensus.Proofs.StatedTopologies
import CpuCensus.Proofs.RecordingNotices
import CpuCensus.Proofs.ArrangedArguments
import CpuCensus.Proofs.JsonGrammar
import CpuCensus.Proofs.SettingsMembers
