import OpticalLink.Main
import OpticalLink.Supervisor.Bench
import OpticalLink.Proofs.Message.Language
import OpticalLink.Proofs.Message.Endings
import OpticalLink.Proofs.Message.Corruption
import OpticalLink.Proofs.Message.Verdicts
import OpticalLink.Proofs.Message.Damage
import OpticalLink.Proofs.Message.Kinds
import OpticalLink.Proofs.Message.Building
import OpticalLink.Proofs.Message.Summaries
import OpticalLink.Proofs.Message.Writing
import OpticalLink.Proofs.Frame.Stream
import OpticalLink.Proofs.Frame.Tokens
import OpticalLink.Proofs.Frame.Recovery
import OpticalLink.Proofs.Frame.Buffered
import OpticalLink.Proofs.Frame.Wrapping
import OpticalLink.Proofs.Link.Reading
import OpticalLink.Proofs.Link.Draining
import OpticalLink.Proofs.Link.Writing
import OpticalLink.Proofs.Link.Session
import OpticalLink.Proofs.Link.KeptWriter
import OpticalLink.Proofs.Link.Delivery
import OpticalLink.Proofs.Link.Closing
import OpticalLink.Proofs.Survey.Binning
import OpticalLink.Proofs.Survey.Measuring
import OpticalLink.Proofs.Store.Lookup
import OpticalLink.Proofs.Supervisor.Persistence
import OpticalLink.Proofs.Supervisor.Watch
import OpticalLink.Proofs.Supervisor.Deadlines
import OpticalLink.Proofs.Supervisor.Demotion
import OpticalLink.Proofs.Supervisor.Provenance
import OpticalLink.Proofs.Supervisor.Commits
import OpticalLink.Proofs.Supervisor.LastError
import OpticalLink.Proofs.Supervisor.Restoring
import OpticalLink.Proofs.Supervisor.Surveying
import OpticalLink.Proofs.Supervisor.Separation
import OpticalLink.Proofs.Supervisor.Chronicle
import OpticalLink.Proofs.Supervisor.Presence
import OpticalLink.Proofs.Supervisor.Links
import OpticalLink.Proofs.Supervisor.Attempts
import OpticalLink.Proofs.Supervisor.Outages
import OpticalLink.Proofs.Supervisor.Restarting
import OpticalLink.Proofs.Volume.Replacing
import OpticalLink.Proofs.Store.Durability
import OpticalLink.Proofs.Frame.Handover
import OpticalLink.Proofs.Message.Values
import OpticalLink.Proofs.Supervisor.Readings
import OpticalLink.Proofs.Supervisor.Commanding
import OpticalLink.Proofs.Supervisor.Cadence
import OpticalLink.Proofs.Supervisor.Uses
import OpticalLink.Proofs.Supervisor.Requests
import OpticalLink.Proofs.Channel.Flow
import OpticalLink.Proofs.Channel.Traffic
import OpticalLink.Proofs.Settings.Rules
import OpticalLink.Proofs.Store.Views
import OpticalLink.Proofs.Text.Tables
import OpticalLink.Proofs.Json.Compact
import OpticalLink.Proofs.Console.HexText
import OpticalLink.Proofs.Console.Reports
import OpticalLink.Proofs.Console.Decoding
import OpticalLink.Proofs.Console.Durations
