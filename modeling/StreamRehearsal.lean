import StreamRehearsal.Main
import StreamRehearsal.Proofs.Store.Objects
import StreamRehearsal.Scenario.Schedule
import StreamRehearsal.Config.Partial
import StreamRehearsal.Proofs.Timeline.Cursor
import StreamRehearsal.Proofs.Schedule
import StreamRehearsal.Proofs.Timeline.Meaning
import StreamRehearsal.Proofs.Scenario.Length
import StreamRehearsal.Proofs.Timeline.Distinct
import StreamRehearsal.Proofs.Timeline.Shape
import StreamRehearsal.Proofs.Timeline.Requests
import StreamRehearsal.Proofs.Scenario.Conservation
import StreamRehearsal.Proofs.Playlist.Addresses
import StreamRehearsal.Proofs.Playlist.Durations
import StreamRehearsal.Proofs.Playlist.Rendering
import StreamRehearsal.Proofs.Server.Classification
import StreamRehearsal.Proofs.Server.DelayMode
import StreamRehearsal.Proofs.Server.Interval
import StreamRehearsal.Proofs.Document.Reading
import StreamRehearsal.Proofs.Config.Overlay
import StreamRehearsal.Proofs.Scenario.Spelling
import StreamRehearsal.Proofs.Scenario.Grammar
import StreamRehearsal.Proofs.Server.Containment
import StreamRehearsal.Proofs.Server.BodyLength
import StreamRehearsal.Proofs.Json.Lexemes
import StreamRehearsal.Proofs.Json.RoundTrip
import StreamRehearsal.Proofs.Scenario.Document
import StreamRehearsal.Proofs.Text.Words
import StreamRehearsal.Proofs.Scenario.Report
import StreamRehearsal.Proofs.Server.Statuses
import StreamRehearsal.Proofs.Server.TopPlaylist
import StreamRehearsal.Proofs.Command.Playlist
import StreamRehearsal.Proofs.Net.HostAddress
import StreamRehearsal.Proofs.Command.Start
import StreamRehearsal.Proofs.Storage.Paths
import StreamRehearsal.Proofs.Playlist.Capacity
