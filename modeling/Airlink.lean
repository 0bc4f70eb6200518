import Airlink.Bytes.Hex
import Airlink.Ieee80211.Header
import Airlink.Snap
import Airlink.Radiotap
import Airlink.Buffer
import Airlink.Egress
import Airlink.Translation
import Airlink.Aggregate
import Airlink.Ingress
import Airlink.Radio
import Airlink.Backlog.Session
import Airlink.Text.Json.Reader
import Airlink.Text.Json.Writer
import Airlink.Text.Utf8
import Airlink.Config.Document
import Airlink.Text.Toml
import Airlink.Text.Toml.Scalar
import Airlink.Text.Tree
import Airlink.Text.Toml.Reader
import Airlink.Config.Render
import Airlink.Text.Toml.Writer
import Airlink.Text.Yaml.Cursor
import Airlink.Text.Yaml.Scalar
import Airlink.Text.Yaml.Layout
import Airlink.Text.Yaml.Node
import Airlink.Text.Yaml.Reading
import Airlink.Text.Yaml.Writer
import Airlink.Config.File
import Airlink.Report
import Airlink.Text.Blank
import Airlink.Capture
import Airlink.CommandLine.LogFilter
import Airlink.Replay
import Airlink.CommandLine.Command
import Airlink.CommandLine.Invocation
import Airlink.CommandLine.ErrorText
import Airlink.CommandLine.Program
import Airlink.Main
import Airlink.Proofs.Transmit.Order
import Airlink.Proofs.Backlog.Custody
import Airlink.Proofs.AggregateIngress
import Airlink.Proofs.Receive.Outcomes
import Airlink.Proofs.Screened
import Airlink.Proofs.Radio.Ledger
import Airlink.Proofs.Checked.Receive
import Airlink.Proofs.RoundTrip
import Airlink.Proofs.Detour
import Airlink.Proofs.Misfit
import Airlink.Proofs.Radio.Report
import Airlink.Proofs.Radio.Deliveries
import Airlink.Proofs.Radio.Relay
import Airlink.Proofs.Stations.Sequences
import Airlink.Proofs.Radio.Framing
import Airlink.Proofs.Radiotap.Agreement
import Airlink.Proofs.Radio.Siblings
import Airlink.Proofs.Storage.Radios
import Airlink.Proofs.Transmit.Tokens
import Airlink.Proofs.Forwarding
import Airlink.Proofs.DirectLinks
import Airlink.Proofs.MonitorFrames
import Airlink.Proofs.HandOff
import Airlink.Proofs.Announcements
import Airlink.Proofs.AddressText
import Airlink.Proofs.Radio.StartUp
import Airlink.Proofs.Transmit.Counting
import Airlink.Proofs.Backlog.Draining
import Airlink.Proofs.Splitting
import Airlink.Proofs.WrittenAddress
import Airlink.Proofs.Storage.Headroom
