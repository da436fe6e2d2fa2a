import ServiceProbe.Bytes.Base64
import ServiceProbe.Bytes.Percent
import ServiceProbe.Bytes.Utf8
import ServiceProbe.CheckResult
import ServiceProbe.CommandLine.Basic
import ServiceProbe.CommandLine.Help
import ServiceProbe.CommandLine.Parse
import ServiceProbe.Fallback
import ServiceProbe.Fault
import ServiceProbe.Field
import ServiceProbe.Files
import ServiceProbe.Http.Client
import ServiceProbe.Http.Request
import ServiceProbe.Http.Response
import ServiceProbe.Journal
import ServiceProbe.Level
import ServiceProbe.Log
import ServiceProbe.Log.Record
import ServiceProbe.Main
import ServiceProbe.Metric
import ServiceProbe.Network.AddressLiteral
import ServiceProbe.Network.Event
import ServiceProbe.Network.Exchange
import ServiceProbe.Network.Script
import ServiceProbe.Network.Transport
import ServiceProbe.Network.Trouble
import ServiceProbe.Number.Basic
import ServiceProbe.Number.Decimal
import ServiceProbe.Number.Double
import ServiceProbe.Number.Numeral
import ServiceProbe.Number.Power
import ServiceProbe.Number.Shortest
import ServiceProbe.PasswordStore
import ServiceProbe.Probe.CommandLine
import ServiceProbe.Probe.Options
import ServiceProbe.Probe.Run
import ServiceProbe.Proofs.Admission
import ServiceProbe.Proofs.Aggregation
import ServiceProbe.Proofs.Alike
import ServiceProbe.Proofs.Arrival
import ServiceProbe.Proofs.Attached
import ServiceProbe.Proofs.Authorization
import ServiceProbe.Proofs.Base64
import ServiceProbe.Proofs.CallOrder
import ServiceProbe.Proofs.Census
import ServiceProbe.Proofs.Classification
import ServiceProbe.Proofs.Closing
import ServiceProbe.Proofs.ClusterHealth
import ServiceProbe.Proofs.CodePoint
import ServiceProbe.Proofs.CommandLine
import ServiceProbe.Proofs.Connecting
import ServiceProbe.Proofs.Conversation
import ServiceProbe.Proofs.Counter
import ServiceProbe.Proofs.Credentials
import ServiceProbe.Proofs.DebugMode
import ServiceProbe.Proofs.Decoding
import ServiceProbe.Proofs.Digits
import ServiceProbe.Proofs.Enclosure
import ServiceProbe.Proofs.Exchange
import ServiceProbe.Proofs.Extended
import ServiceProbe.Proofs.Failure
import ServiceProbe.Proofs.Fallback
import ServiceProbe.Proofs.Figures
import ServiceProbe.Proofs.Files
import ServiceProbe.Proofs.FirstKey
import ServiceProbe.Proofs.Gauge
import ServiceProbe.Proofs.Head
import ServiceProbe.Proofs.Hearing
import ServiceProbe.Proofs.InRange
import ServiceProbe.Proofs.Json
import ServiceProbe.Proofs.Leader
import ServiceProbe.Proofs.LevelGrammar
import ServiceProbe.Proofs.LevelText
import ServiceProbe.Proofs.LineFeed
import ServiceProbe.Proofs.Lookup
import ServiceProbe.Proofs.Measuring
import ServiceProbe.Proofs.NearestDouble
import ServiceProbe.Proofs.Nested
import ServiceProbe.Proofs.Numerals
import ServiceProbe.Proofs.Occurrence
import ServiceProbe.Proofs.Opening
import ServiceProbe.Proofs.Outcome
import ServiceProbe.Proofs.Overload
import ServiceProbe.Proofs.Password
import ServiceProbe.Proofs.Percent
import ServiceProbe.Proofs.PoolStatus
import ServiceProbe.Proofs.QueuePath
import ServiceProbe.Proofs.Quoting
import ServiceProbe.Proofs.Range
import ServiceProbe.Proofs.Reading
import ServiceProbe.Proofs.Rearrangement
import ServiceProbe.Proofs.Refusal
import ServiceProbe.Proofs.Reply
import ServiceProbe.Proofs.Report
import ServiceProbe.Proofs.Response
import ServiceProbe.Proofs.Rounding
import ServiceProbe.Proofs.Run
import ServiceProbe.Proofs.SealState
import ServiceProbe.Proofs.Search
import ServiceProbe.Proofs.SignificantDigits
import ServiceProbe.Proofs.Sockets
import ServiceProbe.Proofs.Spoken
import ServiceProbe.Proofs.Stages
import ServiceProbe.Proofs.StatusLine
import ServiceProbe.Proofs.StoreEntry
import ServiceProbe.Proofs.StoreFailure
import ServiceProbe.Proofs.Timekeeping
import ServiceProbe.Proofs.Truncation
import ServiceProbe.Proofs.Usage
import ServiceProbe.Proofs.Utf8
import ServiceProbe.Proofs.Verbosity
import ServiceProbe.Proofs.Verdict
import ServiceProbe.Proofs.WholeNumber
import ServiceProbe.Proofs.Words
import ServiceProbe.Rejection
import ServiceProbe.Service.All
import ServiceProbe.Service.Apache
import ServiceProbe.Service.Basic
import ServiceProbe.Service.Consul
import ServiceProbe.Service.Elasticsearch
import ServiceProbe.Service.Grafana
import ServiceProbe.Service.PhpFpm
import ServiceProbe.Service.RabbitMq
import ServiceProbe.Service.Vault
import ServiceProbe.State
import ServiceProbe.StatusPage
import ServiceProbe.Template.Basic
import ServiceProbe.Template.Fill
import ServiceProbe.Text.Basic
import ServiceProbe.Text.Blank
import ServiceProbe.Text.CodePoint
import ServiceProbe.Text.Digit
import ServiceProbe.Text.Letter
import ServiceProbe.Text.Printable
import ServiceProbe.Text.Quoted
import ServiceProbe.Text.Word
import ServiceProbe.Text.Wrap
import ServiceProbe.Transport
import ServiceProbe.Value
import ServiceProbe.Wire
