import LineKv.Bytes
import LineKv.Fault
import LineKv.Line.Frame
import LineKv.Line.Message
import LineKv.Line.Reply
import LineKv.Text.Utf8
import LineKv.Text.Case
import LineKv.Text.Printable
import LineKv.Text.Space
import LineKv.Text.Quoted
import LineKv.Text.Decimal
import LineKv.Text.Glob
import LineKv.Backoff
import LineKv.LogLevel
import LineKv.Config.Template
import LineKv.Config.Security
import LineKv.Store.Key
import LineKv.Store.Call
import LineKv.Store.Memory
import LineKv.Store.Badger
import LineKv.Transport.ChunkQueue
import LineKv.Transport.ChunkSlice
import LineKv.Broker
import LineKv.Command.Descriptor
import LineKv.Command.Table
import LineKv.Command.Dispatch
import LineKv.Queue
import LineKv.WorkerPool
import LineKv.Crypto.Pi
import LineKv.Crypto.Blowfish
import LineKv.Crypto.Bcrypt
import LineKv.Toml.Value
import LineKv.Text.Letter
import LineKv.Text.Binary64
import LineKv.Toml.Token
import LineKv.Toml.Token.Scan
import LineKv.Toml.Datetime
import LineKv.Toml.Tree
import LineKv.Account.Basic
import LineKv.Account.File
import LineKv.Deflate.Huffman
import LineKv.Deflate.Inflate
import LineKv.Deflate.Bits
import LineKv.Deflate.Code
import LineKv.Deflate.Tokens
import LineKv.Deflate.Block
import LineKv.Deflate.Match
import LineKv.Deflate.Fast.Level1
import LineKv.Deflate.Fast.Level2
import LineKv.Deflate.Fast.Level3
import LineKv.Deflate.Fast.Level4
import LineKv.Deflate.Fast.Level5
import LineKv.Deflate.Fast.Level6
import LineKv.Deflate.Lazy
import LineKv.Deflate.Encode
import LineKv.Transport.Pipe
import LineKv.Transport.Compressor
import LineKv.Transport.Link
import LineKv.Session
import LineKv.Monitor
import LineKv.Text.Duration
import LineKv.Server.Commands
import LineKv.Server.Node
import LineKv.Server.Stats
import LineKv.Server.Handlers
import LineKv.Server.Loop
import LineKv.Toml.Stream
import LineKv.Toml.Seen
import LineKv.Toml.Temporal
import LineKv.Toml.Number
import LineKv.Config.Span
import LineKv.Config.Address
import LineKv.Config.Schema
import LineKv.Config.Bind
import LineKv.Config.Check
import LineKv.Script
import LineKv.Proofs.QueueTurn
import LineKv.Proofs.QueueContract
import LineKv.Proofs.DispatchEvents
import LineKv.Proofs.DispatchChecks
import LineKv.Proofs.ServerSteps
import LineKv.Proofs.NodeSteps
import LineKv.Proofs.NodeFrame
import LineKv.Proofs.TickTurns
import LineKv.Proofs.Utf8RoundTrip
import LineKv.Proofs.ReplyLines
import LineKv.Proofs.InputIntake
import LineKv.Proofs.RecvFrame
import LineKv.Proofs.Teardown
import LineKv.Proofs.SubmitSplits
import LineKv.Proofs.InputLines
import LineKv.Proofs.NodeMeasures
import LineKv.Proofs.TeardownBooks
import LineKv.Proofs.LinkSteps
import LineKv.Proofs.PipeConservation
import LineKv.Proofs.FrameRoundTrip
import LineKv.Proofs.ConnectionActs
import LineKv.Proofs.SessionTimers
import LineKv.Proofs.KeepAlive
import LineKv.Proofs.StoreContract
import LineKv.Proofs.BadgerAgreement
import LineKv.Proofs.BrokerIndexes
import LineKv.Proofs.PublishFanout
import LineKv.Proofs.AccountRevocation
import LineKv.Proofs.ChainWakeups
import LineKv.Proofs.AliasOrder
import LineKv.Proofs.StoppedConnections
import LineKv.Proofs.Readiness
import LineKv.Proofs.LineRecords
import LineKv.Proofs.MonitorLines
import LineKv.Proofs.AccountChecks
import LineKv.Proofs.LineGrammar
import LineKv.Proofs.ParamFolding
import LineKv.Proofs.ChunkLayout
import LineKv.Proofs.PoolRuns
import LineKv.Proofs.PoolBooks
