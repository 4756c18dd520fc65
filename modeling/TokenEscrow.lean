import TokenEscrow.Address.Derived
import TokenEscrow.Address.Known
import TokenEscrow.Address.Nft
import TokenEscrow.Bytes.Base58
import TokenEscrow.Bytes.Base64
import TokenEscrow.Bytes.Basic
import TokenEscrow.Bytes.Fixed
import TokenEscrow.Client.Basic
import TokenEscrow.Client.Operation
import TokenEscrow.Client.Rehearsal
import TokenEscrow.Client.Scripted
import TokenEscrow.Client.Sequencer
import TokenEscrow.Codec.Wire
import TokenEscrow.Command.Basic
import TokenEscrow.Command.Invocation
import TokenEscrow.Command.Names
import TokenEscrow.Command.Run
import TokenEscrow.CommandLine.Error
import TokenEscrow.CommandLine.Grammar
import TokenEscrow.CommandLine.Help
import TokenEscrow.CommandLine.Matches
import TokenEscrow.CommandLine.Option
import TokenEscrow.CommandLine.Parser
import TokenEscrow.Config.File
import TokenEscrow.Config.Keypair
import TokenEscrow.Config.Settings
import TokenEscrow.Curve.Field
import TokenEscrow.Curve.Point
import TokenEscrow.Curve.Signature
import TokenEscrow.Decimal.Shortest
import TokenEscrow.Files.Basic
import TokenEscrow.Hash.Sha256
import TokenEscrow.Hash.Sha512
import TokenEscrow.Hash.XxHash64
import TokenEscrow.Instruction.Basic
import TokenEscrow.Instruction.Build
import TokenEscrow.Instruction.Error
import TokenEscrow.Instruction.Schema
import TokenEscrow.Json.Basic
import TokenEscrow.Json.ByteList
import TokenEscrow.Json.Fault
import TokenEscrow.Json.Mismatch
import TokenEscrow.Json.Parser
import TokenEscrow.Json.Printer
import TokenEscrow.Json.Reader
import TokenEscrow.Json.Record
import TokenEscrow.Log.Directive
import TokenEscrow.Log.Filter
import TokenEscrow.Log.Message
import TokenEscrow.Main
import TokenEscrow.Program.Run
import TokenEscrow.Proofs.Address.Canonical
import TokenEscrow.Proofs.Address.Search
import TokenEscrow.Proofs.Address.Separation
import TokenEscrow.Proofs.Bytes.Base58
import TokenEscrow.Proofs.Bytes.Base64
import TokenEscrow.Proofs.Client.Course
import TokenEscrow.Proofs.Client.Delivery
import TokenEscrow.Proofs.Client.HandedOver
import TokenEscrow.Proofs.Client.Handles
import TokenEscrow.Proofs.Client.Logged
import TokenEscrow.Proofs.Client.Oversized
import TokenEscrow.Proofs.Client.Protocol
import TokenEscrow.Proofs.Client.Rehearsal
import TokenEscrow.Proofs.Client.Session
import TokenEscrow.Proofs.Client.Signed
import TokenEscrow.Proofs.Client.Submission
import TokenEscrow.Proofs.Client.Submitted
import TokenEscrow.Proofs.Codec.Lawful
import TokenEscrow.Proofs.Command.Addresses
import TokenEscrow.Proofs.Command.Asked
import TokenEscrow.Proofs.Command.CarriedOut
import TokenEscrow.Proofs.Command.Expressed
import TokenEscrow.Proofs.Command.Lines
import TokenEscrow.Proofs.Command.NameBound
import TokenEscrow.Proofs.Command.Offline
import TokenEscrow.Proofs.Command.Placement
import TokenEscrow.Proofs.Command.Reported
import TokenEscrow.Proofs.Command.Session
import TokenEscrow.Proofs.Command.ShownAccount
import TokenEscrow.Proofs.Command.Values
import TokenEscrow.Proofs.CommandLine.Accepted
import TokenEscrow.Proofs.CommandLine.Complete
import TokenEscrow.Proofs.CommandLine.Given
import TokenEscrow.Proofs.CommandLine.Line
import TokenEscrow.Proofs.CommandLine.Matches
import TokenEscrow.Proofs.CommandLine.Scanned
import TokenEscrow.Proofs.CommandLine.Written
import TokenEscrow.Proofs.Fallible
import TokenEscrow.Proofs.Instruction.Build
import TokenEscrow.Proofs.Instruction.Faults
import TokenEscrow.Proofs.Instruction.Keys
import TokenEscrow.Proofs.Instruction.Ownership
import TokenEscrow.Proofs.Instruction.PrefixFree
import TokenEscrow.Proofs.Instruction.Roles
import TokenEscrow.Proofs.Instruction.WireForm
import TokenEscrow.Proofs.Json.Fields
import TokenEscrow.Proofs.Json.Layout
import TokenEscrow.Proofs.Json.Parts
import TokenEscrow.Proofs.Json.Record
import TokenEscrow.Proofs.Report.Kept
import TokenEscrow.Proofs.Rpc.Account
import TokenEscrow.Proofs.Rpc.Contact
import TokenEscrow.Proofs.Rpc.Session
import TokenEscrow.Proofs.Text.Unsigned
import TokenEscrow.Proofs.Transaction.Compile
import TokenEscrow.Proofs.Transaction.RoundTrip
import TokenEscrow.Proofs.Transaction.Signing
import TokenEscrow.Proofs.Transaction.Single
import TokenEscrow.Proofs.Zstd.Stored
import TokenEscrow.Report.Basic
import TokenEscrow.Report.Records
import TokenEscrow.Rpc.Client
import TokenEscrow.Rpc.Error
import TokenEscrow.Rpc.Reply
import TokenEscrow.Rpc.Scripted
import TokenEscrow.Rpc.Version
import TokenEscrow.Text.Blank
import TokenEscrow.Text.Hidden
import TokenEscrow.Text.Quoted
import TokenEscrow.Text.Similarity
import TokenEscrow.Text.Unsigned
import TokenEscrow.Text.Url
import TokenEscrow.Text.Utf8
import TokenEscrow.Text.Wrap
import TokenEscrow.Transaction.Message
import TokenEscrow.Transaction.Sign
import TokenEscrow.Transaction.Wire
import TokenEscrow.Yaml.Basic
import TokenEscrow.Yaml.Cursor
import TokenEscrow.Yaml.Reader
import TokenEscrow.Yaml.Scalar
import TokenEscrow.Zstd.Bits
import TokenEscrow.Zstd.Frame
import TokenEscrow.Zstd.Fse
import TokenEscrow.Zstd.Huffman
import TokenEscrow.Zstd.Literals
import TokenEscrow.Zstd.Sequences
