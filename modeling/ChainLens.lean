import ChainLens.Address.Base58
import ChainLens.Address.Basic
import ChainLens.Address.Bech32
import ChainLens.Address.Network
import ChainLens.Bytes.Base64
import ChainLens.Bytes.Hex
import ChainLens.Bytes.LittleEndian
import ChainLens.Chain.Amount
import ChainLens.Chain.Block
import ChainLens.Chain.BlockRef
import ChainLens.Chain.Difficulty
import ChainLens.Chain.Header
import ChainLens.Chain.Record
import ChainLens.Chain.Transaction
import ChainLens.CommandLine.Advice
import ChainLens.CommandLine.Grammar
import ChainLens.CommandLine.Options
import ChainLens.CommandLine.Run
import ChainLens.Dialogue
import ChainLens.Encoding.CompactSize
import ChainLens.Encoding.Decoder
import ChainLens.Explorer.Addresses
import ChainLens.Explorer.Blocks
import ChainLens.Explorer.Call
import ChainLens.Explorer.Render
import ChainLens.Explorer.Report
import ChainLens.Explorer.Transactions
import ChainLens.Failure
import ChainLens.Hash.Basic
import ChainLens.Hash.Sha256
import ChainLens.Json.Document
import ChainLens.Json.Reader
import ChainLens.Json.Shape
import ChainLens.Json.Value
import ChainLens.Json.Writer
import ChainLens.Main
import ChainLens.Message.Arc4
import ChainLens.Message.Embedded
import ChainLens.Proofs.Address.Base58Text
import ChainLens.Proofs.Address.Bech32Checksum
import ChainLens.Proofs.Address.Bech32Text
import ChainLens.Proofs.Address.RoundTrip
import ChainLens.Proofs.Address.ScriptForms
import ChainLens.Proofs.Chain.BlockForm
import ChainLens.Proofs.Chain.RecordRoundTrip
import ChainLens.Proofs.Chain.Sizes
import ChainLens.Proofs.Chain.Totals
import ChainLens.Proofs.Chain.TransactionForms
import ChainLens.Proofs.Encoding.Reads
import ChainLens.Proofs.Explorer.Attested
import ChainLens.Proofs.Explorer.BlockPaths
import ChainLens.Proofs.Explorer.Broadcasts
import ChainLens.Proofs.Explorer.Disclosure
import ChainLens.Proofs.Explorer.Faults
import ChainLens.Proofs.Explorer.Identity
import ChainLens.Proofs.Explorer.Losses
import ChainLens.Proofs.Explorer.PassedOver
import ChainLens.Proofs.Explorer.ReportForm
import ChainLens.Proofs.Explorer.SpentOutputs
import ChainLens.Proofs.Explorer.Summaries
import ChainLens.Proofs.Source.Candid
import ChainLens.Proofs.Source.Gated
import ChainLens.Proofs.Source.Outcome
import ChainLens.Proofs.Explorer.Overlap
import ChainLens.Proofs.Source.Related
import ChainLens.Proofs.Source.Remembered
import ChainLens.Proofs.Source.Transcript
import ChainLens.Proofs.Text.Numerals
import ChainLens.Proofs.Text.Utf8Form
import ChainLens.Proofs.Turnstile.Counters
import ChainLens.Proofs.Turnstile.Queue
import ChainLens.Proofs.Web.Noted
import ChainLens.Script.Instruction
import ChainLens.Script.Template
import ChainLens.Source.AddressIndex
import ChainLens.Source.Assembly
import ChainLens.Source.Combine
import ChainLens.Source.FullNode
import ChainLens.Source.Query
import ChainLens.Source.Table
import ChainLens.Text.Ascii
import ChainLens.Text.Blank
import ChainLens.Text.Composition
import ChainLens.Text.Decimal
import ChainLens.Text.Mark
import ChainLens.Text.Shortest
import ChainLens.Text.SpanTable
import ChainLens.Text.Split
import ChainLens.Text.Utf8
import ChainLens.Turnstile
import ChainLens.Web.Client
import ChainLens.Web.Credentials
import ChainLens.Web.DomainName
import ChainLens.Web.DomainName.Direction
import ChainLens.Web.DomainName.Joiner
import ChainLens.Web.DomainName.Reading
import ChainLens.Web.Exchange
import ChainLens.Web.Framing
import ChainLens.Web.Host
import ChainLens.Web.Punycode
import ChainLens.Web.Rehearsal
import ChainLens.Web.Rpc
import ChainLens.Web.Url
import ChainLens.Proofs.Json.RoundTrip
import ChainLens.Proofs.Web.PlainPath
import ChainLens.Proofs.Web.Published
import ChainLens.Proofs.Source.Ledger
import ChainLens.Proofs.Source.Dialects
import ChainLens.Proofs.Explorer.SameChain
import ChainLens.Proofs.Explorer.Views
import ChainLens.Proofs.Explorer.TrueCopy
import ChainLens.Proofs.Explorer.Division
import ChainLens.Proofs.Explorer.Refusals
import ChainLens.Proofs.Explorer.Resolution
import ChainLens.Proofs.Message.Hidden
import ChainLens.Proofs.Chain.Measures
import ChainLens.Proofs.Script.WitnessPrograms
import ChainLens.Proofs.Script.FormsApart
import ChainLens.Proofs.Address.Spelling
import ChainLens.Proofs.Address.Accepted
import ChainLens.Proofs.Address.NetworksApart
import ChainLens.Proofs.Address.ScriptHex
import ChainLens.Proofs.Encoding.Consumption
import ChainLens.Proofs.Chain.PrefixFree
import ChainLens.Proofs.Chain.BlockParts
import ChainLens.Proofs.Explorer.Fees
import ChainLens.Proofs.Chain.HeaderForm
import ChainLens.Proofs.CommandLine.Hints
import ChainLens.Proofs.Explorer.FullBlocks
import ChainLens.Proofs.Explorer.Errands
import ChainLens.Proofs.Message.Cipher
import ChainLens.Proofs.Text.Trimmed
import ChainLens.Proofs.Text.HashDigits
import ChainLens.Proofs.Chain.BlockNames
import ChainLens.Proofs.Json.Settled
import ChainLens.Proofs.Explorer.Verdicts
import ChainLens.Proofs.Web.CookieLine
import ChainLens.Proofs.Explorer.Cookies
