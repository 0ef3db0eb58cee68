import AddressIndex.Actor
import AddressIndex.Api.Basic
import AddressIndex.Api.Body
import AddressIndex.Api.Manual
import AddressIndex.Api.Route
import AddressIndex.Api.Visit
import AddressIndex.Backoff
import AddressIndex.Base58
import AddressIndex.Batch
import AddressIndex.Binary64.Basic
import AddressIndex.Binary64.Shortest
import AddressIndex.Clock
import AddressIndex.Config.DatabaseUrl
import AddressIndex.Config.Dialect
import AddressIndex.Config.Driver
import AddressIndex.Config.EnvFile
import AddressIndex.Config.Environment
import AddressIndex.Config.Settings
import AddressIndex.Config.Url
import AddressIndex.Fault.Arithmetic
import AddressIndex.Fault.Basic
import AddressIndex.Fault.Kind
import AddressIndex.Http.Escape
import AddressIndex.Http.Host
import AddressIndex.Http.HostChar
import AddressIndex.Http.Label
import AddressIndex.Http.Message
import AddressIndex.Http.Path
import AddressIndex.Http.Punycode
import AddressIndex.Http.Url
import AddressIndex.Json.Basic
import AddressIndex.Json.Printer
import AddressIndex.Json.Reader
import AddressIndex.Ledger.AccountTable
import AddressIndex.Ledger.DecodeError
import AddressIndex.Ledger.Instruction
import AddressIndex.Ledger.SignatureRecord
import AddressIndex.Ledger.Transaction
import AddressIndex.Log.Line
import AddressIndex.Log.Render
import AddressIndex.Main
import AddressIndex.Pieces
import AddressIndex.Program
import AddressIndex.Proofs.Account
import AddressIndex.Proofs.Accounts
import AddressIndex.Proofs.Admission
import AddressIndex.Proofs.Aliases
import AddressIndex.Proofs.Amounts
import AddressIndex.Proofs.Ascii
import AddressIndex.Proofs.Backoff
import AddressIndex.Proofs.Batches
import AddressIndex.Proofs.Calls
import AddressIndex.Proofs.Completeness
import AddressIndex.Proofs.Decoding
import AddressIndex.Proofs.Delays
import AddressIndex.Proofs.Deltas
import AddressIndex.Proofs.Denotation
import AddressIndex.Proofs.Drain
import AddressIndex.Proofs.Ended
import AddressIndex.Proofs.Endpoints
import AddressIndex.Proofs.Exactness
import AddressIndex.Proofs.Execution
import AddressIndex.Proofs.Faults
import AddressIndex.Proofs.Fetch
import AddressIndex.Proofs.Idling
import AddressIndex.Proofs.Inquiries
import AddressIndex.Proofs.Insert
import AddressIndex.Proofs.Jobs
import AddressIndex.Proofs.Keys
import AddressIndex.Proofs.Lease
import AddressIndex.Proofs.LeaseOrder
import AddressIndex.Proofs.Lifecycle
import AddressIndex.Proofs.Numerals
import AddressIndex.Proofs.Ownership
import AddressIndex.Proofs.Pages
import AddressIndex.Proofs.Paging
import AddressIndex.Proofs.Persistence
import AddressIndex.Proofs.Poll
import AddressIndex.Proofs.Pool
import AddressIndex.Proofs.Products
import AddressIndex.Proofs.Query
import AddressIndex.Proofs.Range
import AddressIndex.Proofs.Recognition
import AddressIndex.Proofs.Records
import AddressIndex.Proofs.Redaction
import AddressIndex.Proofs.Replay
import AddressIndex.Proofs.Replies
import AddressIndex.Proofs.Requested
import AddressIndex.Proofs.Resumption
import AddressIndex.Proofs.Saves
import AddressIndex.Proofs.Signatures
import AddressIndex.Proofs.Slicing
import AddressIndex.Proofs.Snapshots
import AddressIndex.Proofs.Stages
import AddressIndex.Proofs.Storable
import AddressIndex.Proofs.Surroundings
import AddressIndex.Proofs.Tables
import AddressIndex.Proofs.Together
import AddressIndex.Proofs.Trace
import AddressIndex.Proofs.Transfers
import AddressIndex.Proofs.Versions
import AddressIndex.Proofs.Yield
import AddressIndex.Rpc.Client
import AddressIndex.Rpc.Envelope
import AddressIndex.Rpc.Error
import AddressIndex.Rpc.Fetch
import AddressIndex.Rpc.Page
import AddressIndex.Rpc.Request
import AddressIndex.Service
import AddressIndex.Store.Claim
import AddressIndex.Store.Columns
import AddressIndex.Store.Fault
import AddressIndex.Store.Job
import AddressIndex.Store.Query
import AddressIndex.Store.Row
import AddressIndex.Store.Session
import AddressIndex.Store.Statement
import AddressIndex.Text.Blank
import AddressIndex.Text.Case
import AddressIndex.Text.CodePoint
import AddressIndex.Text.Composition
import AddressIndex.Text.Cut
import AddressIndex.Text.Digit
import AddressIndex.Text.Direction
import AddressIndex.Text.Joining
import AddressIndex.Text.Mark
import AddressIndex.Text.Numeral
import AddressIndex.Text.Printable
import AddressIndex.Text.Quoted
import AddressIndex.Text.Runs
import AddressIndex.Text.Script
import AddressIndex.Text.Utf
import AddressIndex.Text.Word
import AddressIndex.Text.Writable
import AddressIndex.Transfer.Amount
import AddressIndex.Transfer.Basic
import AddressIndex.Transfer.Delta
import AddressIndex.Transfer.Indexed
import AddressIndex.Transfer.TokenAccounts
import AddressIndex.Worker.Basic
import AddressIndex.Worker.Pipeline
import AddressIndex.World
