import LedgerTrust.Cli.Arguments
import LedgerTrust.Cli.Options
import LedgerTrust.Cli.Run
import LedgerTrust.Cli.Variables
import LedgerTrust.Codec.Basic
import LedgerTrust.Codec.Record
import LedgerTrust.Crypto.Digest
import LedgerTrust.Crypto.Ed25519
import LedgerTrust.Crypto.Sha256
import LedgerTrust.Crypto.Sha3
import LedgerTrust.Crypto.Sha512
import LedgerTrust.Data.Base64
import LedgerTrust.Data.Bytes
import LedgerTrust.Data.Duration
import LedgerTrust.Data.Hex
import LedgerTrust.Data.TextMap
import LedgerTrust.Draft.Basic
import LedgerTrust.Draft.Config
import LedgerTrust.Draft.Data
import LedgerTrust.Draft.Database
import LedgerTrust.Draft.Signing
import LedgerTrust.Draft.User
import LedgerTrust.Identity.Key
import LedgerTrust.Identity.KeyTable
import LedgerTrust.Identity.Signer
import LedgerTrust.Json.Container
import LedgerTrust.Json.Indented
import LedgerTrust.Json.Number
import LedgerTrust.Json.Scan
import LedgerTrust.Json.Text
import LedgerTrust.Ledger.Block
import LedgerTrust.Ledger.Response
import LedgerTrust.Ledger.Scheme
import LedgerTrust.Ledger.Transaction
import LedgerTrust.Main
import LedgerTrust.Net.Line
import LedgerTrust.Net.Rejection
import LedgerTrust.Net.Replica
import LedgerTrust.Net.SignedReply
import LedgerTrust.Proof.Data
import LedgerTrust.Proof.Error
import LedgerTrust.Proof.Inclusion
import LedgerTrust.Proof.Path
import LedgerTrust.Proof.SkipList
import LedgerTrust.Proof.TxTree
import LedgerTrust.Proofs.Attempt.Commit
import LedgerTrust.Proofs.Attempt.Failure
import LedgerTrust.Proofs.Attempt.Kept
import LedgerTrust.Proofs.Attempt.Outcome
import LedgerTrust.Proofs.Attempt.Run
import LedgerTrust.Proofs.Cli.Checks
import LedgerTrust.Proofs.Cli.Run
import LedgerTrust.Proofs.Codec.Binary
import LedgerTrust.Proofs.Codec.Compact
import LedgerTrust.Proofs.Codec.Faithful
import LedgerTrust.Proofs.Codec.Record
import LedgerTrust.Proofs.Data.Base64
import LedgerTrust.Proofs.Data.Checks
import LedgerTrust.Proofs.Data.Text
import LedgerTrust.Proofs.Data.TextMap
import LedgerTrust.Proofs.Data.TextOrder
import LedgerTrust.Proofs.Draft.Administration
import LedgerTrust.Proofs.Draft.Compose
import LedgerTrust.Proofs.Draft.Configuration
import LedgerTrust.Proofs.Draft.Data
import LedgerTrust.Proofs.Draft.History
import LedgerTrust.Proofs.Identity.Key
import LedgerTrust.Proofs.Identity.KeyTable
import LedgerTrust.Proofs.Json.Container
import LedgerTrust.Proofs.Json.Extent
import LedgerTrust.Proofs.Json.Grammar
import LedgerTrust.Proofs.Json.Literal
import LedgerTrust.Proofs.Json.Number
import LedgerTrust.Proofs.Json.Value
import LedgerTrust.Proofs.Ledger.Alteration
import LedgerTrust.Proofs.Ledger.Block
import LedgerTrust.Proofs.Ledger.Chain
import LedgerTrust.Proofs.Ledger.Compact
import LedgerTrust.Proofs.Ledger.Inclusion
import LedgerTrust.Proofs.Ledger.Kind
import LedgerTrust.Proofs.Ledger.Leaf
import LedgerTrust.Proofs.Ledger.Path
import LedgerTrust.Proofs.Ledger.Response
import LedgerTrust.Proofs.Ledger.Scheme
import LedgerTrust.Proofs.Ledger.Tampering
import LedgerTrust.Proofs.Ledger.Transaction
import LedgerTrust.Proofs.Ledger.Wire
import LedgerTrust.Proofs.Net.SignedReply
import LedgerTrust.Proofs.Proof.Entry
import LedgerTrust.Proofs.Proof.SkipLink
import LedgerTrust.Proofs.Proof.SkipList
import LedgerTrust.Proofs.Proof.SkipPath
import LedgerTrust.Proofs.Proof.SkipSearch
import LedgerTrust.Proofs.Proof.State
import LedgerTrust.Proofs.Proof.Trie
import LedgerTrust.Proofs.Proof.TxRoot
import LedgerTrust.Proofs.Proof.TxTree
import LedgerTrust.Proofs.Session.Completeness
import LedgerTrust.Proofs.Session.Dialogue
import LedgerTrust.Proofs.Session.EarlyFailure
import LedgerTrust.Proofs.Session.Faults
import LedgerTrust.Proofs.Session.Fetch
import LedgerTrust.Proofs.Session.Opening
import LedgerTrust.Proofs.Session.Operation
import LedgerTrust.Proofs.Session.Query
import LedgerTrust.Proofs.Session.QueryPath
import LedgerTrust.Proofs.Session.Recheck
import LedgerTrust.Proofs.Session.Refusal
import LedgerTrust.Proofs.Session.Requests
import LedgerTrust.Proofs.Session.Run
import LedgerTrust.Proofs.Session.Script
import LedgerTrust.Proofs.Session.Soundness
import LedgerTrust.Proofs.Session.Statement
import LedgerTrust.Proofs.Session.Traffic
import LedgerTrust.Proofs.Url.Join
import LedgerTrust.Session.Attempt
import LedgerTrust.Session.Basic
import LedgerTrust.Session.Config
import LedgerTrust.Session.FullProof
import LedgerTrust.Session.Query
import LedgerTrust.Text.Alphanumeric
import LedgerTrust.Text.Blank
import LedgerTrust.Text.CombiningClass
import LedgerTrust.Text.Composite
import LedgerTrust.Text.Direction
import LedgerTrust.Text.Duration
import LedgerTrust.Text.Hidden
import LedgerTrust.Text.Joining
import LedgerTrust.Text.Mark
import LedgerTrust.Text.Normal
import LedgerTrust.Text.Parts
import LedgerTrust.Text.Quoted
import LedgerTrust.Text.Ranges
import LedgerTrust.Url.Authority
import LedgerTrust.Url.Basic
import LedgerTrust.Url.Domain
import LedgerTrust.Url.Domain.Character
import LedgerTrust.Url.Domain.Label
import LedgerTrust.Url.Domain.Table
import LedgerTrust.Url.Host
import LedgerTrust.Url.Path
import LedgerTrust.Url.Percent
import LedgerTrust.Url.Punycode
import LedgerTrust.Url.Scheme
