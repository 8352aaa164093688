import Courier.Address
import Courier.BanList
import Courier.Bytes
import Courier.Bytes.Lemmas
import Courier.Crypto.ChaCha20
import Courier.Crypto.CryptoError
import Courier.Crypto.Ed25519
import Courier.Crypto.Field25519
import Courier.Crypto.Hkdf
import Courier.Crypto.Poly1305
import Courier.Crypto.Sha2
import Courier.Crypto.X25519
import Courier.Crypto.XChaCha20Poly1305
import Courier.Envelope.Basic
import Courier.Envelope.Frame
import Courier.Envelope.Payload
import Courier.Envelope.Stream
import Courier.IoFailure
import Courier.IpAddress
import Courier.Json.Cause
import Courier.Json.Number
import Courier.Json.Quoted
import Courier.Json.Reading
import Courier.Json.Skip
import Courier.Keys.Pair
import Courier.Keys.Public
import Courier.Keys.Symmetric
import Courier.Link.ClearNet
import Courier.Link.Connection
import Courier.Link.Directory
import Courier.Link.Exchange
import Courier.Link.Metrics
import Courier.Link.Reason
import Courier.Link.Socket
import Courier.Link.SocketPair
import Courier.Link.Table
import Courier.Listeners.Basic
import Courier.Listeners.Session
import Courier.Listeners.Sets
import Courier.Mail.Delivery
import Courier.Mail.Inbox
import Courier.Mail.Sealed
import Courier.Mail.Sealing
import Courier.Mail.Service
import Courier.NetworkError
import Courier.Play.Mail
import Courier.Play.Notes
import Courier.Play.Script
import Courier.Play.Stage
import Courier.Play.Steps
import Courier.Play.Store
import Courier.Play.View
import Courier.Play.Wires
import Courier.Schema.Basic
import Courier.Schema.Binary
import Courier.Schema.Print
import Courier.Schema.Read
import Courier.Settings
import Courier.Text.Base64
import Courier.Text.Decimal
import Courier.Text.Hex
import Courier.Text.Quoted
import Courier.Text.Shown
import Courier.Text.Utf8
import Courier.World.Basic
import Courier.World.Nodes
import Courier.World.Registries
import Courier.World.Run
import Courier.World.Surroundings
import Courier.Proofs.Addresses
import Courier.Proofs.Base64
import Courier.Proofs.Binary
import Courier.Proofs.Directory
import Courier.Proofs.Envelopes
import Courier.Proofs.Exchange
import Courier.Proofs.Fanout
import Courier.Proofs.Frames
import Courier.Proofs.Fronts
import Courier.Proofs.Inbox.Accounts
import Courier.Proofs.Inbox.Contents
import Courier.Proofs.Inbox.History
import Courier.Proofs.Inbox.Stages
import Courier.Proofs.Json.Agreement
import Courier.Proofs.Json.Grammar
import Courier.Proofs.Json.Lossless
import Courier.Proofs.Json.Readings
import Courier.Proofs.Json.Records
import Courier.Proofs.Json.Scalars
import Courier.Proofs.Json.Skipping
import Courier.Proofs.Json.Tokens
import Courier.Proofs.Listeners
import Courier.Proofs.Mail.Ciphers
import Courier.Proofs.Mail.LowOrder
import Courier.Proofs.Mail.Naming
import Courier.Proofs.Mail.Opening
import Courier.Proofs.Mail.Sealing
import Courier.Proofs.Metrics
import Courier.Proofs.Sending
import Courier.Proofs.Settings
import Courier.Proofs.Signatures
import Courier.Proofs.Splitting
import Courier.Proofs.Streams
import Courier.Proofs.Timeouts
import Courier.Proofs.Traffic
import Courier.Proofs.Worlds.Acts
import Courier.Proofs.Worlds.Admission
import Courier.Proofs.Worlds.Closed
import Courier.Proofs.Worlds.Connecting
import Courier.Proofs.Worlds.Dialing
import Courier.Proofs.Worlds.Dials
import Courier.Proofs.Worlds.Established
import Courier.Proofs.Worlds.Fanout
import Courier.Proofs.Worlds.Joining
import Courier.Proofs.Worlds.Lasting
import Courier.Proofs.Worlds.Lifecycle
import Courier.Proofs.Worlds.Lifetimes
import Courier.Proofs.Worlds.Lives
import Courier.Proofs.Worlds.Looking
import Courier.Proofs.Worlds.Messages
import Courier.Proofs.Worlds.Moves
import Courier.Proofs.Worlds.Ordered
import Courier.Proofs.Worlds.Ownership
import Courier.Proofs.Worlds.Reading
import Courier.Proofs.Worlds.Registries
import Courier.Proofs.Worlds.Rosters
import Courier.Proofs.Worlds.RoundTrips
import Courier.Proofs.Worlds.Shutdowns
import Courier.Proofs.Worlds.Stories
import Courier.Proofs.Worlds.Tables
import Courier.Proofs.Worlds.Telling
import Courier.Proofs.Worlds.Traffic
import Courier.Proofs.Worlds.Walks
import Courier.Proofs.Writing
