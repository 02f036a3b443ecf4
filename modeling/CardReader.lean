import CardReader.AnyDevice
import CardReader.Axess.Device
import CardReader.Axess.Framer
import CardReader.Bytes.Basic
import CardReader.Bytes.Checksum
import CardReader.Bytes.Cursor
import CardReader.Bytes.Hex
import CardReader.Channel
import CardReader.Chip
import CardReader.Config.Basic
import CardReader.Config.Decode
import CardReader.Config.Environment
import CardReader.Config.File
import CardReader.Config.Key
import CardReader.Config.Mode
import CardReader.Config.Validation
import CardReader.Crypto.Aes
import CardReader.Crypto.Block
import CardReader.Crypto.Cbc
import CardReader.Crypto.Sha1
import CardReader.Detection
import CardReader.Driver
import CardReader.Family
import CardReader.Fault.Config
import CardReader.Fault.Frame
import CardReader.Fault.Kind
import CardReader.Fault.Link
import CardReader.Fault.Reader
import CardReader.Fault.Session
import CardReader.Fleet
import CardReader.Frame.Answer
import CardReader.Frame.Buffer
import CardReader.Frame.Cut
import CardReader.Identifier
import CardReader.Link.Basic
import CardReader.Link.Scripted
import CardReader.Link.Vacant
import CardReader.Log
import CardReader.Osdp.Device
import CardReader.Osdp.Framer
import CardReader.Promag.Device
import CardReader.Promag.Framer
import CardReader.Proofs.Bytes.Cursor
import CardReader.Proofs.Crypto.Aes
import CardReader.Proofs.Crypto.Cbc
import CardReader.Proofs.Frame.Chunks
import CardReader.Proofs.Frame.Header
import CardReader.Proofs.Run
import CardReader.Proofs.Stid.Peer
import CardReader.Prox.Device
import CardReader.Prox.Framer
import CardReader.Reader.Basic
import CardReader.Reader.Stid
import CardReader.Reader.Waiting
import CardReader.Registry
import CardReader.Rpleth.Csn
import CardReader.Rpleth.Device
import CardReader.Rpleth.Framer
import CardReader.Rpleth.Status
import CardReader.Settings
import CardReader.Stid.Device
import CardReader.Stid.Framer
import CardReader.Stid.Handshake
import CardReader.Stid.Mode
import CardReader.Stid.ModeCell
import CardReader.Stid.Report
import CardReader.Stid.Secret
import CardReader.Stid.Status
import CardReader.Text.Binary64
import CardReader.Text.Blank
import CardReader.Text.Lossy
import CardReader.Text.Number
import CardReader.Text.Quoted
import CardReader.Text.Span
import CardReader.Text.Unprintable
import CardReader.Toml.Document
import CardReader.Toml.Scalar
import CardReader.Toml.Scan
import CardReader.Toml.Text
import CardReader.Toml.Value
import CardReader.World
import CardReader.Proofs.Stid.Answer
import CardReader.Proofs.Stid.Command
import CardReader.Proofs.Channel
import CardReader.Proofs.Stid.Exchange
import CardReader.Proofs.Stid.Session
import CardReader.Proofs.Stid.Authenticity
import CardReader.Proofs.Stid.Handshake
import CardReader.Proofs.Reader
import CardReader.Proofs.Stid.Sealed
import CardReader.Proofs.Stid.Operation
import CardReader.Proofs.Stid.Negotiation
import CardReader.Proofs.Stid.Standing
import CardReader.Proofs.Stid.Wire
import CardReader.Proofs.Bystander
import CardReader.Proofs.Steady
import CardReader.Proofs.Delivery
import CardReader.Proofs.Reader.Operation
import CardReader.Proofs.Reader.Connect
import CardReader.Proofs.Reader.Cards
import CardReader.Proofs.Stid.Parting
import CardReader.Proofs.Rpleth.Csn
import CardReader.Proofs.Access.Basic
import CardReader.Proofs.Access.Cut
import CardReader.Proofs.Access.Place
import CardReader.Proofs.Access.Frames
import CardReader.Proofs.Access.Stid
import CardReader.Proofs.Access.Payloads
import CardReader.Proofs.Access.Csn
import CardReader.Proofs.Access
import CardReader.Proofs.Reader.Swaps
import CardReader.Proofs.Detection
import CardReader.Proofs.Failures
import CardReader.Proofs.Reader.Ports
import CardReader.Proofs.Fleet
import CardReader.Proofs.Osdp.Sequence
import CardReader.Proofs.Lockstep
import CardReader.Proofs.Probing
import CardReader.Proofs.Independence
import CardReader.Proofs.Frame.Capacity
import CardReader.Proofs.Frame.Parity
import CardReader.Proofs.Frame.Bounds
import CardReader.Proofs.Promag.Reply
import CardReader.Proofs.Stid.Reconnect
import CardReader.Proofs.Bytes.Flip
import CardReader.Proofs.Osdp.Layout
import CardReader.Proofs.Osdp.Peer
import CardReader.Proofs.Osdp.Numbering
import CardReader.Proofs.Osdp.Corruption
import CardReader.Proofs.Stid.Corruption
import CardReader.Proofs.Bytes.Remainder
import CardReader.Proofs.Frame.Conservation
import CardReader.Proofs.Frame.Noise
import CardReader.Proofs.Rounds
import CardReader.Proofs.Reader.Looks
import CardReader.Proofs.Reader.Traces
import CardReader.Proofs.Osdp.Busy
import CardReader.Proofs.Stid.Refusal
import CardReader.Proofs.Bytes.Number
import CardReader.Proofs.Bytes.Hex
import CardReader.Proofs.Rpleth.Field
import CardReader.Proofs.Text.Decimal
import CardReader.Proofs.Identifier
import CardReader.Proofs.Stid.Scan
import CardReader.Proofs.Nameless
import CardReader.Proofs.Bytes.Spelling
import CardReader.Proofs.Config.Key
import CardReader.Proofs.Stid.Mode
import CardReader.Proofs.Stid.Cipher
import CardReader.Proofs.Registry
import CardReader.Proofs.Suppression
