import CommandWire.Connection
import CommandWire.Field.BasicType
import CommandWire.Proofs.Command.Collection
import CommandWire.Proofs.Command.Freshness
import CommandWire.Proofs.Command.IndexFigures
import CommandWire.Proofs.Dispatch.Delivery
import CommandWire.Proofs.Dispatch.Disabled
import CommandWire.Proofs.Dispatch.Metrics
import CommandWire.Proofs.Dispatch.Result
import CommandWire.Proofs.Dispatch.Spelling
import CommandWire.Proofs.Index.Setting
import CommandWire.Proofs.Member.RoundTrip
import CommandWire.Proofs.Message.Remainder
import CommandWire.Proofs.Narrowing
import CommandWire.Settings
import CommandWire.Proofs.Message.Segment
import CommandWire.Proofs.Message.Reading
import CommandWire.Proofs.Message.PartialQuery
import CommandWire.Proofs.Command.FreshnessByDate
import CommandWire.Proofs.Field.Refusal
import CommandWire.Proofs.Address.Grammar
import CommandWire.Proofs.Dispatch.Handshake
import CommandWire.Proofs.Message.Header
import CommandWire.Proofs.Field.RoundTrip
import CommandWire.Proofs.Command.IsMaster
import CommandWire.Proofs.Connection
import CommandWire.Proofs.Field.Building
import CommandWire.Proofs.Dispatch.Revision
