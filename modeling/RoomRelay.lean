import RoomRelay.Address
import RoomRelay.Backend
import RoomRelay.Boot
import RoomRelay.Broker
import RoomRelay.Broker.Amqp
import RoomRelay.Broker.Channel
import RoomRelay.Broker.Mock
import RoomRelay.Broker.Nats
import RoomRelay.Broker.Pump
import RoomRelay.Call
import RoomRelay.Confirm
import RoomRelay.Double
import RoomRelay.Event
import RoomRelay.Event.Codec
import RoomRelay.Event.Wire
import RoomRelay.Failure
import RoomRelay.Feed
import RoomRelay.Identity
import RoomRelay.Json
import RoomRelay.Json.Printer
import RoomRelay.Key
import RoomRelay.Log
import RoomRelay.Log.Directive
import RoomRelay.Log.Filter
import RoomRelay.Main
import RoomRelay.Membership
import RoomRelay.Notice
import RoomRelay.Proofs.Broker.Amqp
import RoomRelay.Proofs.Broker.Ledger
import RoomRelay.Proofs.Broker.Lifetime
import RoomRelay.Proofs.Confirm
import RoomRelay.Proofs.Entries
import RoomRelay.Proofs.Event.Codec
import RoomRelay.Proofs.Event.Reading
import RoomRelay.Proofs.Feed
import RoomRelay.Proofs.Identity
import RoomRelay.Proofs.Key.Codec
import RoomRelay.Proofs.Key.Concrete
import RoomRelay.Proofs.Key.Pattern
import RoomRelay.Proofs.Key.Verify
import RoomRelay.Proofs.Relay.Bracketing
import RoomRelay.Proofs.Relay.Passage
import RoomRelay.Proofs.Relay.Streaming
import RoomRelay.Proofs.Retry
import RoomRelay.Proofs.Screen.Backends
import RoomRelay.Proofs.Screen.LastSent
import RoomRelay.Proofs.Screen.Sharing
import RoomRelay.Proofs.Sending.Prefix
import RoomRelay.Proofs.Settings.Demands
import RoomRelay.Proofs.Settings.Leaf
import RoomRelay.Proofs.Settings.Legible
import RoomRelay.Proofs.Settings.Merge
import RoomRelay.Proofs.Settings.Overrides
import RoomRelay.Proofs.Settings.Priority
import RoomRelay.Proofs.Topic.Inclusion
import RoomRelay.Proofs.Validation
import RoomRelay.Proofs.Validation.Rules
import RoomRelay.Proofs.Wire.Field
import RoomRelay.Proofs.World.Advance
import RoomRelay.Proofs.World.Census
import RoomRelay.Proofs.World.Drive
import RoomRelay.Proofs.World.Effects
import RoomRelay.Proofs.World.Happenings
import RoomRelay.Proofs.World.Integrity
import RoomRelay.Proofs.World.Keys
import RoomRelay.Proofs.World.Leases
import RoomRelay.Proofs.World.Lockstep
import RoomRelay.Proofs.World.Neighbours
import RoomRelay.Proofs.World.Opening
import RoomRelay.Proofs.World.Outline
import RoomRelay.Proofs.World.Pace
import RoomRelay.Proofs.World.Pair
import RoomRelay.Proofs.World.Presence
import RoomRelay.Proofs.World.Publishing
import RoomRelay.Proofs.World.Room
import RoomRelay.Proofs.World.Rooms
import RoomRelay.Proofs.World.Sight
import RoomRelay.Proofs.World.Thinning
import RoomRelay.Proofs.World.Withdrawal
import RoomRelay.Relay
import RoomRelay.Retry
import RoomRelay.Screen
import RoomRelay.Screen.Memory
import RoomRelay.Screen.Redis
import RoomRelay.Sending
import RoomRelay.Settings
import RoomRelay.Settings.Load
import RoomRelay.Settings.Overrides
import RoomRelay.Settings.Path
import RoomRelay.Settings.Shape
import RoomRelay.Settings.Strict
import RoomRelay.Settings.Summary
import RoomRelay.Settings.Value
import RoomRelay.Stream
import RoomRelay.Text.Blank
import RoomRelay.Text.Case
import RoomRelay.Text.Elapsed
import RoomRelay.Text.Glyph
import RoomRelay.Text.Hex
import RoomRelay.Text.Letter
import RoomRelay.Text.Number
import RoomRelay.Text.Pattern
import RoomRelay.Text.Quoted
import RoomRelay.Text.Utf8
import RoomRelay.Topic
import RoomRelay.Total
import RoomRelay.Trace
import RoomRelay.Url
import RoomRelay.Validation
import RoomRelay.Wire.Field
import RoomRelay.Wire.Varint
import RoomRelay.Word
import RoomRelay.World
import RoomRelay.Yaml
import RoomRelay.Yaml.Cursor
import RoomRelay.Yaml.Node
import RoomRelay.Yaml.Scalar
import RoomRelay.Yaml.Tag
import RoomRelay.Yaml.Token
