import HomeHub.Bridge.Accessory
import HomeHub.Bridge.Basic
import HomeHub.Bridge.Characteristic
import HomeHub.Bridge.Config
import HomeHub.Bridge.Filter
import HomeHub.Bridge.Switch
import HomeHub.Bus
import HomeHub.Color.Chromaticity
import HomeHub.Color.Hue
import HomeHub.Color.Scalar
import HomeHub.Color.Temperature
import HomeHub.Configuration
import HomeHub.Context
import HomeHub.Decimal.Reading
import HomeHub.Decimal.Shortest
import HomeHub.Decimal.Style
import HomeHub.Decoding.Error
import HomeHub.Decoding.Layout
import HomeHub.Duration
import HomeHub.EntityId.Basic
import HomeHub.EntityId.Generate
import HomeHub.Event
import HomeHub.Gateway.Command
import HomeHub.Gateway.Config
import HomeHub.Gateway.Device
import HomeHub.Gateway.Fleet
import HomeHub.Gateway.Lamp
import HomeHub.Gateway.Observation
import HomeHub.Gateway.Response
import HomeHub.Gateway.RetryPolicy
import HomeHub.Gateway.Scale
import HomeHub.Gateway.Setup
import HomeHub.Hub
import HomeHub.Json.Basic
import HomeHub.Json.Compact
import HomeHub.Json.Decode
import HomeHub.Json.Reader
import HomeHub.Light.Component
import HomeHub.Light.Params
import HomeHub.Light.View
import HomeHub.Proofs.Bridge.Build
import HomeHub.Proofs.Bridge.Calls
import HomeHub.Proofs.Bridge.Config
import HomeHub.Proofs.Bridge.Filter
import HomeHub.Proofs.Bridge.Formats
import HomeHub.Proofs.Bridge.House
import HomeHub.Proofs.Bridge.Isolation
import HomeHub.Proofs.Bridge.Lag
import HomeHub.Proofs.Bridge.Mirror
import HomeHub.Proofs.Bridge.Numbering
import HomeHub.Proofs.Bridge.Order
import HomeHub.Proofs.Bridge.Outcome
import HomeHub.Proofs.Bridge.Rejection
import HomeHub.Proofs.Bridge.Services
import HomeHub.Proofs.Bridge.Start
import HomeHub.Proofs.Bridge.Switch
import HomeHub.Proofs.Bus.Backlog
import HomeHub.Proofs.Bus.Delivery
import HomeHub.Proofs.Bus.Unread
import HomeHub.Proofs.Color.Hue
import HomeHub.Proofs.Color.Scalar
import HomeHub.Proofs.Color.Temperature
import HomeHub.Proofs.Configuration
import HomeHub.Proofs.Decoding.Layout
import HomeHub.Proofs.EntityId.FirstFree
import HomeHub.Proofs.EntityId.Generate
import HomeHub.Proofs.EntityId.Grammar
import HomeHub.Proofs.EntityId.Order
import HomeHub.Proofs.EntityId.RoundTrip
import HomeHub.Proofs.EntityId.TextOrder
import HomeHub.Proofs.Gateway.Address
import HomeHub.Proofs.Gateway.Backoff
import HomeHub.Proofs.Gateway.Cache
import HomeHub.Proofs.Gateway.Coherence
import HomeHub.Proofs.Gateway.Config
import HomeHub.Proofs.Gateway.Discovery
import HomeHub.Proofs.Gateway.Job
import HomeHub.Proofs.Gateway.Observation
import HomeHub.Proofs.Gateway.Plan
import HomeHub.Proofs.Gateway.Reader
import HomeHub.Proofs.Gateway.Report
import HomeHub.Proofs.Gateway.Scale
import HomeHub.Proofs.Gateway.Setup
import HomeHub.Proofs.Gateway.Shown
import HomeHub.Proofs.Gateway.Streak
import HomeHub.Proofs.Gateway.TurnOn
import HomeHub.Proofs.Gateway.Wire
import HomeHub.Proofs.Hub.Evolution
import HomeHub.Proofs.Hub.History
import HomeHub.Proofs.Hub.Log
import HomeHub.Proofs.Hub.Tidings
import HomeHub.Proofs.Hub.Write
import HomeHub.Proofs.Json.Quoted
import HomeHub.Proofs.Json.RoundTrip
import HomeHub.Proofs.Light.Add
import HomeHub.Proofs.Light.Attributes
import HomeHub.Proofs.Light.Dispatch
import HomeHub.Proofs.Light.Show
import HomeHub.Proofs.Service.Registry
import HomeHub.Proofs.Settings
import HomeHub.Proofs.State.RoundTrip
import HomeHub.Proofs.Table
import HomeHub.Proofs.Text.Digits
import HomeHub.Proofs.Text.Runs
import HomeHub.Proofs.Text.Slug
import HomeHub.Proofs.Timestamp.RoundTrip
import HomeHub.Proofs.Yaml.Decode
import HomeHub.Scenario.Accessories
import HomeHub.Scenario.Events
import HomeHub.Scenario.Gateway
import HomeHub.Scenario.Lighting
import HomeHub.Scenario.Lights
import HomeHub.Scenario.Report
import HomeHub.Scenario.Service
import HomeHub.Scenario.Watch
import HomeHub.Scenario.World
import HomeHub.Service.Call
import HomeHub.Service.Registry
import HomeHub.Settings
import HomeHub.Startup
import HomeHub.State.Basic
import HomeHub.State.Change
import HomeHub.Surroundings
import HomeHub.Table
import HomeHub.Text.Blank
import HomeHub.Text.Digits
import HomeHub.Text.Printable
import HomeHub.Text.Quoted
import HomeHub.Text.Shown
import HomeHub.Text.Slug
import HomeHub.Timestamp.Basic
import HomeHub.Timestamp.Text
import HomeHub.Ulid
import HomeHub.Yaml.Cursor
import HomeHub.Yaml.Decode
import HomeHub.Yaml.Document
import HomeHub.Yaml.Node
import HomeHub.Yaml.Node.Grammar
import HomeHub.Yaml.Number
import HomeHub.Yaml.Tag
import HomeHub.Yaml.Token
import HomeHub.Yaml.Token.Block
import HomeHub.Yaml.Token.Gap
import HomeHub.Yaml.Token.Lexer
import HomeHub.Yaml.Token.Plain
import HomeHub.Yaml.Token.Quoted
import HomeHub.Yaml.Token.Tag
import HomeHub.Yaml.Value
import HomeHub.Main
