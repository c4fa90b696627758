import StageAtlas.Application.Frame
import StageAtlas.Application.Input
import StageAtlas.Application.State
import StageAtlas.Application.View
import StageAtlas.Binary.Arithmetic
import StageAtlas.Binary.Basic
import StageAtlas.Binary.Decimal
import StageAtlas.Binary.Written
import StageAtlas.Explorer.Detail
import StageAtlas.Explorer.State
import StageAtlas.Failure
import StageAtlas.Json.Basic
import StageAtlas.Json.Numeral
import StageAtlas.Json.Reader
import StageAtlas.Json.Writer
import StageAtlas.Keyed
import StageAtlas.Loader.Bridge
import StageAtlas.Loader.Document
import StageAtlas.Loader.Worker
import StageAtlas.Main
import StageAtlas.Path
import StageAtlas.Pipeline.Descriptor
import StageAtlas.Pipeline.Graph
import StageAtlas.Pipeline.Identity
import StageAtlas.Pipeline.Overview
import StageAtlas.Pipeline.References
import StageAtlas.Preferences.Basic
import StageAtlas.Preferences.Document
import StageAtlas.Preferences.Storage
import StageAtlas.Program.Basic
import StageAtlas.Program.Decode
import StageAtlas.Program.Encode
import StageAtlas.Program.Registry
import StageAtlas.Proofs.Application.Account
import StageAtlas.Proofs.History
import StageAtlas.Proofs.Json.RoundTrip
import StageAtlas.Proofs.Loader.DocumentText
import StageAtlas.Proofs.Pipeline.Order
import StageAtlas.Proofs.Program.Canonical
import StageAtlas.Proofs.Program.Parts
import StageAtlas.Proofs.Session.Coherence
import StageAtlas.Session
import StageAtlas.Storage.Disk
import StageAtlas.Storage.Library
import StageAtlas.Text.Blank
import StageAtlas.Text.Location
import StageAtlas.Text.Quoted
import StageAtlas.Text.Upper
import StageAtlas.Toml.Basic
import StageAtlas.Toml.DateTime
import StageAtlas.Toml.Draft
import StageAtlas.Toml.Number
import StageAtlas.Toml.Reader
import StageAtlas.Toml.Text
import StageAtlas.Toml.Writer
import StageAtlas.View.Canvas.Drawing
import StageAtlas.View.Canvas.Frame
import StageAtlas.View.Canvas.Layout
import StageAtlas.View.Color
import StageAtlas.View.DetailPanel
import StageAtlas.View.Geometry
import StageAtlas.View.Label
import StageAtlas.View.MenuBar
import StageAtlas.View.OverviewPage
import StageAtlas.View.Request
import StageAtlas.View.StatusBar
import StageAtlas.Proofs.Explorer.Decisions
import StageAtlas.Proofs.Pipeline.Groups
import StageAtlas.Proofs.Loader.Exchange
import StageAtlas.Proofs.Application.Pending
import StageAtlas.Proofs.Loader.Progress
import StageAtlas.Proofs.Program.Entries
import StageAtlas.Proofs.Pipeline.Places
import StageAtlas.Proofs.Session.Lookups
import StageAtlas.Proofs.Session.Locality
import StageAtlas.Proofs.Session.Counts
import StageAtlas.Proofs.Json.Grammar
import StageAtlas.Proofs.Json.Tokens
import StageAtlas.Proofs.Json.Acceptance
import StageAtlas.Proofs.Loader.Interpretation
import StageAtlas.Proofs.Pipeline.Chain
import StageAtlas.Proofs.Program.Rearrangement
import StageAtlas.Proofs.Json.Repetition
import StageAtlas.Proofs.Loader.Repetition
import StageAtlas.Proofs.Binary.Rounding
import StageAtlas.Proofs.Binary.Shortest
import StageAtlas.Proofs.Toml.Numbers
import StageAtlas.Proofs.Toml.Strings
import StageAtlas.Proofs.Toml.Documents
import StageAtlas.Proofs.Storage.Files
import StageAtlas.Proofs.Preferences.Keeping
import StageAtlas.Proofs.View.Requests
import StageAtlas.Proofs.Application.Legality
import StageAtlas.Proofs.Loader.Service
import StageAtlas.Proofs.Session.ParserLines
import StageAtlas.Proofs.Session.TableCards
import StageAtlas.Proofs.Explorer.Changes
import StageAtlas.Proofs.Preferences.Sanitizing
import StageAtlas.Proofs.Preferences.Sections
import StageAtlas.Proofs.Program.Labels
import StageAtlas.Proofs.Toml.Omission
import StageAtlas.Proofs.Toml.Deletion
import StageAtlas.Proofs.Preferences.Independence
import StageAtlas.Proofs.View.Clicks
import StageAtlas.Proofs.View.Placement
import StageAtlas.Proofs.Binary.Accuracy
import StageAtlas.Proofs.Pipeline.EdgeTexts
import StageAtlas.Proofs.View.Spacing
import StageAtlas.Proofs.Contexts
import StageAtlas.Proofs.Program.Listings
import StageAtlas.Proofs.Program.Widths
