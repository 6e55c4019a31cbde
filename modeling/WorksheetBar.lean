import WorksheetBar.Config
import WorksheetBar.Control
import WorksheetBar.Journal
import WorksheetBar.Text.CodePoints
import WorksheetBar.Text.Utf8
import WorksheetBar.Number.Binary64
import WorksheetBar.Number.Shortest
import WorksheetBar.Json.Basic
import WorksheetBar.Json.Printer
import WorksheetBar.Json.Fault
import WorksheetBar.Json.Node
import WorksheetBar.Text.Quoted
import WorksheetBar.Json.Reader
import WorksheetBar.Worksheet
import WorksheetBar.Profile
import WorksheetBar.Session
import WorksheetBar.Popup
import WorksheetBar.Shell.Action
import WorksheetBar.Shell.Basic
import WorksheetBar.Shell.Step
import WorksheetBar.Shell.View
import WorksheetBar.Profile.Envelope
import WorksheetBar.Http.Exchange
import WorksheetBar.Profile.Fetch
import WorksheetBar.Dispatch
import WorksheetBar.Host.Event
import WorksheetBar.Host.Basic
import WorksheetBar.Host.Apply
import WorksheetBar.Host.Background
import WorksheetBar.Text.Digits
import WorksheetBar.Text.Punycode
import WorksheetBar.Http.Url.Address
import WorksheetBar.Http.Url.Basic
import WorksheetBar.Http.Url.Parser
import WorksheetBar.Http.Client
import WorksheetBar.Toml.Basic
import WorksheetBar.Toml.Draft
import WorksheetBar.Toml.Quote
import WorksheetBar.Toml.Scalar
import WorksheetBar.Toml.Reader
import WorksheetBar.Config.File
import WorksheetBar.Command.Options
import WorksheetBar.Command.Program
import WorksheetBar.Terminal.Area
import WorksheetBar.Terminal.Cursor
import WorksheetBar.Terminal.Palette
import WorksheetBar.Text.Cluster
import WorksheetBar.Text.Width
import WorksheetBar.Terminal.Bar
import WorksheetBar.Terminal.Basic
import WorksheetBar.Terminal.Screen
import WorksheetBar.Terminal.Picture
import WorksheetBar.Command.Demand
import WorksheetBar.Http.Message
import WorksheetBar.Terminal.Ansi
import WorksheetBar.Main
import WorksheetBar.Proofs.Asks
import WorksheetBar.Proofs.Errand
import WorksheetBar.Proofs.ShellRun
import WorksheetBar.Proofs.SessionIsolation
import WorksheetBar.Proofs.JournalHistory
import WorksheetBar.Proofs.Notes
import WorksheetBar.Proofs.HostEffects
import WorksheetBar.Proofs.HostBackground
import WorksheetBar.Proofs.JournalEntries
import WorksheetBar.Proofs.OneRequest
import WorksheetBar.Proofs.Attendance
import WorksheetBar.Proofs.LostRequests
import WorksheetBar.Proofs.Settling
import WorksheetBar.Proofs.Readiness
import WorksheetBar.Proofs.SettleOutcome
import WorksheetBar.Proofs.NoRetry
import WorksheetBar.Proofs.Popups
import WorksheetBar.Proofs.ConfirmedNames
import WorksheetBar.Proofs.SignedOut
import WorksheetBar.Proofs.AnswerTiming
import WorksheetBar.Proofs.Cues
import WorksheetBar.Proofs.Pictures
import WorksheetBar.Proofs.Stories
import WorksheetBar.Proofs.Mirror
import WorksheetBar.Proofs.Ledger
import WorksheetBar.Proofs.PostedCommands
import WorksheetBar.Proofs.Repaints
import WorksheetBar.Proofs.Silence
import WorksheetBar.Proofs.Mounting
import WorksheetBar.Proofs.OnePopup
import WorksheetBar.Proofs.SigningOut
import WorksheetBar.Proofs.Reaping
import WorksheetBar.Proofs.WorksheetNames
import WorksheetBar.Proofs.Activation
import WorksheetBar.Proofs.TerminalRuns
import WorksheetBar.Proofs.Selection
import WorksheetBar.Proofs.Dispatched
import WorksheetBar.Proofs.Typing
import WorksheetBar.Proofs.EncodedText
import WorksheetBar.Proofs.QuotedStrings
import WorksheetBar.Proofs.CommandBodies
import WorksheetBar.Proofs.OptionGrammar
import WorksheetBar.Proofs.Requests
import WorksheetBar.Proofs.NewWorksheets
import WorksheetBar.Proofs.PassedOver
import WorksheetBar.Proofs.FullReadings
import WorksheetBar.Proofs.ProfileEnvelope
import WorksheetBar.Proofs.HeldProfiles
import WorksheetBar.Proofs.PathResolution
import WorksheetBar.Proofs.SessionCookie
import WorksheetBar.Proofs.JournalReaders
import WorksheetBar.Proofs.DistinctNames
import WorksheetBar.Proofs.ConfigDefaults
import WorksheetBar.Proofs.MenuPlacement
import WorksheetBar.Proofs.BarColumns
import WorksheetBar.Proofs.DrawnBar
