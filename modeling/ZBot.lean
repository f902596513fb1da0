import ZBot.Js.Text
import ZBot.Js.Table
import ZBot.Js.Value
import ZBot.Js.Program
import ZBot.Js.TwoRuns
import ZBot.Js.Packing
import ZBot.Js.Split
import ZBot.Js.Merge
import ZBot.Js.Ledger
import ZBot.Js.Store
import ZBot.Model.Discord
import ZBot.Model.Printer
import ZBot.Model.Rcon
import ZBot.Model.Admin
import ZBot.Model.Chat
import ZBot.Model.Bot
import ZBot.Model.System
import ZBot.Model.Process
import ZBot.Verify.Effects
import ZBot.Verify.Methods
import ZBot.Verify.Link
import ZBot.Verify.Filling
import ZBot.Verify.Instances
import ZBot.Verify.Cron
import ZBot.Verify.Registry
import ZBot.Verify.Config
import ZBot.Verify.Speech
import ZBot.Verify.Servers
import ZBot.Verify.Reload
import ZBot.Verify.Tenant
import ZBot.Verify.Noninterference
import ZBot.Verify.Startup
import ZBot.Verify.Apply
import ZBot.Verify.Reconnect
import ZBot.Verify.Gate
import ZBot.Verify.Dispatch
import ZBot.Verify.Feedback
import ZBot.Verify.Printers
import ZBot.Verify.Defaults
import ZBot.Verify.Routing
import ZBot.Verify.Blocks
import ZBot.Verify.Players
import ZBot.Verify.Replies
import ZBot.Verify.Handlers
import ZBot.Verify.Phase
import ZBot.Verify.Origin
import ZBot.Verify.Life
import ZBot.Verify.Provenance
import ZBot.Verify.FanOut
import ZBot.Verify.Usage
import ZBot.Verify.Process
import ZBot.Verify.Output
import ZBot.Verify.Requests
import ZBot.Verify.Stored
import ZBot.Verify.PlayerTable
