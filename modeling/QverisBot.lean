import QverisBot.Js
import QverisBot.Js.Number
import QverisBot.Channels.MessageActions
import QverisBot.Channels.Dispatch
import QverisBot.Channels.ActionList
import QverisBot.Cron.DeliveryTarget
import QverisBot.Cron.DeliveryResolution
import QverisBot.Node.Path
import QverisBot.Migrate.Manifest
import QverisBot.Migrate.Import
import QverisBot.Migrate.Redact
import QverisBot.Json
import QverisBot.Json.Stringify
import QverisBot.Hooks.SmartMemory.Classify
import QverisBot.Hooks.SmartMemory.Handler
import QverisBot.Hooks.SmartMemory.Proofs
import QverisBot.Hooks.RollingMemory
import QverisBot.Hooks.RollingSummary
import QverisBot.Hooks.MemoryHooks
import QverisBot.Migrate.Place
import QverisBot.Migrate.Progress
import QverisBot.Hooks.Redelivery
import QverisBot.Migrate.Sessions
import QverisBot.Migrate.Export
import QverisBot.Agents.ContextFilter
import QverisBot.Tools.QverisError
import QverisBot.Tools.QverisSearch
import QverisBot.Matrix.Logging
