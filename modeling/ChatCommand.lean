import ChatCommand.Main
import ChatCommand.Proofs.Command.Acceptance
import ChatCommand.Proofs.Command.CustomPattern
import ChatCommand.Proofs.Command.Names
import ChatCommand.Proofs.Command.Recognition
import ChatCommand.Proofs.Registry.Namespace
import ChatCommand.Proofs.Service.HelpPrecedence
import ChatCommand.Proofs.Service.HelpOutput
import ChatCommand.Proofs.Service.OperatorGate
import ChatCommand.Proofs.Service.Refusal
import ChatCommand.Proofs.Service.Building
import ChatCommand.Proofs.Command.Invocation
import ChatCommand.Proofs.Command.TextArgument
import ChatCommand.Proofs.Registry.Reordering
import ChatCommand.Proofs.Registry.Dispatch
import ChatCommand.Proofs.Registry.Arrival
import ChatCommand.Proofs.Registry.Independence
import ChatCommand.Proofs.Settings.Merge
import ChatCommand.Proofs.Settings.Reading
import ChatCommand.Proofs.Settings.Layers
import ChatCommand.Proofs.Settings.RoundTrip
import ChatCommand.Proofs.Settings.Priority
import ChatCommand.Proofs.Settings.Override
import ChatCommand.Proofs.Log.EffectiveLevel
import ChatCommand.Proofs.Number.Decimal
import ChatCommand.Proofs.Command.Access
import ChatCommand.Proofs.Command.TypedValue
import ChatCommand.Proofs.Settings.Defaults
import ChatCommand.Proofs.Settings.Unread
import ChatCommand.Proofs.Bot.Dice
import ChatCommand.Proofs.Bot.Registered
import ChatCommand.Proofs.Bot.Rolls
