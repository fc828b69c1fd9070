import Switchboard.Main
import Switchboard.Proofs.Evaluation.Chaining
import Switchboard.Proofs.Evaluation.Escapes
import Switchboard.Proofs.Evaluation.NamedFields
import Switchboard.Proofs.Evaluation.ShortCircuit
import Switchboard.Proofs.Router.FailedLoads
import Switchboard.Settings.Save
import Switchboard.Proofs.Command.Losslessness
import Switchboard.Proofs.Command.Rendering
import Switchboard.Proofs.Command.Parameters
import Switchboard.Proofs.Command.Expression
import Switchboard.Proofs.Evaluation.WiderGuards
import Switchboard.Proofs.Router.PublishedContexts
import Switchboard.Proofs.Bus.LiveInstalls
import Switchboard.Proofs.Cli.Daemon
import Switchboard.Proofs.Bus.RefusedInstalls
import Switchboard.Proofs.Command.FinalSemicolon
import Switchboard.Proofs.Pattern.Nesting
import Switchboard.Proofs.Template.Captures
import Switchboard.Proofs.Template.Composition
import Switchboard.Proofs.Rules.Directives
import Switchboard.Proofs.Router.ReloadCommand
import Switchboard.Proofs.Router.ShutDown
import Switchboard.Proofs.Router.Layout
import Switchboard.Proofs.Evaluation.Growth
import Switchboard.Proofs.Evaluation.Submissions
import Switchboard.Proofs.Evaluation.Jumps
import Switchboard.Proofs.Evaluation.IdleRules
import Switchboard.Proofs.Value.Copies
import Switchboard.Proofs.Calendar.IsoText
import Switchboard.Proofs.Message.Records
import Switchboard.Proofs.Files.Store
import Switchboard.Proofs.Yaml.Writing
import Switchboard.Proofs.Except
import Switchboard.Proofs.Settings.Assignments
import Switchboard.Proofs.Settings.Faults
