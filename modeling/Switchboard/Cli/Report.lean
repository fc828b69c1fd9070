import Switchboard.Router.Basic

/-!
# Texts of the command line

What the program prints about loaded rules and delivered messages.
-/

namespace Switchboard
namespace Cli

/-- A line with a line feed. -/
def lineOf (s : String) : String :=
  s ++ "\n"

/-- The lines about a message: what became of it, and its fields. -/
def messageText (m : Message) : String :=
  let error := match m.error with
    | some text => if text.isEmpty then "" else lineOf ("  error:   " ++ text)
    | none => ""
  let fields := m.fields.map fun (key, value) =>
    lineOf ("  " ++ key ++ " = " ++ value.literalString)
  lineOf ("\nMessage: " ++ m.name) ++
    lineOf ("  handled: " ++ (Value.bool m.handled).plainString) ++
    lineOf ("  result:  " ++ m.result.literalString) ++ error ++ String.join fields

def queuedText (m : Message) : String :=
  lineOf "\nQueued message dispatched:" ++ messageText m

def rulesText (router : Router) : String :=
  let contexts := router.registry.contexts.map fun (name, rules) =>
    lineOf ("  [" ++ name ++ "] " ++ toString rules.length ++ " rule(s)")
  let bindings := router.bindings.map fun d =>
    lineOf ("  " ++ d.messageName ++ " -> " ++ d.contextName ++ " (priority " ++
      d.priority.plainString ++ ")")
  lineOf ("\nRules file: " ++ router.settings.rulesFile.plainString) ++
    lineOf "\nContexts:" ++ String.join contexts ++
    lineOf "\nBindings:" ++
    (if bindings.isEmpty then lineOf "  (none)" else String.join bindings)

/-- The line about a fault that ends the program. -/
def faultText (fault : Fault) : String :=
  lineOf ("\nError: " ++ fault.text)

def modeText : String :=
  lineOf "\nNo mode specified. Use --check, --test or --daemon (see --help)"

def helpText : String :=
  lineOf ("usage: [-h] [--check | --test NAME [FIELD=VALUE ...] | --daemon] " ++
    "[--config PATH] [--rules PATH] [--debug]") ++
  lineOf "\nRule-based message rewriting\n" ++
  lineOf "  --check                 list the contexts and bindings of the rules" ++
  lineOf "  --test NAME [FIELD=VALUE ...]  dispatch one message" ++
  lineOf "  --daemon                dispatch the messages of the input, one a line" ++
  lineOf "  --config PATH           the settings file" ++
  lineOf "  --rules PATH            the rules file" ++
  lineOf "  --debug                 keep all log records"

end Cli
end Switchboard
