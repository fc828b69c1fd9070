import Switchboard.Router.Basic
import Switchboard.Value.Equal

/-!
# Loading rules

Rules are read and compiled completely before the loaded ones are taken off the bus (`prepare`);
then the new ones take their place (`commit`). Rules that cannot be read leave the loaded ones
in place.
-/

namespace Switchboard
namespace Router

/-! ## Unloading -/

def bindingNote (what : String) (d : Directive) : Event :=
  .info [.text "Regexp", .text d.messageName, .text ("message has been " ++ what),
    .text d.contextName]

/-- Takes the handlers of the message of a binding off the bus. -/
def unbind (router : Router) (d : Directive) : Router :=
  let (_, bus) := router.bus.uninstallAll d.messageName
  { router with bus := bus }.absorb (bindingNote "uninstalled from context" d)

/-- Takes all bindings off the bus and drops the rules. -/
def unload (router : Router) : Router :=
  let router := router.bindings.foldl unbind router
  { router with bindings := [], registry := Registry.empty, sections := Sections.initial }

/-! ## Preparing -/

/-- Rules that are ready to take the place of the loaded ones. -/
structure Plan where
  sections : Sections
  registry : Registry
  directives : List Directive

def malformedWarning (line : List Char) : Event :=
  .log .warning .rules
    ("Malformed install line ignored: " ++ String.ofList (Text.quoted line))

/-- The directives of lines up to the first that is refused, with warnings about malformed
ones. -/
def readDirectives (default : Value) :
    List (List Char) → List Event × Except Fault (List Directive)
  | [] => ([], .ok [])
  | line :: rest =>
    match Directive.parse default line with
    | .error fault => ([], .error fault)
    | .ok none =>
      let (events, directives) := readDirectives default rest
      (malformedWarning line :: events, directives)
    | .ok (some d) =>
      let (events, directives) := readDirectives default rest
      (events, directives.map (d :: ·))

/-- Reads and compiles rules. -/
def prepare (router : Router) (text : List Char) : List Event × Except Fault Plan :=
  let (sections, strays) := Sections.parse text
  match Registry.build (router.serial + 1) router.limits sections with
  | (warnings, .error fault) => (strays ++ warnings, .error fault)
  | (warnings, .ok registry) =>
    let lines := sections.linesOf installSection
    let (more, directives) := readDirectives router.settings.defaultPriority lines
    (strays ++ warnings ++ more, directives.map fun ds => ⟨sections, registry, ds⟩)

/-! ## Committing -/

/-- Puts a binding on the bus; one whose context does not exist is skipped. -/
def bind (router : Router) (d : Directive) : Except Fault Router × Router :=
  match router.context? d.contextName with
  | none => (.ok router, router)
  | some context =>
    match router.install d.messageName (some (.context context)) d.priority with
    -- the bus may hold the context by now, but the binding is not noted
    | (.error fault, router) => (.error fault, router)
    | (.ok _, router) =>
      let router := { router with bindings := router.bindings ++ [d] }
      let router := router.absorb (bindingNote "installed to context" d)
      (.ok router, router)

/-- Puts bindings on the bus up to the first that is refused. -/
def bindAll (router : Router) : List Directive → Option Fault × Router
  | [] => (none, router)
  | d :: rest =>
    match router.bind d with
    | (.error fault, router) => (some fault, router)
    | (.ok router, _) => router.bindAll rest

def loadedRecord (router : Router) (source : String) : Event :=
  .log .info .rules
    ("Loaded " ++ toString router.registry.contexts.length ++ " context(s) and " ++
      toString router.bindings.length ++ " binding(s) from " ++ source)

/-- Puts prepared rules in the place of the loaded ones. -/
def commit (router : Router) (plan : Plan) (source : String) : Except Fault Sections × Router :=
  -- from here on the former rules are gone, even if a binding is refused
  let router := router.unload
  let router :=
    { router with sections := plan.sections, registry := plan.registry, serial := plan.registry.serial }
  match router.bindAll plan.directives with
  | (some fault, router) => (.error fault, router)
  | (none, router) => (.ok plan.sections, router.absorb (router.loadedRecord source))

/-- Loads rules from text; `source` is the name by which the log knows it. -/
def loadText (router : Router) (text : List Char) (source : String) :
    Except Fault Sections × Router :=
  match router.prepare text with
  | (events, .error fault) => (.error fault, router.absorbAll events)
  | (events, .ok plan) => (router.absorbAll events).commit plan source

/-! ## Rules files -/

/-- The path of the rules file: the given one, or that of the settings. -/
def rulesPath (router : Router) (path? : Option String) : Except Fault Path :=
  match path?, router.settings.rulesFile with
  | some path, setting =>
    if path.isEmpty then
      match setting with
      | .text s => .ok (Path.ofString s)
      | value => .error (.misfit (.notPath value.kindName))
    else .ok (Path.ofString path)
  | none, .text s => .ok (Path.ofString s)
  | none, value => .error (.misfit (.notPath value.kindName))

def readFlawText (path : String) : FileStore.ReadFlaw → String
  | .file flaw => flaw.text path
  | .encoding flaw => Fault.undecodableText flaw

def unreadable (path : String) (flaw : FileStore.ReadFlaw) : Fault :=
  Fault.report .settings ("Failed to read rules file: " ++ readFlawText path flaw)
    [("path", path)]

def readRules (around : Surroundings) (path : Path) : Except Fault (List Char) :=
  if path.text.contains '\x00' then .error (.badValue "embedded null byte")
  else (around.store.readText path).mapError (unreadable path.string)

def load (router : Router) (around : Surroundings) (path? : Option String) :
    Except Fault Sections × Router :=
  match router.rulesPath path? with
  | .error fault => (.error fault, router)
  | .ok path =>
    match readRules around path with
    | .error fault => (.error fault, router)
    | .ok text => router.loadText text path.string

/-- Loads the rules file of the settings. -/
def reload (router : Router) (around : Surroundings) : Except Fault Sections × Router :=
  match router.settings.rulesFile with
  | .text s => router.load around (some s)
  | _ => router.load around none

/-! ## Hooks -/

/-- What is left when a reload by command failed: a fault of the program's own is recorded on the
message, in the log and on the error channel. -/
def reloadFailed (router : Router) (m : Message) (fault : Fault) : Bus.Response × Router :=
  if fault.isReported then
    let router := router.absorbAll
      [.log .error .rules ("Reload failed: " ++ fault.text), .error [.text fault.text]]
    (⟨{ m with error := some fault.text }, none, none⟩, router)
  else (⟨m, none, some fault⟩, router)

/-- Whether a message is the command to load the rules file again. -/
def isReloadCommand (router : Router) (m : Message) : Bool :=
  (m.get "line").equals router.settings.reloadCommand

/-- The message that a reload answers; a setting that cannot be written is no result. -/
def announceReload (router : Router) (m : Message) : Except Fault Message :=
  if router.settings.rulesFile.isWritable then
    .ok { m with result := .text ("loading " ++ router.settings.rulesFile.plainString) }
  else .error (.tooManyDigits none)

/-- Answers the command to load the rules file again; any other message is left as it is. -/
def onCommand (router : Router) (around : Surroundings) (m : Message) :
    Bus.Response × Router :=
  if router.isReloadCommand m then
    let m := { m with handled := true }
    match router.announceReload m with
    | .error fault => (⟨m, none, some fault⟩, router)
    | .ok m =>
      match router.reload around with
      | (.ok _, router) => (⟨m, none, none⟩, router)
      | (.error fault, router) => router.reloadFailed m fault
  else (⟨m, none, none⟩, router)

/-- Drops the rules before the program ends. -/
def onHalt (router : Router) (m : Message) : Bus.Response × Router :=
  (⟨m, none, none⟩, router.unload)

def isSettingsFault : Fault → Bool
  | .reported .settings _ => true
  | _ => false

def messageName (value : Value) : String :=
  value.plainString

/-- Loads the rules file for a start; whether it could be read is the answer. -/
def startRules (router : Router) (around : Surroundings) : Except Fault Bool × Router :=
  match router.load around none with
  | (.ok _, router) => (.ok true, router.absorb (.info [.text "Regexp module started."]))
  | (.error fault, router) =>
    if isSettingsFault fault then
      (.ok false, router.absorbAll
        [.log .error .rules ("Rules not loaded: " ++ fault.text), .error [.text fault.text]])
    else (.error fault, router)

def startUp (router : Router) (around : Surroundings) : Except Fault Bool × Router :=
  let s := router.settings
  match router.install (messageName s.commandMessage) (some .commandHook) s.commandPriority with
  | (.error fault, router) => (.error fault, router)
  | (.ok _, router) =>
    match router.install (messageName s.haltMessage) (some .haltHook) s.commandPriority with
    | (.error fault, router) => (.error fault, router)
    | (.ok _, router) => router.startRules around

/-- Drops the rules and removes the hooks. -/
def shutDown (router : Router) : Router :=
  let router := router.unload
  let (_, router) :=
    router.uninstall (messageName router.settings.commandMessage) (some .commandHook)
  (router.uninstall (messageName router.settings.haltMessage) (some .haltHook)).2

end Router
end Switchboard
