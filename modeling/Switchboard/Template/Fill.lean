import Switchboard.Calendar.Layout
import Switchboard.Message
import Switchboard.Template.Chance
import Switchboard.Template.Segment
import Switchboard.Text.Blank

/-!
# Filling templates

A field placeholder is replaced by the command text of the field, a call by its result. There
are three functions: random text, an identifier, and the current moment in a layout. A call of
anything else stands for its own text.
-/

namespace Switchboard

open Calendar Text

/-! ## Calls -/

inductive TemplateFunction
  | random
  | identifier
  | date
  deriving DecidableEq, Repr

namespace TemplateFunction

/-- The function whose name stands at the start of the text, and the rest. -/
def read? (s : List Char) : Option (TemplateFunction × List Char) :=
  match dropLead? ['r', 'a', 'n', 'd', 'o', 'm'] s, dropLead? ['u', 'u', 'i', 'd'] s,
    dropLead? ['d', 'a', 't', 'e'] s with
  | some rest, _, _ => some (.random, rest)
  | none, some rest, _ => some (.identifier, rest)
  | none, none, some rest => some (.date, rest)
  | none, none, none => none

end TemplateFunction

def dropEquals : List Char → List Char
  | '=' :: rest => rest
  | rest => rest

def separatesArguments (c : Char) : Bool :=
  c == ' ' || c == ','

/-- The arguments behind the name of a function: separated by commas, without blanks around. -/
def callArguments (s : List Char) : List (List Char) :=
  let args := dropEquals (s.dropWhile separatesArguments)
  if args.isEmpty then [] else (splitAll ',' args).map strip

/-- The text of a moment in a layout; without a layout its ISO text up to seconds. -/
def dateText (now : Moment) (layout : List Char) : List Char :=
  if layout.isEmpty then now.secondsText else layoutText layout now

def callFunction (source : Source) (args : List (List Char)) (draws : Draws) :
    TemplateFunction → List Char × Draws
  | .random => drawText source (join [' '] args) draws
  | .identifier => issueIdentifier draws
  | .date => (dateText source.now (join [',', ' '] args), draws)

def callText (source : Source) (payload : List Char) (draws : Draws) : List Char × Draws :=
  match TemplateFunction.read? (dropEquals payload) with
  | some (f, rest) => callFunction source (callArguments rest) draws f
  | none => (payload, draws)

/-! ## Templates -/

/-- The text of a field; an integer of too many digits has none. -/
def fieldText (m : Message) (name : List Char) : Except Fault (List Char) :=
  let value := m.get (String.ofList name)
  if value.isWritable then .ok value.commandText else .error (.tooManyDigits none)

def segmentText (source : Source) (m : Message) (draws : Draws) :
    Segment → Except Fault (List Char) × Draws
  | .literal text => (.ok text, draws)
  | .place .field name => (fieldText m name, draws)
  | .place .call payload =>
    let (text, after) := callText source payload draws
    (.ok text, after)

/-- The text of segments, filled from left to right. -/
def segmentsText (source : Source) (m : Message) :
    List Segment → Draws → Except Fault (List Char) × Draws
  | [], draws => (.ok [], draws)
  | segment :: rest, draws =>
    match segmentText source m draws segment with
    | (.error fault, draws) => (.error fault, draws)
    | (.ok head, draws) =>
      match segmentsText source m rest draws with
      | (.error fault, draws) => (.error fault, draws)
      | (.ok tail, draws) => (.ok (head ++ tail), draws)

/-- The text of a template. What a placeholder gives is not scanned again. -/
def fillTemplate (source : Source) (m : Message) (template : List Char) (draws : Draws) :
    Except Fault (List Char) × Draws :=
  segmentsText source m (Segment.segments template) draws

end Switchboard
