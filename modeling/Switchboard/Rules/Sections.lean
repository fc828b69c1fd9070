import Switchboard.Rules.Rule

/-!
# Sections

A rules file is cut into sections at its headers. Blank lines and comments are dropped, every
other line belongs to the section of the last header, and a repeated header continues its
section. The section of installations is there always and comes first.
-/

namespace Switchboard

open Text

/-- The lines of every section. -/
abbrev Sections := Entries (List (List Char))

/-- The section of the lines that bind messages to contexts. -/
def installSection : String :=
  "install"

inductive LineKind
  | header (name : String)
  | skipped
  | content
  deriving DecidableEq, Repr

namespace LineKind

/-- The name in brackets at the start of the text. -/
def headerName? : List Char → Option String
  | '[' :: body =>
    let name := body.takeWhile isNameChar
    match body.dropWhile isNameChar with
    | ']' :: _ => if name.isEmpty then none else some (String.ofList name)
    | _ => none
  | _ => none

/-- Whether nothing or a comment is at the start of the text. -/
def isSkipped : List Char → Bool
  | [] => true
  | c :: _ => c == ';' || c == '#'

/-- What a line is; blanks before it do not count. -/
def ofLine (line : List Char) : LineKind :=
  let body := stripStart line
  match headerName? body with
  | some name => .header name
  | none => if isSkipped body then .skipped else .content

end LineKind

namespace Sections

/-- Adds an empty section unless it is there. -/
def opened (name : String) (sections : Sections) : Sections :=
  if sections.has name then sections else sections.set name []

def linesOf (sections : Sections) (name : String) : List (List Char) :=
  (sections.get? name).getD []

def append (name : String) (line : List Char) (sections : Sections) : Sections :=
  sections.set name (sections.linesOf name ++ [line])

def strayWarning (number : Nat) (line : List Char) : Event :=
  .log .warning .rules
    ("Line " ++ toString number ++ " is outside any section, ignored: " ++
      String.ofList (quoted line))

/-- Sorts lines into sections; the lines are numbered from `number` on, and `current` is the
section of the last header. -/
def sortLines (number : Nat) (current : Option String) (sections : Sections) :
    List (List Char) → Sections × List Event
  | [] => (sections, [])
  | line :: rest =>
    match LineKind.ofLine line, current with
    | .header name, _ => sortLines (number + 1) (some name) (opened name sections) rest
    | .skipped, _ => sortLines (number + 1) current sections rest
    | .content, some name => sortLines (number + 1) current (append name line sections) rest
    | .content, none =>
      let (sections, events) := sortLines (number + 1) current sections rest
      (sections, strayWarning number line :: events)

/-- Nothing but the section of installations. -/
def initial : Sections :=
  [(installSection, [])]

/-- The sections of a text, with the warnings about it. -/
def parse (text : List Char) : Sections × List Event :=
  sortLines 1 none initial (lines text)

end Sections
end Switchboard
