import Switchboard.Text.Split

/-!
# Segments of templates

A template is text with placeholders: a field name in braces or a call in parentheses, each
behind a dollar sign. `Segment.segments` cuts a template in one scan. An empty placeholder gives
no segment, and a placeholder that is not closed turns the rest of the template into text.
-/

namespace Switchboard

inductive Placeholder
  | field
  | call
  deriving DecidableEq, Repr

namespace Placeholder

def opener : Placeholder → Char
  | .field => '\x7b'
  | .call => '('

def closer : Placeholder → Char
  | .field => '\x7d'
  | .call => ')'

def ofOpener? (c : Char) : Option Placeholder :=
  if c = '\x7b' then some .field else if c = '(' then some .call else none

end Placeholder

inductive Segment
  | literal (text : List Char)
  | place (kind : Placeholder) (payload : List Char)
  deriving DecidableEq, Repr

namespace Segment

/-- The segment of a text, unless it is empty; the text comes in reverse order. -/
def ofLiteral (reversed : List Char) : List Segment :=
  if reversed.isEmpty then [] else [.literal reversed.reverse]

/-- The segment of a placeholder, unless it is empty; its payload comes in reverse order. -/
def ofPayload (kind : Placeholder) (reversed : List Char) : List Segment :=
  if reversed.isEmpty then [] else [.place kind reversed.reverse]

/-- Scans a template. The text since the last placeholder and the payload of an open placeholder
are kept in reverse order. -/
def scan (literal : List Char) : Option (Placeholder × List Char) → List Char → List Segment
  | none, [] => ofLiteral literal
  | none, '$' :: c :: rest =>
    match Placeholder.ofOpener? c with
    | some kind => scan literal (some (kind, [])) rest
    | none => scan ('$' :: literal) none (c :: rest)
  | none, c :: rest => scan (c :: literal) none rest
  -- what is not closed is text, with the dollar sign and the bracket
  | some (kind, payload), [] => ofLiteral (payload ++ kind.opener :: '$' :: literal)
  | some (kind, payload), c :: rest =>
    if c = kind.closer then ofLiteral literal ++ ofPayload kind payload ++ scan [] none rest
    else scan literal (some (kind, c :: payload)) rest

def segments (template : List Char) : List Segment :=
  scan [] none template

/-- The text that a segment was cut from. -/
def text : Segment → List Char
  | .literal text => text
  | .place kind payload => '$' :: kind.opener :: payload ++ [kind.closer]

end Segment
end Switchboard
