import Switchboard.Entries
import Switchboard.Fault
import Switchboard.Text.Split
import Switchboard.Text.Utf8

/-!
# Files

Paths, and a store of files and directories below the working directory. A path is kept without
empty parts and single dots; double dots are followed when the store is asked.
-/

namespace Switchboard

open Text

/-! ## Paths -/

/-- A path: the slashes at its start, and the parts behind them. -/
structure Path where
  root : List Char
  parts : List (List Char)
  deriving DecidableEq, Repr, Inhabited

namespace Path

/-- The slashes at the start of a path: one, or exactly two. -/
def rootOf (s : List Char) : List Char :=
  let slashes := s.takeWhile (· == '/')
  if slashes.length = 2 then ['/', '/'] else if slashes.isEmpty then [] else ['/']

/-- Whether a part of a path counts. -/
def isPart (part : List Char) : Bool :=
  !part.isEmpty && part != ['.']

def ofText (s : List Char) : Path :=
  ⟨rootOf s, (splitAll '/' s).filter isPart⟩

def ofString (s : String) : Path :=
  ofText s.toList

/-- The text of a path; the path without parts is a dot. -/
def text (p : Path) : List Char :=
  if p.root.isEmpty && p.parts.isEmpty then ['.'] else p.root ++ join ['/'] p.parts

def string (p : Path) : String :=
  String.ofList p.text

/-- A path below a path; a path with a root stands for itself. -/
def append (p q : Path) : Path :=
  if q.root.isEmpty then ⟨p.root, p.parts ++ q.parts⟩ else q

def parent (p : Path) : Path :=
  ⟨p.root, p.parts.dropLast⟩

/-- Whether a character of code 0 is in a path. Nothing has such a path. -/
def hasNull (p : Path) : Bool :=
  p.text.contains '\x00'

/-- Refuses a path with a character of code 0 in it. -/
def refuseNull (p : Path) : Except Fault Unit :=
  if p.hasNull then .error (.badValue "embedded null byte") else .ok ()

end Path

/-! ## The store -/

/-- What a path can lead to: a file or a directory, a directory in which nothing can be made, and a
file or a directory that may not be used at all. -/
inductive FileNode
  | file (bytes : List UInt8)
  | directory
  | sealed
  | barred (isDirectory : Bool)
  deriving Repr, Inhabited

namespace FileNode

def isDirectory : FileNode → Bool
  | .directory | .sealed | .barred true => true
  | .file _ | .barred false => false

end FileNode

/-- Files and directories by their parts below the working directory, in the order of creation. -/
abbrev FileStore := List (List (List Char) × FileNode)

namespace FileStore

/-- A place that a path leads to: below the working directory, or outside of it. -/
inductive Place
  | inside (parts : List (List Char))
  | above
  deriving DecidableEq, Repr

def nodeAt? (store : FileStore) (parts : List (List Char)) : Option FileNode :=
  if parts.isEmpty then some .directory
  else
    match store.find? (·.1 == parts) with
    | some (_, node) => some node
    | none => none

/-- The parts of the root directory, in a store that knows it. -/
def rootParts : List (List Char) := [['/']]

/-- The place that contains a directory. The root directory contains itself. -/
def outer (here : List (List Char)) : Place :=
  if here.isEmpty then .above else if here = rootParts then .inside here else .inside here.dropLast

/-- The bytes that a name may have at the most. -/
def nameLimit : Nat := 255

/-- The bytes that a path may have at the most. -/
def pathLimit : Nat := 4095

/-- Why a name cannot be looked up in a place, by what is there. -/
def lookupFlaw? (name : List Char) : Option FileNode → Option FileFlaw
  | none => some .missing
  | some (.file _) | some (.barred false) => some .notADirectory
  | some (.barred true) => some .notPermitted
  | some .directory | some .sealed =>
    if nameLimit < (encode name).length then some .nameTooLong else none

/-- Follows parts from a directory on. Outside of the working directory nothing is known but the
directories above it. -/
def follow (store : FileStore) : Place → List (List Char) → Except FileFlaw Place
  | place, [] => .ok place
  | .above, part :: rest =>
    if part = ['.', '.'] then follow store .above rest
    else .error ((lookupFlaw? part (some .directory)).getD .missing)
  | .inside here, part :: rest =>
    match lookupFlaw? part (store.nodeAt? here) with
    | some flaw => .error flaw
    | none =>
      if part = ['.', '.'] then follow store (outer here) rest
      else follow store (.inside (here ++ [part])) rest

def startOf (store : FileStore) (p : Path) : Place :=
  if p.root.isEmpty then .inside []
  else if (store.nodeAt? rootParts).isSome then .inside rootParts
  else .above

def place (store : FileStore) (p : Path) : Except FileFlaw Place :=
  if p.hasNull then .error .missing
  else if pathLimit < (encode p.text).length then .error .nameTooLong
  else follow store (store.startOf p) p.parts

def node (store : FileStore) (p : Path) : Except FileFlaw FileNode :=
  match store.place p with
  | .error flaw => .error flaw
  | .ok .above => .ok .directory
  | .ok (.inside parts) =>
    match store.nodeAt? parts with
    | some node => .ok node
    | none => .error .missing

/-- Whether a path leads to anything, if that can be told. -/
def has (store : FileStore) (p : Path) : Except FileFlaw Bool :=
  match store.node p with
  | .ok _ => .ok true
  | .error .missing => .ok false
  | .error .notADirectory => .ok false
  | .error flaw => .error flaw

def isDirectory (store : FileStore) (p : Path) : Bool :=
  match store.node p with
  | .ok node => node.isDirectory
  | .error _ => false

def readBytes (store : FileStore) (p : Path) : Except FileFlaw (List UInt8) :=
  match store.node p with
  | .ok (.file bytes) => .ok bytes
  | .ok (.barred _) => .error .notPermitted
  | .ok _ => .error .isADirectory
  | .error flaw => .error flaw

inductive ReadFlaw
  | file (flaw : FileFlaw)
  | encoding (flaw : Flaw)
  deriving DecidableEq, Repr

/-- Text with every line break of another system as a line feed. -/
def unifyLineBreaks : List Char → List Char
  | [] => []
  | '\r' :: '\n' :: rest => '\n' :: unifyLineBreaks rest
  | '\r' :: rest => '\n' :: unifyLineBreaks rest
  | c :: rest => c :: unifyLineBreaks rest

def readText (store : FileStore) (p : Path) : Except ReadFlaw (List Char) :=
  match store.readBytes p with
  | .error flaw => .error (.file flaw)
  | .ok bytes =>
    match decode bytes with
    | .error flaw => .error (.encoding flaw)
    | .ok text => .ok (unifyLineBreaks text)

/-! ## Changes -/

def setNode (store : FileStore) (parts : List (List Char)) (node : FileNode) : FileStore :=
  if store.any (·.1 == parts) then
    store.map fun (k, old) => if k = parts then (k, node) else (k, old)
  else store ++ [(parts, node)]

/-- Makes something where nothing is. -/
def make (store : FileStore) (parts : List (List Char)) (node : FileNode) :
    Except FileFlaw FileStore :=
  match store.nodeAt? parts.dropLast with
  | some .sealed => .error .notPermitted
  | _ => .ok (store.setNode parts node)

/-- Creates a directory in a directory that is there. -/
def makeOne (store : FileStore) (p : Path) : Except FileFlaw FileStore :=
  match store.place p with
  | .error flaw => .error flaw
  | .ok .above => .error .exists
  | .ok (.inside parts) =>
    match store.nodeAt? parts with
    | some _ => .error .exists
    | none => store.make parts .directory

/-- Creates a directory and those that contain it; each takes a call of the room. A directory that
is there already is left as it is. -/
def makeDirectory (store : FileStore) (p : Path) : Nat → Except Fault FileStore
  | 0 => .error .tooDeep
  | room + 1 =>
    match store.makeOne p with
    | .ok store => .ok store
    | .error .missing =>
      if p.parts.isEmpty then .error (.file .missing p.string)
      else
        match makeDirectory store p.parent room with
        | .error fault => .error fault
        | .ok store =>
          match store.makeOne p with
          | .ok store => .ok store
          | .error flaw =>
            if store.isDirectory p then .ok store else .error (.file flaw p.string)
    | .error flaw => if store.isDirectory p then .ok store else .error (.file flaw p.string)

def makeDirectories (store : FileStore) (p : Path) : Except Fault FileStore :=
  store.makeDirectory p callRoom

/-- Writes a file, which replaces the one that was there. -/
def writeBytes (store : FileStore) (p : Path) (bytes : List UInt8) : Except FileFlaw FileStore :=
  match store.place p with
  | .error flaw => .error flaw
  | .ok .above => .error .isADirectory
  | .ok (.inside parts) =>
    match store.nodeAt? parts with
    | none => store.make parts (.file bytes)
    | some (.file _) => .ok (store.setNode parts (.file bytes))
    | some (.barred false) => .error .notPermitted
    | some _ => .error .isADirectory

/-- Puts a file into the store together with the directories that contain it. -/
def put (store : FileStore) (p : Path) (bytes : List UInt8) : FileStore :=
  let made := match store.makeDirectories p.parent with
    | .ok store => store
    | .error _ => store
  match made.writeBytes p bytes with
  | .ok store => store
  | .error _ => made

def remove (store : FileStore) (p : Path) : FileStore :=
  match store.place p with
  | .ok (.inside parts) => store.filter fun (k, _) => k != parts
  | _ => store

end FileStore
end Switchboard
