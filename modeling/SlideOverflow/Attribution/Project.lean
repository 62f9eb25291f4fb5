import SlideOverflow.Attribution.Source
import SlideOverflow.Text.Utf8

/-! Projects: directories that hold the source of a presentation. A candidate is a path from the
directory. Single dots and repeated or final slashes in it do not count, and two dots lead out of a
directory. -/
namespace SlideOverflow.Attribution

open Text

inductive Entry where
  | directory
  | file (octets : List Nat)
deriving DecidableEq, Repr

abbrev Steps := List (List Char)

/-- The steps of a path as it is written; empty steps and single dots do not count. -/
def stepsOf (path : String) : Steps :=
  (path.toList.splitOn '/').filter fun s => !s.isEmpty && s != ['.']

def longestStep : Nat := 255

def longestPath : Nat := 4094

/-- A directory: its path, and the entries in it at any depth by their paths. -/
structure Project where
  path : String
  entries : List (String × Entry)
deriving Repr

def unifyLineEnds : List Char → List Char
  | '\r' :: '\n' :: cs => '\n' :: unifyLineEnds cs
  | '\r' :: cs => '\n' :: unifyLineEnds cs
  | c :: cs => c :: unifyLineEnds cs
  | [] => []

namespace Project

/-- The entry at the end of some steps; a directory too where an entry lies further on. -/
def entryAt (p : Project) (steps : Steps) : Option Entry :=
  match p.entries.find? fun e => stepsOf e.1 == steps with
  | some e => some e.2
  | none => if p.entries.any fun e => steps.isPrefixOf (stepsOf e.1) then some .directory else none

def isDirectory (p : Project) (steps : Steps) : Bool :=
  steps.isEmpty || p.entryAt steps == some .directory

/-- What is reached by further steps from a place in the project, unless one of them is too long to
be looked up. Nothing is known of what lies outside of the project. -/
def follow (p : Project) (place : Steps) : Steps → Outcome (Option Entry)
  | [] => .ok (if place.isEmpty then some .directory else p.entryAt place)
  | step :: steps =>
    if !p.isDirectory place then .ok none
    else if step == ['.', '.'] then
      if place.isEmpty then .ok none else p.follow place.dropLast steps
    else if longestStep < (String.ofList step).utf8ByteSize then Outcome.reject .longPath
    else p.follow (place ++ [step]) steps

/-- What a candidate leads to; nothing when it begins at the root of all paths or holds a null,
which no path does. -/
def find? (p : Project) (name : String) : Outcome (Option Entry) :=
  let steps := stepsOf name
  if name.toList.head? == some '/' || name.toList.contains '\x00' then .ok none
  else if longestPath < (String.ofList (['/'].intercalate steps)).utf8ByteSize then
    Outcome.reject .longPath
  else p.follow [] steps

def pathOf (p : Project) (name : String) : String :=
  (stepsOf name).foldl (fun path step => path ++ "/" ++ String.ofList step) p.path

def load (p : Project) (settings : Settings) (candidates : List String) :
    Outcome Source × List LogEntry :=
  go candidates
where
  go : List String → Outcome Source × List LogEntry
    | [] => (.error (.noSource p.path candidates), [])
    | name :: names =>
      match p.find? name with
      | .error e => (.error e, [])
      | .ok (some (.file octets)) =>
        match Utf8.decode octets with
        | .ok text =>
          let (result, log) := Source.read settings name (unifyLineEnds text)
          (result, .note 1 ("Loaded presentation source " ++ p.pathOf name) :: log)
        | .error fault =>
          let (result, log) := go names
          (result, .note 2 ("Could not read " ++ p.pathOf name ++ ": " ++ fault.message) :: log)
      | _ => go names

end Project

end SlideOverflow.Attribution
