import SlideOverflow.Deck.Line

/-! Plain text, in which the source of an element and the text that is rendered for it can be
compared: links are reduced to their labels, tags and signs of emphasis are dropped, and blanks
become single spaces. -/
namespace SlideOverflow.Deck

open Text

/-- The label of the link or image at the start of a text, and how many characters it takes. -/
def linkAt? (cs : List Char) : Option (List Char × Nat) :=
  let (sign, body) := match cs with
    | '!' :: rest => (1, rest)
    | _ => (0, cs)
  (bracketPair? body).map fun (label, target, _) =>
    (label, sign + label.length + target.length + 4)

/-- Replaces links by their labels; `skip` characters are already taken. -/
def dropLinks : Nat → List Char → List Char
  | _, [] => []
  | skip + 1, _ :: cs => dropLinks skip cs
  | 0, c :: cs =>
    match linkAt? (c :: cs) with
    | some (label, size) => label ++ dropLinks (size - 1) cs
    | none => c :: dropLinks 0 cs

def tagAt? : List Char → Option Nat
  | '<' :: cs =>
    let inside := (cs.takeWhile (· != '>')).length
    if 0 < inside && inside < cs.length then some (inside + 2) else none
  | _ => none

def dropTags : Nat → List Char → List Char
  | _, [] => []
  | skip + 1, _ :: cs => dropTags skip cs
  | 0, c :: cs =>
    match tagAt? (c :: cs) with
    | some size => dropTags (size - 1) cs
    | none => c :: dropTags 0 cs

def dropEmphasis : List Char → List Char
  | '~' :: '~' :: cs => dropEmphasis cs
  | c :: cs =>
    if c == '*' || c == '_' || c == '\x60' then dropEmphasis cs else c :: dropEmphasis cs
  | [] => []

def singleSpaced (cs : List Char) : List Char :=
  [' '].intercalate (words cs)

def plainText (cs : List Char) : List Char :=
  singleSpaced (dropEmphasis (dropTags 0 (dropLinks 0 cs)))

/-- Whether one of two texts continues the other; an empty text agrees with nothing. Rendered text
may be cut short, and may go on with the text of elements inside. -/
def agrees (source rendered : List Char) : Bool :=
  !source.isEmpty && !rendered.isEmpty &&
    (rendered.isPrefixOf source || source.isPrefixOf rendered)

end SlideOverflow.Deck
