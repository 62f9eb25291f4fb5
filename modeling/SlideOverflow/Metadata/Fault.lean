import SlideOverflow.Failure
import SlideOverflow.Metadata.Cursor
import SlideOverflow.Text.Codes
import SlideOverflow.Text.Utf8

/-! What can be wrong with a metadata text: causes, what was being read at the time, and the two
wordings, a short one that names the problem and a long one that shows the place. -/
namespace SlideOverflow.Metadata

open Text

inductive TokenKind where
  | directive
  | documentStart
  | documentEnd
  | streamEnd
  | sequenceStart
  | mappingStart
  | blockEnd
  | openBracket
  | openBrace
  | closeBracket
  | closeBrace
  | key
  | value
  | entry
  | comma
  | alias
  | anchor
  | tag
  | scalar
deriving DecidableEq, Repr

def TokenKind.name : TokenKind → String
  | .directive => "<directive>"
  | .documentStart => "<document start>"
  | .documentEnd => "<document end>"
  | .streamEnd => "<stream end>"
  | .sequenceStart => "<block sequence start>"
  | .mappingStart => "<block mapping start>"
  | .blockEnd => "<block end>"
  | .openBracket => "["
  | .openBrace => "\x7b"
  | .closeBracket => "]"
  | .closeBrace => "\x7d"
  | .key => "?"
  | .value => ":"
  | .entry => "-"
  | .comma => ","
  | .alias => "<alias>"
  | .anchor => "<anchor>"
  | .tag => "<tag>"
  | .scalar => "<scalar>"

inductive NodeKind where
  | scalar
  | sequence
  | mapping
deriving DecidableEq, Repr

def NodeKind.name : NodeKind → String
  | .scalar => "scalar"
  | .sequence => "sequence"
  | .mapping => "mapping"

/-- Why a metadata text cannot be read. A character that is part of a cause is the one found in
place of what was expected. -/
inductive Cause where
  | illegalCharacter (code : Nat)
  | noToken (found : Char)
  | noColon
  | entryNotAllowed
  | keyNotAllowed
  | valueNotAllowed
  | noName (found : Char)
  | noDigit (found : Char)
  | noDigitOrDot (found : Char)
  | noDigitOrSpace (found : Char)
  | noSpace (found : Char)
  | noLineEnd (found : Char)
  | noTagClose (found : Char)
  | noHandle (found : Char)
  | noAddress (found : Char)
  | noAddressEscape (found : Char)
  | badEscapedText (fault : Utf8.Fault)
  | indentOfZero
  | noIndicator (found : Char)
  | noHexDigits (count : Nat) (found : Char)
  | unknownEscape (found : Char)
  | endInQuotes
  | markerInQuotes
  | repeatedVersion
  | otherVersion
  | repeatedHandle (handle : String)
  | undefinedHandle (handle : String)
  | noDocumentStart (found : TokenKind)
  | noContent (found : TokenKind)
  | noBlockEnd (found : TokenKind)
  | noSequenceEnd (found : TokenKind)
  | noMappingEnd (found : TokenKind)
  | undefinedAlias (name : String)
  | repeatedAnchor
  | secondDocument
  | unknownTag (tag : String)
  | unhashableKey
  | noScalar (found : NodeKind)
  | noSequence (found : NodeKind)
  | noMapping (found : NodeKind)
  | noMerge (found : NodeKind)
  | noMergePart (found : NodeKind)
  | noItems (found : NodeKind)
  | noSingleItem (found : NodeKind)
  | manyItems (count : Nat)
  | noAscii (text : Codes)
  | oddOctets (count : Nat)
  | badPadding
deriving DecidableEq, Repr

/-- Where an encoder that knows ASCII only stops: the first run of other code points. -/
def asciiFault (text : Codes) : String :=
  let before := (text.points.takeWhile (· < 128)).length
  let run := (text.points.drop before).takeWhile (128 ≤ ·)
  let place (n : Nat) := String.ofList (Nat.toDigits 10 n)
  let what :=
    match run with
    | [n] => "character '" ++ String.ofList (escapeCode n) ++ "' in position " ++ place before
    | _ => "characters in position " ++ place before ++ "-" ++ place (before + run.length - 1)
  "'ascii' codec can't encode " ++ what ++ ": ordinal not in range(128)"

private def quotedName (name : String) : String :=
  String.ofList (quoted name.toList)

private def decimal (n : Nat) : String :=
  String.ofList (Nat.toDigits 10 n)

def Cause.problem : Cause → String
  | .illegalCharacter code =>
    "unacceptable character #x" ++ String.ofList (hexDigits 4 code) ++
      ": special characters are not allowed"
  | .noToken c => "found character " ++ quotedChar c ++ " that cannot start any token"
  | .noColon => "could not find expected ':'"
  | .entryNotAllowed => "sequence entries are not allowed here"
  | .keyNotAllowed => "mapping keys are not allowed here"
  | .valueNotAllowed => "mapping values are not allowed here"
  | .noName c => "expected alphabetic or numeric character, but found " ++ quotedChar c
  | .noDigit c => "expected a digit, but found " ++ quotedChar c
  | .noDigitOrDot c => "expected a digit or '.', but found " ++ quotedChar c
  | .noDigitOrSpace c => "expected a digit or ' ', but found " ++ quotedChar c
  | .noSpace c => "expected ' ', but found " ++ quotedChar c
  | .noLineEnd c => "expected a comment or a line break, but found " ++ quotedChar c
  | .noTagClose c => "expected '>', but found " ++ quotedChar c
  | .noHandle c => "expected '!', but found " ++ quotedChar c
  | .noAddress c => "expected URI, but found " ++ quotedChar c
  | .noAddressEscape c =>
    "expected URI escape sequence of 2 hexadecimal numbers, but found " ++ quotedChar c
  | .badEscapedText fault => fault.message
  | .indentOfZero => "expected indentation indicator in the range 1-9, but found 0"
  | .noIndicator c => "expected chomping or indentation indicators, but found " ++ quotedChar c
  | .noHexDigits count c =>
    "expected escape sequence of " ++ decimal count ++ " hexadecimal numbers, but found " ++
      quotedChar c
  | .unknownEscape c => "found unknown escape character " ++ quotedChar c
  | .endInQuotes => "found unexpected end of stream"
  | .markerInQuotes => "found unexpected document separator"
  | .repeatedVersion => "found duplicate YAML directive"
  | .otherVersion => "found incompatible YAML document (version 1.* is required)"
  | .repeatedHandle handle => "duplicate tag handle " ++ quotedName handle
  | .undefinedHandle handle => "found undefined tag handle " ++ quotedName handle
  | .noDocumentStart found => "expected '<document start>', but found " ++ quotedName found.name
  | .noContent found => "expected the node content, but found " ++ quotedName found.name
  | .noBlockEnd found => "expected <block end>, but found " ++ quotedName found.name
  | .noSequenceEnd found => "expected ',' or ']', but got " ++ quotedName found.name
  | .noMappingEnd found => "expected ',' or '\x7d', but got " ++ quotedName found.name
  | .undefinedAlias name => "found undefined alias " ++ quotedName name
  | .repeatedAnchor => "second occurrence"
  | .secondDocument => "but found another document"
  | .unknownTag tag => "could not determine a constructor for the tag " ++ quotedName tag
  | .unhashableKey => "found unhashable key"
  | .noScalar found => "expected a scalar node, but found " ++ found.name
  | .noSequence found => "expected a sequence node, but found " ++ found.name
  | .noMapping found => "expected a mapping node, but found " ++ found.name
  | .noMerge found =>
    "expected a mapping or list of mappings for merging, but found " ++ found.name
  | .noMergePart found => "expected a mapping for merging, but found " ++ found.name
  | .noItems found => "expected a sequence, but found " ++ found.name
  | .noSingleItem found => "expected a mapping of length 1, but found " ++ found.name
  | .manyItems count => "expected a single mapping item, but found " ++ decimal count ++ " items"
  | .noAscii text => "failed to convert base64 data into ascii: " ++ asciiFault text
  | .oddOctets count =>
    "failed to decode base64 data: Invalid base64-encoded string: number of data characters (" ++
      decimal count ++ ") cannot be 1 more than a multiple of 4"
  | .badPadding => "failed to decode base64 data: Incorrect padding"

inductive Task where
  | nextToken
  | simpleKey
  | scanDirective
  | parseDirective
  | scanAlias
  | scanAnchor
  | scanTag
  | parseTag
  | blockScalar
  | doubleQuoted
  | quotedScalar
  | node
  | blockNode
  | flowNode
  | blockCollection
  | blockMapping
  | flowSequence
  | flowMapping
  | firstAnchor (name : String)
  | singleDocument
  | mapping
  | orderedMap
  | pairs
deriving DecidableEq, Repr

def Task.text : Task → String
  | .nextToken => "while scanning for the next token"
  | .simpleKey => "while scanning a simple key"
  | .scanDirective => "while scanning a directive"
  | .parseDirective => "while parsing a directive"
  | .scanAlias => "while scanning an alias"
  | .scanAnchor => "while scanning an anchor"
  | .scanTag => "while scanning a tag"
  | .parseTag => "while parsing a tag"
  | .blockScalar => "while scanning a block scalar"
  | .doubleQuoted => "while scanning a double-quoted scalar"
  | .quotedScalar => "while scanning a quoted scalar"
  | .node => "while parsing a node"
  | .blockNode => "while parsing a block node"
  | .flowNode => "while parsing a flow node"
  | .blockCollection => "while parsing a block collection"
  | .blockMapping => "while parsing a block mapping"
  | .flowSequence => "while parsing a flow sequence"
  | .flowMapping => "while parsing a flow mapping"
  | .firstAnchor name => "found duplicate anchor " ++ quotedName name ++ "; first occurrence"
  | .singleDocument => "expected a single document in the stream"
  | .mapping => "while constructing a mapping"
  | .orderedMap => "while constructing an ordered map"
  | .pairs => "while constructing pairs"

structure Fault where
  cause : Cause
  place : Position
  task : Option Task
  begun : Option Position
deriving DecidableEq, Repr

namespace Fault

def plain (cause : Cause) (place : Position) : Fault :=
  ⟨cause, place, none, none⟩

def during (task : Task) (begun : Position) (cause : Cause) (place : Position) : Fault :=
  ⟨cause, place, some task, some begun⟩

def excerptReach : Nat := 37

def excerpt (text : List Char) (index : Nat) : List Char :=
  let inLine (c : Char) : Bool := !(isLineEnd c)
  let left := ((text.take index).reverse.takeWhile inLine)
  let right := (text.drop index).takeWhile inLine
  let (head, left) :=
    if excerptReach ≤ left.length then (" ... ".toList, left.take (excerptReach - 5))
    else ([], left)
  let (tail, right) :=
    if excerptReach ≤ right.length then (" ... ".toList, right.take (excerptReach - 5))
    else ([], right)
  List.replicate 4 ' ' ++ head ++ left.reverse ++ right ++ tail ++ '\n' ::
    List.replicate (4 + left.length + head.length) ' ' ++ ['^']

def placeText (text : List Char) (p : Position) : String :=
  "  in \"<unicode string>\", line " ++ decimal (p.line + 1) ++ ", column " ++
    decimal (p.column + 1) ++ ":\n" ++ String.ofList (excerpt text p.index)

/-- The fault in full, over several lines. The place where the task began is left out when it is
the place of the fault. -/
def report (text : List Char) (f : Fault) : String :=
  match f.cause with
  | .illegalCharacter _ =>
    f.cause.problem ++ "\n  in \"<unicode string>\", position " ++ decimal f.place.index
  | _ =>
    let task := f.task.toList.map Task.text
    let begun := (f.begun.filter fun p => (p.line, p.column) != (f.place.line, f.place.column))
      |>.toList.map (placeText text)
    "\n".intercalate (task ++ begun ++ [f.cause.problem, placeText text f.place])

end Fault

inductive Stop where
  | fault (f : Fault)
  | defect (d : Defect)
deriving DecidableEq, Repr

end SlideOverflow.Metadata
