import SlideOverflow.Metadata.Fault

/-! Tokens of a metadata text. -/
namespace SlideOverflow.Metadata

inductive ScalarStyle where
  | plain
  | singleQuoted
  | doubleQuoted
  | literal
  | folded
deriving DecidableEq, Repr

inductive Directive where
  | version (major minor : Nat)
  | handle (name expansion : String)
  | unknown
deriving DecidableEq, Repr

/-- What a token stands for. A tag is written as a handle and what follows it, or in full. -/
inductive TokenBody where
  | directive (d : Directive)
  | documentStart
  | documentEnd
  | streamEnd
  | sequenceStart
  | mappingStart
  | blockEnd
  | openBracket
  | openBrace
  | closeBracket
  | closeBrace
  | key
  | value
  | entry
  | comma
  | alias (name : String)
  | anchor (name : String)
  | tag (handle : Option String) (rest : String)
  | scalar (style : ScalarStyle) (text : Text.Codes)
deriving DecidableEq, Repr

def TokenBody.kind : TokenBody → TokenKind
  | .directive _ => .directive
  | .documentStart => .documentStart
  | .documentEnd => .documentEnd
  | .streamEnd => .streamEnd
  | .sequenceStart => .sequenceStart
  | .mappingStart => .mappingStart
  | .blockEnd => .blockEnd
  | .openBracket => .openBracket
  | .openBrace => .openBrace
  | .closeBracket => .closeBracket
  | .closeBrace => .closeBrace
  | .key => .key
  | .value => .value
  | .entry => .entry
  | .comma => .comma
  | .alias _ => .alias
  | .anchor _ => .anchor
  | .tag _ _ => .tag
  | .scalar _ _ => .scalar

structure Token where
  body : TokenBody
  place : Position
deriving DecidableEq, Repr

def Token.kind (t : Token) : TokenKind := t.body.kind

def Cursor.stop {α : Type} (c : Cursor) (task : Task) (begun : Position) (cause : Cause) :
    Except Stop α :=
  .error (.fault (.during task begun cause c.place))

end SlideOverflow.Metadata
