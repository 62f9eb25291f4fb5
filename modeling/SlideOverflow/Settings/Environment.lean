import SlideOverflow.Json.Reader
import SlideOverflow.Settings.Basic

/-! Settings from environment variables. Each variable is named after its setting, in any mixture of
capitals and small letters. Lists are written as lists of texts in brackets. All unusable values are
reported together, except a list that cannot be read at all. -/
namespace SlideOverflow.Settings

open Number Text

inductive Complaint where
  | notNumber
  | notInteger
  | tooLong
  | notBoolean
  | notList
  | notText
  /-- A text that holds half of a pair of code units. -/
  | brokenText
  | notAbove (bound : Int)
  | below (bound : Int)
deriving DecidableEq, Repr

def Complaint.name : Complaint → String
  | .notNumber => "float_parsing"
  | .notInteger => "int_parsing"
  | .tooLong => "int_parsing_size"
  | .notBoolean => "bool_parsing"
  | .notList => "list_type"
  | .notText => "string_type"
  | .brokenText => "string_unicode"
  | .notAbove _ => "greater_than"
  | .below _ => "greater_than_equal"

def Complaint.message : Complaint → String
  | .notNumber => "Input should be a valid number, unable to parse string as a number"
  | .notInteger => "Input should be a valid integer, unable to parse string as an integer"
  | .tooLong => "Unable to parse input string as an integer, exceeded maximum size"
  | .notBoolean => "Input should be a valid boolean, unable to interpret input"
  | .notList => "Input should be a valid list"
  | .notText => "Input should be a valid string"
  | .brokenText =>
    "Input should be a valid string, unable to parse raw data as a unicode string"
  | .notAbove bound => "Input should be greater than " ++ String.ofList (intText bound)
  | .below bound =>
    "Input should be greater than or equal to " ++ String.ofList (intText bound)

structure Problem where
  setting : String
  item : Option Nat
  complaint : Complaint
deriving DecidableEq, Repr

inductive EnvironmentError where
  | unreadableList (setting : String)
  | invalid (problems : List Problem)
deriving DecidableEq, Repr

def EnvironmentError.message : EnvironmentError → String
  | .unreadableList setting =>
    "error parsing value for field \"" ++ setting ++ "\" from source \"EnvSettingsSource\""
  | .invalid _ => ""

/-! ### Values -/

/-- The blanks that may surround a number in a variable: those with the property White_Space. -/
def isOuterSpace (c : Char) : Bool := isBlank c && !(28 ≤ c.toNat && c.toNat ≤ 31)

private def bare (cs : List Char) : List Char :=
  dropEndWhile isOuterSpace (cs.dropWhile isOuterSpace)

/-- The text without underscores; none when one stands at an end or next to another. -/
def dropUnderscores? (cs : List Char) : Option (List Char) :=
  if cs.head? == some '_' || cs.getLast? == some '_' || occursIn ['_', '_'] cs then none
  else some (cs.filter (· != '_'))

def plainFloat? (cs : List Char) : Option Float :=
  let (negative, cs) := takeSign cs
  let word := String.ofList (cs.map Char.toLower)
  if word == "inf" || word == "infinity" then some (if negative then -(1 / 0) else 1 / 0)
  else if word == "nan" then some (0 / 0)
  else (readDecimal? cs).map fun (ds, exponent) => ofDecimal negative ds exponent

/-- A double; underscores are accepted where no blanks surround it. -/
def readDouble (cs : List Char) : Except Complaint Float :=
  match plainFloat? (bare cs) with
  | some x => .ok x
  | none =>
    match (dropUnderscores? cs).bind plainFloat? with
    | some x => .ok x
    | none => .error .notNumber

/-- The text without leading zeros and the underscores among them. A zero stays where nothing or a
point follows. None when the text does not begin with a digit or a minus, or when something else
follows the zeros. -/
def dropLeadingZeros? : List Char → Option (List Char)
  | [] => none
  | '0' :: cs =>
    let zeros := ('0' :: cs).takeWhile fun c => c == '0' || c == '_'
    match cs.dropWhile fun c => c == '0' || c == '_' with
    | [] => zeros.getLast?.map ([·])
    | '.' :: rest => zeros.getLast?.map (· :: '.' :: rest)
    | c :: rest => if isDigitOf 10 c || c == '-' then some (c :: rest) else none
  | c :: cs => if isDigitOf 10 c || c == '-' then some (c :: cs) else none

def dropZeroFraction (cs : List Char) : List Char :=
  match cs.dropWhile (· != '.') with
  | '.' :: '0' :: zeros => if zeros.all (· == '0') then cs.takeWhile (· != '.') else cs
  | _ => cs

/-- A whole number in its plain form: a minus or none, then a zero or digits that begin with none.
A row of digits that is too long is refused as such, whatever follows it; the minus counts too. -/
def plainInteger (cs : List Char) : Except Complaint Int :=
  let (negative, ds) := match cs with
    | '-' :: rest => (true, rest)
    | _ => (false, cs)
  match ds with
  | ['0'] => .ok 0
  | '0' :: _ => .error .notInteger
  | _ =>
    let row := ds.takeWhile (isDigitOf 10)
    if row.isEmpty then .error .notInteger
    else if digitLimit < row.length + (if negative then 1 else 0) then .error .tooLong
    else if row.length < ds.length then .error .notInteger
    else .ok (if negative then -(positional 10 ds) else positional 10 ds)

/-- The plain form of a whole number that has blanks around it, a plus, leading zeros, a fraction of
zeros or underscores between its digits. -/
def plainForm? (cs : List Char) : Option (List Char) := do
  let cs ← match bare cs with
    | '+' :: '-' :: _ => none
    | '+' :: rest => dropLeadingZeros? rest
    | '-' :: rest => (dropLeadingZeros? rest).map ('-' :: ·)
    | cs => dropLeadingZeros? cs
  let cs := dropZeroFraction cs
  return (dropUnderscores? cs).getD cs

def readInteger (cs : List Char) : Except Complaint Int :=
  match plainInteger cs with
  | .error .notInteger =>
    match plainForm? cs with
    | some cs => plainInteger cs
    | none => .error .notInteger
  | result => result

def readBoolean (cs : List Char) : Except Complaint Bool :=
  let word := String.ofList (cs.map Char.toLower)
  if ["0", "f", "n", "no", "off", "false"].contains word then .ok false
  else if ["1", "t", "y", "on", "yes", "true"].contains word then .ok true
  else .error .notBoolean

/-! ### Settings -/

/-- Variables with names in small letters; of several variables of one name the last counts. -/
abbrev Environment := List (String × String)

def variableStem : String := "slidefit_"

private def lowerChar (c : Char) : Char := if c == '\u212A' then 'k' else c.toLower

def Environment.lowered (env : Environment) : Environment :=
  env.map fun v => (String.ofList (v.1.toList.map lowerChar), v.2)

def Environment.given? (env : Environment) (setting : String) : Option (List Char) :=
  ((env.lowered.reverse.find? fun v => v.1 == variableStem ++ setting).map (·.2.toList))

abbrev Form (α : Type) := StateM (List Problem) α

def Form.complain (problems : List Problem) : Form Unit :=
  modify (· ++ problems)

/-- Reads one setting. The default stands where none is given, and also where the value is unusable,
which is then complained about. -/
def setting {α : Type} (env : Environment) (name : String) (default : α)
    (read : List Char → Except Complaint α) : Form α :=
  match env.given? name with
  | none => return default
  | some cs =>
    match read cs with
    | .ok a => return a
    | .error complaint => do
      Form.complain [⟨name, none, complaint⟩]
      return default

def above (bound : Int) (cs : List Char) : Except Complaint Int := do
  let n ← readInteger cs
  if bound < n then .ok n else .error (.notAbove bound)

def atLeast (bound : Int) (cs : List Char) : Except Complaint Int := do
  let n ← readInteger cs
  if bound ≤ n then .ok n else .error (.below bound)

def nonNegative (cs : List Char) : Except Complaint Float := do
  let x ← readDouble cs
  if 0 ≤ x then .ok x else .error (.below 0)

def anyText (cs : List Char) : Except Complaint String := .ok (String.ofList cs)

/-- The value given for a list; none where none is given or the value is null. -/
def givenList (env : Environment) (name : String) : Except EnvironmentError (Option Json) :=
  match env.given? name with
  | none => .ok none
  | some cs =>
    match Json.ofText? cs with
    | none => .error (.unreadableList name)
    | some .null => .ok none
    | some v => .ok (some v)

def itemComplaint? : Json → Option Complaint
  | .text _ => none
  | .codes _ => some .brokenText
  | _ => some .notText

/-- Reads the texts of a list. The default stands where there is no list, and items that are no
texts are left out, each with a complaint. -/
def textList (name : String) (default : List String) : Option Json → Form (List String)
  | none => return default
  | some (.list items) => do
    Form.complain ((items.zip (List.range items.length)).filterMap fun (v, i) =>
      (itemComplaint? v).map (⟨name, some i, ·⟩))
    return items.filterMap fun
      | .text s => some s
      | _ => none
  | some _ => do
    Form.complain [⟨name, none, .notList⟩]
    return default

def form (env : Environment) (exclude candidates : Option Json) : Form Settings := do
  let s : Settings := {}
  let positive (name : String) (default : Int) : Form Int := setting env name default (above 0)
  let natural (name : String) (default : Int) : Form Int := setting env name default (atLeast 0)
  return {
    threshold := ← setting env "threshold" s.threshold nonNegative
    exclude := ← textList "exclude" s.exclude exclude
    hiddenMarkerClass := ← setting env "hidden_marker_class" s.hiddenMarkerClass anyText
    ancestorVisibilityDepth := ← natural "ancestor_visibility_depth" s.ancestorVisibilityDepth
    textPreviewLength := ← positive "text_preview_length" s.textPreviewLength
    browser := ← setting env "browser" s.browser anyText
    headless := ← setting env "headless" s.headless readBoolean
    viewportWidth := ← positive "viewport_width" s.viewportWidth
    viewportHeight := ← positive "viewport_height" s.viewportHeight
    concurrency := ← setting env "concurrency" s.concurrency (atLeast 1)
    waitMs := ← natural "wait_ms" s.waitMs
    retryBackoffMs := ← natural "retry_backoff_ms" s.retryBackoffMs
    readyTimeoutMs := ← positive "ready_timeout_ms" s.readyTimeoutMs
    loadTimeoutMs := ← positive "load_timeout_ms" s.loadTimeoutMs
    sourceCandidates := ← textList "source_candidates" s.sourceCandidates candidates
    canvasWidth := ← positive "canvas_width" s.canvasWidth
    canvasHeight := ← positive "canvas_height" s.canvasHeight
    h1MaxChars := ← positive "h1_max_chars" s.h1MaxChars
    h2MaxChars := ← positive "h2_max_chars" s.h2MaxChars
    h3MaxChars := ← positive "h3_max_chars" s.h3MaxChars
    codeMaxLines := ← positive "code_max_lines" s.codeMaxLines }

/-- The settings that an environment gives. Problems are listed in the order of the settings. -/
def ofEnvironment (env : Environment) : Except EnvironmentError Settings := do
  let exclude ← givenList env "exclude"
  let candidates ← givenList env "source_candidates"
  let (settings, problems) := (form env exclude candidates).run []
  if problems.isEmpty then .ok settings else .error (.invalid problems)

end SlideOverflow.Settings
