import ServiceBroker.Text.Alphanumeric
import ServiceBroker.Text

/-!
# Log filters

A log filter is a list of directives between commas. A directive is a level, a target, or a target
and a span with a level behind an equals sign, such as `info,engine[push]=debug`.

Positions are counted from the first character of a directive that is not blank, but its parts are
cut from the directive as it was written. So blanks in front of a directive shift the parts.
-/

namespace ServiceBroker

/-- Log levels, the quietest first. -/
inductive LogLevel where
  | off
  | error
  | warn
  | info
  | debug
  | trace
deriving DecidableEq, Repr

/-- Why a log filter is refused. -/
inductive LogFilterError where
  | invalidDirective
  | unknownLevel
deriving DecidableEq, Repr

/-- The wording of a refused filter. -/
def LogFilterError.message : LogFilterError → String
  | .invalidDirective => "invalid filter directive"
  | .unknownLevel => "error parsing level filter: expected one of \"off\", \"error\", " ++
      "\"warn\", \"info\", \"debug\", \"trace\", or a number 0-5"

namespace LogLevel

/-- The names of the levels; each also has its place in the list as a number. -/
def names : List (String × LogLevel) :=
  [("off", .off), ("error", .error), ("warn", .warn), ("info", .info), ("debug", .debug),
    ("trace", .trace)]

/-- The level of a name in letters of either case, or of a number. -/
def ofChars? (cs : List Char) : Option LogLevel :=
  match (Text.natOfChars? cs).bind (names[·]?) with
  | some (_, level) => some level
  | none => (names.find? (·.1.toList == cs.map Char.toLower)).map (·.2)

end LogLevel

/-- A directive of a log filter. -/
structure LogDirective where
  /-- The target it applies to. -/
  target : Option String := none
  /-- The span it applies in. -/
  span : Option String := none
  /-- The fields that the span must have. -/
  fields : List String := []
  /-- The level it lets through. -/
  level : LogLevel := .trace
deriving DecidableEq, Repr

namespace LogDirective

/-- What is being read, and the position where it started. -/
inductive Reading where
  | start
  | levelOrTarget
  | span (start : Nat)
  | field (start : Nat)
  | fields
  | target
  | level (start : Nat)
deriving DecidableEq, Repr

/-- The characters from position `start` up to position `stop`. -/
def cut (text : List Char) (start stop : Nat) : String :=
  String.ofList ((text.take stop).drop start)

/-- Takes the character `c` at position `i` of a directive whose text is `text`. -/
def step (text : List Char) (i : Nat) (c : Char) :
    LogDirective × Reading → Except LogFilterError (LogDirective × Reading)
  | (d, .start) =>
    if c = '[' then .ok (d, .span (i + 1))
    else if Text.isAlphanumeric c || c == '-' || c == ':' || c == '_' then
      .ok (d, .levelOrTarget)
    else .error .invalidDirective
  | (d, .levelOrTarget) =>
    if c = '=' then .ok ({ d with target := some (cut text 0 i) }, .level (i + 1))
    else if c = '[' then .ok ({ d with target := some (cut text 0 i) }, .span (i + 1))
    else .ok (d, .levelOrTarget)
  | (d, .span start) =>
    if c = ']' then .ok ({ d with span := some (cut text start i) }, .target)
    else if c = '\x7b' then
      let span := cut text start i
      .ok ({ d with span := if span.isEmpty then none else some span }, .field (i + 1))
    else .ok (d, .span start)
  | (d, .field start) =>
    if c = '\x7d' then
      let field := cut text start i
      if field.isEmpty then .error .invalidDirective
      else .ok ({ d with fields := d.fields ++ [field] }, .fields)
    else .ok (d, .field start)
  | (d, .fields) => if c = ']' then .ok (d, .target) else .error .invalidDirective
  | (d, .target) => if c = '=' then .ok (d, .level (i + 1)) else .error .invalidDirective
  | (d, .level start) => .ok (d, .level start)

/-- Takes the characters of a directive from position `i` on. -/
def steps (text : List Char) : (i : Nat) → List Char → LogDirective × Reading →
    Except LogFilterError (LogDirective × Reading)
  | _, [], state => .ok state
  | i, c :: cs, state =>
    match step text i c state with
    | .ok state => steps text (i + 1) cs state
    | .error e => .error e

/-- The directive when its text has ended. -/
def finish (text : List Char) : LogDirective × Reading → Except LogFilterError LogDirective
  | (d, .levelOrTarget) =>
    match LogLevel.ofChars? text with
    | some level => .ok { d with level }
    | none => .ok { d with target := some (String.ofList text) }
  | (d, .level start) =>
    let rest := text.drop start
    if rest.isEmpty then .ok d
    else
      match LogLevel.ofChars? rest with
      | some level => .ok { d with level }
      | none => .error .unknownLevel
  | (d, .target) => .ok d
  | _ => .error .invalidDirective

/-- Reads a directive. -/
def parse (text : List Char) : Except LogFilterError LogDirective :=
  match steps text 0 (Text.trimChars text) ({}, .start) with
  | .ok state => finish text state
  | .error e => .error e

end LogDirective

/-- Reads a log filter; empty directives are left out. -/
def LogFilter.parse (s : String) : Except LogFilterError (List LogDirective) :=
  ((s.toList.splitOn ',').filter (!·.isEmpty)).mapM LogDirective.parse

end ServiceBroker
