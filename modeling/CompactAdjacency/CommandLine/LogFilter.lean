import CompactAdjacency.Text.Integer
import CompactAdjacency.Text.Pattern.WellFormed
import CompactAdjacency.Text.Slice
import CompactAdjacency.Value.DecimalReading

/-!
# Log filters

A log filter is a list of directives between commas. A directive is a level, a target, or a target
and its level with an equals sign between them; a target without a level admits everything. Behind
the target, brackets may hold the name of a span and, between braces, a field with or without a
value that it should have: a number, a truth value or a pattern.

A directive is about the messages whose target starts with its own, and only about those with its
field if it has one. Directives with a span or a value are about what happens inside of spans, and
so about no message here. Of the directives about a message, the most specific one decides.

Blanks around a directive have no meaning where its parts are told apart. The parts themselves are
cut out of the whole text, at places that are counted in bytes without the blanks in front of it: a
blank in front moves every part by its own size, and a place may turn out to be inside of a
character.
-/

namespace CompactAdjacency.CommandLine

/-! ## Levels -/

/-- How much is logged. -/
inductive LogLevel where
  | off
  | error
  | warn
  | info
  | debug
  | trace
  deriving DecidableEq, Repr

namespace LogLevel

/-- The levels in the order of their numbers. -/
def all : List LogLevel := [.off, .error, .warn, .info, .debug, .trace]

/-- The name of a level. -/
def name : LogLevel → String
  | .off => "off"
  | .error => "error"
  | .warn => "warn"
  | .info => "info"
  | .debug => "debug"
  | .trace => "trace"

/-- The level of a number or of a name in any case. -/
def ofText? (text : List Char) : Option LogLevel :=
  match Text.unsigned? (UInt64.size - 1) text with
  | some number => all[number]?
  | none => all.find? fun level => level.name.toList = text.map Char.toLower

/-- The level after an equals sign, where no level at all admits everything. -/
def afterEquals? (text : List Char) : Option LogLevel :=
  if text.isEmpty then some .trace else ofText? text

end LogLevel

/-! ## Directives -/

/-- What is told from a message before it is written. -/
structure LogMessage where
  target : List Char
  /-- The names of its fields. -/
  fields : List (List Char)
  deriving DecidableEq, Repr

/-- What is logged of the messages that it is about. -/
structure LogDirective where
  /-- What the target of a message starts with. -/
  target : List Char
  /-- The field that a message has. -/
  field : Option (List Char)
  /-- Whether it is about what happens inside of spans. -/
  spanned : Bool
  level : LogLevel
  deriving DecidableEq, Repr

/-- Why a text is no log filter. -/
inductive LogFilterError where
  | malformed
  /-- A part would start or end inside of a character. -/
  | splitCharacter
  deriving DecidableEq, Repr

/-- Whether a text can be the value of a field. -/
def isFieldValue (text : List Char) : Bool :=
  (Binary64.ofText? text).isSome || text = "true".toList || text = "false".toList ||
    Text.Pattern.isWellFormed text

namespace LogDirective

/-- Whether a directive can start with a character, the bracket of a span apart. -/
def startsWith (char : Char) : Bool :=
  char = '-' || char = ':' || char = '_' || Text.isAlphanumeric char

/-- A reader of the text of a directive. -/
structure Reader where
  /-- The text with the blanks around it. -/
  source : List Char
  /-- The place in the source at which the next part starts. -/
  position : Nat
  /-- What is left of the text without the blanks around it. -/
  left : List Char
  deriving DecidableEq, Repr

namespace Reader

/-- The reader at the start of a text. -/
def start (text : List Char) : Reader := ⟨text, 0, Text.trim text⟩

/-- The part up to the first of several delimiters, the delimiter, and the reader after it. -/
def next (reader : Reader) (delimiters : List Char) :
    Except LogFilterError (List Char × Char × Reader) :=
  let passed := reader.left.takeWhile (! delimiters.contains ·)
  match reader.left.drop passed.length with
  | [] => .error .malformed
  | delimiter :: left =>
      let size := Text.byteSize passed
      match Text.slice? reader.position size reader.source with
      | none => .error .splitCharacter
      | some part =>
          let position := reader.position + size + delimiter.utf8Size
          .ok (part, delimiter, { reader with position, left })

/-- The level that the rest of the text is, where nothing at all admits everything. -/
def level (reader : Reader) : Except LogFilterError LogLevel :=
  match Text.dropBytes? reader.position reader.source with
  | none => .error .splitCharacter
  | some text =>
      match LogLevel.afterEquals? text with
      | some level => .ok level
      | none => .error .malformed

/-- The level behind a bracket that ends a span, which needs none. -/
def levelAfterSpan (reader : Reader) : Except LogFilterError LogLevel :=
  match reader.left with
  | [] => .ok .trace
  | '=' :: left => level { reader with position := reader.position + 1, left }
  | _ => .error .malformed

end Reader

/-- The name of a field, and whether a value is asked of it. -/
def readField (text : List Char) : Except LogFilterError (List Char × Bool) :=
  match Text.splitOn '=' text with
  | name :: value :: _ =>
      if text.isEmpty || !isFieldValue value then .error .malformed else .ok (name, true)
  | _ => if text.isEmpty then .error .malformed else .ok (text, false)

/-- The directive of a target, from a reader behind the bracket that begins a span. -/
def ofSpan (target : List Char) (reader : Reader) : Except LogFilterError LogDirective := do
  let (span, delimiter, reader) ← reader.next [']', '\x7b']
  if delimiter = ']' then
    pure ⟨target, none, true, ← reader.levelAfterSpan⟩
  else
    let (part, _, reader) ← reader.next ['\x7d']
    let (name, valued) ← readField part
    match reader.left with
    | ']' :: left =>
        let reader := { reader with position := reader.position + 1, left }
        pure ⟨target, some name, !span.isEmpty || valued, ← reader.levelAfterSpan⟩
    | _ => .error .malformed

/-- The directive of a text without commas. -/
def ofText (text : List Char) : Except LogFilterError LogDirective :=
  let reader := Reader.start text
  match reader.left with
  | [] => .error .malformed
  | '[' :: left => ofSpan [] { reader with position := 1, left }
  | first :: _ =>
      if !startsWith first then .error .malformed
      else if reader.left.any fun char => char = '=' || char = '[' then do
        let (target, delimiter, reader) ← reader.next ['=', '[']
        if delimiter = '=' then pure ⟨target, none, false, ← reader.level⟩
        else ofSpan target reader
      else
        match LogLevel.ofText? text with
        | some level => .ok ⟨[], none, false, level⟩
        | none => .ok ⟨text, none, false, .trace⟩

/-- Whether a directive is about a message from outside of any span. -/
def concerns (directive : LogDirective) (message : LogMessage) : Bool :=
  !directive.spanned && directive.target.isPrefixOf message.target &&
    directive.field.all message.fields.contains

/-- Whether a name comes before another one in the order of their code points, or is the same. -/
def nameAtMost : List Char → List Char → Bool
  | [], _ => true
  | _ :: _, [] => false
  | first :: others, other :: rest =>
      first.toNat < other.toNat || (first = other && nameAtMost others rest)

/-- Whether a field is at most as specific as another one; having none is the least specific. -/
def fieldAtMost : Option (List Char) → Option (List Char) → Bool
  | none, _ => true
  | some _, none => false
  | some name, some other => nameAtMost name other

/-- Whether a directive is at most as specific as another one about the same message: its target is
shorter, or as long and its field is at most as specific. -/
def yieldsTo (directive other : LogDirective) : Bool :=
  directive.target.length < other.target.length ||
    (directive.target.length = other.target.length && fieldAtMost directive.field other.field)

end LogDirective

/-! ## Filters -/

/-- A list of directives. -/
abbrev LogFilter := List LogDirective

namespace LogFilter

/-- The filter of a text. -/
def ofText (text : List Char) : Except LogFilterError LogFilter :=
  ((Text.splitOn ',' text).filter (! ·.isEmpty)).mapM LogDirective.ofText

/-- The level at which a message is logged: that of the last one among the most specific directives
about it, and none where no directive is about it. -/
def level (filter : LogFilter) (message : LogMessage) : LogLevel :=
  let decisive := (filter.filter (·.concerns message)).foldl
    (fun best directive =>
      match best with
      | some other => if other.yieldsTo directive then some directive else some other
      | none => some directive)
    (none : Option LogDirective)
  match decisive with
  | some directive => directive.level
  | none => .off

/-- Whether a message is logged if it tells of an error. -/
def admitsError (filter : LogFilter) (message : LogMessage) : Bool := filter.level message ≠ .off

end LogFilter

end CompactAdjacency.CommandLine
