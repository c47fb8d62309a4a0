import Assay.Data.Written
import Assay.Issue

/-! # Faults

Why an operation could not be carried out, as opposed to a value being rejected. Every cause has a
family, one message, and for the mistakes of a configuration or a registry a mapping of details.
-/

namespace Assay

inductive Family
  | type
  | value
  | attribute
  | overflow
  | key
  | index
  | runtime
  | depth
  | system
  | configuration
  | missing
  | operation
  | rejection
  | json
  | file
  | markup
deriving DecidableEq

inductive Fault
  -- values of the wrong kind
  | notIterable (kind : String)
  | notCallable (kind : String)
  | notSubscriptable (kind : String)
  | noLength (kind : String)
  | noAttribute (kind name : String)
  | kindWithout (kind name : String)
  | attributeNotNamed (kind : String)
  | unordered (relation left right : String)
  | noOperation (symbol left right : String)
  | unhashable (kind : String)
  | notReal (kind : String)
  | notPart (position : Nat) (kind : String)
  | offsetMissing
  | dateWithMoment
  -- numbers and positions
  | unreadableNumber (written : String)
  | numberTooLarge
  | tooManyDigits (count : Nat)
  | numberTooLong
  | unreadableWhole (base : Nat) (written : String)
  | codeOutOfRange
  | codeTooLarge
  | notInCalendar (problem : String)
  | offsetTooLarge (written : String)
  | missingKey (written : String)
  | outOfRange (container : String)
  | positionTooLarge
  | badPosition (container kind : String)
  -- paths and issues
  | malformedPath (written : String)
  | negativePosition (shown : String)
  | badSegment (kind : String)
  | unspeakableName (kind : String)
  | notPathText (kind : String)
  | pathFromBytes
  | emptyMessage
  | noErrors (holder : String)
  -- rules and their arguments
  | predicateMissing
  | predicateUnexpected
  | unexpectedArgument (function argument : String)
  | missingArgument (function argument : String)
  | repeatedArgument (function argument : String)
  | argumentNotNamed
  | negativeLength (bound shown : String)
  | emptyLengths (min max : String)
  | emptyRange (min max : String)
  | noChoices
  | badPattern (written problem : String)
  | repetitionTooLarge
  | flagsIncompatible
  | patternTooWide
  | captureCrossed
  /-- Raised by a function that was handed in. -/
  | raised (kind : Refusal) (message : String)
  -- configurations
  | fieldNotMapping (index : Nat) (value : Data)
  | fieldUnnamed (index : Nat) (keys : List Data)
  | entryMalformed (owner entry : Data)
  | checkUnknown (check : String) (owner : Data) (known : List Data)
  | checkRefused (check : String) (owner params : Data) (cause : String)
  | notList (owner kind : String)
  | fileKindUnknown (suffix file : String)
  | notConfiguration (file kind : String)
  -- registries
  | checkMissing (key registry : Data) (available : Option (List Data))
  | checkTaken (key registry : Data)
  -- results and documents
  | rejected (issues : List Issue) (summary : String)
  | malformedJson (problem : String) (line column position : Nat)
  | tooDeep (collection : String)
  | missingFile (file : String)
  | malformedMarkup

namespace Fault

def family : Fault → Family
  | notIterable _ | notCallable _ | notSubscriptable _ | noLength _ | attributeNotNamed _
  | unordered _ _ _ | noOperation _ _ _ | unhashable _ | notReal _ | notPart _ _
  | offsetMissing | dateWithMoment | badPosition _ _ | badSegment _ | unspeakableName _
  | notPathText _ | pathFromBytes | predicateMissing | predicateUnexpected
  | unexpectedArgument _ _ | missingArgument _ _ | repeatedArgument _ _ | argumentNotNamed =>
    .type
  | unreadableNumber _ | tooManyDigits _ | numberTooLong | malformedPath _ | negativePosition _
  | emptyMessage | noErrors _ | negativeLength _ _ | emptyLengths _ _ | emptyRange _ _
  | noChoices | badPattern _ _ | flagsIncompatible | unreadableWhole _ _ | codeOutOfRange
  | notInCalendar _ | offsetTooLarge _ => .value
  | noAttribute _ _ | kindWithout _ _ => .attribute
  | numberTooLarge | repetitionTooLarge | codeTooLarge => .overflow
  | missingKey _ => .key
  | outOfRange _ | positionTooLarge => .index
  | patternTooWide => .runtime
  | tooDeep _ => .depth
  | captureCrossed => .system
  | raised .value _ => .value
  | raised .type _ => .type
  | raised .runtime _ => .runtime
  | fieldNotMapping _ _ | fieldUnnamed _ _ | entryMalformed _ _ | checkUnknown _ _ _
  | checkRefused _ _ _ _ | notList _ _ | fileKindUnknown _ _ | notConfiguration _ _ =>
    .configuration
  | checkMissing _ _ _ => .missing
  | checkTaken _ _ => .operation
  | rejected _ _ => .rejection
  | malformedJson _ _ _ _ => .json
  | missingFile _ => .file
  | malformedMarkup => .markup

/-- How the positions of a container are named when a wrong one is used. -/
def positionMessage (container kind : String) : String :=
  if container == "str" then s!"string indices must be integers, not '{kind}'"
  else
    let owner := if container == "bytes" then "byte" else container
    s!"{owner} indices must be integers or slices, not {kind}"

def rangeMessage (container : String) : String :=
  if container == "str" then "string index out of range"
  else if container == "bytes" then "index out of range"
  else s!"{container} index out of range"

def message : Fault → String
  | notIterable k => s!"'{k}' object is not iterable"
  | notCallable k => s!"'{k}' object is not callable"
  | notSubscriptable k => s!"'{k}' object is not subscriptable"
  | noLength k => s!"object of type '{k}' has no len()"
  | noAttribute k n => s!"'{k}' object has no attribute '{n}'"
  | kindWithout k n => s!"type object '{k}' has no attribute '{n}'"
  | attributeNotNamed k => s!"attribute name must be string, not '{k}'"
  | unordered r a b => s!"'{r}' not supported between instances of '{a}' and '{b}'"
  | noOperation o a b => s!"unsupported operand type(s) for {o}: '{a}' and '{b}'"
  | unhashable k => s!"unhashable type: '{k}'"
  | notReal k => s!"float() argument must be a string or a real number, not '{k}'"
  | notPart i k => s!"sequence item {i}: expected str instance, {k} found"
  | offsetMissing => "can't compare offset-naive and offset-aware datetimes"
  | dateWithMoment => "can't compare datetime.datetime to datetime.date"
  | unreadableNumber w => s!"could not convert string to float: {w}"
  | numberTooLarge => "int too large to convert to float"
  | tooManyDigits n =>
    s!"Exceeds the limit (4300 digits) for integer string conversion: value has {n} digits; "
      ++ "use sys.set_int_max_str_digits() to increase the limit"
  | numberTooLong =>
    "Exceeds the limit (4300 digits) for integer string conversion; "
      ++ "use sys.set_int_max_str_digits() to increase the limit"
  | unreadableWhole b w => s!"invalid literal for int() with base {b}: {w}"
  | codeOutOfRange => "chr() arg not in range(0x110000)"
  | codeTooLarge => "Python int too large to convert to C int"
  | notInCalendar p => p
  | offsetTooLarge w =>
    "offset must be a timedelta strictly between -timedelta(hours=24) and timedelta(hours=24), "
      ++ s!"not {w}."
  | missingKey w => w
  | outOfRange c => rangeMessage c
  | positionTooLarge => "cannot fit 'int' into an index-sized integer"
  | badPosition c k => positionMessage c k
  | malformedPath w => s!"Malformed path: {w}"
  | negativePosition i => s!"Path index cannot be negative: {i}"
  | badSegment k => s!"Path segments must be str or int, got {k}"
  | unspeakableName k => s!"__str__ returned non-string (type {k})"
  | notPathText k => s!"expected string or bytes-like object, got '{k}'"
  | pathFromBytes => "cannot use a string pattern on a bytes-like object"
  | emptyMessage => "ValidationError message cannot be empty"
  | noErrors h => s!"{h} requires at least one error"
  | predicateMissing => "rule() with a message requires a check predicate"
  | predicateUnexpected => "rule() with a Rule does not take a check predicate"
  | unexpectedArgument f a => s!"{f}() got an unexpected keyword argument '{a}'"
  | missingArgument f a => s!"{f}() missing 1 required positional argument: '{a}'"
  | repeatedArgument f a => s!"{f}() got multiple values for argument '{a}'"
  | argumentNotNamed => "keywords must be strings"
  | negativeLength b n => s!"{b} length cannot be negative: {n}"
  | emptyLengths a b => s!"min length ({a}) cannot be greater than max ({b})"
  | emptyRange a b => s!"min ({a}) cannot be greater than max ({b})"
  | noChoices => "one_of requires at least one allowed value"
  | badPattern w p => s!"Invalid pattern {w}: {p}"
  | repetitionTooLarge => "the repetition number is too large"
  | flagsIncompatible => "ASCII and UNICODE flags are incompatible"
  | patternTooWide => "invalid SRE code"
  | captureCrossed =>
    "The span of capturing group is wrong, please report a bug for the re module."
  | raised _ m => m
  | fieldNotMapping _ _ => "Field configuration must be a mapping"
  | fieldUnnamed _ _ => "Field configuration missing 'name'"
  | entryMalformed o _ => s!"Rule entry for '{o.shown}' must be a mapping with a 'type'"
  | checkUnknown c o _ => s!"Unknown check type '{c}' for '{o.shown}'"
  | checkRefused c o _ m => s!"Invalid parameters for check '{c}' on '{o.shown}': {m}"
  | notList o _ => s!"'{o}' must be a list"
  | fileKindUnknown s _ => s!"Unsupported configuration file type: {s}"
  | notConfiguration _ _ => "Validator configuration must be a mapping"
  | checkMissing k _ _ => s!"Check not found: {k.shown}"
  | checkTaken k r => s!"Check '{k.shown}' already registered in {r.shown}"
  | rejected is s => s!"Validation failed with {is.length} error(s): {s}"
  | malformedJson p l c n => s!"{p}: line {l} column {c} (char {n})"
  | tooDeep c => s!"maximum recursion depth exceeded while decoding a {c} from a unicode string"
  | missingFile f => s!"[Errno 2] No such file or directory: {Text.quoted f}"
  | malformedMarkup => ""

/-- The values that the message of a fault names. -/
def named : Fault → List Data
  | entryMalformed o _ | checkUnknown _ o _ | checkRefused _ o _ _ => [o]
  | checkMissing k _ _ => [k]
  | checkTaken k r => [k, r]
  | _ => []

def details (entries : List (String × Data)) : Option Data :=
  some (.mapping (entries.map fun e => (.text e.1, e.2)))

/-- The details of a mistake in a configuration, of a registry operation, or of a rejection. -/
def context? : Fault → Option Data
  | fieldNotMapping i v => details [("index", .int i), ("value", v)]
  | fieldUnnamed i ks => details [("index", .int i), ("keys", .list ks)]
  | entryMalformed o e => details [("field", o), ("entry", e)]
  | checkUnknown c o ks => details [("field", o), ("type", .text c), ("known_types", .list ks)]
  | checkRefused c o ps _ => details [("field", o), ("type", .text c), ("params", ps)]
  | notList o k => details [("key", .text o), ("type", .text k)]
  | fileKindUnknown _ f => details [("path", .text f)]
  | notConfiguration f k => details [("path", .text f), ("type", .text k)]
  | checkMissing k r none => details [("key", k), ("registry", r)]
  | checkMissing k r (some ks) =>
    details [("key", k), ("registry", r), ("available_keys", .list ks)]
  | checkTaken k r => details [("key", k), ("registry", r)]
  | rejected is _ => details [("error_count", .int is.length)]
  | _ => none

end Fault

end Assay
