import Rulebook.Text.Quoted
import Rulebook.Value

/-!
# Faults

Why something could not be done. A fault is a cause; its kind, its text and, for the faults of
the rule library itself, the details that go with it are functions of the cause.

* `Fault.kind`, `Fault.message`, `Fault.context?`: what is reported of a fault.
-/

namespace Rulebook

/-- The four ways in which two values are put in order. -/
inductive Comparison where
  | lt
  | le
  | gt
  | ge
deriving DecidableEq, Repr

namespace Comparison

/-- The sign of a comparison. -/
def sign : Comparison → String
  | .lt => "<"
  | .le => "<="
  | .gt => ">"
  | .ge => ">="

/-- Whether the comparison holds of values in this order. -/
def holds : Comparison → Ordering → Bool
  | .lt, o => o == .lt
  | .le, o => o != .gt
  | .gt, o => o == .gt
  | .ge, o => o != .lt

end Comparison

/-- The kinds of faults that the rule library itself reports. -/
inductive LibraryFault where
  | base
  | validation
  | configuration
  | notFound
  | operation
deriving DecidableEq, Repr

/-- The name under which a kind is reported. -/
def LibraryFault.name : LibraryFault → String
  | .base => "RuleknobsError"
  | .validation => "ValidationError"
  | .configuration => "ConfigurationError"
  | .notFound => "NotFoundError"
  | .operation => "OperationError"

/-- Why a message template cannot be read or filled in. -/
inductive TemplateFault where
  | singleBrace (brace : Char)
  | noClosingBrace
  | unexpectedBrace
  | noConversionEnd
  | noConversion
  | unmatchedInSpec
  | nestedTooDeep
  | emptyAttribute
  | unclosedIndex
  | afterIndex
  | mixedNumbering (automaticFirst : Bool)
  | badConversion (c : Char)
  | missingPosition (index : Nat)
  | missingName (shown : String)
  | tooManyDigits
  | unsupported (typeName : String)
  | badSpec (spec : String) (typeName : String)
  | unknownCode (code : Char) (typeName : String)
  | notForText (what : String)
  | bothGroupings
  | groupingWith (mark code : Char)
  | noPrecision
deriving DecidableEq, Repr

/-- The cause of a failure. -/
inductive Fault where
  -- raised by a callable
  | raised (kind : String) (message : String)
  | raisedLibrary (kind : LibraryFault) (message : String)
  -- comparing, hashing, looking inside
  | unordered (by_ : Comparison) (left right : String)
  | dateAgainstTime
  | mixedOffsets
  | decimalSignal
  | unhashable (typeName : String)
  | signalingHash
  | noAttribute (typeName name : String)
  | noClassAttribute (className name : String)
  | noModuleAttribute (module_ name : String)
  | noGetter (name className : String)
  | notIterable (typeName : String)
  | noMembership (typeName : String)
  | notCallable (typeName : String)
  | memberNotText (typeName : String)
  | memberNotBytes (typeName : String)
  | byteOutOfRange
  | affixNotText (method typeName : String)
  | affixItemNotText (method typeName : String)
  | joinNotText (index : Nat) (typeName : String)
  | notSubscriptable (typeName : String)
  | indexNotInteger (container typeName : String)
  | indexOutOfRange (container : String)
  | keyMissing (shown : String)
  | tooManyDigits (digits : Option Nat)
  | zone (error : ZoneError)
  | concatenation (typeName : String)
  -- calling
  | missingArguments (function : String) (names : List String)
  | tooManyArguments (function : String) (least most given : Nat)
  | abstractClass (className : String)
  | notAnInteger (shown : String)
  | badArgument (message : String)
  | stopInsideCoroutine
  | unbounded
  -- patterns, templates and declared types
  | badPattern
  | patternNotText
  | patternOfBytes
  | template (fault : TemplateFault)
  | forwardNotExpression (shown : String)
  | forwardFailed (kind : String) (message : String)
  -- conversions to a mapping
  | pairNotSequence (index : Nat)
  | pairLength (index length : Nat)
  -- files and modules
  | notText (description : String)
  | isADirectory (path : String)
  | notPermitted (path : String)
  | noModule (name : String)
  | noPackage (name parent : String)
  | emptyModuleName
  | relativeModule (name : String)
  -- declaring rules
  | selectorMissing
  | selectorKind (className shown : String)
  | notAName (text shown : String)
  | accessorNotCallable (name shown : String)
  | methodNotProperty (name model : String)
  | unknownProperty (name model : String)
  | notNumeric (check : String) (name : Value) (nameText declared : String)
  | predicateNotCallable (name : Value) (nameText shown : String)
  | needsCallable (check : String) (name : Value) (nameText shown : String)
  | dependentMissing (name : Value) (nameText : String)
  -- running rules
  | blockingForbidden (validator : String)
  | validationFailed (failing : String) (errors : Value)
  -- settings
  | clockNotCallable (shown : String)
  | notBoolean (setting shown : String)
  | templateNotText (shown : String)
  | templateInvalid (fault : TemplateFault) (source : String)
  | templatePlaceholders (names : String) (source : String)
  | fileMissing (path : String)
  | fileFormat (suffix path : String)
  | fileUnparsed (path : String)
  | fileNotMapping (path typeName : String)
  -- registries
  | alreadyRegistered (key : String) (registry : Value) (registryText : String)
  | notRegistered (key : String) (registry : Value) (available : Option (List String))
  | notAValidator (shown : String)
  | noModel (validator : String)
  -- names of a session
  | unknownId (id : String)

namespace TemplateFault

/-- The text of a template's fault. -/
def message : TemplateFault → String
  | .singleBrace b => "Single '" ++ String.singleton b ++ "' encountered in format string"
  | .noClosingBrace => "expected '\x7d' before end of string"
  | .unexpectedBrace => "unexpected '\x7b' in field name"
  | .noConversionEnd => "expected ':' after conversion specifier"
  | .noConversion => "end of string while looking for conversion specifier"
  | .unmatchedInSpec => "unmatched '\x7b' in format spec"
  | .nestedTooDeep => "Max string recursion exceeded"
  | .emptyAttribute => "Empty attribute in format string"
  | .unclosedIndex => "Missing ']' in format string"
  | .afterIndex => "Only '.' or '[' may follow ']' in format field specifier"
  | .mixedNumbering automaticFirst =>
    if automaticFirst then
      "cannot switch from automatic field numbering to manual field specification"
    else "cannot switch from manual field specification to automatic field numbering"
  | .badConversion c =>
    if c.toNat > 32 && c.toNat < 127 then
      "Unknown conversion specifier " ++ String.singleton c
    else "Unknown conversion specifier \\x" ++ String.ofList (Nat.toDigits 16 c.toNat)
  | .missingPosition i =>
    "Replacement index " ++ toString i ++ " out of range for positional args tuple"
  | .missingName shown => shown
  | .tooManyDigits => "Too many decimal digits in format string"
  | .unsupported typeName =>
    "unsupported format string passed to " ++ typeName ++ ".__format__"
  | .badSpec spec typeName =>
    "Invalid format specifier '" ++ spec ++ "' for object of type '" ++ typeName ++ "'"
  | .unknownCode code typeName =>
    (if code.toNat > 32 && code.toNat < 128 then
      "Unknown format code '" ++ String.singleton code ++ "'"
    else "Unknown format code '\\x" ++ String.ofList (Nat.toDigits 16 code.toNat) ++ "'") ++
      " for object of type '" ++ typeName ++ "'"
  | .notForText what => what ++ " not allowed in string format specifier"
  | .bothGroupings => "Cannot specify both ',' and '_'."
  | .groupingWith mark code =>
    "Cannot specify '" ++ String.singleton mark ++ "' with '" ++
      (if code.toNat > 32 && code.toNat < 128 then String.singleton code
        else "\\x" ++ String.ofList (Nat.toDigits 16 code.toNat)) ++ "'."
  | .noPrecision => "Format specifier missing precision"

/-- The kind of a template's fault. -/
def kind : TemplateFault → String
  | .missingPosition _ => "IndexError"
  | .missingName _ => "KeyError"
  | .unsupported _ => "TypeError"
  | _ => "ValueError"

end TemplateFault

namespace Fault

/-- The words of a list of names, of which the last two are joined by "and". -/
def enumerate : List String → String
  | [] => ""
  | [a] => "'" ++ a ++ "'"
  | [a, b] => "'" ++ a ++ "' and '" ++ b ++ "'"
  | names => ", ".intercalate ((names.dropLast.map fun n => "'" ++ n ++ "'") ++
      ["and '" ++ names.getLast?.getD "" ++ "'"])

/-- The kind of the rule library itself that a fault belongs to, if it belongs to one. -/
def libraryKind? : Fault → Option LibraryFault
  | .raisedLibrary kind _ => some kind
  | .selectorMissing | .selectorKind .. | .notAName .. | .accessorNotCallable ..
  | .methodNotProperty .. | .unknownProperty .. | .notNumeric .. | .predicateNotCallable ..
  | .needsCallable .. | .dependentMissing .. | .clockNotCallable .. | .notBoolean ..
  | .templateNotText .. | .templateInvalid .. | .templatePlaceholders .. | .fileMissing ..
  | .fileFormat .. | .fileUnparsed .. | .fileNotMapping .. | .notAValidator ..
  | .noModel .. => some .configuration
  | .blockingForbidden _ | .alreadyRegistered .. => some .operation
  | .notRegistered .. => some .notFound
  | .validationFailed .. => some .validation
  | _ => none

/-- The name of the kind of a fault. -/
def kind (f : Fault) : String :=
  match f.libraryKind? with
  | some k => k.name
  | none =>
    match f with
    | .raised kind _ => kind
    | .template t => t.kind
    | .forwardFailed kind _ => kind
    | .decimalSignal => "InvalidOperation"
    | .noAttribute .. | .noClassAttribute .. | .noModuleAttribute .. | .noGetter .. =>
      "AttributeError"
    | .indexOutOfRange _ => "IndexError"
    | .keyMissing _ => "KeyError"
    | .tooManyDigits _ | .byteOutOfRange | .pairLength .. | .emptyModuleName
    | .notAnInteger _ => "ValueError"
    | .zone .outOfRange => "OverflowError"
    | .zone (.localYear _) => "ValueError"
    | .stopInsideCoroutine => "RuntimeError"
    | .unbounded => "RecursionError"
    | .badPattern => "error"
    | .forwardNotExpression _ => "SyntaxError"
    | .notText _ => "UnicodeDecodeError"
    | .isADirectory _ => "IsADirectoryError"
    | .notPermitted _ => "PermissionError"
    | .noModule _ | .noPackage .. => "ModuleNotFoundError"
    | .unknownId _ => "UnknownId"
    | _ => "TypeError"

/-- The text of a fault. -/
def message : Fault → String
  | .raised kind message => if kind == "KeyError" then Quoted.encode message else message
  | .raisedLibrary _ message => message
  | .unordered c left right =>
    "'" ++ c.sign ++ "' not supported between instances of '" ++ left ++ "' and '" ++ right ++ "'"
  | .dateAgainstTime => "can't compare datetime.datetime to datetime.date"
  | .mixedOffsets => "can't compare offset-naive and offset-aware datetimes"
  | .decimalSignal => "[<class 'decimal.InvalidOperation'>]"
  | .unhashable typeName => "unhashable type: '" ++ typeName ++ "'"
  | .signalingHash => "Cannot hash a signaling NaN value"
  | .noAttribute typeName name => "'" ++ typeName ++ "' object has no attribute '" ++ name ++ "'"
  | .noClassAttribute className name =>
    "type object '" ++ className ++ "' has no attribute '" ++ name ++ "'"
  | .noModuleAttribute module_ name =>
    "module '" ++ module_ ++ "' has no attribute '" ++ name ++ "'"
  | .noGetter name className =>
    "property '" ++ name ++ "' of '" ++ className ++ "' object has no getter"
  | .notIterable typeName => "'" ++ typeName ++ "' object is not iterable"
  | .noMembership typeName => "argument of type '" ++ typeName ++ "' is not iterable"
  | .notCallable typeName => "'" ++ typeName ++ "' object is not callable"
  | .memberNotText typeName =>
    "'in <string>' requires string as left operand, not " ++ typeName
  | .memberNotBytes typeName => "a bytes-like object is required, not '" ++ typeName ++ "'"
  | .byteOutOfRange => "byte must be in range(0, 256)"
  | .affixNotText method typeName =>
    method ++ " first arg must be str or a tuple of str, not " ++ typeName
  | .affixItemNotText method typeName =>
    "tuple for " ++ method ++ " must only contain str, not " ++ typeName
  | .joinNotText index typeName =>
    "sequence item " ++ toString index ++ ": expected str instance, " ++ typeName ++ " found"
  | .notSubscriptable typeName => "'" ++ typeName ++ "' object is not subscriptable"
  | .indexNotInteger container typeName =>
    if container == "string" || container == "byte" then
      container ++ " indices must be integers" ++
        (if container == "string" then ", not '" ++ typeName ++ "'"
        else " or slices, not " ++ typeName)
    else container ++ " indices must be integers or slices, not " ++ typeName
  | .indexOutOfRange container =>
    (if container == "byte" then "" else container ++ " ") ++ "index out of range"
  | .keyMissing shown => shown
  | .tooManyDigits none =>
    "Exceeds the limit (4300 digits) for integer string conversion; " ++
      "use sys.set_int_max_str_digits() to increase the limit"
  | .tooManyDigits (some n) =>
    "Exceeds the limit (4300 digits) for integer string conversion: value has " ++ toString n ++
      " digits; use sys.set_int_max_str_digits() to increase the limit"
  | .zone .outOfRange => "date value out of range"
  | .zone (.localYear y) => "year " ++ toString y ++ " is out of range"
  | .concatenation typeName => typeName
  | .missingArguments function names =>
    function ++ "() missing " ++ toString names.length ++ " required positional argument" ++
      (if names.length == 1 then "" else "s") ++ ": " ++ enumerate names
  | .tooManyArguments function least most given =>
    function ++ "() takes " ++
      (if least == most then "" else "from " ++ toString least ++ " to ") ++ toString most ++
      " positional argument" ++ (if most == 1 then "" else "s") ++ " but " ++ toString given ++
      (if given == 1 then " was given" else " were given")
  | .abstractClass className =>
    "Can't instantiate abstract class " ++ className ++ " with abstract method todo"
  | .notAnInteger shown => "invalid literal for int() with base 10: " ++ shown
  | .badArgument message => message
  | .stopInsideCoroutine => "coroutine raised StopIteration"
  | .unbounded => "maximum recursion depth exceeded"
  | .badPattern => "bad pattern"
  | .patternNotText => "first argument must be string or compiled pattern"
  | .patternOfBytes => "cannot use a bytes pattern on a string-like object"
  | .template t => t.message
  | .forwardNotExpression shown => "Forward reference must be an expression -- got " ++ shown
  | .forwardFailed _ message => message
  | .pairNotSequence index =>
    "cannot convert dictionary update sequence element #" ++ toString index ++ " to a sequence"
  | .pairLength index length =>
    "dictionary update sequence element #" ++ toString index ++ " has length " ++
      toString length ++ "; 2 is required"
  | .notText description => description
  | .isADirectory path => "[Errno 21] Is a directory: " ++ Quoted.encode path
  | .notPermitted path => "[Errno 13] Permission denied: " ++ Quoted.encode path
  | .noModule name => "No module named " ++ Quoted.encode name
  | .noPackage name parent =>
    "No module named " ++ Quoted.encode name ++ "; " ++ Quoted.encode parent ++ " is not a package"
  | .emptyModuleName => "Empty module name"
  | .relativeModule name =>
    "the 'package' argument is required to perform a relative import for " ++ Quoted.encode name
  | .selectorMissing => "Property selector cannot be None"
  | .selectorKind className _ =>
    "Property selector must be a property name or a PropertyRef, got " ++ className
  | .notAName text _ => "'" ++ text ++ "' is not a direct property name"
  | .accessorNotCallable name _ => "Accessor for '" ++ name ++ "' must be callable"
  | .methodNotProperty name model =>
    "'" ++ name ++ "' is a method of " ++ model ++ ", not a property"
  | .unknownProperty name model => "Unknown property '" ++ name ++ "' on " ++ model
  | .notNumeric check _ name declared =>
    "'" ++ check ++ "' needs a numeric property, but '" ++ name ++ "' is declared as " ++ declared
  | .predicateNotCallable _ name _ => "Predicate for '" ++ name ++ "' must be callable"
  | .needsCallable check _ name _ =>
    "'" ++ check ++ "' on '" ++ name ++ "' needs a callable predicate"
  | .dependentMissing _ name =>
    "Dependent property selector for '" ++ name ++ "' cannot be None"
  | .blockingForbidden _ =>
    "validate() met an asynchronous rule inside a running event loop; " ++
      "use validate_async() instead"
  | .validationFailed failing _ => "Validation failed for: " ++ failing
  | .clockNotCallable _ => "Setting 'clock' must be callable"
  | .notBoolean setting shown =>
    "Setting '" ++ setting ++ "' must be a boolean, got " ++ shown
  | .templateNotText _ => "Setting 'default_message' must be a string"
  | .templateInvalid fault _ =>
    "Setting 'default_message' is not a valid template: " ++ fault.message
  | .templatePlaceholders names _ =>
    "Setting 'default_message' may only use the \x7bfield\x7d placeholder, got " ++ names
  | .fileMissing path => "Settings file not found: " ++ path
  | .fileFormat suffix _ => "Unsupported settings file format: " ++ suffix
  | .fileUnparsed path => "Failed to parse settings file " ++ path
  | .fileNotMapping path _ => "Settings file " ++ path ++ " must contain a mapping"
  | .alreadyRegistered key _ registry =>
    "Item '" ++ key ++ "' already registered in " ++ registry
  | .notRegistered key _ _ => "Item not found: " ++ key
  | .notAValidator shown => shown ++ " is not a Validator subclass"
  | .noModel validator => validator ++ " does not declare the type it validates"
  | .unknownId id => id

/-- An entry of the details of a fault. -/
private def entry (name : String) (v : Value) : Value × Value := (.str name, v)

/-- The details of a fault of the rule library itself. -/
def details : Fault → List (Value × Value)
  | .selectorKind _ shown => [entry "selector" (.str shown)]
  | .notAName _ shown => [entry "selector" (.str shown)]
  | .accessorNotCallable name shown =>
    [entry "property" (.str name), entry "accessor" (.str shown)]
  | .methodNotProperty name model => [entry "property" (.str name), entry "model" (.str model)]
  | .unknownProperty name model => [entry "property" (.str name), entry "model" (.str model)]
  | .notNumeric check name _ _ => [entry "property" name, entry "check" (.str check)]
  | .predicateNotCallable name _ shown => [entry "property" name, entry "predicate" (.str shown)]
  | .needsCallable _ name _ shown => [entry "property" name, entry "predicate" (.str shown)]
  | .dependentMissing name _ => [entry "property" name]
  | .blockingForbidden validator => [entry "validator" (.str validator)]
  | .validationFailed _ errors => [entry "errors" errors]
  | .clockNotCallable shown => [entry "setting" (.str "clock"), entry "value" (.str shown)]
  | .notBoolean setting shown => [entry "setting" (.str setting), entry "value" (.str shown)]
  | .templateNotText shown =>
    [entry "setting" (.str "default_message"), entry "value" (.str shown)]
  | .templateInvalid _ source | .templatePlaceholders _ source =>
    [entry "setting" (.str "default_message"), entry "value" (.str source)]
  | .fileMissing path | .fileFormat _ path | .fileUnparsed path => [entry "path" (.str path)]
  | .fileNotMapping path typeName => [entry "path" (.str path), entry "type" (.str typeName)]
  | .alreadyRegistered key registry _ =>
    [entry "key" (.str key), entry "registry" registry]
  | .notRegistered key registry none => [entry "key" (.str key), entry "registry" registry]
  | .notRegistered key registry (some available) =>
    [entry "key" (.str key), entry "registry" registry,
      entry "available_keys" (.list (available.map .str))]
  | .notAValidator shown => [entry "validator" (.str shown)]
  | .noModel validator => [entry "validator" (.str validator)]
  | _ => []

/-- The details that are reported with a fault: those of the rule library's own faults. -/
def context? (f : Fault) : Option (List (Value × Value)) :=
  if f.libraryKind?.isSome then some f.details else none

end Fault

end Rulebook
