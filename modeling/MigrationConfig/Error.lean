/-
# Errors

Everything that can be refused, as a cause rather than as a sentence.  The
causes of an invalid setting share one report format: a message, the setting
and the value at fault, and a code that stands for the kind of error.  Keys
that no setting has, and settings beyond the edition in use, are reported in
formats of their own.

Further families are not about settings: a value that cannot be converted at all
(`ValueFault`), a file that cannot even be asked for (`FileFault`), a stream that cannot
be closed without losing what was written to it (`SystemFault`), and arguments of a
record that do not fit its fields (`ArgumentFault`).
-/
import MigrationConfig.Codec.Decode
import MigrationConfig.Document
import MigrationConfig.Path

namespace MigrationConfig

/-- A fault that the system answers with: its number and its wording. -/
structure SystemFault where
  number : Nat
  wording : String
  deriving DecidableEq

def SystemFault.message (f : SystemFault) : String :=
  "[Errno " ++ Text.integerText (Int.ofNat f.number) ++ "] " ++ f.wording

/-- Why a file cannot be reached. -/
inductive FileTrouble where
  | missing
  | exists
  | notDirectory
  | isDirectory
  | nameTooLong
  /-- the system refuses it, for want of a permission or for any other reason -/
  | refused (fault : SystemFault)
  deriving DecidableEq

namespace FileTrouble

/-- The fault that the system answers with. -/
def fault : FileTrouble → SystemFault
  | .missing => ⟨2, "No such file or directory"⟩
  | .exists => ⟨17, "File exists"⟩
  | .notDirectory => ⟨20, "Not a directory"⟩
  | .isDirectory => ⟨21, "Is a directory"⟩
  | .nameTooLong => ⟨36, "File name too long"⟩
  | .refused f => f

/-- The numbers that count as an answer where it is asked whether a file is there: no
such file, no descriptor, no directory on the way, and links that lead round. -/
def absenceNumbers : List Nat := [2, 9, 20, 40]

/-- The trouble says that there is no such file. -/
def isMissing (e : FileTrouble) : Bool := e.fault.number == 2

/-- The trouble counts as the answer that the file is not there. -/
def isAbsence (e : FileTrouble) : Bool := absenceNumbers.contains e.fault.number

end FileTrouble

/-- The trouble with a file, under the path it was asked for. -/
structure FileFault where
  trouble : FileTrouble
  path : Path

def FileFault.message (f : FileFault) : String :=
  f.trouble.fault.message ++ ": " ++ Text.quoted f.path.toString

/-- The roles that a class of an extension can play. -/
inductive Interface where
  | callback
  | resolver
  | codeMigration
  deriving DecidableEq

def Interface.name : Interface → String
  | .callback => "Callback"
  | .resolver => "MigrationResolver"
  | .codeMigration => "CodeMigration"

/-- Why a setting is invalid. -/
inductive Cause where
  /-- the value of `key` is neither of the two truth values -/
  | notBoolean (key raw : String)
  /-- the value of `key` is not an integer -/
  | notInteger (key raw : String)
  /-- a version has an empty part -/
  | emptyVersionPart (text : String)
  /-- a part of a version is not a number -/
  | nonNumericVersion (text : String)
  /-- a pattern is blank -/
  | blankPattern
  /-- an override is not of the form state, code, behavior -/
  | malformedOverride (text : String)
  /-- a list setting is given nothing -/
  | missingList (field : String)
  /-- a text setting that must not be empty is, or is given nothing -/
  | emptyText (field : String) (value : Option String)
  /-- a counter is given something other than an integer -/
  | counterNotInteger (field : String) (value : Document)
  /-- a counter is given a negative number -/
  | negativeCounter (field : String) (value : Int)
  /-- a list of instances holds something that does not play the role -/
  | foreignEntry (field literal : String) (role : Interface)
  /-- no encoding has the name -/
  | unknownEncoding (name : Option String)
  /-- the path of the dry-run output is a directory -/
  | outputIsDirectory (path : Path)
  /-- the file of the dry-run output cannot be opened -/
  | outputNotOpened (path : Path) (fault : FileFault)
  /-- a class name has no module, and there is no default package -/
  | unqualifiedClass (name : String)
  /-- the module of a class cannot be imported -/
  | moduleNotImported (name reason : String)
  /-- a module has no class of the name -/
  | classNotFound (name moduleName className : String)
  /-- a class does not play the role -/
  | wrongInterface (name : String) (role : Interface)
  /-- an instance of a class cannot be made -/
  | notConstructed (name reason : String)
  /-- a required settings file is missing -/
  | fileNotFound (path : Path)
  /-- a settings file cannot be read -/
  | fileNotRead (path : Path) (reason : String)
  /-- a settings file does not parse; the reason is given where it is known -/
  | fileNotParsed (path : Path) (reason : Option String)
  /-- a settings file holds something other than a mapping -/
  | fileNotMapping (path : Path)

namespace Cause

def message : Cause → String
  | notBoolean key raw =>
      "Invalid value for " ++ key ++ " (should be either true or false): " ++ raw
  | notInteger key raw => "Invalid value for " ++ key ++ " (should be an integer): " ++ raw
  | emptyVersionPart text =>
      "Version may only contain 0..9 and . (dot). Invalid version: " ++ text
  | nonNumericVersion text =>
      "Invalid version containing non-numeric characters. " ++
        "Only 0..9 and . are allowed. Invalid version: " ++ text
  | blankPattern => "cherryPick patterns cannot be empty"
  | malformedOverride text =>
      "Invalid error override: " ++ text ++
        " (expected STATE:CODE:BEHAVIOR, e.g. 99999:17110:E)"
  | missingList field => field ++ " cannot be None"
  | emptyText field _ => field ++ " cannot be empty!"
  | counterNotInteger field value =>
      "Invalid number of " ++ field ++ " (must be an integer): " ++ value.plain
  | negativeCounter field value =>
      "Invalid number of " ++ field ++ " (must be 0 or greater): " ++ Text.integerText value
  | foreignEntry field literal role =>
      "Invalid " ++ field ++ " entry: " ++ literal ++ " (must implement " ++ role.name ++ ")"
  | unknownEncoding name => "Unknown encoding: " ++ name.getD "None"
  | outputIsDirectory path => "Invalid dryRunOutput: " ++ path.toString ++ " is a directory"
  | outputNotOpened path fault =>
      "Unable to open dryRunOutput file " ++ path.toString ++ ": " ++ fault.message
  | unqualifiedClass name =>
      "Unable to load class " ++ name ++ ": name must be fully qualified"
  | moduleNotImported name reason => "Unable to load class " ++ name ++ ": " ++ reason
  | classNotFound name moduleName className =>
      "Unable to load class " ++ name ++ ": " ++ moduleName ++ " has no class " ++ className
  | wrongInterface name role =>
      "Invalid class: " ++ name ++ " (must implement " ++ role.name ++ ")"
  | notConstructed name reason => "Unable to instantiate class " ++ name ++ ": " ++ reason
  | fileNotFound path => "Unable to find config file: " ++ path.toString
  | fileNotRead path reason =>
      "Unable to load config file: " ++ path.toString ++ " (" ++ reason ++ ")"
  | fileNotParsed path reason =>
      "Unable to parse config file: " ++ path.toString ++
        (match reason with
          | none => ""
          | some r => " (" ++ r ++ ")")
  | fileNotMapping path =>
      "Config file " ++ path.toString ++ " must contain a mapping at the top level"

/-- The setting at fault. -/
def field : Cause → String
  | notBoolean key _ => key
  | notInteger key _ => key
  | emptyVersionPart _ => "version"
  | nonNumericVersion _ => "version"
  | blankPattern => "cherryPick"
  | malformedOverride _ => "errorOverrides"
  | missingList field => field
  | emptyText field _ => field
  | counterNotInteger field _ => field
  | negativeCounter field _ => field
  | foreignEntry field _ _ => field
  | unknownEncoding _ => "encoding"
  | outputIsDirectory _ => "dryRunOutput"
  | outputNotOpened _ _ => "dryRunOutput"
  | unqualifiedClass _ => "className"
  | moduleNotImported _ _ => "className"
  | classNotFound _ _ _ => "className"
  | wrongInterface _ _ => "className"
  | notConstructed _ _ => "className"
  | fileNotFound _ => "configFiles"
  | fileNotRead _ _ => "configFiles"
  | fileNotParsed _ _ => "configFiles"
  | fileNotMapping _ => "configFiles"

/-- The value at fault; null when the cause has none. -/
def value : Cause → Document
  | notBoolean _ raw => .text raw
  | notInteger _ raw => .text raw
  | emptyVersionPart text => .text text
  | nonNumericVersion text => .text text
  | blankPattern => .null
  | malformedOverride text => .text text
  | missingList _ => .null
  | emptyText _ value => .ofText? value
  | counterNotInteger _ value => value
  | negativeCounter _ value => .number value
  | foreignEntry _ _ _ => .null
  | unknownEncoding name => .ofText? name
  | outputIsDirectory path => .text path.toString
  | outputNotOpened path _ => .text path.toString
  | unqualifiedClass name => .text name
  | moduleNotImported name _ => .text name
  | classNotFound name _ _ => .text name
  | wrongInterface name _ => .text name
  | notConstructed name _ => .text name
  | fileNotFound path => .text path.toString
  | fileNotRead path _ => .text path.toString
  | fileNotParsed path _ => .text path.toString
  | fileNotMapping path => .text path.toString

end Cause

/-- A value that cannot be converted. -/
inductive ValueFault where
  /-- an integer is written with so many digits that it is not read -/
  | tooManyDigits (count : Nat)
  /-- an integer has so many digits that it is not written -/
  | tooLongToWrite
  /-- a text is no integer of the base -/
  | notInBase (base : Nat) (text : String)
  /-- a text is no float -/
  | notFloat (text : String)
  /-- a path holds a null character -/
  | nullInPath
  /-- the name of an encoding holds a null character -/
  | nullInName
  /-- a text is to be cut at an empty separator -/
  | emptySeparator
  /-- a module is imported under an empty name -/
  | emptyModuleName
  /-- no edition has the name -/
  | unknownEdition (name : String)
  /-- no export format has the name -/
  | unsupportedFormat (name : String)
  /-- a timestamp is not in the calendar -/
  | calendar (fault : CalendarFault)
  /-- two-byte text does not start with a byte order mark -/
  | noByteOrderMark
  /-- a decoder refuses a text as a whole, for a reason of its own -/
  | notDecoded (reason : String)
  /-- a number lies beyond all characters -/
  | noSuchCharacter
  /-- a number is so large that it is not even looked for among the characters -/
  | characterTooLarge
  /-- an integer is larger than all floats -/
  | largerThanFloats
  /-- a text is no timestamp -/
  | notTimestamp
  /-- a collection that stands inside itself would be followed without end -/
  | endless (what : Document.Endless)
  /-- a number is written without any character -/
  | emptyNumber
  /-- a text is no truth value -/
  | notFlag (text : String)

def ValueFault.message : ValueFault → String
  | tooManyDigits count =>
      "Exceeds the limit (4300 digits) for integer string conversion: value has " ++
        Text.integerText (Int.ofNat count) ++
        " digits; use sys.set_int_max_str_digits() to increase the limit"
  | tooLongToWrite =>
      "Exceeds the limit (4300 digits) for integer string conversion; " ++
        "use sys.set_int_max_str_digits() to increase the limit"
  | notInBase base text =>
      "invalid literal for int() with base " ++ Text.integerText (Int.ofNat base) ++ ": " ++
        String.ofList ((Text.quoted text).toList.take 200)
  | notFloat text => "could not convert string to float: " ++ Text.quoted text
  | nullInPath => "embedded null byte"
  | nullInName => "embedded null character"
  | emptySeparator => "empty separator"
  | emptyModuleName => "Empty module name"
  | unknownEdition name => Text.quoted name ++ " is not a valid Edition"
  | unsupportedFormat name => "Unsupported export format: " ++ name
  | calendar fault => fault.message
  | noByteOrderMark => Codec.Fault.noByteOrderMark.message
  | notDecoded reason => reason
  | noSuchCharacter => "chr() arg not in range(0x110000)"
  | characterTooLarge => "Python int too large to convert to C int"
  | largerThanFloats => "int too large to convert to float"
  | notTimestamp => "'NoneType' object has no attribute 'groupdict'"
  | endless .mapping => "maximum recursion depth exceeded in comparison"
  | endless .list => "maximum recursion depth exceeded"
  | endless .text => "maximum recursion depth exceeded"
  | emptyNumber => "string index out of range"
  | notFlag text => Text.quoted text

/-- An operation on a value of the wrong kind. -/
inductive TypeFault where
  /-- a module is imported under a name that starts with a dot -/
  | relativeModule (name : String)
  /-- a version is compared with something that is none; the kinds are named -/
  | incomparable (left right : String)

def TypeFault.message : TypeFault → String
  | relativeModule name =>
      "the 'package' argument is required to perform a relative import for " ++ Text.quoted name
  | incomparable left right =>
      "'<' not supported between instances of '" ++ left ++ "' and '" ++ right ++ "'"

/-- What an argument of a record should have been. -/
inductive ArgumentTrouble where
  | missing
  | notText
  | notFlag
  | unreadableFlag
  | notList
  | notMapping
  | notPath
  | refused (reason : String)
  deriving DecidableEq

/-- An argument that does not fit, under the way that leads to it. -/
structure ArgumentFault where
  location : List String
  trouble : ArgumentTrouble

/-- Everything that can be refused. -/
inductive Error where
  /-- a setting is invalid -/
  | invalid (cause : Cause)
  /-- keys that no setting has -/
  | unrecognized (keys : List String)
  /-- a setting of a higher edition; both editions by their descriptions -/
  | upgradeRequired (feature required current : String)
  /-- a value that cannot be converted -/
  | value (fault : ValueFault)
  /-- a value of the wrong kind -/
  | type (fault : TypeFault)
  /-- a file that cannot even be asked for -/
  | file (fault : FileFault)
  /-- a stream that cannot be closed without a fault -/
  | stream (fault : SystemFault)
  /-- arguments that do not fit a record -/
  | arguments (faults : List ArgumentFault)

/-- What a report is about, beyond its message. -/
inductive Subject where
  | general
  | setting (field : Option String) (value : Document)
  | unrecognized (keys : List String)
  | upgrade (feature required current : String)

/-- An error as it is shown: the message for the log and the one for the user, a
code with its category, the facts around it in order, and advice. -/
structure Report where
  message : String
  userMessage : String
  code : String
  category : String
  context : List (String × Document)
  recovery : Option String
  subject : Subject

namespace Report

/-- A text that is given and not empty, or else a default. -/
def orElse (given : Option String) (default : String) : String :=
  match given with
  | some s => if s.isEmpty then default else s
  | none => default

/-- The report of an error without a kind of its own. -/
def general (message : String) (userMessage code : Option String)
    (context : List (String × Document)) (recovery : Option String) : Report :=
  ⟨message, orElse userMessage message, orElse code "FLY_0000", "GENERAL", context, recovery,
    .general⟩

/-- The report of an invalid setting; the facts around it are the setting and
the value, as far as they are known. -/
def setting (message : String) (field : Option String) (value : Document)
    (recovery : Option String) : Report :=
  ⟨message, message, "FLY_1000", "CLIENT_ERROR",
    (match field with
      | none => []
      | some f => [("field", .text f)]) ++
      (if value.isNull then [] else [("value", value)]),
    recovery, .setting field value⟩

/-- The keys of a report in the order of their characters. -/
def sortKeys (keys : List String) : List String :=
  keys.mergeSort fun a b => decide (a ≤ b)

/-- The report of keys that no setting has. -/
def unrecognized (keys : List String) : Report :=
  let sorted := sortKeys keys
  let message :=
    match sorted with
    | [key] => "Unknown configuration property: " ++ key
    | _ => "Unknown configuration properties: " ++ ", ".intercalate sorted
  ⟨message, message, "FLY_1001", "CLIENT_ERROR", [("properties", .texts sorted)],
    some "Check the property names for typos", .unrecognized sorted⟩

/-- The report of a feature beyond the edition in use. -/
def upgrade (feature required current : String) : Report :=
  ⟨required ++ " upgrade required: " ++ feature ++ " is not supported by " ++ current ++ ".",
    feature ++ " requires " ++ required, "FLY_2000", "EDITION_ERROR",
    [("feature", .text feature), ("edition", .text current)],
    some ("Upgrade to " ++ required ++ " to use " ++ feature),
    .upgrade feature required current⟩

end Report

namespace Error

/-- The report of an error of the settings; the other families have none. -/
def report? : Error → Option Report
  | invalid c => some (.setting c.message (some c.field) c.value none)
  | unrecognized keys => some (.unrecognized keys)
  | upgradeRequired feature required current => some (.upgrade feature required current)
  | value _ => none
  | type _ => none
  | file _ => none
  | stream _ => none
  | arguments _ => none

/-- The message of an error.  Arguments are reported one by one and have no
message together. -/
def message : Error → String
  | value f => f.message
  | type f => f.message
  | file f => f.message
  | stream f => f.message
  | arguments _ => ""
  | e => match e.report? with
      | some r => r.message
      | none => ""

/-- An error of an invalid setting or of unknown keys; these can be caught
where a settings file may be passed over. -/
def isConfiguration : Error → Bool
  | invalid _ => true
  | unrecognized _ => true
  | _ => false

end Error

end MigrationConfig
