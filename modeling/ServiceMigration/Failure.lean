import ServiceMigration.Chunk.Partition
import ServiceMigration.Files.Content
import ServiceMigration.Json.Error
import ServiceMigration.Validation.Checked
/-!
# What ends a run

The causes for which a migration stops.  Most are foreseen and have a message; the last group is
not: such a cause is reported as it is.
-/

namespace ServiceMigration

inductive SettingsProblem where
  | unreadable (path : Path) (e : FileError)
  | malformed (path : Path) (explanation : String)
  | notMapping (path : Path)
  | sectionNotMapping (path : Path)
  | invalid (report : Validation.Report)
  deriving DecidableEq, Repr

def SettingsProblem.text : SettingsProblem → String
  | .unreadable path e => "Cannot read config file " ++ path.toText ++ ": " ++ e.text
  | .malformed path explanation => "Invalid YAML in " ++ path.toText ++ ": " ++ explanation
  | .notMapping path => "Config file " ++ path.toText ++ " must contain a mapping"
  | .sectionNotMapping path => "'migrator' section of " ++ path.toText ++ " must be a mapping"
  | .invalid report => "Invalid settings: " ++ report.text

inductive InputProblem where
  | unreadable (path : Path) (e : FileError)
  | malformedJson (path : Path) (explanation : String)
  | malformedYaml (path : Path) (explanation : String)
  | notMapping (path : Path)
  | invalidPayload (report : Validation.Report)
  | notFound (path : Path)
  | notConfigured
  deriving DecidableEq, Repr

def InputProblem.text : InputProblem → String
  | .unreadable path e => "Cannot read " ++ path.toText ++ ": " ++ e.text
  | .malformedJson path explanation | .malformedYaml path explanation =>
    path.toText ++ " is not valid JSON/YAML: " ++ explanation
  | .notMapping path => path.toText ++ " must contain an object"
  | .invalidPayload report => "Invalid analysis payload: " ++ report.text
  | .notFound path => "Input not found: " ++ path.toText
  | .notConfigured => "Both input and output must be configured"

/-- A value that no number, date or name can be made of. -/
inductive BadValue where
  | tooManyDigits (count : Nat)
  | chunkSize (e : Chunk.SizeError)
  | noSuchTime (explanation : String)
  /-- The text spells no whole number to the base, or without a base no number at all. -/
  | noNumber (base : Option Nat) (text : String)
  /-- A whole number with too many digits would have to be written out. -/
  | tooLongToWrite
  | nullInName
  deriving DecidableEq, Repr

def BadValue.text : BadValue → String
  | .tooManyDigits count => (Json.Error.tooManyDigits count).text
  | .chunkSize e => e.text
  | .noSuchTime explanation => explanation
  | .noNumber (some base) text =>
    "invalid literal for int() with base " ++ toString base ++ ": " ++ Text.quoted text
  | .noNumber none text => "could not convert string to float: " ++ Text.quoted text
  | .tooLongToWrite =>
    s!"Exceeds the limit ({Json.maxDigits} digits) for integer string conversion; " ++
      "use sys.set_int_max_str_digits() to increase the limit"
  | .nullInName => "embedded null byte"

inductive Failure where
  | settings (p : SettingsProblem)
  | input (p : InputProblem)
  | template (path : Path)
  | artifacts (directory : Path) (e : FileError)
  /-- A model was put together from values that do not fit. -/
  | invalid (report : Validation.Report)
  | badValue (v : BadValue)
  | undecodable
  | accident (a : Accident)
  deriving DecidableEq, Repr

namespace Failure

/-- The message for a failure; an unforeseen one has none. -/
def text? : Failure → Option String
  | .settings p => some p.text
  | .input p => some p.text
  | .template path => some ("Failed to load prompt: " ++ path.toText)
  | .artifacts directory e =>
    some ("Cannot write artifacts to " ++ directory.toText ++ ": " ++ e.text)
  | .invalid report => some report.text
  | .badValue v => some v.text
  | .undecodable | .accident _ => none

/-- What is wrong with a document, where that is the cause. -/
def report? : Failure → Option Validation.Report
  | .settings (.invalid report) => some report
  | .input (.invalidPayload report) => some report
  | .invalid report => some report
  | _ => none

/-- The failure is foreseen: a command reports it in one line and ends in order. -/
def isForeseen : Failure → Bool
  | .settings _ | .input _ | .template _ | .artifacts .. => true
  | .invalid _ | .badValue _ | .undecodable | .accident _ => false

end Failure

end ServiceMigration
