import ServiceMigration.Text.Blank
import ServiceMigration.Text.Cut
import ServiceMigration.Text.Digit
import ServiceMigration.Validation.Scalars
/-!
# Arguments of a command

Options begin with a dash and may stand anywhere among the other arguments; two dashes alone end
them.  A long option takes its value from the next argument or after an equals sign; short options
may be run together, and the rest of such a run is the value of the first that takes one.  Of an
option that is given several times the last counts.
-/

namespace ServiceMigration.CommandLine

/-- An option: its names, what it sets, and the value that it sets unless it takes one. -/
structure OptionSpec where
  names : List String
  setting : String
  /-- The value of an option that takes none. -/
  fixed : Option String := none
  deriving DecidableEq, Repr

structure Arguments where
  /-- What options set, latest first. -/
  settings : List (String × String) := []
  positional : List String := []
  deriving DecidableEq, Repr

namespace Arguments

def get? (a : Arguments) (setting : String) : Option String := a.settings.lookup setting

def set (a : Arguments) (setting value : String) : Arguments :=
  { a with settings := (setting, value) :: a.settings }

def optionOf? (specs : List OptionSpec) (name : String) : Option OptionSpec :=
  specs.find? (·.names.contains name)

/-- A long option, with its value if that is attached, before the arguments that follow.  Nothing
comes of it if a value is missing or superfluous. -/
def takeLong (a : Arguments) (spec : OptionSpec) (attached : Option String) (rest : List String) :
    Option (Arguments × List String) :=
  match spec.fixed, attached, rest with
  | some _, some _, _ => none
  | some value, none, rest => some (a.set spec.setting value, rest)
  | none, some value, rest => some (a.set spec.setting value, rest)
  | none, none, value :: rest => some (a.set spec.setting value, rest)
  | none, none, [] => none

/-- Short options that are run together, before the arguments that follow. -/
def takeShort (specs : List OptionSpec) (a : Arguments) :
    List Char → List String → Option (Arguments × List String)
  | [], rest => some (a, rest)
  | c :: cs, rest =>
    match optionOf? specs (String.ofList ['-', c]) with
    | none => none
    | some spec =>
      match spec.fixed with
      | some value => takeShort specs (a.set spec.setting value) cs rest
      | none =>
        if cs.isEmpty then takeLong a spec none rest
        else takeLong a spec (some (String.ofList cs)) rest

/-- An argument that begins with a dash, before the arguments that follow. -/
def takeOption (specs : List OptionSpec) (a : Arguments) (arg : List Char) (rest : List String) :
    Option (Arguments × List String) :=
  let name := String.ofList (Text.beforeFirst '=' arg)
  let isLong := 2 < name.length || name.toList.take 2 == ['-', '-']
  match (if isLong then optionOf? specs name else none) with
  | some spec => takeLong a spec ((Text.afterFirst? '=' arg).map String.ofList) rest
  | none => if arg.take 2 == ['-', '-'] then none else takeShort specs a (arg.drop 1) rest

/-- Sort arguments out; nothing comes of it where an option is unknown or lacks its value.  Every
step takes an argument. -/
def takeAll (specs : List OptionSpec) : Nat → Arguments → List String → Option Arguments
  | 0, a, _ => some a
  | fuel + 1, a, args =>
    match args with
    | [] => some a
    | "--" :: rest => some { a with positional := a.positional ++ rest }
    | arg :: rest =>
      match arg.toList with
      | '-' :: c :: cs =>
        match takeOption specs a ('-' :: c :: cs) rest with
        | none => none
        | some (a, rest) => takeAll specs fuel a rest
      | _ => takeAll specs fuel { a with positional := a.positional ++ [arg] } rest

def ofList (specs : List OptionSpec) (args : List String) : Option Arguments :=
  takeAll specs (args.length + 1) {} args

end Arguments

/-- A whole number as an argument: digits of any script with a sign, single underscores between
digits, and blanks around it. -/
def wholeNumber? (text : String) : Option Int :=
  let (negative, body) :=
    Validation.splitSign ((Text.trimBoth Text.isBlank text.toList).map Text.plainDigit)
  let ds := (Validation.dropUnderscores? body).getD body
  if Validation.areDigits ds && ds.length ≤ 4300 then
    let n : Int := Decimal.ofDigits ds
    some (if negative then -n else n)
  else none

end ServiceMigration.CommandLine
