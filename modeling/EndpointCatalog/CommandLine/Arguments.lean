/-
EndpointCatalog.CommandLine.Arguments — what a command line asks for.

The first argument names a command. Options stand before or behind the other
arguments; behind `--` nothing is an option. A value stands behind its
option, or in the same argument: behind `=` after a long name, at once after
a short one. Of two values of one option the last counts.

* `Command.ofArguments?` reads a command line; `none` if it is not
  well-formed.
-/
import EndpointCatalog.Settings

namespace EndpointCatalog.CommandLine

/-- What is printed of a discovery. -/
inductive Format where
  | table
  | json
deriving DecidableEq, Repr

/-- The format of a name, in any letter case and between blanks. -/
def Format.named? (name : String) : Option Format :=
  match (String.ofList (trimBlanks name.toList)).toLower with
  | "table" => some .table
  | "json" => some .json
  | _ => none

/-- What a discovery is asked for. -/
structure DiscoverOptions where
  locator : String
  framework : String
  object : String
  token : Option String
  skipsVendored : Bool := true
  format : Format := .table
  out : Option String := none
  limit : Int := 200
deriving DecidableEq, Repr

/-- What a command line asks for. -/
inductive Command where
  | help
  | frameworks
  | discover (options : DiscoverOptions)
deriving DecidableEq, Repr

/-! ## Options -/

/-- An option. -/
inductive OptionName where
  | framework
  | object
  | token
  | skipVendor
  | noSkipVendor
  | format
  | out
  | limit
  | help
deriving DecidableEq, Repr

namespace OptionName

/-- Whether an option has a value. -/
def hasValue : OptionName → Bool
  | .skipVendor | .noSkipVendor | .help => false
  | _ => true

/-- The option of a long name. -/
def long? : String → Option OptionName
  | "--framework" => some .framework
  | "--object" => some .object
  | "--token" => some .token
  | "--skip-vendor" => some .skipVendor
  | "--no-skip-vendor" => some .noSkipVendor
  | "--format" => some .format
  | "--out" => some .out
  | "--limit" => some .limit
  | "--help" => some .help
  | _ => none

/-- The option of a short name. -/
def short? : Char → Option OptionName
  | 'f' => some .framework
  | 'o' => some .object
  | _ => none

end OptionName

/-! ## Reading -/

/-- What is read of some arguments: options with their values, the latest first, and other
arguments in their order. -/
structure Reading where
  options : List (OptionName × String) := []
  places : List String := []
deriving DecidableEq, Repr

namespace Reading

/-- The last value of an option. -/
def value? (r : Reading) (name : OptionName) : Option String :=
  (r.options.find? fun e => e.1 = name).map Prod.snd

/-- Whether an option is given. -/
def has (r : Reading) (name : OptionName) : Bool := (r.value? name).isSome

/-- With one more option. -/
def withOption (r : Reading) (name : OptionName) (value : String) : Reading :=
  { r with options := (name, value) :: r.options }

/-- With one more argument. -/
def withPlace (r : Reading) (place : String) : Reading := { r with places := r.places ++ [place] }

/-- The option that an argument names, and the value in the same argument. -/
def optionOf? (arg : String) : Option (OptionName × Option String) :=
  let cs := arg.toList
  let name := String.ofList (cs.takeWhile (· ≠ '='))
  match OptionName.long? name with
  | some option =>
    some (option, if cs.contains '=' then some (String.ofList ((cs.dropWhile (· ≠ '=')).drop 1))
      else none)
  | none =>
    match cs with
    | '-' :: letter :: value =>
      (OptionName.short? letter).map fun option =>
        (option, if value.isEmpty then none else some (String.ofList value))
    | _ => none

/-- Whether an argument is an option, well-formed or not. -/
def isOption (arg : String) : Bool := arg.toList.head? = some '-' && arg ≠ "-"

/-- Reads arguments, if all options in them are known and have the values that they need. -/
def read? (known : OptionName → Bool) (r : Reading) : List String → Option Reading
  | [] => some r
  | arg :: rest =>
    if arg = "--" then some { r with places := r.places ++ rest }
    else if !isOption arg then (r.withPlace arg).read? known rest
    else
      match optionOf? arg with
      | none => none
      | some (option, value) =>
        if !known option then none
        else if option.hasValue then
          match value with
          | some value => (r.withOption option value).read? known rest
          | none =>
            match rest with
            | value :: rest => (r.withOption option value).read? known rest
            | [] => none
        else if value.isSome then none
        else (r.withOption option "").read? known rest
termination_by args => args.length

end Reading

/-! ## Commands -/

/-- Reads a number that stands for an option; `otherwise` if the option is not given. -/
def numberOf? (value : Option String) (otherwise : Int) : Option Int :=
  match value with
  | none => some otherwise
  | some text => (decimalInteger text).toOption

/-- Whether vendored directories are skipped: the last of two options says so. -/
def skips (options : List (OptionName × String)) : Bool :=
  match options.find? fun e => e.1 = .skipVendor || e.1 = .noSkipVendor with
  | some (name, _) => name = .skipVendor
  | none => true

/-- What a reading of the arguments of a discovery asks for. -/
def discoverOf? (settings : Settings) (r : Reading) : Option Command :=
  if r.has .help then some .help
  else
    match r.places with
    | [locator] => do
      let format ← Format.named? ((r.value? .format).getD "table")
      let limit ← numberOf? (r.value? .limit) 200
      some (.discover {
        locator := locator
        framework := (r.value? .framework).getD settings.defaultFramework
        object := (r.value? .object).getD settings.defaultObject
        token := r.value? .token <|> settings.githubToken
        skipsVendored := skips r.options
        format := format
        out := r.value? .out
        limit := limit })
    | _ => none

/-- What a reading of the arguments of a list of frameworks asks for. -/
def frameworksOf? (r : Reading) : Option Command :=
  if r.has .help then some .help
  else if r.places.isEmpty then some .frameworks
  else none

namespace Command

/-- The command of a name with its arguments. -/
def named? (settings : Settings) (name : String) (args : List String) : Option Command :=
  match name with
  | "discover" => (({} : Reading).read? (fun _ => true) args).bind (discoverOf? settings)
  | "frameworks" => (({} : Reading).read? (· = .help) args).bind frameworksOf?
  | _ => none

/-- Reads what stands behind the help options at the start of a command line. -/
def ofRest? (settings : Settings) (isHelp : Bool) : List String → Option Command
  | [] => if isHelp then some .help else none
  | arg :: rest =>
    if arg = "--help" then ofRest? settings true rest
    else if Reading.isOption arg && arg ≠ "--" then none
    else if isHelp then some .help
    else
      match arg, rest with
      | "--", name :: args => named? settings name args
      | name, args => named? settings name args

/-- Reads a command line. -/
def ofArguments? (settings : Settings) (args : List String) : Option Command :=
  ofRest? settings false args

end Command

end EndpointCatalog.CommandLine
