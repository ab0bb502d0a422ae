/-
EndpointCatalog.Settings — what the environment sets.

* `Settings.ofEnvironment` reads all settings; a timeout that is no integer
  is an error.
* `levelNumber` is the number of a log level's name, in any letter case.
-/
import EndpointCatalog.Number.Literal
import EndpointCatalog.Text.Quoted

namespace EndpointCatalog

/-- Names and values of the environment. -/
abbrev Environment := List (String × String)

/-- The value of a name. -/
def Environment.get? (env : Environment) (name : String) : Option String :=
  (env.find? fun entry => entry.1 = name).map Prod.snd

/-- The settings of a run. -/
structure Settings where
  logLevel : Nat := 20
  logDateFormat : String := "%Y-%m-%d %H:%M:%S"
  logFormat : String := "[%(asctime)s] %(levelname)s:%(name)s:%(message)s"
  defaultFramework : String := "express"
  defaultObject : String := "router"
  githubToken : Option String := none
  githubApi : String := "https://api.github.com"
  cloneTimeout : Int := 300
  httpTimeout : Int := 60
deriving DecidableEq, Repr

/-! ## Log levels -/

/-- Upper case as far as ASCII names can tell: some letters outside ASCII have ASCII capitals. -/
def upperName (cs : List Char) : List Char :=
  cs.flatMap fun c =>
    match c.toNat with
    | 0xDF => ['S', 'S']
    | 0x131 => ['I']
    | 0x17F => ['S']
    | 0xFB00 => ['F', 'F']
    | 0xFB01 => ['F', 'I']
    | 0xFB02 => ['F', 'L']
    | 0xFB03 => ['F', 'F', 'I']
    | 0xFB04 => ['F', 'F', 'L']
    | 0xFB05 => ['S', 'T']
    | 0xFB06 => ['S', 'T']
    | _ => [c.toUpper]

/-- The numbers of the named log levels. -/
def levelNumbers : List (String × Nat) :=
  [("CRITICAL", 50), ("FATAL", 50), ("ERROR", 40), ("WARN", 30), ("WARNING", 30), ("INFO", 20),
   ("DEBUG", 10), ("NOTSET", 0)]

/-- The number of a log level; an unknown name stands for `INFO`. -/
def levelNumber (name : String) : Nat :=
  let upper := String.ofList (upperName name.toList)
  ((levelNumbers.find? fun entry => entry.1 = upper).map Prod.snd).getD 20

/-! ## Timeouts -/

/-- A decimal integer, leading zeros allowed, between blanks. -/
def decimalInteger (s : String) : Except String Int :=
  let spelled := asciiSpelling (Text.ofString s).trim
  let (negative, rest) := splitSign spelled
  match groupedDigits? 10 rest with
  | none =>
    .error ("invalid literal for int() with base 10: " ++ String.ofList ((quotedString s).toList.take 200))
  | some ds =>
    if longestInteger < ds.length then
      .error ("Exceeds the limit (" ++ toString longestInteger ++
        " digits) for integer string conversion: value has " ++ toString ds.length ++
        " digits; use sys.set_int_max_str_digits() to increase the limit")
    else
      let n : Int := ofDigits 10 ds
      .ok (if negative then -n else n)

namespace Settings

/-- A timeout of the environment. -/
def timeout (env : Environment) (name : String) (otherwise : Int) : Except String Int :=
  match env.get? name with
  | none => .ok otherwise
  | some value => decimalInteger value

/-- A text without the slashes at its end. -/
def withoutFinalSlashes (s : String) : String :=
  String.ofList (s.toList.reverse.dropWhile (· == '/')).reverse

/-- The settings of an environment. -/
def ofEnvironment (env : Environment) : Except String Settings := do
  let standard : Settings := {}
  let cloneTimeout ← timeout env "APISCOUT_CLONE_TIMEOUT" standard.cloneTimeout
  let httpTimeout ← timeout env "APISCOUT_HTTP_TIMEOUT" standard.httpTimeout
  pure {
    logLevel := ((env.get? "LOG_LEVEL").map levelNumber).getD standard.logLevel
    logDateFormat := (env.get? "LOG_DATE_FORMAT").getD standard.logDateFormat
    logFormat := (env.get? "LOG_FORMAT").getD standard.logFormat
    defaultFramework := (env.get? "APISCOUT_DEFAULT_FRAMEWORK").getD standard.defaultFramework
    defaultObject := (env.get? "APISCOUT_DEFAULT_OBJECT").getD standard.defaultObject
    githubToken := env.get? "GITHUB_TOKEN"
    githubApi := withoutFinalSlashes ((env.get? "GITHUB_API_URL").getD standard.githubApi)
    cloneTimeout := cloneTimeout
    httpTimeout := httpTimeout }

end Settings

/-- How messages of a named part of the program are written. -/
structure Logger where
  name : String
  level : Nat
  format : String
  dateFormat : String
deriving DecidableEq, Repr

/-- The logger of a name; there is one for each name, and its messages go nowhere else. -/
def Logger.ofName (settings : Settings) (name : String) : Logger :=
  ⟨name, settings.logLevel, settings.logFormat, settings.logDateFormat⟩

end EndpointCatalog
