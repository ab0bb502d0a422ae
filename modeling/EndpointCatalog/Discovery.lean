/-
EndpointCatalog.Discovery — from a locator to a catalog.

A remote source is copied, its framework is detected if none is named, and
its catalog is made. The copy is released once, after everything that reads
it, whether that fails or not. An unknown framework is an error before
anything is fetched.

* `Inquiry.perform` is a run in some `Steps`, which may be taken in any state.
* `Inquiry.run` takes them on the disk of a session.
-/
import EndpointCatalog.Catalog
import EndpointCatalog.Detection
import EndpointCatalog.Remote.Checkout

namespace EndpointCatalog

/-- What is to be discovered. -/
structure Inquiry where
  /-- A directory or a URL. -/
  locator : String
  /-- The name of a profile, or `auto`. -/
  framework : String
  /-- The name of the router or client. -/
  object : String
  token : Option String := none
  /-- Names of directories that are passed over. -/
  ignored : List String := []

/-- What has been discovered. -/
structure Discovery where
  locator : String
  framework : String
  confidence : Binary64
  object : String
  endpoints : List EndpointRecord
  /-- Whether the source was copied. -/
  isCopied : Bool

/-- How remote sources are copied. -/
structure Copying where
  acquire : String → Option String → Acting Remote.Checkout
  release : Remote.Checkout → Acting Unit

/-- Copies from the outside world. -/
def Copying.from (outside : Remote.Outside) (settings : Settings) : Copying :=
  ⟨Remote.acquire outside settings, Remote.release⟩

/-- The steps of a run, in whatever state and with whatever errors they are taken. -/
structure Steps (σ ε : Type) where
  /-- Writes a line of the log. -/
  note : LogEntry → σ → σ
  /-- Copies a remote source, perhaps with a token. -/
  acquire : String → Option String → ExceptT ε (StateM σ) Remote.Checkout
  /-- Removes a copy. -/
  release : Remote.Checkout → ExceptT ε (StateM σ) Unit
  /-- Puts a home directory in place of a leading `~`. -/
  expandHome : Path → ExceptT ε (StateM σ) Path
  /-- The profile of the framework that a source tree uses, and the confidence in it. -/
  detect : Path → ExceptT ε (StateM σ) (Profile × Binary64)
  /-- The catalog of a source tree: directories of some names are passed over, and records may name
  their files as seen from a directory. -/
  catalog : Search → List String → Option Path → Path →
    ExceptT ε (StateM σ) (List EndpointRecord)
  /-- The error that stands for a failure. -/
  ofFailure : Failure → ε

namespace Inquiry

variable {σ ε : Type}

/-- The framework name that asks for detection. -/
def automatic : String := "auto"

/-- The profile of a name. -/
def profileNamed (name : String) : Except Failure Profile :=
  match Profile.find? name with
  | some p => .ok p
  | none => .error (.discovery (.unknownFramework (some name) Profile.names))

/-- The profile that is asked for; `none` if it is to be detected. -/
def profile? (q : Inquiry) : Except Failure (Option Profile) :=
  if Profile.normalName q.framework = automatic then .ok none
  else (profileNamed q.framework).map some

/-- How many source files detection looks at. -/
def sampleSize : Nat := 200

/-- A number with two decimal places, a tie going to the even digit. -/
def twoPlaces (x : Binary64) : String :=
  match x.toRatio? with
  | none => x.render ⟨-4, 16, 2, "inf", "nan"⟩
  | some (num, den) =>
    let hundredths := roundHalfEven (100 * num) den
    let fraction := toString (hundredths % 100)
    (if x.isNegative then "-" else "") ++ toString (hundredths / 100) ++ "." ++
      (if hundredths % 100 < 10 then "0" ++ fraction else fraction)

/-- The profile of the framework that a source tree uses, and the confidence in it. The standard
profile stands in for a framework that cannot be detected. -/
def detectProfile (settings : Settings) (d : Disk) (root : Path) :
    Logged (Profile × Binary64) := do
  let found ← d.detect root sampleSize
  match found.framework with
  | none => do
    Logged.log .warning ("Could not detect a framework in " ++ root.toString ++ "; using " ++
      settings.defaultFramework)
    pure (← liftM (profileNamed settings.defaultFramework), found.confidence)
  | some name => do
    Logged.log .info ("Detected framework " ++ name ++ " (confidence=" ++
      twoPlaces found.confidence ++ ")")
    pure (← liftM (profileNamed name), found.confidence)

/-- The profile that is asked for, which is beyond doubt, or else the one that is detected. -/
def settle (steps : Steps σ ε) (profile : Option Profile) (root : Path) :
    ExceptT ε (StateM σ) (Profile × Binary64) :=
  match profile with
  | some p => pure (p, Binary64.ofRatio false 1 1)
  | none => steps.detect root

/-- The discovery in a source tree, under a profile or under the one that is detected. -/
def survey (steps : Steps σ ε) (q : Inquiry) (profile : Option Profile)
    (copy : Option Remote.Checkout) (root : Path) : ExceptT ε (StateM σ) Discovery := do
  let (profile, confidence) ← settle steps profile root
  let endpoints ← steps.catalog ⟨profile, Text.ofString q.object⟩ q.ignored
    (copy.map Remote.Checkout.root) root
  modify (steps.note
    ⟨.info, "Found " ++ toString endpoints.length ++ " endpoint(s) in " ++ q.locator⟩)
  pure ⟨q.locator, profile.name, confidence, q.object, endpoints, copy.isSome⟩

/-- Discovers the endpoints of a source in some steps. -/
def perform (steps : Steps σ ε) (q : Inquiry) : ExceptT ε (StateM σ) Discovery := do
  modify (steps.note ⟨.info, "Discovering APIs in " ++ q.locator⟩)
  match q.profile? with
  | .error e => throw (steps.ofFailure e)
  | .ok profile => do
    if Remote.isRemote q.locator then do
      let copy ← steps.acquire q.locator q.token
      Acting.thenAlways (survey steps q profile (some copy) copy.root) (steps.release copy)
    else do
      let root ← steps.expandHome (Path.ofString q.locator)
      survey steps q profile none root

end Inquiry

/-- How source trees on a disk are read. Reading changes nothing but the log. -/
structure Reading where
  expandHome : Disk → Path → Except Failure Path
  detect : Disk → Path → Logged (Profile × Binary64)
  catalog : Disk → Search → List String → Option Path → Path → Logged (List EndpointRecord)

/-- The way in which runs read source trees. -/
def Reading.standard (settings : Settings) : Reading where
  expandHome := Disk.expandHome
  detect := Inquiry.detectProfile settings
  catalog := Disk.catalog

/-- The steps of a run that reads the disk as it is at each step. -/
def Copying.steps (copying : Copying) (reading : Reading) : Steps Session Failure where
  note entry s := { s with log := s.log ++ [entry] }
  acquire := copying.acquire
  release := copying.release
  expandHome p := do liftM (reading.expandHome (← Acting.disk) p)
  detect root := do Acting.ofLogged (reading.detect (← Acting.disk) root)
  catalog search ignored seenFrom root := do
    Acting.ofLogged (reading.catalog (← Acting.disk) search ignored seenFrom root)
  ofFailure := id

/-- Discovers the endpoints of a source. -/
def Inquiry.run (copying : Copying) (settings : Settings) (q : Inquiry) : Acting Discovery :=
  q.perform (copying.steps (Reading.standard settings))

end EndpointCatalog
