/-
EndpointCatalog.CommandLine — the program as its user sees it.

* `CommandLine.run` does what a command line asks for. What is printed stays
  in the session; the answer is how the run ends.
* An error of discovery is printed, and ends the run with status 1. A command
  line that is not well-formed or names no directory ends it with status 2.
-/
import EndpointCatalog.CommandLine.Arguments
import EndpointCatalog.Report

namespace EndpointCatalog.CommandLine

/-- How a run ends. -/
inductive Ending where
  | done
  /-- The command line is not well-formed, or names no directory. -/
  | misused
  /-- An error of discovery has been printed. -/
  | reported (error : DiscoveryError)
  /-- Something else has failed. -/
  | broken (failure : Failure)
deriving DecidableEq, Repr

/-- The exit status of an ending. -/
def Ending.status : Ending → Nat
  | .done => 0
  | .misused => 2
  | .reported _ => 1
  | .broken _ => 1

/-- What the help says. -/
def helpText : String :=
  "Usage: discover LOCATOR [--framework NAME] [--object NAME] [--token TOKEN]\n" ++
  "         [--skip-vendor | --no-skip-vendor] [--format table|json] [--out PATH] [--limit N]\n" ++
  "       frameworks\n"

/-! ## Discovering -/

/-- The absolute path of the directory that a locator names; `none` if there is no such
directory. -/
def directoryAt (d : Disk) (locator : String) : Except Failure (Option Path) :=
  match d.expandHome (Path.ofString locator) with
  | .error e => .error e
  | .ok path =>
    match d.realPlace false path with
    | .error _ => .error .endlessLinks
    | .ok names =>
      let place := Disk.absolute names
      .ok (if d.isDirectory place then some place else none)

/-- A locator as discovery takes it: a URL as it is, a directory by its absolute path. `none` if it
is neither. -/
def checkedLocator (d : Disk) (locator : String) : Except Failure (Option String) :=
  if Remote.isRemote locator then .ok (some locator)
  else (directoryAt d locator).map (·.map Path.toString)

/-- A token; the empty text is none. -/
def givenToken (token : Option String) : Option String := token.filter (· ≠ "")

/-- What some options ask discovery for. -/
def DiscoverOptions.inquiry (o : DiscoverOptions) (locator : String) : Inquiry :=
  ⟨locator, o.framework, o.object, givenToken o.token, if o.skipsVendored then vendorNames else []⟩

/-- Writes a text into a file and says so. What can be encoded of the text is written before the
rest fails. -/
def writeFile (out : String) (t : Text) : Acting Unit := do
  let path ← liftM ((← Acting.disk).expandHome (Path.ofString out))
  Acting.onDisk fun d => d.makeDirectories path.parent
  match t.toChars? with
  | some cs => do
    Acting.onDisk fun d => d.write path (Utf8.encode cs)
    Acting.print .errors ("[bold green]Wrote[/bold green] " ++ Text.ofString path.toString)
  | none => do
    Acting.onDisk fun d => d.write path []
    throw .loneSurrogate

/-- Prints or writes a discovery as some options ask for. -/
def DiscoverOptions.deliver (o : DiscoverOptions) (found : Discovery) : Acting Unit :=
  match o.format, o.out.filter (· ≠ "") with
  | .json, some out => do writeFile out (Text.ofChars (← liftM found.json))
  | .json, none => do Acting.put .output (Text.ofChars ((← liftM found.json) ++ ['\n']))
  | .table, some out => writeFile out found.listing
  | .table, none => found.report o.limit

/-- Prints an error of discovery. -/
def printError (e : DiscoveryError) : Acting Unit :=
  Acting.print .errors (Text.ofString ("[bold red]error:[/bold red] " ++ e.message))

/-- How a run ends that does something last. -/
def endWith (ending : Ending) (last : Acting Unit) : StateM Session Ending := do
  match ← ExceptT.run last with
  | .ok _ => pure ending
  | .error f => pure (.broken f)

/-- Discovers what some options ask for. -/
def discover (copying : Copying) (settings : Settings) (o : DiscoverOptions) :
    StateM Session Ending := do
  match checkedLocator (← get).disk o.locator with
  | .error f => pure (.broken f)
  | .ok none => pure .misused
  | .ok (some locator) => do
    match ← ExceptT.run ((o.inquiry locator).run copying settings) with
    | .ok found => endWith .done (o.deliver found)
    | .error (.discovery e) => endWith (.reported e) (printError e)
    | .error f => pure (.broken f)

/-! ## Running -/

/-- Does what a command asks for. -/
def Command.run (copying : Copying) (settings : Settings) : Command → StateM Session Ending
  | .help => endWith .done (Acting.put .output (Text.ofString helpText))
  | .frameworks => endWith .done Profile.printAll
  | .discover options => CommandLine.discover copying settings options

/-- Does what a command line asks for. -/
def run (copying : Copying) (settings : Settings) (args : List String) : StateM Session Ending :=
  match Command.ofArguments? settings args with
  | none => pure .misused
  | some command => command.run copying settings

end EndpointCatalog.CommandLine
