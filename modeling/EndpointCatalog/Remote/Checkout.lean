/-
EndpointCatalog.Remote.Checkout — temporary copies of remote sources.

* `acquire` makes a temporary directory and fetches a source into it. With a
  token and the URL of a GitHub page the archive of the repository is
  fetched, else the source is cloned. If that fails, the directory is
  removed again.
* `release` removes the directory. What it cannot remove it logs.
-/
import EndpointCatalog.Archive.Gzip
import EndpointCatalog.Archive.Tar
import EndpointCatalog.Archive.Unpacking
import EndpointCatalog.Remote.Locator
import EndpointCatalog.Session
import EndpointCatalog.Settings
import EndpointCatalog.Text.Replacement

namespace EndpointCatalog.Remote

/-- A temporary copy of a remote source. -/
structure Checkout where
  locator : String
  /-- The temporary directory. -/
  workdir : Path
  /-- Where the sources begin. -/
  root : Path
deriving DecidableEq, Repr

/-- An error of fetching. -/
def fetchFailure (message : String) : Failure := .discovery (.materialization message)

/-! ## Cloning -/

/-- The command that clones a source. -/
def cloneCommand (url : String) (token : Option String) (destination : Path) : List String :=
  let authorization := match token with
    | some t => ["-c", "http.extraHeader=Authorization: Bearer " ++ t]
    | none => []
  ["git"] ++ authorization ++ ["clone", "--depth", "1", "--quiet", url, destination.toString]

/-- What a failing program says, trimmed and without the token. -/
def cleanedRemark (token : Option String) (said : String) : String :=
  let trimmed := trimBlanks said.toList
  String.ofList (match token with
    | some t => replaceAll t.toList "***".toList trimmed
    | none => trimmed)

/-- The error of a clone that ends with a status other than zero. -/
def cloneError (url : String) (token : Option String) (status : Int) (said : String) : String :=
  let remark := cleanedRemark token said
  "git clone of " ++ url ++ " failed: " ++ (if remark = "" then toString status else remark)

/-- Puts a copy where it is to stand. -/
def placeCopy (destination : Path) (copy : Option FileNode) : Acting Unit := do
  match copy with
  | none => pure ()
  | some node => do
    let d ← Acting.disk
    match d.place destination with
    | .error e => throw (.file e)
    | .ok (names, _) => Acting.setDisk { d with root := d.root.put names node }

/-- Clones a source. -/
def clone (outside : Outside) (settings : Settings) (url : String) (token : Option String)
    (destination : Path) : Acting Path := do
  let command := cloneCommand url token destination
  Acting.request (.run command settings.cloneTimeout)
  match outside.clone command with
  | .noProgram => throw (fetchFailure "git executable not found")
  | .timedOut =>
    throw (fetchFailure ("git clone of " ++ url ++ " timed out after " ++
      toString settings.cloneTimeout ++ "s"))
  | .exited status said copy => do
    placeCopy destination copy
    if status = 0 then pure destination
    else throw (fetchFailure (cloneError url token status said))

/-! ## Downloading -/

/-- The page with the archive of a repository. -/
def archiveUrl (settings : Settings) (repository : GithubRepository) : String :=
  let base := settings.githubApi ++ "/repos/" ++ repository.owner ++ "/" ++ repository.name ++
    "/tarball"
  match repository.ref with
  | some ref => base ++ "/" ++ ref
  | none => base

/-- The headers of a request with a token. -/
def archiveHeaders (token : String) : List (String × String) :=
  [("Authorization", "Bearer " ++ token), ("Accept", "application/vnd.github+json"),
   ("X-GitHub-Api-Version", "2022-11-28")]

/-- The error of a status that is no success; `none` for all others. -/
def statusError? (title url : String) (status : Nat) (reason : String) : Option String :=
  let failed (side : String) : String :=
    "Download of " ++ title ++ " failed: " ++ toString status ++ " " ++ side ++ " Error: " ++
      reason ++ " for url: " ++ url
  if status = 401 || status = 403 then
    some ("GitHub rejected the credentials for " ++ title ++ " (" ++ toString status ++ ")")
  else if status = 404 then
    some ("GitHub repository " ++ title ++ " not found or not accessible")
  else if 400 ≤ status && status < 500 then some (failed "Client")
  else if 500 ≤ status && status < 600 then some (failed "Server")
  else none

/-- The error of an archive. -/
def archiveError (title : String) (fault : Archive.Fault) : Failure :=
  fetchFailure ("Archive for " ++ title ++ " is not a valid tarball: " ++ fault.message)

/-- The error of what stops unpacking. -/
def obstacleError (title : String) : Archive.Obstacle → Failure
  | .fault fault => archiveError title fault
  | .file e => .file e
  | .noOriginal => .noOriginal

/-- Unpacks the archive of a repository. -/
def unpackArchive (title : String) (body : List UInt8) (destination : Path) : Acting Unit := do
  match Archive.Gzip.read body with
  | .error (.fault fault) => throw (archiveError title fault)
  | .error .cutOff => throw .cutOffArchive
  | .ok bytes => do
    match Archive.unpackBelow (← Acting.disk) destination (Archive.Tar.read bytes) with
    | .ok d => Acting.setDisk d
    | .error stop => do
      Acting.setDisk stop.disk
      throw (obstacleError title stop.obstacle)

/-- Where the sources of an unpacked archive begin: in the only directory at its top, if there is
nothing else. -/
def rootOf (d : Disk) (destination : Path) : Path :=
  match d.list destination with
  | .ok [(name, _)] =>
    let only := destination.child name
    if d.isDirectory only then only else destination
  | _ => destination

/-- Downloads a repository. -/
def download (outside : Outside) (settings : Settings) (repository : GithubRepository)
    (token : String) (destination : Path) : Acting Path := do
  let title := repository.owner ++ "/" ++ repository.name
  let url := archiveUrl settings repository
  let headers := archiveHeaders token
  Acting.request (.fetch url headers settings.httpTimeout)
  match outside.fetch url headers with
  | .failed message =>
    throw (fetchFailure ("Download of " ++ title ++ " failed: " ++ message))
  | .answered status reason body => do
    match statusError? title url status reason with
    | some message => throw (fetchFailure message)
    | none => do
      unpackArchive title body destination
      pure (rootOf (← Acting.disk) destination)

/-! ## Temporary directories -/

/-- The name of a temporary directory. -/
def temporaryName (number : Nat) : String := "apiscout-" ++ toString number

/-- The path of a temporary directory. -/
def temporaryPath (s : Session) (number : Nat) : Path := s.temporary.child (temporaryName number)

/-- Makes a temporary directory. -/
def makeTemporary : Acting Path := do
  let s ← get
  let path := temporaryPath s (s.made + 1)
  set { s with made := s.made + 1 }
  Acting.onDisk fun d => d.makeDirectory path
  pure path

/-- Removes a directory, if it can be removed. -/
def removeQuietly (path : Path) : Acting Unit := do
  match (← Acting.disk).remove path with
  | .ok d => Acting.setDisk d
  | .error _ => pure ()

/-- Fetches a source into a directory. The answer is where the sources begin. -/
def fetchInto (outside : Outside) (settings : Settings) (locator : String)
    (token : Option String) (workdir : Path) : Acting Path := do
  let cloned := clone outside settings locator token (workdir.child "repo")
  match token with
  | none => cloned
  | some t =>
    match GithubRepository.ofUrl? locator with
    | .error e => throw (.badValue e.message)
    | .ok none => cloned
    | .ok (some repository) => download outside settings repository t workdir

/-- Makes a temporary copy of a remote source. -/
def acquire (outside : Outside) (settings : Settings) (locator : String)
    (token : Option String) : Acting Checkout := do
  let workdir ← makeTemporary
  Acting.log .info ("Materializing " ++ locator ++ " into " ++ workdir.toString)
  let root ← Acting.onFailure (fetchInto outside settings locator token workdir)
    (removeQuietly workdir)
  pure ⟨locator, workdir, root⟩

/-- Removes a temporary copy, if it is still there. -/
def release (checkout : Checkout) : Acting Unit := do
  let d ← Acting.disk
  match d.find checkout.workdir with
  | .error _ => pure ()
  | .ok node =>
    if node.isDirectory then do
      removeQuietly checkout.workdir
      Acting.log .info ("Removed temporary copy " ++ checkout.workdir.toString)
    else
      Acting.log .warning ("Failed to remove temporary copy " ++ checkout.workdir.toString ++
        ": [Errno 20] Not a directory: PosixPath(" ++ quotedString checkout.workdir.toString ++
        ")")

end EndpointCatalog.Remote
