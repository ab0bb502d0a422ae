/-
EndpointCatalog.Main — the program.

The sources come from standard input as a tar archive, compressed or not, and
stand in the current directory. The arguments are those of
`EndpointCatalog.CommandLine`. Programs and pages beyond the archive are out
of reach. A file that is asked for is written to where it is asked for.
-/
import EndpointCatalog.CommandLine

namespace EndpointCatalog.Main

/-- Reads all bytes of a stream. -/
partial def readAll (stream : IO.FS.Stream) (done : ByteArray) : IO ByteArray := do
  let bytes ← stream.read 65536
  if bytes.isEmpty then pure done else readAll stream (done ++ bytes)

/-- The names of the settings. -/
def settingNames : List String :=
  ["LOG_LEVEL", "LOG_DATE_FORMAT", "LOG_FORMAT", "APISCOUT_DEFAULT_FRAMEWORK",
   "APISCOUT_DEFAULT_OBJECT", "GITHUB_TOKEN", "GITHUB_API_URL", "APISCOUT_CLONE_TIMEOUT",
   "APISCOUT_HTTP_TIMEOUT"]

/-- The settings of the environment. -/
def readEnvironment : IO Environment := do
  let entries ← settingNames.mapM fun name => do pure ((← IO.getEnv name).map fun value => (name, value))
  pure (entries.filterMap id)

/-- The real names of the current directory. -/
def home : List String := ["home"]

/-- The disk of an archive; an archive that is not well-formed gives none. -/
def diskOf? (bytes : List UInt8) : Option Disk :=
  let empty : Disk :=
    { root := FileNode.emptyDirectory.put home .emptyDirectory, current := home, home := "/home" }
  let isCompressed := [0x1F, 0x8B].isPrefixOf (bytes.map UInt8.toNat)
  match (if isCompressed then (Archive.Gzip.read bytes).toOption else some bytes) with
  | none => none
  | some [] => some empty
  | some tar => (Archive.unpack empty ⟨.relative, []⟩ (Archive.Tar.read tar)).toOption

/-- The outside world, which is out of reach. -/
def outside : Remote.Outside where
  clone _ := .noProgram
  fetch _ _ := .failed "network is out of reach"

/-- The path of the file that a command line asks for. -/
def outOf? (settings : Settings) (args : List String) : Option String :=
  match CommandLine.Command.ofArguments? settings args with
  | some (.discover options) => options.out.filter (· ≠ "")
  | _ => none

/-- Runs a command line. -/
def run (args : List String) : IO UInt32 := do
  let bytes ← readAll (← IO.getStdin) .empty
  match Settings.ofEnvironment (← readEnvironment), diskOf? bytes.toList with
  | .error message, _ => do
    (← IO.getStderr).putStrLn message
    pure 1
  | .ok _, none => do
    (← IO.getStderr).putStrLn "the archive on standard input is not well-formed"
    pure 1
  | .ok settings, some disk => do
    let copying := Copying.from outside settings
    let (ending, session) := (CommandLine.run copying settings args).run { disk := disk }
    (← IO.getStdout).putStr (String.ofList session.output)
    (← IO.getStderr).putStr (String.ofList session.errors)
    match outOf? settings args with
    | some out =>
      match session.disk.read (Path.ofString out) with
      | .ok content => IO.FS.writeBinFile out content.toByteArray
      | .error _ => pure ()
    | none => pure ()
    pure (UInt32.ofNat ending.status)

end EndpointCatalog.Main

def main (args : List String) : IO UInt32 := EndpointCatalog.Main.run args
