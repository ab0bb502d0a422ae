/-
EndpointCatalog.Failure — what can go wrong, and in which words.

* `DiscoveryError` holds the errors that discovery reports to its user;
  `DiscoveryError.message` is their wording.
* `Failure` holds these and all other ways in which an operation ends
  without a result.
-/
import EndpointCatalog.Text.Quoted

namespace EndpointCatalog

/-- An error of discovery, as its user sees it. -/
inductive DiscoveryError where
  /-- Some error of discovery. -/
  | general (message : String)
  /-- No profile has this name. -/
  | unknownFramework (name : Option String) (known : List String)
  /-- A remote source cannot be fetched. -/
  | materialization (message : String)
  /-- A file or directory cannot be read. -/
  | fileSystem (path reason : String)
  /-- A file of the strict dialect does not parse. -/
  | typedParse (path : String) (line : Option Nat) (reason : String)
  /-- A file of the tolerant dialect does not parse. -/
  | untypedParse (path reason : String)
deriving DecidableEq, Repr

namespace DiscoveryError

/-- Texts with a comma between them. -/
def commaSeparated (texts : List String) : String := ", ".intercalate texts

/-- The wording of an error. -/
def message : DiscoveryError → String
  | .general message => message
  | .unknownFramework name known =>
    let shown := (name.map quotedString).getD "None"
    "Unknown framework profile " ++ shown ++ " (known: " ++ commaSeparated known ++ ")"
  | .materialization message => message
  | .fileSystem path reason => "Cannot read " ++ path ++ ": " ++ reason
  | .typedParse path line reason =>
    let place := match line with
      | some n => path ++ ":" ++ toString n
      | none => path
    "Failed to parse TypeScript file " ++ place ++ ": " ++ reason
  | .untypedParse path reason => "Failed to parse JavaScript file " ++ path ++ ": " ++ reason

end DiscoveryError

/-- Why an operation of the file system fails. -/
inductive FileError where
  | missing
  | notDirectory
  | isDirectory
  | linkLoop
  | exists
deriving DecidableEq, Repr

/-- The wording of a file system error. -/
def FileError.reason : FileError → String
  | .missing => "No such file or directory"
  | .notDirectory => "Not a directory"
  | .isDirectory => "Is a directory"
  | .linkLoop => "Too many levels of symbolic links"
  | .exists => "File exists"

/-- Why an operation ends without a result. -/
inductive Failure where
  /-- An error of discovery. -/
  | discovery (error : DiscoveryError)
  /-- Something is nested too deep to be evaluated. -/
  | nestingTooDeep
  /-- A template literal has an empty substitution. -/
  | emptySubstitution
  /-- The file system refuses an operation. -/
  | file (error : FileError)
  /-- A value is not acceptable. -/
  | badValue (message : String)
  /-- The home directory of a user is not known. -/
  | unknownHome
  /-- Links lead in a circle. -/
  | endlessLinks
  /-- A closing tag in printed text closes nothing. -/
  | strayTag
  /-- Printed or written text holds a lone half of a surrogate pair. -/
  | loneSurrogate
  /-- Compressed data end before they say what they hold. -/
  | cutOffArchive
  /-- An archive gives a second name to a file that it does not hold. -/
  | noOriginal
deriving DecidableEq, Repr

end EndpointCatalog
