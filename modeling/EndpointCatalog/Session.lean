/-
EndpointCatalog.Session — what a run works on and leaves behind.

`Acting` are the actions of a run: they end in a result or a failure, and
what they have done to the session before a failure stays done. `put` and
`print` write text and markup on a terminal.
-/
import EndpointCatalog.Console.Markup
import EndpointCatalog.Console.Wrap
import EndpointCatalog.FileTree.Disk
import EndpointCatalog.Log
import EndpointCatalog.Remote.Outside

namespace EndpointCatalog

/-- The state of a run. -/
structure Session where
  disk : Disk
  /-- The directory in which temporary directories are made. -/
  temporary : Path := ⟨.slash, ["tmp"]⟩
  /-- How many temporary directories have been made. -/
  made : Nat := 0
  /-- What has been asked of the outside world, first request first. -/
  requests : List Remote.Request := []
  log : Log := []
  /-- What has been written to standard output. -/
  output : List Char := []
  /-- What has been written to standard error. -/
  errors : List Char := []

/-- Where a terminal gets text from. -/
inductive Channel where
  | output
  | errors
deriving DecidableEq, Repr

/-- The cells of a line of the terminal. -/
def screenWidth : Nat := 120

/-- An action of a run. -/
abbrev Acting := ExceptT Failure (StateM Session)

namespace Acting

/-- Writes a line of the log. -/
def log (level : LogLevel) (message : String) : Acting Unit :=
  modify fun s => { s with log := s.log ++ [⟨level, message⟩] }

/-- Notes what is asked of the outside world. -/
def request (r : Remote.Request) : Acting Unit :=
  modify fun s => { s with requests := s.requests ++ [r] }

/-- The disk as it is now. -/
def disk : Acting Disk := do pure (← get).disk

/-- Changes the disk. -/
def setDisk (d : Disk) : Acting Unit := modify fun s => { s with disk := d }

/-- Changes the disk, or fails with what is in the way. -/
def onDisk (change : Disk → Except FileError Disk) : Acting Unit := do
  match change (← disk) with
  | .ok d => setDisk d
  | .error e => throw (.file e)

/-- An action that only logs. -/
def ofLogged {α : Type} (x : Logged α) : Acting α := fun s =>
  let (result, log) := (ExceptT.run x).run s.log
  (result, { s with log := log })

/-- Writes a text. -/
def put (channel : Channel) (t : Text) : Acting Unit := do
  match t.toChars? with
  | none => throw .loneSurrogate
  | some cs =>
    modify fun s =>
      match channel with
      | .output => { s with output := s.output ++ cs }
      | .errors => { s with errors := s.errors ++ cs }

/-- Writes what markup shows, in lines. -/
def print (channel : Channel) (markup : Text) : Acting Unit := do
  match Console.Markup.shown markup with
  | .error _ => throw .strayTag
  | .ok t => put channel (Console.paragraph screenWidth t)

section Endings

variable {σ ε α : Type}

/-- Does something last, whether an action fails or not. A failure of what is done last takes the
place of the action's ending. -/
def thenAlways (x : ExceptT ε (StateM σ) α) (last : ExceptT ε (StateM σ) Unit) :
    ExceptT ε (StateM σ) α := do
  let result ← tryCatch (do pure (Except.ok (← x))) fun e => pure (Except.error e)
  last
  match result with
  | .ok a => pure a
  | .error e => throw e

/-- Does something if an action fails. -/
def onFailure (x : ExceptT ε (StateM σ) α) (undo : ExceptT ε (StateM σ) Unit) :
    ExceptT ε (StateM σ) α :=
  tryCatch x fun e => do
    undo
    throw e

end Endings

end Acting

end EndpointCatalog
