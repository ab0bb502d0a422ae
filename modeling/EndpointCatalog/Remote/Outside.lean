/-
EndpointCatalog.Remote.Outside — the world beyond the program.

What the program asks of it is a `Request`; what comes back is given by an
`Outside`.
-/
import EndpointCatalog.FileTree

namespace EndpointCatalog.Remote

/-- What is asked of the outside world. -/
inductive Request where
  /-- To run a program for at most some seconds. -/
  | run (command : List String) (timeout : Int)
  /-- To send a page for at most some seconds. -/
  | fetch (url : String) (headers : List (String × String)) (timeout : Int)
deriving DecidableEq, Repr

/-- What comes of a clone. -/
inductive CloneOutcome where
  | noProgram
  | timedOut
  /-- The program ends with a status, says something, and leaves a copy. -/
  | exited (status : Int) (said : String) (copy : Option FileNode)

/-- What comes of fetching a page. -/
inductive FetchOutcome where
  | failed (message : String)
  | answered (status : Nat) (reason : String) (body : List UInt8)

/-- The outside world. -/
structure Outside where
  clone : List String → CloneOutcome
  fetch : String → List (String × String) → FetchOutcome

end EndpointCatalog.Remote
