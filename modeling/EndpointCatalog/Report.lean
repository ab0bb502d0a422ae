/-
EndpointCatalog.Report — how a discovery is printed and written.

* `Discovery.report` prints a heading, a table of endpoints and the number
  of endpoints of the resources that have the most.
* `Discovery.json` and `Discovery.listing` are texts for files: a JSON array
  of records, and one line of tab-separated columns per record. There is no
  JSON text of an integer with too many digits.
* `Profile.table` lists the frameworks.
-/
import EndpointCatalog.Console.Table
import EndpointCatalog.Discovery
import EndpointCatalog.Json.Writer

namespace EndpointCatalog

open Console

/-! ## Texts for files -/

/-- The records as a list of mappings. -/
def Discovery.dump (found : Discovery) : Tree :=
  .list (found.endpoints.map fun r => .map (r.toEntries .catalog))

/-- The records as a JSON array, if all integers in them can be written. -/
def Discovery.json (found : Discovery) : Except Failure (List Char) :=
  if Json.hasLongInteger found.dump then .error (.badValue Estree.tooLongToSpell)
  else .ok (Json.write 0 found.dump)

/-- The line of a record in a listing; there is no line zero. -/
def EndpointRecord.lineLabel (r : EndpointRecord) : String :=
  match r.line with
  | none => ""
  | some n => if n = 0 then "" else toString n

/-- The columns of a record in a listing: method, path and place. -/
def EndpointRecord.listed (r : EndpointRecord) : Text :=
  Text.ofString r.method.toString ++ "\t" ++ r.path ++ "\t" ++ r.sourceFile ++ ":" ++ r.lineLabel

/-- One line per record. -/
def Discovery.listing (found : Discovery) : Text :=
  joinWith [CodePoint.ofChar '\n'] (found.endpoints.map EndpointRecord.listed)

/-! ## Tables -/

/-- The columns of a table of endpoints. -/
def endpointColumns : List Column :=
  [⟨"METHOD", false⟩, ⟨"PATH", true⟩, ⟨"KIND", false⟩, ⟨"RESOURCE", true⟩, ⟨"FILE:LINE", false⟩]

/-- The place of a record, a question mark standing for an unknown line. -/
def EndpointRecord.place (r : EndpointRecord) : Text :=
  r.sourceFile ++ ":" ++
    Text.ofString (match r.line with
      | some n => toString n
      | none => "?")

/-- The row of a record, as markup. -/
def EndpointRecord.row (r : EndpointRecord) : List Text :=
  [r.method.toString,
   if r.path.isEmpty then "[dim](dynamic)[/dim]" else Markup.escape r.path,
   r.kind.toString,
   r.resourceName,
   Markup.escape r.place]

/-- The first records, as many as a limit allows; a negative limit leaves out as many at the
end. -/
def shownRecords (limit : Int) (records : List EndpointRecord) : List EndpointRecord :=
  if 0 ≤ limit then records.take limit.toNat
  else records.take (records.length - limit.natAbs)

/-- The columns of a table of frameworks. -/
def frameworkColumns : List Column :=
  [⟨"PROFILE", false⟩, ⟨"KIND", false⟩, ⟨"VERBS", true⟩, ⟨"DESCRIPTION", true⟩]

/-- The row of a framework, as markup. -/
def Profile.row (p : Profile) : List Text :=
  let verbs := p.verbs.map fun (verb, method) => verb ++ "->" ++ Text.ofString method.toString
  [p.name, p.side.toString, joinWith ", " verbs, p.description]

namespace Acting

/-- Prints a table whose cells are markup. -/
def printTable (columns : List Column) (rows : List (List Text)) : Acting Unit := do
  match rows.mapM fun row => row.mapM Markup.shown with
  | .error _ => throw .strayTag
  | .ok rows => put .output (Table.draw ⟨columns, rows⟩ screenWidth)

end Acting

/-- Prints the table of frameworks. -/
def Profile.printAll : Acting Unit := Acting.printTable frameworkColumns (Profile.all.map Profile.row)

/-! ## Resources -/

/-- Counts one more occurrence of a name. -/
def countName (name : Text) : List (Text × Nat) → List (Text × Nat)
  | [] => [(name, 1)]
  | e :: rest => if e.1 = name then (name, e.2 + 1) :: rest else e :: countName name rest

/-- The resources and the numbers of their endpoints: the greatest number first, and of equal ones
the resource that occurs first. -/
def resourceCounts (records : List EndpointRecord) : List (Text × Nat) :=
  (records.foldl (fun counts r => countName r.resourceName counts) []).mergeSort
    fun a b => decide (b.2 ≤ a.2)

/-- How many resources are printed. -/
def mostResources : Nat := 10

/-- A number with blanks before it, four characters wide or more. -/
def fourWide (n : Nat) : Text :=
  let digits := toString n
  Text.blanks (4 - digits.length) ++ Text.ofString digits

/-- The line of a resource, as markup. -/
def resourceLine (entry : Text × Nat) : Text :=
  Text.blanks 2 ++ fourWide entry.2 ++ Text.blanks 2 ++ entry.1

/-- Prints the resources with the most endpoints, if there are any endpoints. -/
def printResources (records : List EndpointRecord) : Acting Unit := do
  if records.isEmpty then return
  Acting.print .output []
  Acting.print .output "[bold]Endpoints per resource:[/bold]"
  ((resourceCounts records).take mostResources).forM fun entry =>
    Acting.print .output (resourceLine entry)

/-! ## Reports -/

/-- The heading of a report, as lines of markup. -/
def Discovery.heading (found : Discovery) : List Text :=
  [Text.ofString ("[bold green]apiscout[/bold green] discover: " ++ found.locator),
   Text.ofString ("Framework: [bold]" ++ found.framework ++ "[/bold] (confidence=" ++
     Inquiry.twoPlaces found.confidence ++ ")"),
   Text.ofString ("Object instance: [bold]" ++ found.object ++ "[/bold]"),
   Text.ofString ("Endpoints found: [bold]" ++ toString found.endpoints.length ++ "[/bold]")]

/-- Prints a discovery, with no more rows than a limit allows. -/
def Discovery.report (found : Discovery) (limit : Int) : Acting Unit := do
  found.heading.forM (Acting.print .output)
  Acting.printTable endpointColumns ((shownRecords limit found.endpoints).map EndpointRecord.row)
  let more := found.endpoints.length - limit
  if 0 < more then Acting.print .output ("  … and " ++ toString more ++ " more")
  printResources found.endpoints

end EndpointCatalog
