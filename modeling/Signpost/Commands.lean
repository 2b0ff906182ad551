import Signpost.Json.Printer
import Signpost.Link
import Signpost.Output
import Signpost.Project

/-!
# Commands

What each command does, as a function of the surroundings. A run leaves an exit status, what it
wrote to its output, and the lines that it showed on the side. Only values are written to the
output, as JSON. An output may take a part of a text and refuse the rest, and a run fails with that.

Lines are without their colours, and those that a run can be told to log are left out.
-/

namespace Signpost

/-- Where an output goes. It takes everything, or a number of characters; whatever goes beyond them
is refused for a reason. -/
inductive Outlet where
  | unbounded
  | bounded (room : Nat) (refusal : String)
deriving DecidableEq, Repr

namespace Outlet

/-- What is taken of all that is written. -/
def taken : Outlet → String → String
  | .unbounded, text => text
  | .bounded room _, text => String.ofList (text.toList.take room)

def refusal? : Outlet → String → Option String
  | .unbounded, _ => none
  | .bounded room refusal, text => if text.length ≤ room then none else some refusal

end Outlet

/-- What was written and shown so far. -/
structure Transcript where
  output : String := ""
  messages : List String := []
deriving DecidableEq, Repr

abbrev Session := ExceptT CommandError (StateM Transcript)

namespace Session

def tell (lines : List String) : Session Unit :=
  modify fun t => { t with messages := t.messages ++ lines }

def say (line : String) : Session Unit :=
  tell [line]

def warn (reports : List Unresolved) : Session Unit :=
  tell (reports.map fun u => "Warning: " ++ u.message)

/-- Writes to the output. What is refused of it is a failure of the given kind. -/
def write (outlet : Outlet) (failure : String → CommandError) (text : String) : Session Unit := do
  let whole := (← get).output ++ text
  modify fun t => { t with output := outlet.taken whole }
  match outlet.refusal? whole with
  | some cause => throw (failure cause)
  | none => return ()

end Session

namespace Commands

open Session

structure Findings where
  warnings : Nat := 0
  fatal : List Unresolved := []
deriving DecidableEq, Repr

def Findings.append (a b : Findings) : Findings :=
  ⟨a.warnings + b.warnings, a.fatal ++ b.fatal⟩

def checkSidebar (p : Project) (registry : Registry) (sidebars : Sidebars) (name : String) :
    Session Findings := do
  let outcome := sidebars.resolve name registry p.site.brokenLinkPolicy []
  warn outcome.reports
  match outcome.result with
  | .ok nav =>
    say ("Sidebar '" ++ name ++ "': " ++ toString nav.length ++ " documents")
    return { warnings := outcome.reports.length }
  | .error (.fatal cause) => return { fatal := cause.unresolved }
  | .error cause => throw (.nav cause)

def checkSidebars (p : Project) (registry : Registry) (sidebars : Sidebars) :
    List String → Session Findings
  | [] => return {}
  | name :: names => do
    let here ← checkSidebar p registry sidebars name
    return here.append (← checkSidebars p registry sidebars names)

def checkLinks (p : Project) (registry : Registry) : Session Findings := do
  let outcome := p.site.brokenMarkdownLinkPolicy.judge (Link.check registry) []
  warn outcome.reports
  match outcome.result with
  | .ok _ => return { warnings := outcome.reports.length }
  | .error cause => return { fatal := cause.unresolved }

/-- Checks all sidebars, then all links, and fails after that if there was reason to. -/
def check (w : Workspace) (o : Options) : Session Unit := do
  let p ← Project.load w o
  say ("Checking " ++ p.site.title)
  if let some profile := p.profile then say ("Profile: " ++ profile)
  say ("Source directory: " ++ p.config.docs.sourceDir.text)
  let registry ← p.registry w
  let sidebars ← p.sidebars w
  say ("Found " ++ toString registry.size ++ " documents and " ++ toString sidebars.size ++
    " sidebar(s)")
  let inSidebars ← checkSidebars p registry sidebars sidebars.names
  let findings := inSidebars.append (← checkLinks p registry)
  if findings.fatal.isEmpty then
    if findings.warnings = 0 then say "All document references resolved"
    else say ("Check passed with " ++ toString findings.warnings ++ " warning(s)")
  else
    tell (findings.fatal.map Unresolved.message)
    throw (.unresolved findings.fatal.length)

def nav (w : Workspace) (o : Options) : Session Json := do
  let p ← Project.load w o
  let registry ← p.registry w
  let sidebars ← p.sidebars w
  let name ← p.chooseSidebar sidebars
  let outcome := sidebars.resolve name registry p.site.brokenLinkPolicy []
  warn outcome.reports
  match outcome.result with
  | .ok nav =>
    return .obj [("site", p.site.toJson), ("sidebar", .str name), ("navigation", nav.toJson)]
  | .error cause => throw (.nav cause)

def placesToJson (docs : DocsPlaces) : Json :=
  .obj ([("sourceDir", .str docs.sourceDir.text), ("sidebars", .str docs.sidebars.text)] ++
    optionalField "sidebar" docs.sidebar)

def config (w : Workspace) (o : Options) : Session Json := do
  let p ← Project.load w o
  return .obj (optionalField "configPath" (p.config.path.map (·.text)) ++
    optionalField "profile" p.profile ++
    [("site", p.site.toJson), ("docs", placesToJson p.config.docs)])

def textOf (o : Options) (value : Json) : String :=
  if o.compact then value.compact else value.pretty 0

/-- Writes a value and ends the line. -/
def writeJson (outlet : Outlet) (o : Options) (value : Json) : Session Unit := do
  write outlet .json (textOf o value)
  write outlet .io "\n"

def perform (outlet : Outlet) (w : Workspace) (o : Options) : Command → Session Unit
  | .check => check w o
  | .nav => do writeJson outlet o (← nav w o)
  | .config => do writeJson outlet o (← config w o)

end Commands

/-- What is left of a run when it has come to its end. -/
structure Run extends Transcript where
  status : Nat
deriving DecidableEq, Repr

namespace Run

def versionLine : String := "docnav 0.1.0"

def ofSession (session : Session Unit) : Run :=
  match session.run.run {} with
  | (.ok _, t) => { t with status := 0 }
  | (.error e, t) =>
    { status := 1, output := t.output, messages := t.messages ++ ["Error: " ++ e.message] }

/-- The run of a request with its output going to an outlet. -/
def ofRequestTo (outlet : Outlet) (w : Workspace) : Request → Run
  | .version => { status := 0, output := outlet.taken (versionLine ++ "\n") }
  | .run command options => ofSession (Commands.perform outlet w options command)

/-- The run of a request with an output that takes everything. -/
def ofRequest (w : Workspace) (request : Request) : Run :=
  ofRequestTo .unbounded w request

/-- The run with some arguments. Arguments without a meaning are refused. -/
def ofArguments (w : Workspace) (arguments : List String) : Run :=
  match Request.ofArguments? false arguments with
  | some request => ofRequest w request
  | none => { status := 2, messages := [Request.usage] }

end Run

end Signpost
