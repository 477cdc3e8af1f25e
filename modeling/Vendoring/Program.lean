/-
The program: a command line carried out in a workspace.

* `buildConfig`: the configuration a command line asks for.
* `carryOut`: one command, with what it prints.
* `perform`: a whole command line.
* `Performed.status`, `Performed.errors`: the exit status and the error text.
* `Performed.errorLines`: the lines of the error stream, log lines apart.
-/
import Vendoring.Arguments
import Vendoring.Config.Decode
import Vendoring.Log.Filter
import Vendoring.Sync

namespace Vendoring

/-- What a program printed, left and did, and how it ended. -/
structure Performed (ε : Type) where
  result : Except ε Unit
  output : List String
  workspace : Workspace
  trace : Trace

/-- Why the program stopped. -/
inductive ProgramError where
  | usage (e : UsageError)
  | load (e : LoadError)
  | failure (f : Failure)
deriving DecidableEq, Repr

/-! ### Configuration -/

/-- The configuration a command line asks for: the named file or the built-in
one, a relative target directory taken from the root or the current
directory, the policy relaxed if asked. -/
def buildConfig (w : Workspace) (options : Given) : Except LoadError (Config × Trace) :=
  match Config.load w options.config with
  | .error e => .error e
  | .ok (c, trace) =>
    let c := c.rootedAt (options.root.getD w.currentPath)
    .ok (if options.permissive then { c with policy := .permissive } else c, trace)

/-! ### Commands -/

/-- The lines about removed files. -/
def removedLines (removed : List Path) : List String :=
  removed.map fun p => "Deleted: " ++ p.display

/-- The lines about a finished run. -/
def Report.lines (r : Report) : List String :=
  removedLines r.removed ++ r.written.map fun x =>
    "Wrote " ++ x.path.display ++ " (" ++ toString x.bytes ++ " bytes) from " ++ x.url

/-- Prints, works, and prints what came of it. -/
def printing {α : Type} (before : List String) (after : α → List String) (o : Outcome α) :
    Performed Failure :=
  match o.result with
  | .error e => ⟨.error e, before, o.workspace, o.trace⟩
  | .ok a => ⟨.ok (), before ++ after a, o.workspace, o.trace⟩

/-- Removes stale files and fetches every artifact. -/
def performSync (fetch : Fetcher) (c : Config) (w : Workspace) : Performed Failure :=
  printing ["Downloading LSP protocol files for " ++ c.revision]
    (fun r => r.lines ++
      ["Vendored " ++ toString r.written.length ++ " files into " ++ c.targetDir.display ++
        " (" ++ toString r.removed.length ++ " stale removed)."])
    (run fetch c w)

/-- Removes generated files only. -/
def performClean (c : Config) (w : Workspace) : Performed Failure :=
  printing ["Cleaning LSP protocol files from " ++ c.targetDir.display ++ " ..."]
    (fun removed => removedLines removed ++
      ["Removed " ++ toString removed.length ++ " generated files."])
    (clean w c.targetDir c.generated)

/-- Shows what would be fetched and where it would go. -/
def performPlan (c : Config) (w : Workspace) : Performed Failure :=
  match c.validate with
  | .error e => ⟨.error (.config e), [], w, []⟩
  | .ok () => ⟨.ok (), ("Revision: " ++ c.revision) :: c.planLines, w, []⟩

/-- Carries out a command. -/
def carryOut (command : Command) (fetch : Fetcher) (c : Config) (w : Workspace) :
    Performed Failure :=
  match command with
  | .sync => performSync fetch c w
  | .clean => performClean c w
  | .plan => performPlan c w

/-! ### The whole program -/

/-- Carries out a command line. `fetch` is the remote side, given how many
seconds a download may take. -/
def perform (fetch : Option Nat → Fetcher) (args : List Bytes) (w : Workspace) :
    Performed ProgramError :=
  match Arguments.parse args with
  | .error e => ⟨.error (.usage e), [], w, []⟩
  | .ok a =>
    match buildConfig w a.options with
    | .error e => ⟨.error (.load e), [], w, []⟩
    | .ok (c, loaded) =>
      let p := carryOut (a.command.getD .sync) (fetch a.options.timeout) c w
      ⟨p.result.mapError .failure, p.output, p.workspace, loaded ++ p.trace⟩

/-- The exit status for a usage error; asking for help is none. -/
def UsageError.status : UsageError → Nat
  | .help => 0
  | _ => 2

/-- An error on the error stream: its text, and the cause below it. -/
def errorText (message : String) (cause : Option FileError) : String :=
  "Error: " ++ message ++ "\n" ++
    match cause with
    | some c => "\nCaused by:\n    " ++ c.message ++ "\n"
    | none => ""

/-- Lines with their line ends. -/
def unlines (lines : List String) : String := String.join (lines.map (· ++ "\n"))

namespace Performed

/-- The exit status of the program. -/
def status (p : Performed ProgramError) : Nat :=
  match p.result with
  | .ok () => 0
  | .error (.usage e) => e.status
  | .error _ => 1

/-- What the program reports on the error stream, log lines apart. The text of
usage errors is not fixed here. -/
def errors (p : Performed ProgramError) : String :=
  match p.result with
  | .ok () => ""
  | .error (.usage _) => ""
  | .error (.load e) => errorText e.message e.cause?
  | .error (.failure f) => errorText f.message f.cause?

/-- The lines of the error stream that are no log lines: what follows log lines,
and the error text. -/
def errorLines (filter : Filter) (p : Performed ProgramError) : List String :=
  filter.overflow p.trace ++ Text.lines p.errors

end Performed

end Vendoring
