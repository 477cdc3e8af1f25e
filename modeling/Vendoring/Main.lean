/-
The program on a real machine: the files it may touch are surveyed into a
workspace, the command line is carried out there, and its steps are repeated on
the disk. Whenever the run asks for a document that has not come yet, the steps
so far are repeated, the document is fetched over a plain connection, and the
run is carried out again with its answer.
-/
import Std.Async.DNS
import Std.Async.TCP
import Std.Async.Timer
import Vendoring.Http.Client
import Vendoring.Http.Message
import Vendoring.Program

namespace Vendoring.Machine

open Std.Async (Async)

/-! ### Files -/

/-- The text of a location on the disk. -/
def spelling (l : Location) : String := Utf8.lossy (slash :: FileTree.pathBytes l)

/-- What stands at a name of a directory, links not followed. -/
def kindOf (dir : Location) (name : Name) : IO (Option IO.FS.FileType) := do
  let entry : IO.FS.DirEntry := ⟨spelling dir, Utf8.lossy name⟩
  try return some (← entry.path.symlinkMetadata).type catch _ => return none

/-- Where a link leads to, if anywhere. -/
def leadsTo (dir : Location) (name : Name) : IO (Option Path) := do
  try return some (.ofString (← IO.FS.realPath (spelling (dir ++ [name]))).toString)
  catch _ => return none

/-- Adds what stands along a path to a tree. Also tells the directory that the
path leads to. -/
partial def survey (t : FileTree) (dir : Location) : List Name →
    IO (FileTree × Option Location)
  | [] => return (t, some dir)
  | name :: rest => do
    if name = Name.here then return ← survey t dir rest
    if name = Name.up then return ← survey t dir.dropLast rest
    let place := dir ++ [name]
    match ← kindOf dir name with
    | none => return (t, none)
    | some .dir => survey (t.insert place .directory) place rest
    | some .symlink =>
      match ← leadsTo dir name with
      | none => return (t.insert place (.link ⟨[]⟩), none)
      | some target => survey (t.insert place (.link target)) [] (target.parts ++ rest)
    | some _ =>
      let content ← IO.FS.readBinFile (spelling place)
      return (t.insert place (.file content.data.toList), none)

/-- Adds the entries of a directory to a tree, without the contents of
files. -/
def surveyEntries (t : FileTree) (dir : Location) : IO FileTree := do
  let names ← (← IO.FS.realPath (spelling dir)).readDir
  names.foldlM (fun t entry => do
    let name := Bytes.ofString entry.fileName
    let place := dir ++ [name]
    match ← kindOf dir name with
    | some .dir => return t.insert place .directory
    | some .symlink => return t.insert place (.link ((← leadsTo dir name).getD ⟨[]⟩))
    | some _ => return t.insert place (.file [])
    | none => return t) t

/-- The workspace with what stands along a path. -/
def surveyPath (w : Workspace) (p : Path) : IO (Workspace × Option Location) := do
  let (t, dir) ← survey w.tree (w.start p) p.parts
  return (w.withTree t, dir)

/-- The workspace that a command line sees. -/
def workspaceFor (args : List Bytes) : IO Workspace := do
  let current := (Path.ofString (← IO.currentDir).toString).parts
  let (t, _) ← survey .empty [] current
  let w : Workspace := ⟨t, current⟩
  match Arguments.parse args with
  | .error _ => return w
  | .ok a =>
    let (w, _) ← match a.options.config with
      | some p => surveyPath w p
      | none => pure (w, none)
    match buildConfig w a.options with
    | .error _ => return w
    | .ok (c, _) =>
      match ← surveyPath w c.targetDir with
      | (w, some dir) => return w.withTree (← surveyEntries w.tree dir)
      | (w, none) => return w

/-! ### The web -/

/-- The request for a URL. -/
def requestFor (u : Url) : String :=
  let host := (u.authority.map fun a => a.anonymous.render).getD ""
  "GET " ++ u.target ++ " HTTP/1.1\r\nAccept: */*\r\nHost: " ++ host ++ "\r\nUser-Agent: " ++
    Http.userAgent ++ "\r\nConnection: close\r\n\r\n"

/-- What a connection brings until the reply is whole or the connection
ends. -/
partial def collect (client : Std.Async.TCP.Socket.Client) (bytes : Bytes) :
    Async Http.Stream := do
  match ← client.recv? 65536 with
  | none => return ⟨bytes, true⟩
  | some more =>
    let bytes := bytes ++ more.data.toList
    match Http.receive ⟨bytes, false⟩ with
    | .ok _ => return ⟨bytes, false⟩
    | .error _ => collect client bytes

/-- The name of a host as it is looked up. -/
def lookupName (h : Host) : String :=
  match h with
  | .v6 _ => String.ofList (h.render.toList.drop 1).dropLast
  | _ => h.render

/-- One connection. -/
def connect (u : Url) : Async Http.Stream := do
  let some a := u.authority | throw (IO.userError "no host")
  if u.scheme != "http" then throw (IO.userError "no secure connections")
  let addresses ← Std.Async.DNS.getAddrInfo (lookupName a.host) ""
  let port := (a.port.getD 80).toUInt16
  let some address := addresses[0]? | throw (IO.userError "unknown host")
  let client ← Std.Async.TCP.Socket.Client.mk
  client.connect (match address with
    | .v4 x => .v4 ⟨x, port⟩
    | .v6 x => .v6 ⟨x, port⟩)
  client.send (requestFor u).toUTF8
  collect client []

/-- What comes back for a URL within a number of seconds. -/
def remoteAnswer (seconds : Option Nat) (u : Url) : IO (Except Http.Fault Http.Reply) := do
  let task : Async (Option Http.Stream) :=
    match seconds with
    | some n =>
      if n < 0x100000000 then
        Async.race (some <$> connect u)
          (do Std.Async.sleep (Std.Time.Millisecond.Offset.ofNat (n * 1000)); return none)
      else some <$> connect u
    | none => some <$> connect u
  try
    match ← task.block with
    | some stream => return Http.receive stream
    | none => return .error .unanswered
  catch _ => return .error .unanswered

/-- Fetches one document. -/
def fetchOne (seconds : Option Nat) (text : String) : IO (Except FetchError Response) := do
  match Http.request text with
  | .error e => return .error ⟨e.message⟩
  | .ok u =>
    let answer ← remoteAnswer seconds u
    return Http.fetch (fun _ => answer) text

/-! ### Carrying out -/

/-- Repeats one step of a run on the disk. -/
def repeatStep (after : Workspace) : Action → IO Unit
  | .delete p => IO.FS.removeFile p.display
  | .write p =>
    match after.read p with
    | .ok content => IO.FS.writeBinFile p.display ⟨content.toArray⟩
    | .error e => throw (IO.userError e.message)
  | .log _ => return
  | .request _ => return

/-- The answers that came so far as a remote side. -/
def answersSoFar (answers : List (Except FetchError Response)) : Fetcher :=
  fun asked _ => (answers[asked.length]?).getD (.error ⟨"no answer yet"⟩)

/-- Carries out a command line, fetching what it asks for. `done` counts the
steps already repeated. -/
partial def carryOut (args : List Bytes) (w : Workspace) (seconds : Option Nat)
    (answers : List (Except FetchError Response)) (done : Nat) :
    IO (Performed ProgramError) := do
  let p := perform (fun _ => answersSoFar answers) args w
  (p.trace.drop done).forM (repeatStep p.workspace)
  match p.trace.requests[answers.length]? with
  | none => return p
  | some text =>
    let answer ← fetchOne seconds text
    carryOut args w seconds (answers ++ [answer]) p.trace.length

/-- The exit status of a command line. -/
def execute (args : List String) : IO UInt32 := do
  let args := args.map Bytes.ofString
  let seconds := match Arguments.parse args with
    | .ok a => a.options.timeout
    | .error _ => none
  let p ← carryOut args (← workspaceFor args) seconds [] 0
  let filter := Filter.ofSetting (← IO.getEnv "RUST_LOG")
  IO.eprint (unlines ((filter.shown p.trace).map Event.text))
  IO.print (unlines p.output)
  IO.eprint p.errors
  return p.status.toUInt32

end Vendoring.Machine

/-- Runs the program. -/
def main (args : List String) : IO UInt32 := Vendoring.Machine.execute args
