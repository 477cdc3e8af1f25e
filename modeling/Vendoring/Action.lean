/-
What a run does, step by step: the events it logs and the effects it has on
the remote side and on the file tree, in order.

* `Event`: a logged event, with its level, message and fields.
* `Action`, `Trace`: events and effects in the order they happen, with the
  views `Trace.events`, `Trace.requests`, `Trace.deleted`, `Trace.written`.
* `Outcome`: the result of a run, the workspace it leaves and its trace.
-/
import Vendoring.Failure
import Vendoring.FileTree.Workspace

namespace Vendoring

/-- The level of an event. -/
inductive Level where
  | error
  | warn
  | info
  | debug
  | trace
deriving DecidableEq, Repr

/-- A logged event. -/
inductive Event where
  | vendoring (revision : String) (target : Path) (artifacts : Nat)
  | deleted (path : Path)
  | downloading (url : String)
  | nonSuccess (url : String) (status : Nat) (redirect : Option String)
  | writing (path : Path)
  | loadedConfig (path : Path) (config : Config)
deriving DecidableEq, Repr

/-- One step of a run. -/
inductive Action where
  | log (event : Event)
  | request (url : String)
  | delete (path : Path)
  | write (path : Path)
deriving DecidableEq, Repr

/-- The steps of a run, oldest first. -/
abbrev Trace := List Action

namespace Trace

/-- The logged events. -/
def events (t : Trace) : List Event :=
  t.filterMap fun | .log e => some e | _ => none

/-- The requested URLs. -/
def requests (t : Trace) : List String :=
  t.filterMap fun | .request url => some url | _ => none

/-- The deleted paths. -/
def deleted (t : Trace) : List Path :=
  t.filterMap fun | .delete path => some path | _ => none

/-- The written paths. -/
def written (t : Trace) : List Path :=
  t.filterMap fun | .write path => some path | _ => none

end Trace

/-- How a run ended, what it left and what it did. -/
structure Outcome (α : Type) where
  result : Except Failure α
  workspace : Workspace
  trace : Trace

namespace Outcome

/-- Goes on with `next` after a success, in the workspace left so far. -/
def andThen {α β : Type} (o : Outcome α) (next : α → Workspace → Outcome β) : Outcome β :=
  match o.result with
  | .error e => ⟨.error e, o.workspace, o.trace⟩
  | .ok a =>
    let n := next a o.workspace
    ⟨n.result, n.workspace, o.trace ++ n.trace⟩

end Outcome

end Vendoring
