/-
Filters: which lines a log has.

* `Filter.parse?`: a filter from directives between commas. No directive at
  all shows errors only.
* `Filter.shows`: of the directives for an event the most specific one counts,
  and of equal ones the last.
* `Filter.lines`, `Filter.overflow`: the log lines of a run, and what follows
  them on lines of their own.
-/
import Vendoring.Log.Directive

namespace Vendoring

/-- Directives, oldest first. -/
abbrev Filter := List Directive

namespace Filter

/-- The filter a text spells, if every part of it is a directive. -/
def parse? (text : String) : Option Filter :=
  match text.splitOn "," |>.filter (· ≠ "") with
  | [] => some [{ level := some .error }]
  | parts => parts.mapM Directive.parse?

/-- The filter that holds unless another is asked for. -/
def standard : Filter := [{ level := some .info }]

/-- The filter a setting asks for; one that is not given or makes no sense
counts as the standard. -/
def ofSetting (setting : Option String) : Filter :=
  (setting.bind parse?).getD standard

/-- The directive that decides about an event. -/
def deciding? (f : Filter) (e : Event) : Option Directive :=
  (f.filter (·.isAbout e)).foldl
    (fun best d => if best.all d.covers then some d else best) none

/-- Whether an event is shown. -/
def shows (f : Filter) (e : Event) : Bool :=
  match (f.deciding? e).bind (·.level) with
  | some level => e.level.rank ≤ level.rank
  | none => false

/-- The shown events of a trace. -/
def shown (f : Filter) (t : Trace) : List Event := t.events.filter f.shows

/-- The log lines of a trace. -/
def lines (f : Filter) (t : Trace) : List String := (f.shown t).map Event.line

/-- What follows the log lines of a trace. -/
def overflow (f : Filter) (t : Trace) : List String := (f.shown t).flatMap Event.overflow

end Filter

end Vendoring
