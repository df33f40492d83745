/-!
# Events

What the module reports to observers: events of a kind with attributes in order. A log is a list
of events, the oldest first; a unit of work that is committed appends its events to the log of
its surroundings.
-/

set_option autoImplicit false

namespace Interchain

/-- A report with attributes in order. -/
structure Event where
  kind : String
  attributes : List (String × String) := []
deriving DecidableEq

/-- The first value under a key. -/
def Event.attribute (e : Event) (key : String) : Option String :=
  e.attributes.lookup key

/-- Events in the order of their emission. -/
abbrev EventLog := List Event

namespace EventLog

/-- The events of one kind. -/
def ofKind (log : EventLog) (kind : String) : EventLog :=
  log.filter fun e => e.kind = kind

end EventLog

end Interchain
