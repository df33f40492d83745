import Interchain.Numeral

/-!
# Log levels

Levels from silence to everything, each with a name and a place among them. A level is read from
its name, in any case, or from the number of its place.
-/

set_option autoImplicit false

namespace Interchain

/-- Levels from silence to everything. -/
inductive LogLevel where
  | off
  | error
  | warn
  | info
  | debug
  | trace
deriving DecidableEq

namespace LogLevel

def all : List LogLevel :=
  [.off, .error, .warn, .info, .debug, .trace]

def name : LogLevel → String
  | .off => "off"
  | .error => "error"
  | .warn => "warn"
  | .info => "info"
  | .debug => "debug"
  | .trace => "trace"

/-- The place among all levels. -/
def verbosity : LogLevel → Nat
  | .off => 0
  | .error => 1
  | .warn => 2
  | .info => 3
  | .debug => 4
  | .trace => 5

/-- The more verbose level. -/
def max (a b : LogLevel) : LogLevel :=
  if a.verbosity < b.verbosity then b else a

/-- A level by its name, in any case, or by its place, which may have a plus in front. -/
def parse? (cs : List Char) : Option LogLevel :=
  let place :=
    match cs with
    | '+' :: ds => Numeral.value? ds
    | ds => Numeral.value? ds
  all.find? fun l => cs.map Char.toLower = l.name.toList || place = some l.verbosity

end LogLevel

end Interchain
