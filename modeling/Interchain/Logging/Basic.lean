import Interchain.Form.Document
import Interchain.Json.Document
import Interchain.Logging.Filter

/-!
# Logging settings

How log lines are written and which of them are. `LoggingConfig.maxLevel` is the most verbose
level that the configured filter can let through; a malformed filter counts as `info`.
-/

set_option autoImplicit false

namespace Interchain

inductive LogFormat where
  /-- Lines for people. -/
  | human
  /-- One object a line. -/
  | json
deriving DecidableEq

/-- The logging section of the configuration. -/
structure LoggingConfig where
  format : LogFormat := .human
  level : String := "info"
deriving DecidableEq

namespace LoggingConfig

/-- The most verbose level that is let through. -/
def maxLevel (c : LoggingConfig) : LogLevel :=
  (LogFilter.maxLevel? c.level).getD .info

end LoggingConfig

/-! ## Written forms -/

namespace LogFormat

def word : LogFormat → String
  | .human => "human"
  | .json => "json"

def decode {δ : Type} [Document δ] (d : δ) : Option LogFormat := do
  let w ← Document.choice? d
  [human, json].find? fun f => f.word = w

end LogFormat

namespace LoggingConfig

def decode {δ : Type} [Document δ] (d : δ) : Option LoggingConfig := do
  let r ← Record.ofDocument? ["format", "level"] d
  return {
    format := ← r.fieldOr? "format" .human LogFormat.decode
    level := ← r.fieldOr? "level" "info" Document.text? }

def encode (c : LoggingConfig) : Json :=
  .ofMembers [("format", .text c.format.word), ("level", .text c.level)]

end LoggingConfig

end Interchain
