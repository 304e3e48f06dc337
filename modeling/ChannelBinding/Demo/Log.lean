import ChannelBinding.Event.Record
import ChannelBinding.Text.Quoted

/-!
# The demo's log

The lines in which the demo writes out events, and the filter that says which events it writes.
-/

namespace ChannelBinding

/-- Which events are written. -/
inductive LogFilter where
  | nothing
  /-- The events of every source that are serious enough. -/
  | all (limit : Severity)
  /-- The events of the sources with a common beginning that are serious enough. -/
  | only (source : String) (limit : Severity)
deriving DecidableEq, Repr

namespace LogFilter

/-- The demo's own events, details apart. -/
def default : LogFilter := .only "configurable_binder" .information

/-- The limit that a word sets; `none` lets nothing through. -/
def limit? (word : String) : Option (Option Severity) :=
  match word with
  | "off" | "error" => some none
  | "warn" => some (some .warning)
  | "info" => some (some .information)
  | "debug" | "trace" => some (some .detail)
  | _ => none

/-- The filter that a text describes: a limit, or a source and a limit with an equals sign between
them. -/
def ofText (text : String) : Option LogFilter :=
  match text.splitOn "=" with
  | [word] =>
    (limit? word).map fun limit =>
      match limit with
      | none => .nothing
      | some limit => .all limit
  | [source, word] =>
    (limit? word).map fun limit =>
      match limit with
      | none => .nothing
      | some limit => .only source limit
  | _ => none

/-- Whether a filter lets a record through. -/
def admits (filter : LogFilter) (r : EventRecord) : Bool :=
  match filter with
  | .nothing => false
  | .all limit => r.severity.within limit
  | .only source limit => source.toList.isPrefixOf r.source.toList && r.severity.within limit

end LogFilter

/-- The value of a field as it is written in a line; the identity of a message is left out. -/
def FieldValue.render : FieldValue → String
  | .text s => Text.quote s
  | .bare s => s
  | .count n => toString n
  | .messageId _ => "*"

/-- A record as a line. -/
def EventRecord.line (r : EventRecord) : String :=
  let fields := r.fields.map fun field => s!" {field.1}={field.2.render}"
  s!"{r.severity.name} {r.source}: {r.message}" ++ String.join fields

end ChannelBinding
