import ChannelBinding.Settings.Reading

/-!
# The demo's configuration

What the demo program is configured with: settings of the binding service, the destinations it
publishes to, and the payload.  A configuration has valid settings and at least one destination.
-/

namespace ChannelBinding

open Document

/-- What the demo publishes. -/
structure DemoPlan where
  destinations : List String := []
  payload : String := ""
deriving Repr, Inhabited

/-- The configuration of the demo. -/
structure DemoConfig where
  settings : Settings := {}
  plan : DemoPlan := {}
deriving Repr, Inhabited

/-- Reads what the demo publishes. -/
def DemoPlan.read (d : Dialect) : Document → Read DemoPlan :=
  readRecord d "DemoConfig" [
    { name := "destinations"
      required := true
      read p doc := (fun x => { p with destinations := x }) <$> readList d (readText d) doc },
    { name := "payload"
      required := true
      read p doc := (fun x => { p with payload := x }) <$> readText d doc }] {}

namespace DemoConfig

/-- Reads the configuration of the demo. -/
def read (d : Dialect) : Document → Read DemoConfig :=
  readRecord d "Config" [
    { name := "binding_service"
      read c doc := (fun x => { c with settings := x }) <$> Settings.read d doc },
    { name := "demo"
      required := true
      read c doc := (fun x => { c with plan := x }) <$> DemoPlan.read d doc }] {}

/-- Reads the configuration of the demo from a text and checks it. -/
def ofText (text : String) : Except ConfigError DemoConfig := do
  let c ← Document.readFromText (read .written) text
  c.settings.validate
  if c.plan.destinations.isEmpty then
    throw (.invalid "demo" "at least one destination is required")
  return c

/-- Reads the configuration of the demo from a file and checks it. -/
def ofFile (file : FileContents) : Except ConfigError DemoConfig := do
  let text ← file.text
  ofText text

end DemoConfig

end ChannelBinding
