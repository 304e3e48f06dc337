import ChannelBinding.Binder.Memory
import ChannelBinding.Demo.Arguments
import ChannelBinding.Demo.Config
import ChannelBinding.Demo.Inspect
import ChannelBinding.Demo.Log
import ChannelBinding.Destination.Resolution
import ChannelBinding.Fabric.Delivery
import ChannelBinding.Service.Consumer

/-!
# The demo program

The demo binds an input with a reporting handler for each of its destinations, resolves each
destination, publishes the payload on it, and shuts down.  A bind or a resolution that fails ends the
program; a message that cannot be published does not.
-/

namespace ChannelBinding

/-- Why the demo ended early. -/
inductive DemoError where
  | config (e : ConfigError)
  | binding (e : BindingError)
  | resolution (e : ResolutionError)
  /-- A call that can never go on. -/
  | stalled
deriving Repr

/-- The error in full. -/
def DemoError.inspect : DemoError → String
  | config e => e.inspect
  | binding e => e.inspect
  | resolution e => e.inspect
  | stalled => "Stalled"

namespace Demo

/-- The set-up of the demo. -/
abbrev DemoSetup := Setup Unit MemoryBinder MemoryCall

/-- The system of the demo. -/
abbrev DemoSystem := System MemoryBinder

/-- The set-up of the demo: one in-memory binder, and new destinations are reported. -/
def setup (settings : Settings) : DemoSetup where
  settings
  factory := ({} : Factory Unit).withBinder "memory" () |>.withDefault "memory"
  binders := MemoryBinder.behaviour
  callback := some {
    adjust := fun _ _ properties => properties
    report := fun name channel => some (.destinationAnnounced name channel.name) }

/-- A part of the demo: it changes the system and may end the program. -/
abbrev Part := StateT DemoSystem (Except (DemoError × DemoSystem))

/-- Ends the program. -/
def abort (e : DemoError) : Part α := fun s => .error (e, s)

/-- Lets a process run to its end. -/
def finish (P : Process DemoSystem ρ α) (start : DemoSystem → DemoSystem × Progress ρ α) :
    Part α := fun s =>
  let settled :=
    match start s with
    | (s, .running r) => P.settle s r
    | stopped => stopped
  match settled with
  | (s, .ended a) => .ok (a, s)
  | (s, _) => .error (.stalled, s)

/-- Reports an event. -/
def report (e : Event) : Part Unit := modify fun s => s.emit e

/-- Binds an input for a destination and tells its handler. -/
def bindInput (setup : DemoSetup) (name : String) : Part HandlerId := do
  let s ← get
  let (fabric, input) := s.fabric.addChannel (setup.newChannel name)
  let (fabric, handler) := fabric.addHandler (.reporting name 0)
  let (fabric, _) := fabric.subscribe input handler
  set { s with fabric }
  match ← finish (ConsumerBind.process setup) fun s => ConsumerBind.begin setup s name input with
  | .ok _ => return handler
  | .error e => abort (.binding e)

/-- Resolves a destination and publishes the payload on it. -/
def publish (setup : DemoSetup) (payload : List UInt8) (name : String) : Part Unit := do
  match ← finish (Resolution.process setup) fun s => (s, .running { name }) with
  | .error e => abort (.resolution e)
  | .ok output =>
    let s ← get
    let (fabric, m) := s.fabric.mint ∅ payload
    match fabric.deliver output m with
    | none => abort .stalled
    | some (fabric, outcome) =>
      set { s with fabric }
      match outcome.verdict with
      | .ok () => pure ()
      | .error e => report (.publishFailed name e)

/-- The number of messages that a reporting handler has counted. -/
def receivedCount (f : Fabric) (h : HandlerId) : Nat :=
  match f.handler? h with
  | some (.reporting _ received) => received
  | _ => 0

/-- Runs the demo on a configuration. -/
def body (config : DemoConfig) : Part Unit := do
  let setup := setup config.settings
  let names := config.plan.destinations
  let handlers ← names.mapM (bindInput setup)
  modify fun s =>
    ((s.addBindable (.targets names [])).addBindable .registry).startLifecycle
  let payload := config.plan.payload.toUTF8.toList
  names.forM (publish setup payload)
  let s ← get
  let (s, failures) := s.stopLifecycle
  set s
  (names.zip handlers).forM fun (name, handler) =>
    report (.summary name (receivedCount s.fabric handler))
  report (.programEnded s.cache.size failures.length)

/-- What a run of the program leaves behind: what it reported, and the error that ended it. -/
structure Run where
  journal : Array Event
  error : Option DemoError
deriving Repr

/-- Runs the program on a configuration file. -/
def runFile (file : FileContents) : Run :=
  let start : DemoSystem := { binders := {} }
  let start := start.emit .programStarted
  match DemoConfig.ofFile file with
  | .error e => ⟨start.fabric.journal, some (.config e)⟩
  | .ok config =>
    match body config start with
    | .ok ((), s) => ⟨s.fabric.journal, none⟩
    | .error (e, s) => ⟨s.fabric.journal, some e⟩

/-- The exit code of a run. -/
def Run.exitCode (r : Run) : Nat := if r.error.isSome then 1 else 0

/-- The lines that a run logs. -/
def Run.log (r : Run) (filter : LogFilter) : List String :=
  (r.journal.toList.map Event.record).filter filter.admits |>.map EventRecord.line

/-- What a run writes about the error that ended it. -/
def Run.complaint (r : Run) : Option String := r.error.map fun e => s!"Error: {e.inspect}"

end Demo

end ChannelBinding
