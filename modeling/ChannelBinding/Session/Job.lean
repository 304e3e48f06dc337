import ChannelBinding.Session.Execute

/-!
# Jobs

A job is a command under way, or several of them interleaved.  Polling a job lets it run until it
waits or ends; the parts of a joint job are polled in order, and again in order until all of them wait
for something outside, and each reply shows things as they are when its part ends.  `Session.run`
polls a job until it ends and moves the clock on to the next alarm when nothing else can happen.
-/

namespace ChannelBinding

/-- A command under way. -/
inductive Job where
  | begin (command : Command)
  | resolving (r : Resolution AnyCall) (deadline : Option Nat) (slot : Option String)
  | bindingProducer (bind : ProducerBind AnyCall) (slot : Option String)
  | bindingConsumer (bind : ConsumerBind BinderId AnyCall) (slot : Option String)
  | bindingDirect (call : AnyCall) (slot : Option String)
  | awaiting (wait : Wait)
  | together (jobs : List Job)
  | ended (reply : Reply)
deriving Inhabited

namespace Pause

/-- The pause of two jobs of which either may go on. -/
def either : Pause → Pause → Pause
  | .turn, _ | _, .turn => .turn
  | .alarm a, .alarm b => .alarm (min a b)
  | .alarm a, .other => .alarm a
  | .other, p => p

end Pause

namespace Job

/-- What a bind call refers to. -/
def heldByCall (call : AnyCall) : Held :=
  match call.stage with
  | .recording (.noting _ b) | .scripted (.lingering b _) =>
    { channels := [call.channel], bindings := [b] }
  | _ => { channels := [call.channel] }

/-- What a job refers to. -/
def held : Job → Held
  | begin _ | awaiting _ | ended _ => {}
  | resolving r _ _ =>
    match r.stage with
    | .binding _ _ channel bind => { channels := [channel] } ++ heldByCall bind.call
    | _ => {}
  | bindingProducer bind _ => heldByCall bind.call
  | bindingConsumer (.binding _ _ call _ created) _ =>
    heldByCall call ++ { bindings := created }
  | bindingConsumer (.rollingBack release _) _ => { bindings := release.current.target :: release.rest }
  | bindingDirect call _ => heldByCall call
  | together jobs => heldByAll jobs
where
  /-- What several jobs refer to. -/
  heldByAll : List Job → Held
    | [] => {}
    | job :: jobs => held job ++ heldByAll jobs

/-- The replies of jobs that have all ended. -/
def replies? : List Job → Option (List Reply)
  | [] => some []
  | ended reply :: jobs => (replies? jobs).map (reply :: ·)
  | _ :: _ => none

end Job

namespace Session

/-- Where a job stands after a poll. -/
abbrev Polled := Session × Progress Job Reply

/-- The end of a resolution. -/
def endResolution (s : Session) (slot : Option String) : ResolutionAnswer → Session × Reply
  | .ok c => s.showChannel slot (some c)
  | .error e => (s, .failed (.resolution e))

/-- Polls a resolution, which is abandoned at its deadline if it has one. -/
def pollResolution (s : Session) (r : Resolution AnyCall) (deadline : Option Nat)
    (slot : Option String) : Polled :=
  match (Resolution.process s.setup).settle s.system r with
  | (system, .ended answer) =>
    let (s, reply) := { s with system }.endResolution slot answer
    (s, .ended reply)
  | (system, .running r) => ({ s with system }, .waiting (.resolving r deadline slot) .turn)
  | (system, .waiting r pause) =>
    match deadline with
    | none => ({ s with system }, .waiting (.resolving r none slot) pause)
    | some time =>
      if time ≤ system.fabric.now then ({ s with system := r.abandon system }, .ended .cancelled)
      else
        ({ s with system }, .waiting (.resolving r deadline slot) (pause.either (.alarm time)))

/-- Polls a resolution a number of times without a break, and abandons it if it has not ended. -/
def pollAndCancel (s : Session) (slot : Option String) :
    (polls : Nat) → Resolution AnyCall → Session × Reply
  | 0, r => ({ s with system := r.abandon s.system }, .cancelled)
  | polls + 1, r =>
    match (Resolution.process s.setup).settle s.system r with
    | (system, .ended answer) => { s with system }.endResolution slot answer
    | (system, .running r) | (system, .waiting r _) =>
      pollAndCancel { s with system } slot polls r

/-- The end of a producer bind. -/
def endProducer (s : Session) (slot : Option String) : ProducerAnswer → Session × Reply
  | .ok b => s.showBinding slot (some b)
  | .error e => (s, .failed (.binding e))

/-- Polls a producer bind. -/
def pollProducer (s : Session) (slot : Option String) :
    System AnyBinders × Progress (ProducerBind AnyCall) ProducerAnswer → Polled
  | (system, .ended answer) =>
    let (s, reply) := { s with system }.endProducer slot answer
    (s, .ended reply)
  | (system, .running bind) => ({ s with system }, .waiting (.bindingProducer bind slot) .turn)
  | (system, .waiting bind pause) =>
    ({ s with system }, .waiting (.bindingProducer bind slot) pause)

/-- Keeps the bindings of a consumer bind under numbered labels. -/
def keepNumbered (s : Session) (slot : String) (bs : List BindingId) : Session :=
  (bs.mapIdx fun i b => (i, b)).foldl (fun s (i, b) => s.keepBinding s!"{slot}.{i}" b) s

/-- The end of a consumer bind. -/
def endConsumer (s : Session) (slot : Option String) : ConsumerAnswer → Session × Reply
  | .ok bs =>
    let s := keep keepNumbered s slot bs
    (s, .bindings (s.viewBindings bs))
  | .error e => (s, .failed (.binding e))

/-- Polls a consumer bind. -/
def pollConsumer (s : Session) (slot : Option String) :
    System AnyBinders × Progress (ConsumerBind BinderId AnyCall) ConsumerAnswer → Polled
  | (system, .ended answer) =>
    let (s, reply) := { s with system }.endConsumer slot answer
    (s, .ended reply)
  | (system, .running bind) => ({ s with system }, .waiting (.bindingConsumer bind slot) .turn)
  | (system, .waiting bind pause) =>
    ({ s with system }, .waiting (.bindingConsumer bind slot) pause)

/-- The end of a bind that was asked of a binder directly. -/
def endDirect (s : Session) (slot : Option String) : BindAnswer → Session × Reply
  | .ok b => s.showBinding slot (some b)
  | .error e => (s, .failed (.binder e))

/-- Polls a bind that was asked of a binder directly. -/
def pollDirect (s : Session) (call : AnyCall) (slot : Option String) : Polled :=
  match s.setup.bindProcess.settle s.system call with
  | (system, .ended answer) =>
    let (s, reply) := { s with system }.endDirect slot answer
    (s, .ended reply)
  | (system, .running call) => ({ s with system }, .waiting (.bindingDirect call slot) .turn)
  | (system, .waiting call pause) => ({ s with system }, .waiting (.bindingDirect call slot) pause)

/-- Polls a wait for messages. -/
def pollWait (s : Session) (wait : Wait) : Polled :=
  match wait.settle s.fabric with
  | .ended messages => (s, .ended (.messages (messages.map s.viewMessage)))
  | .running wait => (s, .waiting (.awaiting wait) .turn)
  | .waiting wait pause => (s, .waiting (.awaiting wait) pause)

/-- How long a wait for messages lasts, in milliseconds. -/
def waitTime : Nat := 5

/-- Lets a process go on from where it stands. -/
def settleFrom (P : Process σ ρ α) : σ × Progress ρ α → σ × Progress ρ α
  | (s, .running r) => P.settle s r
  | stopped => stopped

/-- Begins a command. -/
def beginJob (s : Session) (inFlight : Held) (command : Command) : Polled :=
  let atOnce (result : Session × Reply) : Polled := (result.1, .ended result.2)
  match command with
  | .received handler (some count) =>
    match s.handler? handler with
    | none => (s, .ended (.unknown handler))
    | some h =>
      match s.fabric.handler? h with
      | some (.collecting _) =>
        s.pollWait { handler := h, count, deadline := s.fabric.now + waitTime }
      | _ => atOnce (s.execute inFlight command)
  | .bindDirect binder role name group channel consumer producer slot =>
    match s.channel? channel, s.binder? binder with
    | some c, some id =>
      match role with
      | .consumer => s.pollDirect (.ask id (.consumer name group c consumer)) slot
      | .producer => s.pollDirect (.ask id (.producer name c producer)) slot
    | none, _ => (s, .ended (.unknown channel))
    | _, none => (s, .ended (.unknown (binder.getD "")))
  | .bindProducer name channel properties slot =>
    match s.channel? channel with
    | none => (s, .ended (.unknown channel))
    | some c =>
      let properties := properties.getD (s.setup.settings.producerProperties name)
      s.pollProducer slot (settleFrom (ProducerBind.process s.setup)
        (ProducerBind.begin s.setup s.system name c properties))
  | .bindConsumer name channel slot =>
    match s.channel? channel with
    | none => (s, .ended (.unknown channel))
    | some c =>
      s.pollConsumer slot (settleFrom (ConsumerBind.process s.setup)
        (ConsumerBind.begin s.setup s.system name c))
  | .resolve name slot => s.pollResolution { name } none slot
  | .resolveCancel name polls slot => atOnce (s.pollAndCancel slot polls { name })
  | .resolveTimeout name ms slot => s.pollResolution { name } (some (s.fabric.now + ms)) slot
  | command => atOnce (s.execute inFlight command)

mutual

/-- Polls a job; `inFlight` is what other jobs refer to. -/
def poll : (patience : Nat) → Session → (inFlight : Held) → Job → Polled
  | 0, s, _, _ => (s, .ended .stalled)
  | patience + 1, s, inFlight, job =>
    match job with
    | .begin command => s.beginJob inFlight command
    | .resolving r deadline slot => s.pollResolution r deadline slot
    | .bindingProducer bind slot =>
      s.pollProducer slot ((ProducerBind.process s.setup).settle s.system bind)
    | .bindingConsumer bind slot =>
      s.pollConsumer slot ((ConsumerBind.process s.setup).settle s.system bind)
    | .bindingDirect call slot => s.pollDirect call slot
    | .awaiting wait => s.pollWait wait
    | .together jobs => pollTurns patience s inFlight false jobs
    | .ended reply => (s, .ended reply)

/-- Polls jobs in order, turn after turn until none of them goes on by itself.  If there was more than
one turn, jobs outside may go on as well: `moved` says so. -/
def pollTurns : (patience : Nat) → Session → (inFlight : Held) → (moved : Bool) → List Job → Polled
  | 0, s, _, _, _ => (s, .ended .stalled)
  | patience + 1, s, inFlight, moved, jobs =>
    let (s, jobs, pause) := pollAll patience s inFlight jobs
    match Job.replies? jobs, pause with
    | some replies, _ => (s, .ended (.together replies))
    | none, .turn => pollTurns patience s inFlight true jobs
    | none, pause => (s, .waiting (.together jobs) (if moved then .turn else pause))

/-- Polls jobs in order, and tells what they wait for together; a job that ends may let another one
go on in the next turn. -/
def pollAll : (patience : Nat) → Session → (inFlight : Held) → List Job → Session × List Job × Pause
  | 0, s, _, jobs => (s, jobs.map fun _ => .ended .stalled, .turn)
  | _, s, _, [] => (s, [], .other)
  | patience + 1, s, inFlight, .ended reply :: jobs =>
    let (s, jobs, pause) := pollAll patience s inFlight jobs
    (s, .ended reply :: jobs, pause)
  | patience + 1, s, inFlight, job :: jobs =>
    let (s, job, pause) : Session × Job × Pause :=
      match poll patience s (inFlight ++ Job.held.heldByAll jobs) job with
      | (s, .ended reply) => (s, .ended reply, Pause.turn)
      | (s, .running job) => (s, job, .turn)
      | (s, .waiting job pause) => (s, job, pause)
    let (s, jobs, others) := pollAll patience s (inFlight ++ job.held) jobs
    (s, job :: jobs, pause.either others)

end

/-- The session with its clock moved on to a time. -/
def advance (s : Session) (time : Nat) : Session :=
  s.withFabric { s.fabric with now := max s.fabric.now time }

/-- Polls a job until it ends, at most `patience` times. -/
def run : (patience : Nat) → Session → Job → Session × Reply
  | 0, s, _ => (s, .stalled)
  | patience + 1, s, job =>
    match poll patience s {} job with
    | (s, .ended reply) => (s, reply)
    | (s, .running job) | (s, .waiting job .turn) => run patience s job
    | (s, .waiting job (.alarm time)) => run patience (s.advance time) job
    | (s, .waiting _ .other) => (s, .stalled)

end Session

end ChannelBinding
