import ChannelBinding.Binder.Request
import ChannelBinding.Destination.Resolution
import ChannelBinding.Fabric.Delivery
import ChannelBinding.Service.Consumer
import Mathlib.Logic.Function.Basic

/-!
# Worlds

A world is a system with any number of calls on it, each of them where it stands.  A move begins a
call, lets one call take one step, drops a call, or is something that the application does at once;
a list of moves is an interleaving.  The history of a world tells what its calls have brought about,
in order, each entry with the number of its call.
-/

namespace ChannelBinding

variable {ι τ β : Type}

/-! ## Calls -/

/-- A call on the system, where it stands. -/
inductive Call (ι β : Type) where
  | resolving (r : Resolution β)
  | producing (bind : ProducerBind β)
  | consuming (bind : ConsumerBind ι β)
  /-- A bind that was asked of a binder directly. -/
  | attaching (call : β)
  | unbinding (u : Unbinding)
  /-- The release of what is tracked under a name. -/
  | releasing (w : Withdrawal)
  /-- The release of what the registry has handed out. -/
  | draining (w : Withdrawal)
  | stopping (x : Shutdown)
  | finished

/-- Something that a call has brought about. -/
inductive Happening where
  /-- A resolution has begun to bind a new channel. -/
  | attempted (name : String)
  /-- A binder has handed a binding to a resolution. -/
  | bound (name : String) (channel : ChannelId) (binding : BindingId)
  /-- A resolution has answered with a channel. -/
  | resolved (name : String) (channel : ChannelId)
  /-- Bindings were recorded in the ledger. -/
  | tracked (role : Role) (name : String) (bindings : List BindingId)
  /-- Bindings were taken out of the ledger, to be released. -/
  | took (role : Role) (name : String) (bindings : List BindingId)
  /-- A binding that was taken is being unbound. -/
  | unbinding (binding : BindingId)
  /-- The registry has handed out its names. -/
  | drained (names : List String)
deriving DecidableEq, Repr

/-- What a resolution brings about in its next step, its answer aside. -/
def Resolution.news (setup : Setup ι τ β) (s : System τ) (r : Resolution β) : List Happening :=
  match r.stage with
  | .claiming cell ticket =>
    match (s.cache.claim cell ticket).2 with
    | .permitted => [.attempted r.name]
    | _ => []
  | .binding _ _ channel bind =>
    match (setup.bindProcess.step s bind.call).2 with
    | .ended (.ok b) => [.bound r.name channel b, .tracked .producer r.name [b]]
    | _ => []
  | _ => []

/-- What a withdrawal brings about in its next step. -/
def Withdrawal.news (s : System τ) (w : Withdrawal) : List Happening :=
  match w.current, w.names with
  | some ⟨_, .requested b, _, _⟩, _ => [.unbinding b]
  | some ⟨_, .detaching _, _, _⟩, _ => []
  | none, [] => []
  | none, name :: _ =>
    match (s.ledger.take w.role name).2 with
    | some bs => [.took w.role name bs]
    | none => []

/-- What a shutdown brings about in its next step. -/
def Shutdown.news (s : System τ) : Shutdown → List Happening
  | .releasing rest current _ =>
    match current, rest with
    | some w, _ => w.news s
    | none, (.producer, .registry) :: _ => [.drained s.registry.names]
    | none, _ => []
  | _ => []

namespace Call

/-- The call after a step. -/
def after (call : ρ → Call ι β) : Progress ρ α → Call ι β
  | .running r => call r
  | .waiting r _ => call r
  | .ended _ => .finished

/-- The answer of a resolution, if it has ended well. -/
def answered (name : String) : Progress ρ ResolutionAnswer → List Happening
  | .ended (.ok c) => [.resolved name c]
  | _ => []

/-- The bindings that a bind has recorded, if it has ended well. -/
def recorded (role : Role) (name : String) (bindings : α → List BindingId) :
    Progress ρ (Except ε α) → List Happening
  | .ended (.ok a) => [.tracked role name (bindings a)]
  | _ => []

/-- The name under which a consumer bind records its bindings. -/
def consumerName : ConsumerBind ι β → String
  | .binding request .. => request.name
  | .rollingBack .. => ""

/-- What is left of a call that is dropped; some calls cannot be. -/
def dropped : Call ι β → Call ι β
  | resolving _ | producing _ | consuming _ | attaching _ => .finished
  | call => call

/-- One step of a call, and what it brings about. -/
def step (setup : Setup ι τ β) (s : System τ) :
    Call ι β → System τ × Call ι β × List Happening
  | resolving r =>
    let (s', p) := Resolution.step setup s r
    (s', after resolving p, r.news setup s ++ answered r.name p)
  | producing bind =>
    let (s', p) := ProducerBind.step setup s bind
    (s', after producing p, recorded .producer bind.name ([·]) p)
  | consuming bind =>
    let (s', p) := ConsumerBind.step setup s bind
    (s', after consuming p, recorded .consumer (consumerName bind) id p)
  | attaching call =>
    let (s', p) := setup.bindProcess.step s call
    (s', after attaching p, [])
  | unbinding u =>
    let (fabric, p) := Unbinding.step s.fabric u
    ({ s with fabric }, after unbinding p, [])
  | releasing w =>
    let (s', p) := Withdrawal.step s w
    (s', after releasing p, w.news s)
  | draining w =>
    let (s', p) := Withdrawal.step s w
    (s', after draining p, w.news s)
  | stopping x =>
    let (s', p) := Shutdown.step s x
    (s', after stopping p, x.news s)
  | finished => (s, finished, [])

end Call

/-- A call as it is asked for. -/
inductive Request (ι : Type) where
  | resolve (name : String)
  /-- A producer bind with the configured properties, or with other ones. -/
  | bindProducer (name : String) (output : ChannelId) (properties : Option ProducerProperties)
  | bindConsumer (name : String) (input : ChannelId)
  /-- A bind asked of a binder directly. -/
  | attach (binder : ι) (request : BindRequest)
  | unbind (b : BindingId)
  | unbindTracked (role : Role) (name : String)
  | unbindRegistry
  | stop

namespace Request

/-- The channels that a call is asked to bind. -/
def channels : Request ι → List ChannelId
  | bindProducer _ output _ => [output]
  | bindConsumer _ input => [input]
  | attach _ request => [request.channel]
  | _ => []

/-- Begins a call. -/
def begin (setup : Setup ι τ β) (s : System τ) :
    Request ι → System τ × Call ι β × List Happening
  | resolve name => (s, .resolving { name }, [])
  | bindProducer name output properties =>
    let (s', p) := ProducerBind.begin setup s name output
      (properties.getD (setup.settings.producerProperties name))
    (s', .after .producing p, Call.recorded .producer name ([·]) p)
  | bindConsumer name input =>
    let (s', p) := ConsumerBind.begin setup s name input
    (s', .after .consuming p, Call.recorded .consumer name id p)
  | attach binder (.consumer destination group input properties) =>
    (s, .attaching (setup.binders.bindConsumer binder destination group input properties), [])
  | attach binder (.producer destination output properties) =>
    (s, .attaching (setup.binders.bindProducer binder destination output properties), [])
  | unbind b => (s, .unbinding (.requested b), [])
  | unbindTracked role name => (s, .releasing { role, names := [name] }, [])
  | unbindRegistry =>
    let (s', names) := Bindable.registry.claimNames s .producer
    (s', .draining { role := .producer, names }, [.drained s.registry.names])
  | stop => (s, .stopping .requested, [])

end Request

/-! ## What the application does at once -/

/-- Something that the application does with channels and handlers, or that the clock does. -/
inductive Act where
  | newChannel (name : String) (contentType : Option String)
  /-- Makes a handler and keeps it under a label. -/
  | newHandler (label : String) (handler : Handler)
  /-- Keeps a channel under a label. -/
  | nameChannel (label : String) (c : ChannelId)
  | subscribe (c : ChannelId) (handler : String)
  | unsubscribe (c : ChannelId) (handler : String)
  | send (c : ChannelId) (m : Message)
  | wait (time : Nat)

/-- Carries out an act.  Handlers go by their labels, so that no one but a binder has hold of the
handlers that it makes. -/
def Fabric.act (f : Fabric) : Act → Fabric
  | .newChannel name contentType => (f.addChannel { name, contentType }).1
  | .newHandler label handler =>
    let (f, h) := f.addHandler handler
    { f with labels := { f.labels with handlers := f.labels.handlers.insert label h } }
  | .nameChannel label c =>
    { f with labels := { f.labels with channels := f.labels.channels.insert label c } }
  | .subscribe c handler =>
    match f.labels.handlers.get? handler with
    | none => f
    | some h => (f.subscribe c h).1
  | .unsubscribe c handler =>
    match f.labels.handlers.get? handler with
    | none => f
    | some h => (f.unsubscribe c h).1
  | .send c m =>
    match f.deliver c m with
    | none => f
    | some (f', _) => f'
  | .wait time => { f with now := max f.now time }

/-! ## Worlds -/

/-- A system with the calls on it and what they have brought about. -/
structure World (ι τ β : Type) where
  system : System τ
  /-- The calls begun so far, those that are over included. -/
  calls : List (Call ι β) := []
  /-- What has happened, in order, with the number of the call that did it. -/
  history : List (Nat × Happening) := []

/-- What can happen next in a world. -/
inductive Move (ι : Type) where
  /-- A call begins; nobody can ask for a channel that is not there. -/
  | call (request : Request ι)
  /-- A call takes one step. -/
  | advance (i : Nat)
  /-- A resolution or a bind is dropped where it stands; every other call runs to its end. -/
  | drop (i : Nat)
  | act (a : Act)
  | register (name : String) (c : ChannelId)
  | addBindable (bindable : Bindable)
  | start

namespace World

/-- A world at its beginning: nothing is cached, tracked, registered or under way. -/
def fresh (fabric : Fabric) (binders : τ) : World ι τ β := { system := { fabric, binders } }

/-- The world after a move. -/
def next (setup : Setup ι τ β) (w : World ι τ β) : Move ι → World ι τ β
  | .call request =>
    if ∀ c ∈ request.channels, c.index < w.system.fabric.channels.size then
      let (system, call, news) := request.begin setup w.system
      { system
        calls := w.calls ++ [call]
        history := w.history ++ news.map (w.calls.length, ·) }
    else w
  | .advance i =>
    match w.calls[i]? with
    | none => w
    | some call =>
      let (system, call', news) := call.step setup w.system
      { system
        calls := w.calls.set i call'
        history := w.history ++ news.map (i, ·) }
  | .drop i =>
    match w.calls[i]? with
    | some (.resolving r) => { w with system := r.abandon w.system, calls := w.calls.set i .finished }
    | some (.producing _) | some (.consuming _) | some (.attaching _) =>
      { w with calls := w.calls.set i .finished }
    | _ => w
  | .act a => { w with system := { w.system with fabric := w.system.fabric.act a } }
  | .register name c =>
    { w with system := { w.system with fixed := w.system.fixed.insert name c } }
  | .addBindable bindable => { w with system := w.system.addBindable bindable }
  | .start => { w with system := w.system.startLifecycle }

/-- The call of a number; there is nothing left to do for those that have not begun. -/
def call (w : World ι τ β) (i : Nat) : Call ι β := w.calls[i]?.getD .finished

theorem call_append (w : World ι τ β) (s : System τ) (call : Call ι β)
    (history : List (Nat × Happening)) :
  (World.mk s (w.calls ++ [call]) history).call = Function.update w.call w.calls.length call
  := by
  funext i
  by_cases hi : i = w.calls.length
  · subst hi
    simp [World.call]
  · rw [Function.update_of_ne hi]
    simp only [World.call, List.getElem?_append]
    split
    · rfl
    · have hlt : w.calls.length < i := by omega
      have hnone : w.calls[i]? = none := List.getElem?_eq_none (by omega)
      rw [hnone, List.getElem?_eq_none (by simp; omega)]

theorem call_set (w : World ι τ β) (s : System τ) {i : Nat} {call : Call ι β} (call' : Call ι β)
    (history : List (Nat × Happening)) (h : w.calls[i]? = some call) :
  (World.mk s (w.calls.set i call') history).call = Function.update w.call i call'
  := by
  obtain ⟨hlt, -⟩ := List.getElem?_eq_some_iff.1 h
  funext j
  by_cases hj : j = i
  · subst hj
    simp [World.call, List.getElem?_set_self hlt]
  · rw [Function.update_of_ne hj]
    simp only [World.call, List.getElem?_set_ne (Ne.symm hj)]

theorem call_of_getElem? {w : World ι τ β} {i : Nat} {call : Call ι β} (h : w.calls[i]? = some call) :
  w.call i = call
  := by
  rw [World.call, h]
  rfl

theorem getElem?_of_call {w : World ι τ β} {i : Nat} {call : Call ι β} (h : w.call i = call)
    (hcall : call ≠ .finished) :
  w.calls[i]? = some call
  := by
  rw [World.call] at h
  cases hi : w.calls[i]? with
  | none =>
    rw [hi] at h
    apply absurd h.symm hcall
  | some call' =>
    rw [hi] at h
    rw [← h]
    rfl

theorem call_of_length_le {w : World ι τ β} {i : Nat} (h : w.calls.length ≤ i) :
  w.call i = .finished
  := by
  rw [call, List.getElem?_eq_none h]
  rfl

theorem call_length (w : World ι τ β) :
  w.call w.calls.length = .finished
  := call_of_length_le (Nat.le_refl _)

/-- What is seen of the calls when one of them changes. -/
theorem comp_update {α γ : Type} (see : α → γ) (call : Nat → α) (i : Nat) (a : α) :
  (fun j => see (Function.update call i a j)) = Function.update (fun j => see (call j)) i (see a)
  := by
  funext j
  apply Function.apply_update fun _ => see

/-- The values after a change of one, as they are looked up. -/
theorem of_update {α : Type} {f : Nat → α} {i j : Nat} {x y : α} (h : Function.update f i x j = y) :
  (j = i ∧ x = y) ∨ (j ≠ i ∧ f j = y)
  := by
  by_cases hji : j = i
  · subst hji
    rw [Function.update_self] at h
    exact Or.inl ⟨rfl, h⟩
  · rw [Function.update_of_ne hji] at h
    exact Or.inr ⟨hji, h⟩

/-- A step of a call, also of one that has not begun and does nothing. -/
theorem next_advance (setup : Setup ι τ β) (w : World ι τ β) (i : Nat) :
  w.next setup (.advance i)
    = { system := ((w.call i).step setup w.system).1
        calls := w.calls.set i ((w.call i).step setup w.system).2.1
        history := w.history ++ ((w.call i).step setup w.system).2.2.map (i, ·) }
  := by
  cases hi : w.calls[i]? with
  | none =>
    have hlength := List.getElem?_eq_none_iff.mp hi
    simp only [next, hi, call_of_length_le hlength, Call.step, List.map_nil, List.append_nil,
      List.set_eq_of_length_le hlength]
  | some call => simp only [next, hi, call_of_getElem? hi]

/-- A step of a call changes no other call. -/
theorem call_advance (setup : Setup ι τ β) (w : World ι τ β) (i : Nat) :
  (w.next setup (.advance i)).call
    = Function.update w.call i ((w.call i).step setup w.system).2.1
  := by
  cases hi : w.calls[i]? with
  | none =>
    have hfinished := call_of_length_le (List.getElem?_eq_none_iff.mp hi)
    simp only [next, hi, hfinished, Call.step]
    rw [← hfinished, Function.update_eq_self]
  | some call => rw [next_advance, call_set w _ _ _ hi]

/-- To drop a call changes no other call. -/
theorem call_drop (setup : Setup ι τ β) (w : World ι τ β) (i : Nat) :
  (w.next setup (.drop i)).call = Function.update w.call i (w.call i).dropped
  := by
  cases hi : w.calls[i]? with
  | none =>
    have hfinished := call_of_length_le (List.getElem?_eq_none_iff.mp hi)
    simp only [next, hi, hfinished, Call.dropped]
    rw [← hfinished, Function.update_eq_self]
  | some call =>
    rw [call_of_getElem? hi]
    cases call with
    | resolving | producing | consuming | attaching =>
      simp only [next, hi, call_set w _ _ _ hi, Call.dropped]
    | _ =>
      simp only [next, hi, Call.dropped]
      rw [← call_of_getElem? hi, Function.update_eq_self]

theorem history_drop (setup : Setup ι τ β) (w : World ι τ β) (i : Nat) :
  (w.next setup (.drop i)).history = w.history
  := by
  simp only [next]
  split <;> rfl

/-- No call goes away. -/
theorem length_calls_le_next (setup : Setup ι τ β) (w : World ι τ β) (m : Move ι) :
  w.calls.length ≤ (w.next setup m).calls.length
  := by
  cases m with
  | call request =>
    simp only [next]
    split <;> simp
  | advance i =>
    simp only [next]
    split <;> simp
  | drop i =>
    simp only [next]
    split <;> simp
  | _ => exact Nat.le_refl _

/-- The world after some moves. -/
def run (setup : Setup ι τ β) (w : World ι τ β) (moves : List (Move ι)) : World ι τ β :=
  moves.foldl (next setup) w

theorem run_append (setup : Setup ι τ β) (w : World ι τ β) (moves further : List (Move ι)) :
  w.run setup (moves ++ further) = (w.run setup moves).run setup further
  := List.foldl_append

/-- What every one of some moves keeps holds after them. -/
theorem run_induction_of_mem {setup : Setup ι τ β} {P : World ι τ β → Prop} {w : World ι τ β}
    (moves : List (Move ι)) (h : P w) (hnext : ∀ w, ∀ m ∈ moves, P w → P (next setup w m)) :
  P (run setup w moves)
  := by
  induction moves generalizing w with
  | nil => apply h
  | cons m moves ih =>
    apply ih
    · apply hnext w m List.mem_cons_self h
    · intro w m' hm'
      apply hnext w m' (List.mem_cons_of_mem m hm')

/-- What every move keeps holds after any moves. -/
theorem run_induction {setup : Setup ι τ β} {P : World ι τ β → Prop} {w : World ι τ β}
    (h : P w) (hnext : ∀ w m, P w → P (next setup w m)) (moves : List (Move ι)) :
  P (run setup w moves)
  := run_induction_of_mem moves h fun w m _ => hnext w m

/-- A move adds to the history. -/
theorem history_prefix_next (setup : Setup ι τ β) (w : World ι τ β) (m : Move ι) :
  w.history <+: (w.next setup m).history
  := by
  cases m with
  | call request =>
    simp only [next]
    split
    · apply List.prefix_append
    · apply List.prefix_rfl
  | advance i =>
    simp only [next]
    split
    · apply List.prefix_rfl
    · apply List.prefix_append
  | drop i =>
    simp only [next]
    split <;> apply List.prefix_rfl
  | _ => apply List.prefix_rfl

/-- What has happened is not forgotten. -/
theorem history_prefix_run (setup : Setup ι τ β) (w : World ι τ β) (moves : List (Move ι)) :
  w.history <+: (w.run setup moves).history
  := by
  apply run_induction (P := fun w' => w.history <+: w'.history) List.prefix_rfl
  intro w' m hw'
  apply hw'.trans (history_prefix_next setup w' m)

end World

end ChannelBinding
