import ChannelBinding.Proofs.Memory
import ChannelBinding.Proofs.Sending

/-!
# Postings

What is done in worlds of the in-memory binder, and which of it is reported.  A call answers for the
bindings that it has taken from the ledger and not yet reported as released, and for those that it has
made and not yet recorded.  A posting is one thing that is done to the fabric, the transports and these
bindings; an entry is one change of the ledger.  A transaction is some postings with one entry at the most
among them, and every move is a transaction, so that what postings and entries keep is kept in all worlds.
-/

namespace ChannelBinding

/-- Whether an event tells of subscribers, of transports or of producers that are tracked or released. -/
def Event.isCounted : Event → Bool
  | subscribed .. | unsubscribed .. | transportCreated .. | producerTracked .. | released ..
  | releaseFailed .. => true
  | _ => false

/-- The role of a binding. -/
def Fabric.roleOf? (f : Fabric) (b : BindingId) : Option Role := (f.binding? b).map Binding.role

/-- The channels by name, with their subscribers, in the order in which they were made. -/
def Fabric.roll (f : Fabric) : List (String × List HandlerId) :=
  f.channels.toList.map fun channel => (channel.name, channel.subscribers)

/-- A binding that a call answers for, with the name and the role under which it goes in the ledger. -/
structure Charge where
  name : String
  role : Role
  binding : BindingId

/-- The fabric, the transports and the ledger, with the bindings that a call answers for. -/
structure Standing where
  fabric : Fabric
  binder : MemoryBinder
  ledger : Ledger
  charges : List Charge

/-- The standing of a system in which a call answers for some bindings. -/
def System.standing (s : System MemoryBinder) (charges : List Charge) : Standing :=
  ⟨s.fabric, s.binders, s.ledger, charges⟩

/-- Whether a fabric has the same channels with the same subscribers as another one and the same journal,
and has bindings of the same roles. -/
structure Fabric.IsLike (f f' : Fabric) : Prop where
  journal : f'.journal = f.journal
  roll : f'.roll = f.roll
  role : ∀ {b role}, f.roleOf? b = some role → f'.roleOf? b = some role

/-- One thing that is done: how matters stand before and after it. -/
inductive Posting : Standing → Standing → Prop where
  | told (x : Standing) {e : Event} (h : e.isCounted = false) :
    Posting x { x with fabric := x.fabric.emit e }
  | quiet (x : Standing) {f : Fabric} (h : x.fabric.IsLike f) : Posting x { x with fabric := f }
  | added (x : Standing) (name : String) (contentType : Option String) :
    Posting x { x with fabric := (x.fabric.addChannel { name, contentType }).1 }
  /-- The transport channel of a destination is made. -/
  | opened (x : Standing) {d : String} (h : x.binder.transports.get? d = none) :
    Posting x { x with
      fabric := (x.fabric.addChannel { name := d }).1.emit (.transportCreated d)
      binder := ⟨x.binder.transports.insert d ⟨x.fabric.channels.size⟩⟩ }
  | subscribed (x : Standing) (c : ChannelId) (h : HandlerId) :
    Posting x { x with fabric := (x.fabric.subscribe c h).1 }
  | unsubscribed (x : Standing) (c : ChannelId) (h : HandlerId) :
    Posting x { x with fabric := (x.fabric.unsubscribe c h).1 }
  /-- A consumer bind is handed one more binding. -/
  | kept (x : Standing) (name : String) {b : BindingId} (h : x.fabric.roleOf? b = some .consumer) :
    Posting x { x with charges := x.charges ++ [⟨name, .consumer, b⟩] }
  /-- It is reported how the release of a binding ended. -/
  | reported (x : Standing) {charge : Charge} {rest : List Charge} (h : x.charges = charge :: rest)
      (failure : Option BinderError) :
    Posting x { x with
      fabric := Release.report x.fabric charge.name charge.binding failure
      charges := rest }
  /-- A consumer bind is dropped. -/
  | lost (x : Standing) (h : ∀ charge ∈ x.charges, charge.role = .consumer) :
    Posting x { x with charges := [] }

/-- One change of the ledger. -/
inductive Entry : Standing → Standing → Prop where
  | tracked (x : Standing) (name destination binder : String) {b : BindingId}
      (h : x.fabric.roleOf? b = some .producer) :
    Entry x { x with
      fabric := x.fabric.emit (.producerTracked name destination binder
        ((x.ledger.record .producer name [b]).tracked .producer name).length)
      ledger := x.ledger.record .producer name [b] }
  | recorded (x : Standing) {name : String} {bs : List BindingId}
      (h : x.charges = bs.map fun b => ⟨name, .consumer, b⟩) :
    Entry x { x with ledger := x.ledger.record .consumer name bs, charges := [] }
  | took (x : Standing) {role : Role} {name : String} {bs : List BindingId} (hnone : x.charges = [])
      (h : (x.ledger.take role name).2 = some bs) :
    Entry x { x with
      ledger := (x.ledger.take role name).1
      charges := bs.map fun b => ⟨name, role, b⟩ }

/-- Some postings, one after the other. -/
abbrev Postings := Relation.ReflTransGen Posting

theorem System.posting_emit (s : System MemoryBinder) (charges : List Charge) {e : Event}
    (h : e.isCounted = false) :
  Posting (s.standing charges) ((s.emit e).standing charges)
  := .told (s.standing charges) h

/-- Some postings with one entry at the most among them. -/
def Transaction (x y : Standing) : Prop := ∃ u v, Postings x u ∧ (v = u ∨ Entry u v) ∧ Postings v y

namespace Transaction

variable {x y z : Standing}

theorem of_postings (h : Postings x y) : Transaction x y := ⟨y, y, h, Or.inl rfl, .refl⟩

theorem of_entry (h : Entry x y) : Transaction x y := ⟨x, y, .refl, Or.inr h, .refl⟩

theorem after (h : Postings x y) (h' : Transaction y z) :
  Transaction x z
  := by
  obtain ⟨u, v, hbefore, hentry, hafter⟩ := h'
  exact ⟨u, v, h.trans hbefore, hentry, hafter⟩

theorem before (h : Transaction x y) (h' : Postings y z) :
  Transaction x z
  := by
  obtain ⟨u, v, hbefore, hentry, hafter⟩ := h
  exact ⟨u, v, hbefore, hentry, hafter.trans h'⟩

end Transaction

namespace Fabric

variable {f f' : Fabric}

theorem roleOf?_addBinding_of_some {b : BindingId} {role : Role} (binding : Binding)
    (h : f.roleOf? b = some role) :
  (f.addBinding binding).1.roleOf? b = some role
  := by
  obtain ⟨old, hb, hrole⟩ := Option.map_eq_some_iff.mp h
  have hlt := (Array.getElem?_eq_some_iff.mp hb).1
  rw [roleOf?, binding?, addBinding, Array.getElem?_push_lt hlt, ← Array.getElem?_eq_getElem hlt,
    ← binding?, hb, Option.map_some, hrole]

/-- A binding that is replaced by one of its role leaves all roles as they are. -/
theorem roleOf?_setBinding {b : BindingId} {binding binding' : Binding} (hb : f.binding? b = some binding)
    (hrole : binding'.role = binding.role) (b' : BindingId) :
  (f.setBinding b binding').roleOf? b' = f.roleOf? b'
  := by
  rw [roleOf?, binding?_setBinding]
  split
  · rename_i heq
    subst heq
    rw [roleOf?, hb]
    exact congrArg some hrole
  · rfl

/-- What leaves channels, journal and bindings alone is not reported. -/
theorem isLike_of_eq (hjournal : f'.journal = f.journal) (hchannels : f'.channels = f.channels)
    (hbindings : f'.bindings = f.bindings) :
  f.IsLike f'
  := by
  refine ⟨hjournal, ?_, ?_⟩
  · rw [roll, hchannels, roll]
  · intro b role h
    rwa [roleOf?, binding?, hbindings]

theorem isLike_setTurn {c : ChannelId} {channel : Channel} (hc : f.channel? c = some channel)
    (turn : UInt64) :
  f.IsLike (f.setChannel c { channel with turn })
  := by
  refine ⟨rfl, ?_, id⟩
  obtain ⟨hlt, rfl⟩ := Array.getElem?_eq_some_iff.mp hc
  rw [roll, setChannel, Array.toList_setIfInBounds, List.map_set, roll]
  refine List.ext_getElem? fun i => ?_
  rw [List.getElem?_set]
  split
  · rename_i heq
    subst heq
    rw [List.length_map, Array.length_toList, if_pos hlt, List.getElem?_map, Array.getElem?_toList,
      Array.getElem?_eq_getElem hlt]
    rfl
  · rfl

end Fabric

/-! ## Sends and acts -/

theorem Event.isCounted_of_isOfSends {e : Event} (h : e.isOfSends = true) :
  e.isCounted = false
  := by
  cases e <;> first | rfl | cases h

/-- What a handler receives is not reported. -/
theorem Fabric.isLike_setHandler (f : Fabric) (h : HandlerId) (handler : Handler) :
  f.IsLike (f.setHandler h handler)
  := isLike_of_eq rfl rfl rfl

/-- A send comes to postings. -/
theorem Standing.sendsKeep (x : Standing) :
  Fabric.SendsKeep fun f => Postings x { x with fabric := f }
  := by
  constructor
  · intro f e he h
    exact h.tail (.told _ (Event.isCounted_of_isOfSends he))
  · intro f c channel turn hc h
    exact h.tail (.quiet _ (Fabric.isLike_setTurn hc turn))
  · intro f h handler handler' _ _ hf
    exact hf.tail (.quiet _ (f.isLike_setHandler h handler'))
  · intro f c label h _ hf
    exact hf.tail (.subscribed _ c h)
  · intro f c label h _ hf
    exact hf.tail (.unsubscribed _ c h)

/-- An act comes to postings. -/
theorem Standing.postings_act (x : Standing) (a : Act) :
  Postings x { x with fabric := x.fabric.act a }
  := by
  cases a with
  | newChannel name contentType => exact .single (.added x name contentType)
  | newHandler label handler => exact .single (.quiet x (Fabric.isLike_of_eq rfl rfl rfl))
  | nameChannel label c => exact .single (.quiet x (Fabric.isLike_of_eq rfl rfl rfl))
  | wait time => exact .single (.quiet x (Fabric.isLike_of_eq rfl rfl rfl))
  | subscribe c handler =>
    rw [Fabric.act]
    split
    · exact .refl
    · exact .single (.subscribed x c _)
  | unsubscribe c handler =>
    rw [Fabric.act]
    split
    · exact .refl
    · exact .single (.unsubscribed x c _)
  | send c m =>
    rw [Fabric.act]
    split
    · exact .refl
    · rename_i hdeliver
      exact x.sendsKeep.deliver hdeliver .refl

/-! ## Releases -/

/-- The bindings that a release answers for. -/
def Release.charges (role : Role) (r : Release) : List Charge :=
  (r.current.target :: r.rest).map fun b => ⟨r.name, role, b⟩

/-- The bindings that what is left of a release answers for. -/
def Release.chargesAfter {α : Type} (role : Role) (p : Progress Release α) : List Charge :=
  match p with
  | .running r | .waiting r _ => r.charges role
  | .ended _ => []

theorem Release.chargesAfter_begin (role : Role) (name : String) (failure : Option BinderError)
    (bs : List BindingId) :
  chargesAfter role (begin name failure bs) = bs.map fun b => ⟨name, role, b⟩
  := by
  cases bs <;> rfl

theorem Unbinding.postings_step (x : Standing) (u : Unbinding) :
  Postings x { x with fabric := (step x.fabric u).1 }
  := by
  cases u with
  | requested b =>
    rw [step]
    split
    · exact .refl
    · rename_i binding hb
      split
      · exact .refl
      · split
        · refine .single (.quiet x ⟨rfl, rfl, ?_⟩)
          intro b' role h
          have hrole : ({ binding with bound := false } : Binding).role = binding.role := rfl
          exact (Fabric.roleOf?_setBinding hb hrole b').trans h
        · exact .single (.told x rfl)
  | detaching b =>
    rw [step]
    split
    · exact (Relation.ReflTransGen.single (.unsubscribed x _ _)).tail (.told _ rfl)
    · exact .refl

/-- A release comes to postings, after which it answers for what is left of it. -/
theorem Release.postings_step (s : System MemoryBinder) (role : Role) (r : Release) :
  Postings (s.standing (r.charges role))
    (({ s with fabric := (step s.fabric r).1 } : System MemoryBinder).standing
      (chargesAfter role (step s.fabric r).2))
  := by
  have hunbind := Unbinding.postings_step (s.standing (r.charges role)) r.current
  obtain ⟨f, p, hp⟩ : ∃ f p, Unbinding.step s.fabric r.current = (f, p) := ⟨_, _, rfl⟩
  rw [show Unbinding.step (s.standing (r.charges role)).fabric r.current = (f, p) from hp] at hunbind
  simp only [step, hp]
  cases p with
  | running u =>
    have hcharges : charges role { r with current := u } = charges role r := by
      rw [charges, charges, (Unbinding.eq_detaching_of_step hp).2]
      rfl
    rw [chargesAfter, hcharges]
    exact hunbind
  | waiting u pause => exact absurd hp Unbinding.step_ne_waiting
  | ended result =>
    rw [chargesAfter_begin]
    exact hunbind.tail (.reported ⟨f, s.binders, s.ledger, r.charges role⟩ rfl (failureOf result))

/-- The bindings that a withdrawal answers for. -/
def Withdrawal.charges (w : Withdrawal) : List Charge :=
  (w.current.map (Release.charges w.role)).getD []

/-- The bindings that what is left of a withdrawal answers for. -/
def Withdrawal.chargesAfter {α : Type} (p : Progress Withdrawal α) : List Charge :=
  match p with
  | .running w | .waiting w _ => w.charges
  | .ended _ => []

theorem Withdrawal.charges_proceed (w : Withdrawal) (name : String)
    (p : Progress Release (Option BinderError)) :
  (w.proceed name p).charges = Release.chargesAfter w.role p
  := by
  cases p with
  | running r => rfl
  | waiting r pause => rfl
  | ended failure => cases failure <;> rfl

theorem Withdrawal.transaction_step (s : System MemoryBinder) (w : Withdrawal) :
  Transaction (s.standing w.charges) ((step s w).1.standing (chargesAfter (step s w).2))
  := by
  obtain ⟨role, names, current, failures⟩ := w
  cases current with
  | some r =>
    rw [step, chargesAfter, charges_proceed]
    exact .of_postings (Release.postings_step s role r)
  | none =>
    cases names with
    | nil => exact .of_postings .refl
    | cons name names =>
      obtain ⟨ledger, taken, htake⟩ : ∃ ledger taken, s.ledger.take role name = (ledger, taken) :=
        ⟨_, _, rfl⟩
      cases taken with
      | none =>
        simp only [step, htake]
        exact .of_postings (.single (.told _ rfl))
      | some bs =>
        simp only [step, htake, chargesAfter]
        rw [charges_proceed, Release.chargesAfter_begin]
        have hledger : ledger = (s.ledger.take role name).1 := by rw [htake]
        have htaken : (s.ledger.take role name).2 = some bs := by rw [htake]
        subst hledger
        exact .of_entry (.took (s.standing []) rfl htaken)

/-! ## Shutdowns -/

/-- The bindings that a shutdown answers for. -/
def Shutdown.charges : Shutdown → List Charge
  | .releasing _ (some w) _ => w.charges
  | _ => []

/-- The bindings that what is left of a shutdown answers for. -/
def Shutdown.chargesAfter {α : Type} (p : Progress Shutdown α) : List Charge :=
  match p with
  | .running x | .waiting x _ => x.charges
  | .ended _ => []

theorem Shutdown.postings_conclude (s : System MemoryBinder) (failures : List UnbindFailure)
    (charges : List Charge) :
  Postings (s.standing charges) ((conclude s failures).standing charges)
  := by
  rw [conclude]
  refine .tail ?_ (System.posting_emit _ charges rfl)
  induction failures generalizing s with
  | nil => exact .refl
  | cons failure failures ih => exact .head (s.posting_emit charges rfl) (ih _)

theorem Shutdown.transaction_step (s : System MemoryBinder) (x : Shutdown) :
  Transaction (s.standing x.charges) ((step s x).1.standing (chargesAfter (step s x).2))
  := by
  match x with
  | requested =>
    rw [step]
    split
    · exact .of_postings .refl
    · exact .of_postings .refl
  | listing => exact .of_postings (.single (.told _ rfl))
  | releasing [] none failures => exact .of_postings (postings_conclude s failures [])
  | releasing ((role, bindable) :: rest) none failures =>
    have hclaim : ((bindable.claimNames s role).1.standing []) = s.standing [] := by
      cases role <;> cases bindable <;> rfl
    rw [step, chargesAfter]
    dsimp only [charges, Withdrawal.charges]
    rw [Option.map_none, Option.getD_none, hclaim]
    exact .of_postings .refl
  | releasing rest (some w) failures =>
    have hw := Withdrawal.transaction_step s w
    obtain ⟨s', p, hp⟩ : ∃ s' p, Withdrawal.step s w = (s', p) := ⟨_, _, rfl⟩
    rw [hp] at hw
    simp only [step, hp]
    cases p with
    | running w' => exact hw
    | waiting w' pause => exact hw
    | ended more => exact hw

/-! ## Binds of the binder -/

/-- The role that a bind call of the binder is asked for. -/
def MemoryCall.role : MemoryCall → Role
  | opening request => request.role
  | attaching request _ => request.role

/-- The role of the bindings that a bind call comes to, in a fabric after a step of it. -/
def MemoryCall.Suits (role : Role) (f : Fabric) : Progress MemoryCall BindAnswer → Prop
  | .running call | .waiting call _ => call.role = role
  | .ended (.ok b) => f.roleOf? b = some role
  | .ended (.error _) => True

namespace MemoryBinder

variable (settings : Settings) (factory : Factory Unit) (callback : Option Callback)

theorem postings_openTransport (x : Standing) (destination : String) :
  Postings x { x with
    fabric := (x.binder.openTransport x.fabric destination).1
    binder := (x.binder.openTransport x.fabric destination).2.1 }
  := by
  rw [openTransport]
  split
  · exact .single (.told x rfl)
  · rename_i hnone
    exact .single (.opened x hnone)

/-- A binding that is handed over has the role that was asked for. -/
theorem postings_attach (x : Standing) (t : ChannelId) (request : BindRequest) :
  Postings x { x with fabric := (attach x.fabric t request).1 }
    ∧ (attach x.fabric t request).1.roleOf? (attach x.fabric t request).2 = some request.role
  := by
  have hadd : ∀ (f : Fabric) (handler : Handler), f.IsLike (f.addHandler handler).1 := fun f handler =>
    Fabric.isLike_of_eq rfl rfl rfl
  have hbind : ∀ (f : Fabric) (binding : Binding), f.IsLike (f.addBinding binding).1 := fun f binding =>
    ⟨rfl, rfl, Fabric.roleOf?_addBinding_of_some binding⟩
  have hrole : ∀ (f : Fabric) (binding : Binding),
      (f.addBinding binding).1.roleOf? (f.addBinding binding).2 = some binding.role := by
    intro f binding
    rw [Fabric.roleOf?, Fabric.binding?_addBinding]
    exact congrArg (Option.map Binding.role) (if_pos rfl)
  have hlink : ∀ (handler : Handler) (c : ChannelId) {e : Event} (binding : Binding),
      e.isCounted = false → Postings x { x with
        fabric := ((((x.fabric.addHandler handler).1.subscribe c ⟨x.fabric.handlers.size⟩).1.emit
          e).addBinding binding).1 } := by
    intro handler c e binding he
    let added : Standing := { x with fabric := (x.fabric.addHandler handler).1 }
    let linked : Standing :=
      { added with fabric := (added.fabric.subscribe c ⟨x.fabric.handlers.size⟩).1 }
    let told : Standing := { linked with fabric := linked.fabric.emit e }
    have hlinked : Postings x linked :=
      .tail (.single (.quiet x (hadd _ _))) (.subscribed added c ⟨x.fabric.handlers.size⟩)
    exact (hlinked.tail (.told linked he)).tail (.quiet told (hbind _ _))
  cases request with
  | consumer destination group input properties =>
    exact ⟨hlink _ _ _ rfl, hrole _ _⟩
  | producer destination output properties =>
    exact ⟨hlink _ _ _ rfl, hrole _ _⟩

/-- A step of a bind call comes to postings; it leaves the ledger alone and goes on in its role. -/
theorem postings_bindProcess (s : System MemoryBinder) (call : MemoryCall) (charges : List Charge) :
  let after := (setup settings factory callback).bindProcess.step s call
  Postings (s.standing charges) (after.1.standing charges)
    ∧ MemoryCall.Suits call.role after.1.fabric after.2
  := by
  cases call with
  | opening request =>
    simp only [Setup.bindProcess, Process.focus, setup, behaviour, process, stepPair, MemoryCall.step,
      System.bindersView]
    split
    · exact ⟨.refl, trivial⟩
    · exact ⟨postings_openTransport (s.standing charges) request.destination, rfl⟩
  | attaching request t => exact postings_attach (s.standing charges) t request

end MemoryBinder

end ChannelBinding
