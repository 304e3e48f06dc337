import ChannelBinding.Fabric.Delivery
import ChannelBinding.Proofs.Lookup

/-!
# What sends keep

A send changes the fabric in few ways: events are reported, turns are counted, handlers keep what they
receive, and scripts subscribe and unsubscribe handlers that have a label.  What all of these keep,
every send keeps, however its dispatches nest.
-/

namespace ChannelBinding

/-- Whether one handler is another after it has received messages. -/
def Handler.Receives : Handler → Handler → Prop
  | collecting _, collecting _ => True
  | scripted outcomes actions _, scripted outcomes' actions' _ =>
    outcomes' = outcomes ∧ actions' = actions
  | reporting name _, reporting name' _ => name' = name
  | _, _ => False

/-- A handler that has received messages is not one that forwards. -/
theorem Fabric.forwarding_setHandler {f : Fabric} {h h' : HandlerId} {handler handler' : Handler}
    {target : ChannelId} (hh : f.handler? h = some handler) (hreceives : handler.Receives handler')
    (hh' : f.handler? h' = some (.forwarding target)) :
  (f.setHandler h handler').handler? h' = some (.forwarding target)
  := by
  rw [handler?_setHandler]
  split
  · rename_i heq
    subst heq
    rw [hh] at hh'
    cases hh'
    cases hreceives
  · apply hh'

/-- Whether an event is one that sends report. -/
def Event.isOfSends : Event → Bool
  | unheard .. | handlerFailed .. | messageReceived .. => true
  | _ => false

/-- A property of fabrics that every single thing that a send does keeps. -/
structure Fabric.SendsKeep (I : Fabric → Prop) : Prop where
  emit : ∀ {f : Fabric} {e : Event}, e.isOfSends = true → I f → I (f.emit e)
  turn : ∀ {f : Fabric} {c : ChannelId} {channel : Channel} (turn : UInt64),
    f.channel? c = some channel → I f → I (f.setChannel c { channel with turn })
  receive : ∀ {f : Fabric} {h : HandlerId} {handler handler' : Handler},
    f.handler? h = some handler → handler.Receives handler' → I f → I (f.setHandler h handler')
  subscribe : ∀ {f : Fabric} (c : ChannelId) {label : String} {h : HandlerId},
    f.labels.handlers.get? label = some h → I f → I (f.subscribe c h).1
  unsubscribe : ∀ {f : Fabric} (c : ChannelId) {label : String} {h : HandlerId},
    f.labels.handlers.get? label = some h → I f → I (f.unsubscribe c h).1

/-! ## Work that keeps a property -/

/-- Whether a property holds after some work, if the work returns. -/
def Work.Yields (I : Fabric → Prop) (f : Fabric) (work : Work α) : Prop :=
  ∀ a f', work f = some (a, f') → I f'

/-- Whether some work keeps a property. -/
def Work.Keeps (I : Fabric → Prop) (work : Work α) : Prop := ∀ f, I f → work.Yields I f

namespace Work

variable {I : Fabric → Prop} {f : Fabric} {α γ : Type}

theorem yields_pure (a : α) (h : I f) :
  Yields I f (pure a)
  := by
  rintro a' f' ⟨⟩
  apply h

theorem yields_failure :
  Yields I f (failure : Work α)
  := by
  rintro a' f' ⟨⟩

theorem Yields.bind {work : Work α} {next : α → Work γ} (h : work.Yields I f)
    (hnext : ∀ a, (next a).Keeps I) :
  (work >>= next).Yields I f
  := by
  intro b f'' hb
  change (work f).bind (fun p => next p.1 p.2) = some (b, f'') at hb
  obtain ⟨⟨a, f'⟩, ha, hb⟩ := Option.bind_eq_some_iff.1 hb
  apply hnext a f' (h a f' ha) b f'' hb

theorem yields_get_bind {next : Fabric → Work γ} (h : (next f).Yields I f) :
  (get >>= next).Yields I f
  := h

theorem yields_set_bind {f' : Fabric} {next : PUnit → Work γ} (h : (next ⟨⟩).Yields I f') :
  (set f' >>= next).Yields I f
  := h

theorem yields_modify_bind {change : Fabric → Fabric} {next : PUnit → Work γ}
    (h : (next ⟨⟩).Yields I (change f)) :
  (modify change >>= next).Yields I f
  := h

end Work

namespace Fabric.SendsKeep

variable {I : Fabric → Prop}

/-- Offering a message to handlers keeps what taking it keeps. -/
theorem offer (hI : SendsKeep I) {take : Taking} (htake : ∀ h m, (take h m).Keeps I)
    (c : ChannelId) (m : Message) (hs : List HandlerId) (last : DeliveryError) :
  (ChannelBinding.offer take c m hs last).Keeps I
  := by
  induction hs generalizing last with
  | nil =>
    intro f hf
    apply Work.yields_pure _ hf
  | cons h rest ih =>
    intro f hf
    apply (htake h m f hf).bind
    intro taken f' hf'
    dsimp only
    split
    · apply Work.yields_pure _ hf'
    · rename_i e _
      apply Work.yields_modify_bind
      apply Work.Yields.bind (ih e _ (hI.emit rfl hf'))
      intro later f'' hf''
      apply Work.yields_pure _ hf''

theorem dispatch (hI : SendsKeep I) {take : Taking} (htake : ∀ h m, (take h m).Keeps I)
    (c : ChannelId) (m : Message) :
  (ChannelBinding.dispatch take c m).Keeps I
  := by
  intro f hf
  apply Work.yields_get_bind
  split
  · apply Work.yields_failure
  · rename_i channel hc
    dsimp only
    split
    · apply Work.yields_set_bind
      apply Work.yields_pure _ (hI.emit rfl hf)
    · apply Work.yields_set_bind
      apply hI.offer htake
      apply hI.turn _ hc hf

theorem act (hI : SendsKeep I) {send : ChannelId → Message → Work Outcome}
    (hsend : ∀ c m, (send c m).Keeps I) (m : Message) (actions : List Action) :
  (Handler.act send m actions).Keeps I
  := by
  induction actions with
  | nil =>
    intro f hf
    apply Work.yields_pure _ hf
  | cons action rest ih =>
    intro f hf
    cases action with
    | subscribe channel handler =>
      apply Work.yields_get_bind
      split
      · rename_i c h _ hh
        apply Work.yields_set_bind
        apply ih _ (hI.subscribe c hh hf)
      · apply ih f hf
    | unsubscribe channel handler =>
      apply Work.yields_get_bind
      split
      · rename_i c h _ hh
        apply Work.yields_set_bind
        apply ih _ (hI.unsubscribe c hh hf)
      · apply ih f hf
    | send channel =>
      apply Work.yields_get_bind
      split
      · apply ih f hf
      · rename_i c _
        apply (hsend c m f hf).bind
        intro sent f' hf'
        split
        · apply Work.yields_pure _ hf'
        · apply (ih f' hf').bind
          intro later f'' hf''
          apply Work.yields_pure _ hf''

theorem take (hI : SendsKeep I) {send : ChannelId → Message → Work Outcome}
    (hsend : ∀ c m, (send c m).Keeps I) (h : HandlerId) (m : Message) :
  (Handler.take send h m).Keeps I
  := by
  intro f hf
  apply Work.yields_get_bind
  split
  · apply Work.yields_failure
  · rename_i received hh
    apply Work.yields_set_bind
    have hf' : I (f.setHandler h (.collecting (received ++ [m]))) := hI.receive hh trivial hf
    apply Work.yields_pure _ hf'
  · apply Work.yields_pure _ hf
  · apply hsend _ _ f hf
  · rename_i outcomes actions received hh
    apply Work.yields_set_bind
    have hf' : I (f.setHandler h (.scripted outcomes actions (received ++ [m]))) :=
      hI.receive hh ⟨rfl, rfl⟩ hf
    apply (hI.act hsend m actions _ hf').bind
    intro acted f'' hf''
    split
    · apply Work.yields_pure _ hf''
    · apply Work.yields_pure _ hf''
  · rename_i name received hh
    apply Work.yields_set_bind
    have hf' : I (f.setHandler h (.reporting name (received + 1))) := hI.receive hh rfl hf
    apply Work.yields_pure _ (hI.emit rfl hf')

/-- What every single thing that a send does keeps, every send keeps. -/
theorem send (hI : SendsKeep I) (depth : Nat) (c : ChannelId) (m : Message) :
  (Fabric.send depth c m).Keeps I
  := by
  induction depth generalizing c m with
  | zero =>
    intro f _
    apply Work.yields_failure
  | succ depth ih => apply hI.dispatch (hI.take ih)

theorem deliver (hI : SendsKeep I) {f f' : Fabric} {c : ChannelId} {m : Message} {o : Outcome}
    (h : f.deliver c m = some (f', o)) (hf : I f) :
  I f'
  := by
  simp only [Fabric.deliver, Option.map_eq_some_iff, Prod.mk.injEq] at h
  obtain ⟨⟨o', f''⟩, hsend, rfl, -⟩ := h
  apply hI.send _ c m f hf o' f'' hsend

end Fabric.SendsKeep

/-! ## Channels stay -/

/-- No send takes a channel away. -/
theorem Fabric.sendsKeep_size (n : Nat) :
  SendsKeep fun f => n ≤ f.channels.size
  := by
  constructor
  · intro f e _ h
    apply h
  · intro f c channel turn _ h
    rw [size_setChannel]
    apply h
  · intro f h handler handler' _ _ hn
    apply hn
  · intro f c label h _ hn
    rw [size_subscribe]
    apply hn
  · intro f c label h _ hn
    rw [size_unsubscribe]
    apply hn

end ChannelBinding
