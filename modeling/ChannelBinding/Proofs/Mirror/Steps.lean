import ChannelBinding.Proofs.Mirror.Frame

/-!
# Calls for the name

When two systems have the same of a name but for the names of handles, a step of a call for the name on
the one and a step of the renamed call on the other have the same results, leave the systems alike, and
give out the same handles.  The renaming must take a handle that the one gives out to that which the
other gives out; `Renaming.Suits` says so of the handles that a step is about to give out.
-/

namespace ChannelBinding

variable {plan : Plan} {settings : Settings} {factory : Factory Unit} {callback : Option Callback}
variable {ρ : Renaming} {s s₁ t t₁ : System PlannedBinder} {name : String}

/-! ## What is kept -/

namespace Facet.Mirrors

variable (h : (s.facet settings name).Mirrors ρ (t.facet settings name))

include h

theorem cache :
  s.cache.Mirrors ρ name t.cache
  := h.place

theorem withCache {c e : Cache} (hcache : c.Mirrors ρ name e) :
  (({ s with cache := c } : System PlannedBinder).facet settings name).Mirrors ρ
    (({ t with cache := e } : System PlannedBinder).facet settings name)
  := { h with place := hcache }

theorem withBindersView {v w : Fabric × PlannedBinder}
    (hdealings : (dealingsWith (settings.destination name) v).Mirrors ρ
      (dealingsWith (settings.destination name) w)) :
  ((s.withBindersView v).facet settings name).Mirrors ρ ((t.withBindersView w).facet settings name)
  := { h with dealings := hdealings }

theorem emit (e e' : Event) :
  ((s.emit e).facet settings name).Mirrors ρ ((t.emit e').facet settings name)
  := h

theorem announce (a : Announcement) :
  (({ s with announcements := s.announcements.push a } : System PlannedBinder).facet settings
      name).Mirrors ρ
    (({ t with announcements := t.announcements.push a } : System PlannedBinder).facet settings name)
  := by
  have hannounced : s.announced name = t.announced name := h.announced
  simp only [System.announced] at hannounced
  refine { h with announced := ?_ }
  simp only [System.facet, System.announced, Array.toList_push, List.filter_append, hannounced]

theorem tracked_eq :
  s.ledger.tracked .producer name = (t.ledger.tracked .producer name).map ρ.binding
  := by
  have htracked : s.ledger.producers.get? name
    = (t.ledger.producers.get? name).map (List.map ρ.binding) := h.tracked
  simp only [Ledger.tracked, Ledger.of, htracked]
  cases t.ledger.producers.get? name <;> rfl

theorem record (b : BindingId) :
  (({ s with ledger := s.ledger.record .producer name [ρ.binding b] } : System PlannedBinder).facet
      settings name).Mirrors ρ
    (({ t with ledger := t.ledger.record .producer name [b] } : System PlannedBinder).facet settings
      name)
  := by
  refine { h with tracked := ?_ }
  simp [System.facet, Ledger.record, Ledger.set, Ledger.of, h.tracked_eq]

theorem take :
  (({ s with ledger := (s.ledger.take .producer name).1 } : System PlannedBinder).facet settings
      name).Mirrors ρ
    (({ t with ledger := (t.ledger.take .producer name).1 } : System PlannedBinder).facet settings
      name)
  := by
  refine { h with tracked := ?_ }
  simp [System.facet, Ledger.take, Ledger.set, Ledger.of]

theorem addOutput (c : ChannelId) :
  ((s.addOutput name (ρ.channel c)).facet settings name).Mirrors ρ
    ((t.addOutput name c).facet settings name)
  := by
  refine { h with output := ?_ }
  simp [System.facet, System.addOutput, System.emit, Registry.add]

end Facet.Mirrors

/-- Whether the handles that one system gives out are those of another, renamed. -/
def Renaming.Suits (ρ : Renaming) (s s' t : System PlannedBinder) : Prop :=
  ∀ kind, s.count kind < s'.count kind → ρ.map kind (t.count kind) = s.count kind

/-- Whether two systems have the same of a name after steps of theirs, but for the names of handles,
and have given out handles together. -/
structure System.Keep (ρ : Renaming) (settings : Settings) (name : String)
    (s s' t t' : System PlannedBinder) : Prop where
  facet : (s'.facet settings name).Mirrors ρ (t'.facet settings name)
  count : ∀ kind, InStep (s.count kind) (s'.count kind) (t.count kind) (t'.count kind)

namespace System

theorem Keep.refl (h : (s.facet settings name).Mirrors ρ (t.facet settings name)) :
  Keep ρ settings name s s t t
  := ⟨h, fun _ => .refl _ _⟩

/-- Systems that give out no more handles keep step. -/
theorem Keep.after {s' t' : System PlannedBinder} (h : Keep ρ settings name s s₁ t t₁)
    (hfacet : (s'.facet settings name).Mirrors ρ (t'.facet settings name))
    (hs : s'.count = s₁.count) (ht : t'.count = t₁.count) :
  Keep ρ settings name s s' t t'
  := by
  refine ⟨hfacet, fun kind => ?_⟩
  rw [hs, ht]
  apply h.count

/-- Systems whose binders keep step keep step. -/
theorem Keep.withBindersView (h : (s.facet settings name).Mirrors ρ (t.facet settings name))
    {v w : Fabric × PlannedBinder}
    (hv : Dealings.Keep ρ (settings.destination name) s.bindersView v t.bindersView w) :
  Keep ρ settings name s (s.withBindersView v) t (t.withBindersView w)
  := by
  refine ⟨h.withBindersView hv.dealings, fun kind => ?_⟩
  cases kind with
  | channel => exact hv.channels
  | binding => exact hv.bindings
  | cell | ticket => exact .refl _ _

/-- What suits the systems suits their binders. -/
theorem meets_of_suits {s' : System PlannedBinder} {v : Fabric × PlannedBinder}
    (h : ρ.Suits s s' t) (hs' : s'.count = (s.withBindersView v).count) :
  ρ.Meets s.bindersView v t.bindersView
  := by
  unfold Renaming.Suits at h
  rw [hs'] at h
  exact ⟨fun hlt => congrArg ChannelId.mk (h .channel hlt),
    fun hlt => congrArg BindingId.mk (h .binding hlt)⟩

@[simp]
theorem count_emit (s : System PlannedBinder) (e : Event) :
  (s.emit e).count = s.count
  := by
  funext kind
  cases kind <;> rfl

/-- A cache of the same sizes gives out no handle. -/
theorem count_withCache (s : System PlannedBinder) {c : Cache}
    (hsizes : c.cells.size = s.cache.cells.size ∧ c.issued = s.cache.issued) :
  ({ s with cache := c } : System PlannedBinder).count = s.count
  := by
  funext kind
  cases kind with
  | cell => exact hsizes.1
  | ticket => exact hsizes.2
  | channel | binding => rfl

theorem count_modify (s : System PlannedBinder) (id : CellId) (f : Cell → Cell) :
  ({ s with cache := s.cache.modify id f } : System PlannedBinder).count = s.count
  := s.count_withCache ⟨Array.size_modify, rfl⟩

theorem count_take (s : System PlannedBinder) (name : String) :
  ({ s with ledger := (s.ledger.take .producer name).1 } : System PlannedBinder).count = s.count
  := by
  funext kind
  cases kind <;> rfl

end System

namespace Cache

variable (c : Cache) (id : CellId) (ticket : Ticket) (name : String)

theorem claim_shape :
  (c.claim id ticket).1.entries = c.entries
    ∧ (c.claim id ticket).1.cells.size = c.cells.size
    ∧ (c.claim id ticket).1.issued = c.issued
  := by
  cases h : c.cell? id with
  | none => simp only [claim, h, and_self]
  | some cell =>
    rw [claim_eq c ticket h]
    exact ⟨rfl, Array.size_modify, rfl⟩

theorem forget_shape :
  (c.forget name id ticket).cells.size = c.cells.size ∧ (c.forget name id ticket).issued = c.issued
  := by
  unfold forget
  dsimp only
  split
  · exact ⟨Array.size_modify, rfl⟩
  · exact ⟨Array.size_modify, rfl⟩

theorem enter_shape :
  (c.enter name).1.issued = c.issued + 1
    ∧ (c.enter name).1.cells.size
      = if c.entries.get? name = none then c.cells.size + 1 else c.cells.size
  := by
  unfold enter
  dsimp only
  split
  · rename_i h
    simp [h, modify]
  · rename_i h
    simp [h]

end Cache

/-! ## Producer binds -/

namespace ProducerBind

@[simp]
theorem count_track (bind : ProducerBind PlannedCall) (s : System PlannedBinder) (b : BindingId) :
  (bind.track s b).count = s.count
  := by
  funext kind
  cases kind <;> rfl

variable (plan factory callback) in
/-- A bind of the name goes alike on both sides. -/
theorem keep_step (h : (s.facet settings name).Mirrors ρ (t.facet settings name))
    {bind : ProducerBind PlannedCall} (hbind : bind.IsFor settings t.fabric name)
    (hsuits : ρ.Suits s
      (step (PlannedBinder.setup plan settings factory callback) s (bind.rename ρ)).1 t) :
  let x := step (PlannedBinder.setup plan settings factory callback) s (bind.rename ρ)
  let y := step (PlannedBinder.setup plan settings factory callback) t bind
  System.Keep ρ settings name s x.1 t y.1 ∧ x.2 = y.2.map (rename ρ) (Except.map ρ.binding)
  := by
  obtain ⟨rfl, hcall⟩ := hbind
  obtain ⟨v, p, hv⟩ : ∃ v p, PlannedCall.step plan s.bindersView (bind.rename ρ).call = (v, p) :=
    ⟨_, _, rfl⟩
  obtain ⟨w, q, hw⟩ : ∃ w q, PlannedCall.step plan t.bindersView bind.call = (w, q) := ⟨_, _, rfl⟩
  have hcount : (step (PlannedBinder.setup plan settings factory callback) s (bind.rename ρ)).1.count
      = (s.withBindersView v).count := by
    rw [step_planned, hv]
    match p with
    | .running call => rfl
    | .waiting call pause => rfl
    | .ended (.ok b) => apply count_track
    | .ended (.error e) => apply System.count_emit
  have hbinder := PlannedCall.keep_step (v := s.bindersView) (w := t.bindersView) plan h.dealings hcall
  have hv' : PlannedCall.step plan s.bindersView (bind.call.rename ρ) = (v, p) := hv
  rw [hv', hw] at hbinder
  obtain ⟨hkeep, rfl⟩ := hbinder (System.meets_of_suits hsuits hcount)
  have hsystems := System.Keep.withBindersView h hkeep
  simp only [step_planned, hv, hw]
  match q with
  | .running call => exact ⟨hsystems, rfl⟩
  | .waiting call pause => exact ⟨hsystems, rfl⟩
  | .ended (.ok b) =>
    refine ⟨hsystems.after ?_ (count_track _ _ _) (count_track _ _ _), rfl⟩
    exact (hsystems.facet.record b).emit _ _
  | .ended (.error e) =>
    refine ⟨hsystems.after ?_ (System.count_emit _ _) (System.count_emit _ _), rfl⟩
    exact hsystems.facet.emit _ _

/-- A bind that begins gives out no handle. -/
theorem count_begin (setup : Setup Unit PlannedBinder PlannedCall) (s : System PlannedBinder)
    (name : String) (output : ChannelId) (properties : ProducerProperties) :
  (begin setup s name output properties).1.count = s.count
  := by
  unfold begin
  split
  · rfl
  · apply System.count_emit

variable (plan settings factory callback) in
theorem prepare_rename (binders binders' : PlannedBinder) (name : String) (output : ChannelId)
    (properties : ProducerProperties) :
  prepare (PlannedBinder.setup plan settings factory callback) binders name (ρ.channel output)
      properties
    = (prepare (PlannedBinder.setup plan settings factory callback) binders' name output
        properties).map (rename ρ)
  := by
  unfold prepare
  cases (PlannedBinder.setup plan settings factory callback).binderFor name with
  | error e => rfl
  | ok binder =>
    simp only [Bind.bind, Except.bind, PlannedBinder.setup, PlannedBinder.behaviour]
    split <;> rfl

variable (plan factory callback) in
/-- A bind of the name begins alike on both sides. -/
theorem keep_begin (h : (s.facet settings name).Mirrors ρ (t.facet settings name))
    (output : ChannelId) (properties : ProducerProperties) :
  let setup := PlannedBinder.setup plan settings factory callback
  let x := begin setup s name (ρ.channel output) properties
  let y := begin setup t name output properties
  System.Keep ρ settings name s x.1 t y.1 ∧ x.2 = y.2.map (rename ρ) (Except.map ρ.binding)
  := by
  simp only [begin, prepare_rename plan settings factory callback s.binders t.binders]
  cases prepare (PlannedBinder.setup plan settings factory callback) t.binders name output
      properties with
  | error e => exact ⟨.refl h, rfl⟩
  | ok bind => exact ⟨(System.Keep.refl h).after (h.emit _ _) (System.count_emit _ _)
      (System.count_emit _ _), rfl⟩

end ProducerBind

/-! ## Resolutions -/

namespace Resolution

variable (plan factory callback) in
/-- A new destination is announced alike on both sides. -/
theorem keep_announce (h : (s.facet settings name).Mirrors ρ (t.facet settings name))
    (hnew : ρ.channel ⟨t.fabric.channels.size⟩ = ⟨s.fabric.channels.size⟩) :
  let x := announce (PlannedBinder.setup plan settings factory callback) s name
  let y := announce (PlannedBinder.setup plan settings factory callback) t name
  System.Keep ρ settings name s x.1 t y.1 ∧ x.2 = (ρ.channel y.2.1, y.2.2)
  := by
  have hadd (channel : Channel) :
      System.Keep ρ settings name s { s with fabric := (s.fabric.addChannel channel).1 }
        t { t with fabric := (t.fabric.addChannel channel).1 } := by
    refine ⟨h, fun kind => ?_⟩
    cases kind with
    | channel => exact Or.inr ⟨by simp [System.count, Fabric.addChannel],
        by simp [System.count, Fabric.addChannel]⟩
    | binding | cell | ticket => exact .refl _ _
  have hcount (s : System PlannedBinder) (a : Announcement) :
      ({ s with announcements := s.announcements.push a } : System PlannedBinder).count = s.count := by
    funext kind
    cases kind <;> rfl
  have hc (channel : Channel) (properties : ProducerProperties) :
      ((s.fabric.addChannel channel).2, properties)
        = (ρ.channel (t.fabric.addChannel channel).2, properties) := by
    simp only [Fabric.addChannel, hnew]
  unfold announce
  dsimp only
  cases (PlannedBinder.setup plan settings factory callback).callback with
  | none => exact ⟨hadd _, hc _ _⟩
  | some callback =>
    have hannounced (channel : Channel) (properties : ProducerProperties) :=
      (hadd channel).after ((hadd channel).facet.announce ⟨name, channel, properties⟩) (hcount _ _)
        (hcount _ _)
    dsimp only
    split
    · exact ⟨hannounced _ _, hc _ _⟩
    · refine ⟨(hannounced _ _).after ?_ (System.count_emit _ _) (System.count_emit _ _), hc _ _⟩
      exact (hannounced _ _).facet.emit _ _

/-- What a resolution makes of the progress of its bind gives out no handle. -/
theorem count_proceed (r : Resolution PlannedCall) (cell : CellId) (ticket : Ticket) (c : ChannelId)
    (x : System PlannedBinder × Progress (ProducerBind PlannedCall) ProducerAnswer) :
  (r.proceed cell ticket c x).1.count = x.1.count
  := by
  match x with
  | (s, .running bind) => rfl
  | (s, .waiting bind pause) => rfl
  | (s, .ended (.ok b)) => exact System.count_modify s _ _
  | (s, .ended (.error e)) => exact System.count_modify s _ _

/-- What a resolution makes of the progress of its bind is alike on both sides. -/
theorem keep_proceed (stage : ResolutionStage PlannedCall) {cell : CellId} (ticket : Ticket)
    (c : ChannelId) {x y : System PlannedBinder × Progress (ProducerBind PlannedCall) ProducerAnswer}
    (h : System.Keep ρ settings name s x.1 t y.1)
    (hprogress : x.2 = y.2.map (ProducerBind.rename ρ) (Except.map ρ.binding))
    (hentry : y.1.cache.entries.get? name = some cell) :
  let x' := proceed ⟨name, stage.rename ρ⟩ (ρ.cell cell) (ρ.ticket ticket) (ρ.channel c) x
  let y' := proceed ⟨name, stage⟩ cell ticket c y
  System.Keep ρ settings name s x'.1 t y'.1 ∧ x'.2 = y'.2.map (rename ρ) (Except.map ρ.channel)
  := by
  obtain ⟨s₁, p⟩ := x
  obtain ⟨t₁, q⟩ := y
  obtain rfl := hprogress
  match q with
  | .running bind => exact ⟨h, rfl⟩
  | .waiting bind pause => exact ⟨h, rfl⟩
  | .ended (.ok b) =>
    have houtput := (h.facet.addOutput c).emit
      (.destinationBound name ((s₁.fabric.channel? (ρ.channel c)).bind Channel.contentType))
      (.destinationBound name ((t₁.fabric.channel? c).bind Channel.contentType))
    have hfilled := houtput.withCache (h.facet.cache.fill hentry ticket ⟨c, b⟩)
    refine ⟨h.after hfilled ?_ ?_, rfl⟩
    · exact System.count_modify s₁ _ _
    · exact System.count_modify t₁ _ _
  | .ended (.error e) =>
    have hgiven := h.facet.withCache (h.facet.cache.giveUp hentry ticket)
    exact ⟨h.after hgiven (System.count_modify _ _ _) (System.count_modify _ _ _), rfl⟩

/-- The announcement of a new destination adds its channel and no other handle. -/
theorem channels_announce {ι τ β : Type} (setup : Setup ι τ β) (s : System τ) (name : String) :
  (announce setup s name).1.fabric.channels.size = s.fabric.channels.size + 1
  := by
  have hadd (channel : Channel) :
      (s.fabric.addChannel channel).1.channels.size = s.fabric.channels.size + 1 := by
    simp [Fabric.addChannel]
  unfold announce
  dsimp only
  split
  · apply hadd
  · split
    · apply hadd
    · apply hadd

/-- The resolutions of the name enter cells of the same names. -/
theorem keep_entering (h : (s.facet settings name).Mirrors ρ (t.facet settings name))
    (hsuits : ρ.Suits s { s with cache := (s.cache.enter name).1 } t) :
  System.Keep ρ settings name s { s with cache := (s.cache.enter name).1 }
      t { t with cache := (t.cache.enter name).1 }
    ∧ (s.cache.enter name).2 = Prod.map ρ.cell ρ.ticket (t.cache.enter name).2
  := by
  obtain ⟨hissued, hcells⟩ := s.cache.enter_shape name
  obtain ⟨hissued', hcells'⟩ := t.cache.enter_shape name
  have hnone : s.cache.entries.get? name = none ↔ t.cache.entries.get? name = none := by
    rw [h.cache.entry, Option.map_eq_none_iff]
  have hticket : ρ.ticket ⟨t.cache.issued⟩ = ⟨s.cache.issued⟩ :=
    congrArg Ticket.mk (hsuits .ticket (by simp [System.count, hissued]))
  have hcell : t.cache.entries.get? name = none →
      ρ.cell ⟨t.cache.cells.size⟩ = ⟨s.cache.cells.size⟩ := fun hnew =>
    congrArg CellId.mk (hsuits .cell (by simp [System.count, hcells, hnone.mpr hnew]))
  obtain ⟨hentered, hhandles⟩ := h.cache.enter hticket hcell
  refine ⟨⟨h.withCache hentered, fun kind => ?_⟩, hhandles⟩
  cases kind with
  | ticket => exact Or.inr ⟨hissued, hissued'⟩
  | cell =>
    simp only [System.count, hcells, hcells', hnone]
    split
    · exact Or.inr ⟨rfl, rfl⟩
    · exact .refl _ _
  | channel | binding => exact .refl _ _

variable (plan factory callback) in
/-- A resolution that got the permit announces its destination and begins its bind alike on both
sides. -/
theorem keep_announcing (h : (s.facet settings name).Mirrors ρ (t.facet settings name)) {cell : CellId}
    (hentry : t.cache.entries.get? name = some cell) (ticket : Ticket)
    (hnew : ρ.channel ⟨t.fabric.channels.size⟩ = ⟨s.fabric.channels.size⟩) :
  let setup := PlannedBinder.setup plan settings factory callback
  let x := announce setup s name
  let y := announce setup t name
  let x' := proceed ⟨name, .claiming (ρ.cell cell) (ρ.ticket ticket)⟩ (ρ.cell cell) (ρ.ticket ticket)
    x.2.1 (ProducerBind.begin setup x.1 name x.2.1 x.2.2)
  let y' := proceed ⟨name, .claiming cell ticket⟩ cell ticket
    y.2.1 (ProducerBind.begin setup y.1 name y.2.1 y.2.2)
  System.Keep ρ settings name s x'.1 t y'.1 ∧ x'.2 = y'.2.map (rename ρ) (Except.map ρ.channel)
  := by
  have hannounced := keep_announce plan factory callback h hnew
  have hcache := (changedFor_announce plan settings factory callback t name).2
  intro setup x y
  obtain ⟨s₁, c, properties, hx⟩ : ∃ s₁ c properties, x = (s₁, c, properties) := ⟨_, _, _, rfl⟩
  obtain ⟨t₁, c', properties', hy⟩ : ∃ t₁ c' properties', y = (t₁, c', properties') := ⟨_, _, _, rfl⟩
  change System.Keep ρ settings name s x.1 t y.1 ∧ x.2 = (ρ.channel y.2.1, y.2.2) at hannounced
  change y.1.cache = t.cache at hcache
  rw [hx, hy] at hannounced ⊢
  rw [hy] at hcache
  obtain ⟨hkeep, heq⟩ := hannounced
  cases heq
  obtain ⟨hbegun, hprogress⟩ := ProducerBind.keep_begin plan factory callback hkeep.facet c' properties'
  have hfrom := hkeep.after hbegun.facet (ProducerBind.count_begin setup s₁ name _ _)
    (ProducerBind.count_begin setup t₁ name c' properties')
  apply keep_proceed (.claiming cell ticket) ticket c' hfrom hprogress
  rw [(ProducerBind.changedFor_begin plan settings factory callback t₁ name c' properties').2.1]
  dsimp only at hcache
  rw [hcache]
  apply hentry

variable (plan factory callback) in
/-- The resolutions of the name get the same answers from their cells. -/
theorem keep_claiming (h : (s.facet settings name).Mirrors ρ (t.facet settings name)) {cell : CellId}
    (hentry : t.cache.entries.get? name = some cell) (ticket : Ticket)
    (hsuits : ρ.Suits s (step (PlannedBinder.setup plan settings factory callback) s
      ⟨name, .claiming (ρ.cell cell) (ρ.ticket ticket)⟩).1 t) :
  let x := step (PlannedBinder.setup plan settings factory callback) s
    ⟨name, .claiming (ρ.cell cell) (ρ.ticket ticket)⟩
  let y := step (PlannedBinder.setup plan settings factory callback) t ⟨name, .claiming cell ticket⟩
  System.Keep ρ settings name s x.1 t y.1 ∧ x.2 = y.2.map (rename ρ) (Except.map ρ.channel)
  := by
  obtain ⟨hclaimed, hanswer⟩ := h.cache.claim hentry ticket
  obtain ⟨e, claim, he⟩ : ∃ e claim, t.cache.claim cell ticket = (e, claim) := ⟨_, _, rfl⟩
  obtain ⟨c, claim', hc⟩ : ∃ c claim', s.cache.claim (ρ.cell cell) (ρ.ticket ticket) = (c, claim') :=
    ⟨_, _, rfl⟩
  have hshape := t.cache.claim_shape cell ticket
  have hshape' := s.cache.claim_shape (ρ.cell cell) (ρ.ticket ticket)
  rw [he, hc] at hclaimed hanswer
  rw [he] at hshape
  rw [hc] at hshape'
  obtain rfl : claim' = claim.rename ρ := hanswer
  have hentry' : e.entries.get? name = some cell := by
    rw [hshape.1]
    apply hentry
  -- whatever the claim comes to, it has changed the cell of the name alike on both sides
  have hclaims : System.Keep ρ settings name s { s with cache := c } t { t with cache := e } :=
    (System.Keep.refl h).after (h.withCache hclaimed) (s.count_withCache hshape'.2)
      (t.count_withCache hshape.2)
  simp only [step, he, hc] at hsuits ⊢
  cases claim with
  | filled v =>
    have hlet := hclaims.facet.withCache (hclaimed.letGo hentry' ticket)
    refine ⟨hclaims.after hlet ?_ ?_, rfl⟩
    · exact System.count_modify { s with cache := c } _ _
    · exact System.count_modify { t with cache := e } _ _
  | queued => exact ⟨hclaims, rfl⟩
  | permitted =>
    have hlt : s.count .channel < (announce (PlannedBinder.setup plan settings factory callback)
        { s with cache := c } name).1.count .channel := by
      simp only [System.count, channels_announce, Nat.lt_succ_self]
    simp only [Cell.Claim.rename, Renaming.Suits, count_proceed, ProducerBind.count_begin] at hsuits ⊢
    obtain ⟨hannounced, hprogress⟩ := keep_announcing plan factory callback hclaims.facet hentry' ticket
      (congrArg ChannelId.mk (hsuits .channel hlt))
    refine ⟨⟨hannounced.facet, fun kind => ?_⟩, hprogress⟩
    rw [← s.count_withCache hshape'.2, ← t.count_withCache hshape.2]
    apply hannounced.count

variable (plan factory callback) in
/-- A resolution of the name goes alike on both sides. -/
theorem keep_step (h : (s.facet settings name).Mirrors ρ (t.facet settings name))
    {r : Resolution PlannedCall} (hr : r.IsFor settings t.fabric name)
    (hheld : ∀ {hold}, r.hold? = some hold → t.cache.entries.get? hold.name = some hold.cell)
    (hsuits : ρ.Suits s
      (step (PlannedBinder.setup plan settings factory callback) s (r.rename ρ)).1 t) :
  let x := step (PlannedBinder.setup plan settings factory callback) s (r.rename ρ)
  let y := step (PlannedBinder.setup plan settings factory callback) t r
  System.Keep ρ settings name s x.1 t y.1 ∧ x.2 = y.2.map (rename ρ) (Except.map ρ.channel)
  := by
  obtain ⟨rname, stage⟩ := r
  obtain ⟨rfl, hbind⟩ := hr
  dsimp only at h hheld
  have hrefl : System.Keep ρ settings rname s s t t := .refl h
  have hemit (e e' : Event) : System.Keep ρ settings rname s (s.emit e) t (t.emit e') :=
    hrefl.after (h.emit e e') (System.count_emit _ _) (System.count_emit _ _)
  cases stage with
  | requested =>
    simp only [step, rename, ResolutionStage.rename]
    by_cases hvalid : isValidName rname = true
    · simp only [hvalid, if_true]
      exact ⟨hemit _ _, rfl⟩
    · simp only [hvalid]
      exact ⟨hemit _ _, rfl⟩
  | readingFixed =>
    have hfixed : s.fixed.get? rname = (t.fixed.get? rname).map ρ.channel := h.fixed
    simp only [step, rename, ResolutionStage.rename, hfixed]
    cases t.fixed.get? rname with
    | some c => exact ⟨hemit _ _, rfl⟩
    | none =>
      by_cases hallowed : settings.allowsDynamic rname = true
      · simp only [Option.map_none, PlannedBinder.setup, hallowed, if_true]
        exact ⟨hrefl, rfl⟩
      · simp only [Option.map_none, PlannedBinder.setup, hallowed]
        exact ⟨hemit _ _, rfl⟩
  | readingCache =>
    have hcached := h.cache.get?
    simp only [step, rename, ResolutionStage.rename, hcached]
    cases t.cache.get? rname with
    | some v => exact ⟨hemit _ _, rfl⟩
    | none => exact ⟨hrefl, rfl⟩
  | entering =>
    obtain ⟨hkeep, hhandles⟩ := keep_entering h hsuits
    refine ⟨hkeep, ?_⟩
    simp only [step, rename, ResolutionStage.rename, hhandles]
    rfl
  | claiming cell ticket => exact keep_claiming plan factory callback h (hheld rfl) ticket hsuits
  | binding cell ticket c bind =>
    have hbound := ProducerBind.keep_step plan factory callback h (hbind rfl)
    simp only [Renaming.Suits, step, rename, ResolutionStage.rename, count_proceed] at hsuits
    obtain ⟨hkeep, hprogress⟩ := hbound hsuits
    apply keep_proceed (.binding cell ticket c bind) ticket c hkeep hprogress
    rw [(ProducerBind.changedFor_step plan factory callback (hbind rfl)).2.1]
    exact hheld rfl
  | forgetting cell ticket e =>
    have hforgotten := h.withCache (h.cache.forget (hheld rfl) ticket)
    simp only [step, rename, ResolutionStage.rename]
    refine ⟨hrefl.after (hforgotten.emit _ _) ?_ ?_, rfl⟩
    · rw [System.count_emit]
      apply s.count_withCache (s.cache.forget_shape _ _ _)
    · rw [System.count_emit]
      apply t.count_withCache (t.cache.forget_shape _ _ _)

/-- A resolution that is dropped gives out no handle. -/
theorem count_abandon (s : System PlannedBinder) (r : Resolution PlannedCall) :
  (r.abandon s).count = s.count
  := by
  have hboth (cell : CellId) (ticket : Ticket) :
      ({ s with cache := (s.cache.giveUp cell ticket).letGo cell ticket } : System PlannedBinder).count
        = s.count :=
    (System.count_modify { s with cache := s.cache.giveUp cell ticket } cell _).trans
      (s.count_modify cell _)
  obtain ⟨rname, stage⟩ := r
  cases stage with
  | claiming cell ticket => apply hboth
  | binding cell ticket c bind => apply hboth
  | forgetting cell ticket e => apply s.count_modify
  | _ => rfl

/-- A resolution of the name is dropped alike on both sides. -/
theorem keep_abandon (h : (s.facet settings name).Mirrors ρ (t.facet settings name))
    {r : Resolution PlannedCall} (hname : r.name = name)
    (hheld : ∀ {hold}, r.hold? = some hold → t.cache.entries.get? hold.name = some hold.cell) :
  System.Keep ρ settings name s ((r.rename ρ).abandon s) t (r.abandon t)
  := by
  refine (System.Keep.refl h).after ?_ (count_abandon _ _) (count_abandon _ _)
  obtain ⟨rname, stage⟩ := r
  obtain rfl := hname
  have hboth {cell : CellId} (ticket : Ticket) (hcell : t.cache.entries.get? rname = some cell) :=
    h.withCache ((h.cache.giveUp hcell ticket).letGo hcell ticket)
  cases stage with
  | claiming cell ticket => exact hboth ticket (hheld rfl)
  | binding cell ticket c bind => exact hboth ticket (hheld rfl)
  | forgetting cell ticket e => exact h.withCache (h.cache.letGo (hheld rfl) ticket)
  | _ => exact h

end Resolution

/-! ## Releases -/

/-- Fabrics of as many channels and bindings, in which the bindings of the destination stand alike,
are kept alike. -/
theorem System.Keep.withFabric (h : System.Keep ρ settings name s s₁ t t₁) {f g : Fabric}
    (hstanding : ∀ {b standing}, g.standing (settings.destination name) b = some standing →
      f.standing (settings.destination name) (ρ.binding b) = some standing)
    (hf : f.channels.size = s₁.fabric.channels.size ∧ f.bindings.size = s₁.fabric.bindings.size)
    (hg : g.channels.size = t₁.fabric.channels.size ∧ g.bindings.size = t₁.fabric.bindings.size) :
  System.Keep ρ settings name s { s₁ with fabric := f } t { t₁ with fabric := g }
  := by
  have hcount {s : System PlannedBinder} {f : Fabric}
      (hf : f.channels.size = s.fabric.channels.size ∧ f.bindings.size = s.fabric.bindings.size) :
      ({ s with fabric := f } : System PlannedBinder).count = s.count := by
    funext kind
    cases kind with
    | channel => exact hf.1
    | binding => exact hf.2
    | cell | ticket => rfl
  apply h.after _ (hcount hf) (hcount hg)
  apply h.facet.withBindersView (v := (f, s₁.binders)) (w := (g, t₁.binders))
  exact ⟨h.facet.dealings.transport, h.facet.dealings.asked, hstanding⟩

namespace Unbinding

/-- What becomes of a request to release a binding is read off how the binding stands. -/
theorem step_requested {f : Fabric} {b : BindingId} {binding : Binding}
    (hb : f.binding? b = some binding) :
  step f (requested b)
    = match binding.standing with
      | (some e, _) => (f, .ended (.error e))
      | (none, true) => (f.setBinding b { binding with bound := false }, .running (detaching b))
      | (none, false) => (f.emit (.unboundAlready binding.name binding.role), .ended (.ok ()))
  := by
  obtain ⟨name, role, group, attachment, bound⟩ := binding
  cases attachment with
  | stuck e => simp only [step, hb, Binding.standing]
  | subscription c h => cases bound <;> simp [step, hb, Binding.standing]

/-- What a detachment leaves as it is. -/
theorem detaching_keeps (f : Fabric) (b : BindingId) :
  (step f (detaching b)).1.bindings = f.bindings
    ∧ (step f (detaching b)).1.channels.size = f.channels.size
    ∧ (step f (detaching b)).2 = .ended (.ok ())
  := by
  simp only [step]
  split
  · rename_i c h _ _
    exact ⟨(f.extends_unsubscribe c h).1.bindings, f.size_unsubscribe c h, rfl⟩
  · exact ⟨rfl, rfl, rfl⟩

/-- The release of a binding of the name's destination goes alike on both sides. -/
theorem keep_step (h : (s.facet settings name).Mirrors ρ (t.facet settings name)) {u : Unbinding}
    (hu : ∀ {b}, u = .requested b → t.fabric.IsOf (settings.destination name) b) :
  let x := step s.fabric (u.rename ρ)
  let y := step t.fabric u
  System.Keep ρ settings name s { s with fabric := x.1 } t { t with fabric := y.1 }
    ∧ x.2 = y.2.map (rename ρ) id
  := by
  have hstanding : ∀ {b standing}, t.fabric.standing (settings.destination name) b = some standing →
      s.fabric.standing (settings.destination name) (ρ.binding b) = some standing :=
    h.dealings.standing
  have hrefl := System.Keep.refl h
  cases u with
  | requested b =>
    obtain ⟨standing, ht⟩ := Option.isSome_iff_exists.mp (hu rfl)
    obtain ⟨binding, hb, -, hsame⟩ := Fabric.binding_of_standing ht
    obtain ⟨binding', hb', -, hsame'⟩ := Fabric.binding_of_standing (hstanding ht)
    simp only [rename, step_requested hb, step_requested hb', hsame, hsame']
    match standing with
    | (some e, _) => exact ⟨.refl h, rfl⟩
    | (none, false) => exact ⟨hrefl.withFabric hstanding ⟨rfl, rfl⟩ ⟨rfl, rfl⟩, rfl⟩
    | (none, true) =>
      refine ⟨hrefl.withFabric ?_ ⟨rfl, by simp [Fabric.setBinding]⟩
        ⟨rfl, by simp [Fabric.setBinding]⟩, rfl⟩
      intro b' standing' hb''
      rw [Fabric.standing_unbound hb] at hb''
      rw [Fabric.standing_unbound hb']
      simp only [ρ.binding_injective.eq_iff]
      split at hb''
      · rename_i hself
        rw [if_pos hself]
        obtain ⟨old, hold, rfl⟩ := Option.map_eq_some_iff.mp hb''
        rw [hstanding hold]
        rfl
      · rename_i hother
        rw [if_neg hother]
        apply hstanding hb''
  | detaching b =>
    obtain ⟨hbindings, hchannels, hended⟩ := detaching_keeps t.fabric b
    obtain ⟨hbindings', hchannels', hended'⟩ := detaching_keeps s.fabric (ρ.binding b)
    simp only [rename, hended, hended']
    refine ⟨hrefl.withFabric ?_ ⟨hchannels', congrArg _ hbindings'⟩ ⟨hchannels, congrArg _ hbindings⟩,
      rfl⟩
    rw [Fabric.standing_eq hbindings, Fabric.standing_eq hbindings']
    apply hstanding

end Unbinding

namespace Release

/-- The report on a release reports and does nothing else. -/
theorem report_keeps (f : Fabric) (name : String) (b : BindingId) (failure : Option BinderError) :
  (report f name b failure).bindings = f.bindings ∧ (report f name b failure).channels = f.channels
  := by
  unfold report
  split <;> exact ⟨rfl, rfl⟩

/-- Reports on both sides leave alike what is alike. -/
theorem keep_report {f g : Fabric}
    (h : System.Keep ρ settings name s { s with fabric := f } t { t with fabric := g })
    (other : String) (b b' : BindingId) (failure : Option BinderError) :
  System.Keep ρ settings name s { s with fabric := report f other b failure }
    t { t with fabric := report g other b' failure }
  := by
  obtain ⟨hbindings, hchannels⟩ := report_keeps f other b failure
  obtain ⟨hbindings', hchannels'⟩ := report_keeps g other b' failure
  refine h.withFabric ?_ ⟨congrArg _ hchannels, congrArg _ hbindings⟩
    ⟨congrArg _ hchannels', congrArg _ hbindings'⟩
  rw [Fabric.standing_eq hbindings, Fabric.standing_eq hbindings']
  exact h.facet.dealings.standing

theorem begin_rename (name : String) (failure : Option BinderError) (bs : List BindingId) :
  begin name failure (bs.map ρ.binding) = (begin name failure bs).map (rename ρ) id
  := by
  cases bs <;> rfl

/-- The release of the bindings of the name goes alike on both sides. -/
theorem keep_step (h : (s.facet settings name).Mirrors ρ (t.facet settings name)) {r : Release}
    (hr : ∀ b ∈ r.pending, t.fabric.IsOf (settings.destination name) b) :
  let x := step s.fabric (r.rename ρ)
  let y := step t.fabric r
  System.Keep ρ settings name s { s with fabric := x.1 } t { t with fabric := y.1 }
    ∧ x.2 = y.2.map (rename ρ) id
  := by
  have hcurrent : ∀ {b}, r.current = .requested b → t.fabric.IsOf (settings.destination name) b := by
    intro b hb
    apply hr b
    simp [pending, hb]
  have hunbinding := Unbinding.keep_step h hcurrent
  obtain ⟨f, p, hf⟩ : ∃ f p, Unbinding.step s.fabric (r.rename ρ).current = (f, p) := ⟨_, _, rfl⟩
  obtain ⟨g, q, hg⟩ : ∃ g q, Unbinding.step t.fabric r.current = (g, q) := ⟨_, _, rfl⟩
  have hf' : Unbinding.step s.fabric (r.current.rename ρ) = (f, p) := hf
  rw [hf', hg] at hunbinding
  obtain ⟨hkeep, rfl⟩ := hunbinding
  simp only [step, hf, hg]
  cases q with
  | running u => exact ⟨hkeep, rfl⟩
  | waiting u pause => exact ⟨hkeep, rfl⟩
  | ended result => exact ⟨keep_report hkeep _ _ _ _, begin_rename _ _ _⟩

end Release

namespace Withdrawal

theorem proceed_rename (w : Withdrawal) (other : String) (p : Progress Release (Option BinderError)) :
  (w.rename ρ).proceed other (p.map (Release.rename ρ) id) = (w.proceed other p).rename ρ
  := by
  match p with
  | .running r => rfl
  | .waiting r pause => rfl
  | .ended none => rfl
  | .ended (some e) => rfl

/-- The release of the producers of the name goes alike on both sides. -/
theorem keep_step (h : (s.facet settings name).Mirrors ρ (t.facet settings name)) {w : Withdrawal}
    (hw : w.IsFor settings t.fabric name) :
  let x := step s (w.rename ρ)
  let y := step t w
  System.Keep ρ settings name s x.1 t y.1 ∧ x.2 = y.2.map (rename ρ) id
  := by
  obtain ⟨role, names, current, failures⟩ := w
  obtain ⟨rfl, hnames, hpending⟩ := hw
  have hrefl := System.Keep.refl h
  cases current with
  | some r =>
    have hrelease := Release.keep_step h hpending
    obtain ⟨f, p, hf⟩ : ∃ f p, Release.step s.fabric (r.rename ρ) = (f, p) := ⟨_, _, rfl⟩
    obtain ⟨g, q, hg⟩ : ∃ g q, Release.step t.fabric r = (g, q) := ⟨_, _, rfl⟩
    rw [hf, hg] at hrelease
    obtain ⟨hkeep, rfl⟩ := hrelease
    simp only [step, rename, Option.map_some, hf, hg]
    exact ⟨hkeep, congrArg Progress.running
      (proceed_rename ⟨.producer, names, some r, failures⟩ r.name q)⟩
  | none =>
    cases names with
    | nil => exact ⟨hrefl, rfl⟩
    | cons other names =>
      obtain ⟨rfl, rfl⟩ : other = name ∧ names = [] := by simpa using hnames
      have htracked : s.ledger.producers.get? other
        = (t.ledger.producers.get? other).map (List.map ρ.binding) := h.tracked
      cases htake : t.ledger.producers.get? other with
      | some bs =>
        rw [htake] at htracked
        simp only [step, rename, Option.map_none, Ledger.take, Ledger.of, htake, htracked,
          Option.map_some]
        refine ⟨hrefl.after h.take (System.count_take _ _) (System.count_take _ _), ?_⟩
        rw [Release.begin_rename]
        exact congrArg Progress.running (proceed_rename ⟨.producer, [], none, failures⟩ other _)
      | none =>
        rw [htake] at htracked
        simp only [step, rename, Option.map_none, Ledger.take, Ledger.of, htake, htracked]
        exact ⟨hrefl.after (h.emit _ _) (System.count_emit _ _) (System.count_emit _ _), rfl⟩

end Withdrawal

end ChannelBinding
