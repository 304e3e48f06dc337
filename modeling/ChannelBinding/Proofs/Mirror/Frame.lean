import ChannelBinding.Proofs.Mirror.System

/-!
# Calls for other names

Every step of a call for a name is a change for that name.  For that the call must have hold of nothing
of others: a resolution holds the cell of its own name and no other, which is what a sound cache says;
a withdrawal has only bindings of its own destination to release, which is what the ledger is to say of
everything that it tracks.
-/

namespace ChannelBinding

variable {plan : Plan} {settings : Settings} {factory : Factory Unit} {callback : Option Callback}
variable {s : System PlannedBinder} {name : String}

/-! ## The calls of a name -/

/-- Whether a process goes on, if it does, in a state of some kind. -/
def Progress.GoesOn {γ α : Type} (P : γ → Prop) : Progress γ α → Prop
  | running r => P r
  | waiting r _ => P r
  | ended _ => True

/-- Whether a bind is one for a name and its destination. -/
def ProducerBind.IsFor (settings : Settings) (f : Fabric) (name : String)
    (bind : ProducerBind PlannedCall) : Prop :=
  bind.name = name ∧ bind.call.IsFor f (settings.destination name)

/-- Whether a resolution is one of a name. -/
def Resolution.IsFor (settings : Settings) (f : Fabric) (name : String)
    (r : Resolution PlannedCall) : Prop :=
  r.name = name
    ∧ ∀ {cell t c bind}, r.stage = .binding cell t c bind → bind.IsFor settings f name

/-- Whether a withdrawal is one of the producers of a name, and has only bindings of its destination
to release. -/
def Withdrawal.IsFor (settings : Settings) (f : Fabric) (name : String) (w : Withdrawal) : Prop :=
  w.role = .producer ∧ (w.names = [] ∨ w.names = [name])
    ∧ ∀ b ∈ w.pending, f.IsOf (settings.destination name) b

/-- Whether a call is a resolution of a name, a producer bind for it or the release of its producers. -/
def Call.IsFor (settings : Settings) (f : Fabric) (name : String) : Call Unit PlannedCall → Prop
  | resolving r => r.IsFor settings f name
  | producing bind => bind.IsFor settings f name
  | releasing w => w.IsFor settings f name
  | finished => True
  | _ => False

/-- A call of a name stays one when bindings are added. -/
theorem PlannedCall.IsFor.mono {f f' : Fabric} {d : String} {call : PlannedCall}
    (h : call.IsFor f d) (hisOf : ∀ {b}, f.IsOf d b → f'.IsOf d b) :
  call.IsFor f' d
  := by
  cases call with
  | asking | pausing | attaching => apply h
  | lingering b left => apply hisOf h

theorem Call.IsFor.mono {f f' : Fabric} {call : Call Unit PlannedCall}
    (h : call.IsFor settings f name) (hisOf : ∀ {d b}, f.IsOf d b → f'.IsOf d b) :
  call.IsFor settings f' name
  := by
  cases call with
  | resolving r => exact ⟨h.1, fun hstage => ⟨(h.2 hstage).1, (h.2 hstage).2.mono hisOf⟩⟩
  | producing bind => exact ⟨h.1, h.2.mono hisOf⟩
  | releasing w => exact ⟨h.1, h.2.1, fun b hb => hisOf (h.2.2 b hb)⟩
  | finished => trivial
  | _ => exact h.elim

theorem Call.isFor_after {γ α : Type} {call : γ → Call Unit PlannedCall} {f : Fabric}
    {p : Progress γ α} (h : p.GoesOn fun r => (call r).IsFor settings f name) :
  (after call p).IsFor settings f name
  := by
  cases p with
  | running r => apply h
  | waiting r pause => apply h
  | ended a => trivial

/-! ## Producer binds -/

namespace ProducerBind

/-- A bind that was prepared is one for its name. -/
theorem isFor_of_prepare {binders : PlannedBinder} {output : ChannelId}
    {properties : ProducerProperties} {bind : ProducerBind PlannedCall} (f : Fabric)
    (h : prepare (PlannedBinder.setup plan settings factory callback) binders name output properties
      = .ok bind) :
  bind.IsFor settings f name
  := by
  unfold prepare at h
  cases hb : (PlannedBinder.setup plan settings factory callback).binderFor name with
  | error e => simp [hb, Bind.bind, Except.bind] at h
  | ok binder =>
    simp only [hb, Bind.bind, Except.bind] at h
    split at h
    · cases h
    · cases h
      exact ⟨rfl, rfl⟩

variable (plan settings factory callback) in
theorem changedFor_begin (s : System PlannedBinder) (name : String) (output : ChannelId)
    (properties : ProducerProperties) :
  let x := begin (PlannedBinder.setup plan settings factory callback) s name output properties
  s.ChangedFor settings name x.1 ∧ x.1.cache = s.cache ∧ x.2.GoesOn (IsFor settings x.1.fabric name)
  := by
  intro x
  simp only [x, begin]
  cases h : prepare (PlannedBinder.setup plan settings factory callback) s.binders name output
      properties with
  | error e => exact ⟨.refl _ _ _, rfl, trivial⟩
  | ok bind => exact ⟨(System.ChangedFor.refl _ _ _).emit _, rfl, isFor_of_prepare _ h⟩

variable (plan factory callback) in
/-- A step of a producer bind, in terms of the step of the binder. -/
theorem step_planned (s : System PlannedBinder) (bind : ProducerBind PlannedCall) :
  step (PlannedBinder.setup plan settings factory callback) s bind
    = match PlannedCall.step plan s.bindersView bind.call with
      | (v, .running call) => (s.withBindersView v, .running { bind with call })
      | (v, .waiting call pause) => (s.withBindersView v, .waiting { bind with call } pause)
      | (v, .ended (.ok b)) => (bind.track (s.withBindersView v) b, .ended (.ok b))
      | (v, .ended (.error e)) =>
        ((s.withBindersView v).emit
            (.producerBindFailed bind.name bind.destination bind.binder e),
          .ended (.error (.binder e)))
  := by
  obtain ⟨v, p, hv⟩ : ∃ v p, PlannedCall.step plan s.bindersView bind.call = (v, p) := ⟨_, _, rfl⟩
  have hstep : (PlannedBinder.setup plan settings factory callback).bindProcess.step s bind.call
      = (s.withBindersView v, p) := by
    simp only [Setup.bindProcess, Process.focus, PlannedBinder.setup, PlannedBinder.behaviour,
      PlannedBinder.process, hv]
  simp only [step, hstep, hv]
  cases p with
  | running call => rfl
  | waiting call pause => rfl
  | ended answer => cases answer <;> rfl

variable (plan factory callback) in
theorem changedFor_step {bind : ProducerBind PlannedCall}
    (hbind : bind.IsFor settings s.fabric name) :
  let x := step (PlannedBinder.setup plan settings factory callback) s bind
  s.ChangedFor settings name x.1 ∧ x.1.cache = s.cache ∧ x.2.GoesOn (IsFor settings x.1.fabric name)
  := by
  obtain ⟨rfl, hcall⟩ := hbind
  obtain ⟨v, p, hv⟩ : ∃ v p, PlannedCall.step plan s.bindersView bind.call = (v, p) := ⟨_, _, rfl⟩
  have hdeals := PlannedCall.deals_step (v := s.bindersView) plan hcall
  rw [hv] at hdeals
  have hchanged : s.ChangedFor settings bind.name (s.withBindersView v) := .of_deals hdeals.1
  simp only [step_planned, hv]
  cases p with
  | running call => exact ⟨hchanged, rfl, rfl, hdeals.2⟩
  | waiting call pause => exact ⟨hchanged, rfl, rfl, hdeals.2⟩
  | ended answer =>
    cases answer with
    | ok b => exact ⟨(hchanged.trans (.record hdeals.2)).emit _, rfl, trivial⟩
    | error e => exact ⟨hchanged.emit _, rfl, trivial⟩

end ProducerBind

/-! ## Resolutions -/

/-- Whether a cell is that of a name and of no other name. -/
def Cache.Owns (c : Cache) (name : String) (id : CellId) : Prop :=
  c.entries.get? name = some id ∧ ∀ {other}, name ≠ other → c.entries.get? other ≠ some id

/-- The cell that a call holds is that of its name and of no other. -/
theorem Cache.Sound.owns {c : Cache} {stake : Nat → Stake} (hs : c.Sound stake) {i : Nat} {h : Hold}
    (hi : (stake i).hold = some h) :
  c.Owns h.name h.cell
  := ⟨hs.entry_of_hold hi, fun hother hentry => hother (hs.entry_inj (hs.entry_of_hold hi) hentry)⟩

namespace System.ChangedFor

/-- A change of the name's cell. -/
theorem modify {id : CellId} (hown : s.cache.Owns name id) (f : Cell → Cell) :
  s.ChangedFor settings name { s with cache := s.cache.modify id f }
  := by
  apply withCache
  · intro other hname
    apply Cache.place_modify_of_ne (hown.2 hname)
  · simp [Cache.modify]
  · apply Nat.le_refl

theorem claim (settings : Settings) {id : CellId} (hown : s.cache.Owns name id) (t : Ticket) :
  s.ChangedFor settings name { s with cache := (s.cache.claim id t).1 }
    ∧ (s.cache.claim id t).1.Owns name id
  := by
  cases hcell : s.cache.cell? id with
  | none =>
    simp only [Cache.claim, hcell]
    exact ⟨.refl _ _ _, hown⟩
  | some cell =>
    rw [Cache.claim_eq _ t hcell]
    exact ⟨.modify hown _, hown⟩

theorem enter {stake : Nat → Stake} (hs : s.cache.Sound stake) (settings : Settings) (name : String) :
  s.ChangedFor settings name { s with cache := (s.cache.enter name).1 }
  := by
  have hsizes : s.cache.cells.size ≤ (s.cache.enter name).1.cells.size
      ∧ s.cache.issued ≤ (s.cache.enter name).1.issued := by
    unfold Cache.enter
    dsimp only
    split <;> simp [Cache.modify]
  apply withCache
  · intro other hname
    apply Cache.place_enter_of_ne hs hname
  · apply hsizes.1
  · apply hsizes.2

theorem forget {id : CellId} (hown : s.cache.Owns name id) (t : Ticket) :
  s.ChangedFor settings name { s with cache := s.cache.forget name id t }
  := by
  apply withCache
  · intro other hname
    apply Cache.place_forget_of_ne hname (hown.2 hname)
  · unfold Cache.forget
    dsimp only
    split <;> simp [Cache.letGo, Cache.modify]
  · unfold Cache.forget
    dsimp only
    split <;> apply Nat.le_refl

end System.ChangedFor

namespace Resolution

variable (plan settings factory callback) in
theorem changedFor_announce (s : System PlannedBinder) (name : String) :
  let x := announce (PlannedBinder.setup plan settings factory callback) s name
  s.ChangedFor settings name x.1 ∧ x.1.cache = s.cache
  := by
  have hadd (channel : Channel) :
      s.ChangedFor settings name { s with fabric := (s.fabric.addChannel channel).1 } := by
    have hbindings : (s.fabric.addChannel channel).1.bindings = s.fabric.bindings := rfl
    apply System.ChangedFor.withFabric hbindings
    simp [Fabric.addChannel]
  unfold announce
  dsimp only
  split
  · exact ⟨hadd _, rfl⟩
  · split
    · exact ⟨(hadd _).trans (.announce (a := ⟨name, _, _⟩) rfl), rfl⟩
    · exact ⟨((hadd _).trans (.announce (a := ⟨name, _, _⟩) rfl)).emit _, rfl⟩

/-- What a resolution makes of the progress of its bind is for its name. -/
theorem changedFor_proceed (stage : ResolutionStage PlannedCall) {cell : CellId} (t : Ticket)
    (c : ChannelId) {x : System PlannedBinder × Progress (ProducerBind PlannedCall) ProducerAnswer}
    (hchanged : s.ChangedFor settings name x.1) (hown : x.1.cache.Owns name cell)
    (hx : x.2.GoesOn (ProducerBind.IsFor settings x.1.fabric name)) :
  let y := proceed ⟨name, stage⟩ cell t c x
  s.ChangedFor settings name y.1 ∧ y.2.GoesOn (IsFor settings y.1.fabric name)
  := by
  match x with
  | (s₁, .running bind) =>
    refine ⟨hchanged, rfl, fun h => ?_⟩
    cases h
    apply hx
  | (s₁, .waiting bind pause) =>
    refine ⟨hchanged, rfl, fun h => ?_⟩
    cases h
    apply hx
  | (s₁, .ended (.ok b)) =>
    have houtput (e : Event) : s.ChangedFor settings name ((s₁.addOutput name c).emit e) :=
      (hchanged.trans (.addOutput settings name s₁ c)).emit e
    have hown' (e : Event) : ((s₁.addOutput name c).emit e).cache.Owns name cell := hown
    exact ⟨(houtput _).trans (.modify (hown' _) _), trivial⟩
  | (s₁, .ended (.error e)) =>
    refine ⟨hchanged.trans (.modify hown _), rfl, fun h => ?_⟩
    cases h

variable (plan factory callback) in
theorem changedFor_step {stake : Nat → Stake} (hs : s.cache.Sound stake) {r : Resolution PlannedCall}
    (hr : r.IsFor settings s.fabric name)
    (hown : ∀ {h}, r.hold? = some h → s.cache.Owns h.name h.cell) :
  let x := step (PlannedBinder.setup plan settings factory callback) s r
  s.ChangedFor settings name x.1 ∧ x.2.GoesOn (IsFor settings x.1.fabric name)
  := by
  obtain ⟨rname, stage⟩ := r
  obtain ⟨rfl, hbind⟩ := hr
  have hrefl : s.ChangedFor settings rname s := .refl _ _ _
  -- a resolution that goes on without a bind is still one of its name
  have hgoTo : ∀ {f : Fabric} {stage' : ResolutionStage PlannedCall},
      (∀ cell t c bind, stage' ≠ .binding cell t c bind) →
        (goTo ⟨rname, stage⟩ stage').GoesOn (IsFor settings f rname) :=
    fun h => ⟨rfl, fun hstage => (h _ _ _ _ hstage).elim⟩
  cases stage with
  | requested =>
    simp only [step]
    split
    · exact ⟨hrefl.emit _, hgoTo (by simp)⟩
    · exact ⟨hrefl.emit _, trivial⟩
  | readingFixed =>
    simp only [step]
    split
    · exact ⟨hrefl.emit _, trivial⟩
    · split
      · exact ⟨hrefl, hgoTo (by simp)⟩
      · exact ⟨hrefl.emit _, trivial⟩
  | readingCache =>
    simp only [step]
    split
    · exact ⟨hrefl.emit _, trivial⟩
    · exact ⟨hrefl, hgoTo (by simp)⟩
  | entering => exact ⟨.enter hs settings rname, hgoTo (by simp)⟩
  | claiming cell t =>
    have hcell := hown rfl
    have hclaimed := System.ChangedFor.claim settings hcell t
    obtain ⟨cache, claim, hclaim⟩ : ∃ cache claim, s.cache.claim cell t = (cache, claim) :=
      ⟨_, _, rfl⟩
    rw [hclaim] at hclaimed
    obtain ⟨hclaimed, hcell'⟩ := hclaimed
    simp only [step, hclaim]
    cases claim with
    | filled v => exact ⟨hclaimed.trans (.modify hcell' _), trivial⟩
    | queued => exact ⟨hclaimed, rfl, by simp⟩
    | permitted =>
      have hannounced := changedFor_announce plan settings factory callback { s with cache } rname
      have hbegun := ProducerBind.changedFor_begin plan settings factory callback
        (announce (PlannedBinder.setup plan settings factory callback) { s with cache } rname).1 rname
      apply changedFor_proceed _ t _ ((hclaimed.trans hannounced.1).trans (hbegun _ _).1) _
        (hbegun _ _).2.2
      rw [(hbegun _ _).2.1, hannounced.2]
      apply hcell'
  | binding cell t c bind =>
    have hstepped := ProducerBind.changedFor_step plan factory callback (hbind rfl)
    apply changedFor_proceed _ t c hstepped.1 _ hstepped.2.2
    rw [hstepped.2.1]
    apply hown rfl
  | forgetting cell t e => exact ⟨(System.ChangedFor.forget (hown rfl) t).emit _, trivial⟩

/-- A resolution that is dropped lets go of its name's cell. -/
theorem changedFor_abandon {r : Resolution PlannedCall} (hr : r.IsFor settings s.fabric name)
    (hown : ∀ {h}, r.hold? = some h → s.cache.Owns h.name h.cell) :
  s.ChangedFor settings name (r.abandon s)
  := by
  obtain ⟨rname, stage⟩ := r
  obtain ⟨rfl, -⟩ := hr
  -- to give up the permit leaves the name's cell as that of the name
  have hboth {cell : CellId} {t : Ticket} (hcell : s.cache.Owns rname cell) :
      s.ChangedFor settings rname { s with cache := (s.cache.giveUp cell t).letGo cell t } := by
    have hgiven : s.ChangedFor settings rname { s with cache := s.cache.giveUp cell t } :=
      .modify hcell _
    have hcell' : ({ s with cache := s.cache.giveUp cell t } : System PlannedBinder).cache.Owns rname
      cell := hcell
    exact hgiven.trans (.modify hcell' _)
  cases stage with
  | claiming cell t => exact hboth (hown rfl)
  | binding cell t c bind => exact hboth (hown rfl)
  | forgetting cell t e => exact .modify (hown rfl) _
  | _ => exact .refl _ _ _

end Resolution

/-! ## Releases -/

/-- The release of a binding of the name's destination changes nothing for other names. -/
theorem Unbinding.changedFor_step {u : Unbinding}
    (hu : ∀ {b}, u = .requested b → s.fabric.IsOf (settings.destination name) b) :
  s.ChangedFor settings name { s with fabric := (step s.fabric u).1 }
  := by
  have hrefl : s.ChangedFor settings name s := .refl _ _ _
  cases u with
  | requested b =>
    simp only [step]
    cases hb : s.fabric.binding? b with
    | none => exact hrefl
    | some binding =>
      dsimp only
      split
      · exact hrefl
      · split
        · have hname := Fabric.name_of_isOf hb (hu rfl)
          apply System.ChangedFor.withBindersView (v := (_, s.binders))
          · intro d hne
            have hstanding : (s.fabric.setBinding b { binding with bound := false }).standing d
                = s.fabric.standing d := by
              funext b'
              rw [Fabric.standing_unbound hb]
              split
              · rename_i hsame
                rw [← hsame, Fabric.standing, hb]
                simp [Option.filter, hname, hne]
              · rfl
            simp only [dealingsWith, System.bindersView, hstanding]
          · intro d b' hb'
            rw [Fabric.IsOf, Fabric.standing_unbound hb]
            split
            · rw [Option.isSome_map]
              apply hb'
            · apply hb'
          · apply Nat.le_refl
          · simp [Fabric.setBinding]
        · exact hrefl.emit _
  | detaching b =>
    simp only [step]
    split
    · rename_i c h _ _
      have hextends := (s.fabric.extends_unsubscribe c h).1
      exact (System.ChangedFor.withFabric hextends.bindings hextends.channels).emit _
    · exact hrefl

theorem Release.changedFor_step {r : Release}
    (hr : ∀ b ∈ r.pending, s.fabric.IsOf (settings.destination name) b) :
  s.ChangedFor settings name { s with fabric := (step s.fabric r).1 }
  := by
  have hchanged : s.ChangedFor settings name
      { s with fabric := (Unbinding.step s.fabric r.current).1 } := by
    apply Unbinding.changedFor_step
    intro b hb
    apply hr b
    simp [pending, hb]
  obtain ⟨f, p, hp⟩ : ∃ f p, Unbinding.step s.fabric r.current = (f, p) := ⟨_, _, rfl⟩
  rw [hp] at hchanged
  cases p with
  | running u =>
    simp only [step, hp]
    apply hchanged
  | waiting u pause => exact absurd hp Unbinding.step_ne_waiting
  | ended result =>
    simp only [step, hp, report]
    split
    · apply hchanged
    · apply hchanged.emit
    · apply hchanged.emit

theorem Withdrawal.changedFor_step {w : Withdrawal} (hw : w.IsFor settings s.fabric name)
    (htracked : ∀ b ∈ s.ledger.tracked .producer name, s.fabric.IsOf (settings.destination name) b) :
  let x := step s w
  s.ChangedFor settings name x.1 ∧ x.2.GoesOn (IsFor settings x.1.fabric name)
  := by
  obtain ⟨role, names, current, failures⟩ := w
  obtain ⟨rfl, hnames, hpending⟩ := hw
  have hrefl : s.ChangedFor settings name s := .refl _ _ _
  cases current with
  | some r =>
    have hchanged := Release.changedFor_step hpending
    obtain ⟨f, p, hp⟩ : ∃ f p, Release.step s.fabric r = (f, p) := ⟨_, _, rfl⟩
    have hrest := Release.pendingAfter_step s.fabric r
    rw [hp] at hrest hchanged
    simp only [step, hp]
    refine ⟨hchanged, ?_, ?_, ?_⟩
    · apply role_proceed
    · rw [names_proceed]
      apply hnames
    · rw [pending_proceed, hrest]
      intro b hb
      apply hchanged.isOf (hpending b _)
      obtain ⟨rname, u, rest, failure⟩ := r
      cases u with
      | requested b' => exact List.mem_cons_of_mem _ hb
      | detaching b' => exact hb
  | none =>
    cases names with
    | nil => exact ⟨hrefl, trivial⟩
    | cons other names =>
      obtain ⟨rfl, rfl⟩ : other = name ∧ names = [] := by simpa using hnames
      cases htake : s.ledger.producers.get? other with
      | some bs =>
        have hbs : s.ledger.tracked .producer other = bs := by
          simp [Ledger.tracked, Ledger.of, htake]
        simp only [step, Ledger.take, Ledger.of, htake]
        refine ⟨.take _ _ _, ?_, ?_, ?_⟩
        · apply role_proceed
        · rw [names_proceed]
          exact Or.inl rfl
        · rw [pending_proceed, Release.pendingAfter_begin, ← hbs]
          apply htracked
      | none =>
        simp only [step, Ledger.take, Ledger.of, htake]
        exact ⟨hrefl.emit _, rfl, Or.inl rfl, by simp [pending]⟩

/-! ## Calls -/

/-- Whether every producer that is tracked is a binding of its name's destination. -/
def System.TracksOwn (settings : Settings) (s : System PlannedBinder) : Prop :=
  ∀ {name b}, b ∈ s.ledger.tracked .producer name → s.fabric.IsOf (settings.destination name) b

theorem System.ChangedFor.tracksOwn {s' : System PlannedBinder} (h : s.ChangedFor settings name s')
    (hs : s.TracksOwn settings) :
  s'.TracksOwn settings
  := by
  intro other b hb
  rcases h.tracked hb with hold | ⟨rfl, hnew⟩
  · apply h.isOf (hs hold)
  · apply hnew

variable (plan factory callback) in
/-- Whatever a step of a call of a name changes is for the name, and the call stays one of the name. -/
theorem Call.changedFor_step {stake : Nat → Stake} (hs : s.cache.Sound stake)
    (htracks : s.TracksOwn settings) {call : Call Unit PlannedCall}
    (hcall : call.IsFor settings s.fabric name) {i : Nat} (hi : stake i = call.stake) :
  let x := call.step (PlannedBinder.setup plan settings factory callback) s
  s.ChangedFor settings name x.1 ∧ x.2.1.IsFor settings x.1.fabric name
  := by
  cases call with
  | resolving r =>
    have hown : ∀ {h}, r.hold? = some h → s.cache.Owns h.name h.cell := by
      intro h hh
      apply hs.owns (i := i)
      rw [hi]
      apply hh
    obtain ⟨hchanged, hafter⟩ := Resolution.changedFor_step plan factory callback hs hcall hown
    exact ⟨hchanged, isFor_after hafter⟩
  | producing bind =>
    obtain ⟨hchanged, -, hafter⟩ := ProducerBind.changedFor_step plan factory callback hcall
    exact ⟨hchanged, isFor_after hafter⟩
  | releasing w =>
    obtain ⟨hchanged, hafter⟩ := Withdrawal.changedFor_step hcall fun b => htracks
    exact ⟨hchanged, isFor_after hafter⟩
  | finished => exact ⟨.refl _ _ _, trivial⟩
  | _ => exact hcall.elim

end ChannelBinding
