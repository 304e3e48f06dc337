import ChannelBinding.Fabric.Alive
import ChannelBinding.Proofs.Custody
import ChannelBinding.Proofs.Memory

/-!
# Handing over producers

In the step in which a binder hands a binding to a resolution, the binding is tracked, its name is
registered and the destination is cached, so that dropping the resolution loses nothing.  From then on
the three stores agree: the cache resolves the name, the ledger has the binding until it is taken, and
the registry has the channel until its names are handed out.
-/

namespace ChannelBinding

variable {ι τ β : Type} {setup : Setup ι τ β}

/-! ## What is held is alive -/

namespace Fabric

/-- A channel that is held is not released. -/
theorem mem_release {f : Fabric} {held : Held} {cs : List ChannelId} {c : ChannelId}
    (hheld : c ∈ held.channels) (hc : c ∈ cs) :
  c ∈ f.release held cs
  := by
  fun_induction release f held cs with
  | case1 cs _ ih =>
    apply ih
    apply List.mem_filter.2
    exact ⟨hc, decide_eq_true (List.mem_append_left _ hheld)⟩
  | case2 cs _ => apply hc

/-- A channel that is held is alive. -/
theorem mem_alive {f : Fabric} {held : Held} {c : ChannelId} (hheld : c ∈ held.channels)
    (hc : c.index < f.channels.size) :
  c ∈ f.alive held
  := by
  have hbindings : ∀ bs : List BindingId,
      c ∈ (bs.foldl (fun acc b => acc ++ f.heldBy b) held).channels := by
    intro bs
    induction bs generalizing held with
    | nil => apply hheld
    | cons b bs ih => apply ih (List.mem_append_left _ hheld)
  apply mem_release (hbindings held.bindings)
  rw [List.mem_map]
  exact ⟨c.index, List.mem_range.2 hc, rfl⟩

end Fabric

/-! ## The step of the hand-over -/

/-- Whether a binder hands a binding to a resolution in the next step of its call. -/
def World.IsHanded (setup : Setup ι τ β) (w : World ι τ β) (i : Nat) (name : String)
    (c : ChannelId) (b : BindingId) : Prop :=
  ∃ r cell ticket bind, w.calls[i]? = some (.resolving r) ∧ r.name = name
    ∧ r.stage = .binding cell ticket c bind
    ∧ (setup.bindProcess.step w.system bind.call).2 = .ended (.ok b)

/-- Only a resolution is handed a binding. -/
theorem Effect.hold_of_bound {B B' : Books} {k k' : Stake} {news : List Happening}
    (h : Effect B k B' k' news) {name : String} {c : ChannelId} {b : BindingId}
    (hb : .bound name c b ∈ news) :
  k.hold ≠ none
  := by
  cases h with
  | established => simp
  | _ => simp at hb

/-- A resolution is handed what a binder hands it. -/
theorem Resolution.of_bound {s : System τ} {r : Resolution β} {name : String} {c : ChannelId}
    {b : BindingId} (h : .bound name c b ∈ r.news setup s) :
  r.name = name ∧ ∃ cell ticket bind, r.stage = .binding cell ticket c bind
    ∧ (setup.bindProcess.step s bind.call).2 = .ended (.ok b)
  := by
  unfold news at h
  split at h
  · split at h
    · simp at h
    · cases h
  · rename_i cell ticket channel bind hstage
    split at h
    · rename_i b' hb
      simp only [List.mem_cons, Happening.bound.injEq, reduceCtorEq, List.not_mem_nil, or_false]
        at h
      obtain ⟨rfl, rfl, rfl⟩ := h
      exact ⟨rfl, cell, ticket, bind, hstage, hb⟩
    · cases h
  · cases h

/-- What a call is handed a binder hands over. -/
theorem Call.of_bound {s : System τ} {call : Call ι β}
    (hcall : ∀ r, call = .resolving r → r.IsTidy) {name : String} {c : ChannelId} {b : BindingId}
    (h : .bound name c b ∈ (call.step setup s).2.2) :
  ∃ r cell ticket bind, call = .resolving r ∧ r.name = name
    ∧ r.stage = .binding cell ticket c bind
    ∧ (setup.bindProcess.step s bind.call).2 = .ended (.ok b)
  := by
  have hhold := (call.effect_step setup s hcall).1.hold_of_bound h
  cases call with
  | resolving r =>
    have hnews : .bound name c b ∈ r.news setup s := by
      rcases List.mem_append.1 h with h | h
      · apply h
      · unfold answered at h
        split at h
        · simp at h
        · cases h
    obtain ⟨hname, cell, ticket, bind, hstage, hb⟩ := Resolution.of_bound hnews
    exact ⟨r, cell, ticket, bind, rfl, hname, hstage, hb⟩
  | stopping x =>
    exfalso
    apply hhold
    match x with
    | .requested | .listing | .releasing _ none _ | .releasing _ (some _) _ => rfl
  | _ => exact absurd rfl hhold

/-- The history tells of a hand-over exactly when it takes place. -/
theorem World.of_bound {w : World ι τ β} (hw : w.IsTidy) {m : Move ι} {i : Nat} {name : String}
    {c : ChannelId} {b : BindingId} (h : (i, .bound name c b) ∈ (w.next setup m).history) :
  (i, .bound name c b) ∈ w.history ∨ m = .advance i ∧ w.IsHanded setup i name c b
  := by
  cases m with
  | call request =>
    simp only [next] at h
    split at h
    · rcases mem_history_append.1 h with h | ⟨-, h⟩
      · exact Or.inl h
      · apply absurd rfl ((request.effect_begin setup w.system).1.hold_of_bound h)
    · exact Or.inl h
  | advance j =>
    simp only [next] at h
    split at h
    · exact Or.inl h
    · rename_i call hj
      rcases mem_history_append.1 h with hold | ⟨rfl, hnew⟩
      · exact Or.inl hold
      · have htidy : ∀ r, call = .resolving r → r.IsTidy := by
          rintro r rfl
          apply hw r (List.mem_of_getElem? hj)
        obtain ⟨r, cell, ticket, bind, rfl, hr⟩ := Call.of_bound htidy hnew
        exact Or.inr ⟨rfl, r, cell, ticket, bind, hj, hr⟩
  | drop j =>
    simp only [next] at h
    split at h <;> exact Or.inl h
  | _ => exact Or.inl h

/-- What a hand-over leads to: all three stores have changed, and the history tells of it. -/
structure World.HandsOver (w w' : World ι τ β) (i : Nat) (name : String) (c : ChannelId)
    (b : BindingId) : Prop where
  tracked : w'.system.ledger.tracked .producer name
    = w.system.ledger.tracked .producer name ++ [b]
  registered : w'.system.registry.outputs.get? name = some c
  cached : w'.system.cache.get? name = some ⟨c, b⟩
  recorded : (i, .bound name c b) ∈ w'.history

/-- A binding that is handed over changes all three stores at once. -/
theorem World.IsHanded.handsOver {w : World ι τ β} (hw : w.IsTidy)
    {i : Nat} (hagrees : (w.next setup (.advance i)).account.Agrees) {name : String}
    {c : ChannelId} {b : BindingId} (h : w.IsHanded setup i name c b) :
  w.HandsOver (w.next setup (.advance i)) i name c b
  := by
  obtain ⟨r, cell, ticket, bind, hi, rfl, hstage, hb⟩ := h
  have hnext : w.next setup (.advance i)
      = ⟨((Call.resolving r).step setup w.system).1,
        w.calls.set i ((Call.resolving r).step setup w.system).2.1,
        w.history ++ ((Call.resolving r).step setup w.system).2.2.map (i, ·)⟩ := by
    simp only [next, hi]
  have htidy : ∀ r', Call.resolving (ι := ι) r = .resolving r' → r'.IsTidy := by
    rintro r' ⟨⟩
    apply hw r (List.mem_of_getElem? hi)
  have hmem : .bound r.name c b ∈ ((Call.resolving (ι := ι) r).step setup w.system).2.2 := by
    apply List.mem_append_left
    simp [Resolution.news, hstage, hb]
  obtain ⟨htracked, hregistered⟩ :=
    (Call.effect_step setup w.system (.resolving r) htidy).1.transfer.of_bound hmem
  have hrecorded : (i, .bound r.name c b) ∈ (w.next setup (.advance i)).history := by
    rw [hnext, mem_history_append]
    exact Or.inr ⟨rfl, hmem⟩
  constructor
  · rw [hnext]
    apply htracked
  · rw [hnext]
    apply hregistered
  · apply hagrees.cached_iff.2 ⟨i, hrecorded⟩
  · apply hrecorded

/-! ## Channels that were handed over -/

/-- Whether every channel that was bound is there. -/
def World.HasBound (w : World ι τ β) : Prop :=
  ∀ i name c b, (i, .bound name c b) ∈ w.history → c.index < w.system.fabric.channels.size

/-- No move lets a channel be bound that is not there. -/
theorem World.HasBound.next {w : World ι τ β} (hkeep : setup.binders.KeepsChannels)
    (htidy : w.IsTidy) (hchannels : w.HasChannels) (hw : w.HasBound) (m : Move ι) :
  (w.next setup m).HasBound
  := by
  have hsize := (hchannels.next hkeep m).2
  intro i name c b h
  rcases of_bound htidy h with hold | ⟨rfl, r, cell, ticket, bind, hi, -, hstage, -⟩
  · apply Nat.lt_of_lt_of_le (hw i name c b hold) hsize
  · have hc : c ∈ (Call.resolving (ι := ι) r).channels := by
      simp [Call.channels, Resolution.channel?, hstage]
    apply Nat.lt_of_lt_of_le (hchannels _ (List.mem_of_getElem? hi) c hc) hsize

/-- In every world that can be reached, the channels that were bound are there. -/
theorem World.hasBound_run (hkeep : setup.binders.KeepsChannels) (fabric : Fabric) (binders : τ)
    (moves : List (Move ι)) :
  ((fresh fabric binders : World ι τ β).run setup moves).HasBound
  := by
  have hrun : ((fresh fabric binders : World ι τ β).run setup moves).IsTidy
      ∧ ((fresh fabric binders : World ι τ β).run setup moves).HasChannels
      ∧ ((fresh fabric binders : World ι τ β).run setup moves).HasBound := by
    apply run_induction (P := fun w => w.IsTidy ∧ w.HasChannels ∧ w.HasBound)
    · refine ⟨?_, hasChannels_fresh fabric binders, ?_⟩
      · intro r hr
        cases hr
      · intro i name c b h
        cases h
    · rintro w m ⟨htidy, hchannels, hw⟩
      exact ⟨(step_account setup htidy m).2, (hchannels.next hkeep m).1,
        hw.next hkeep htidy hchannels m⟩
  apply hrun.2.2

/-! ## The three stores -/

/-- What the three stores have of the bindings that resolutions were handed. -/
structure World.KeepsProducers (w : World ι τ β) : Prop where
  /-- A name is resolved exactly if a binding for it was handed over. -/
  resolved_iff : ∀ name, name ∈ w.system.cache.names ↔ ∃ i c b, (i, .bound name c b) ∈ w.history
  /-- The binding is tracked, unless it was taken out of the ledger since. -/
  tracked_or_taken : ∀ name c b i pre post, w.history = pre ++ (i, .bound name c b) :: post →
    b ∈ w.system.ledger.tracked .producer name ∨ IsTaken .producer name b post
  /-- The name is registered, unless the registry has handed it out since. -/
  registered_or_drained : ∀ name c b i pre post, w.history = pre ++ (i, .bound name c b) :: post →
    w.system.registry.outputs.get? name = some c ∨ IsDrained name post
  /-- While a name is registered, its output is the cached channel; the cache is among what holds
  channels. -/
  output_eq : ∀ name ∈ w.system.registry.outputs.keys, ∃ c b,
    w.system.cache.get? name = some ⟨c, b⟩ ∧ ∀ held : Held, c ∈ held.channels →
      w.system.registry.output? (· ∈ w.system.fabric.alive held) name = some c

/-- Whatever is dropped, unbound or drained meanwhile, a binding that a binder hands to a resolution
is tracked, registered and cached in the same step, and only then does the history tell of it; ever
after the three stores account for it. -/
theorem World.no_producer_stranded (hkeep : setup.binders.KeepsChannels) (fabric : Fabric)
    (binders : τ) (moves : List (Move ι)) :
  let w := (fresh fabric binders : World ι τ β).run setup moves
  (∀ i name c b, w.IsHanded setup i name c b →
      w.HandsOver (w.next setup (.advance i)) i name c b)
    ∧ (∀ m i name c b, (i, .bound name c b) ∈ (w.next setup m).history →
      (i, .bound name c b) ∈ w.history ∨ m = .advance i ∧ w.IsHanded setup i name c b)
    ∧ w.KeepsProducers
  := by
  intro w
  have htidy : w.IsTidy := isTidy_run setup fabric binders moves
  have hcustody : w.account.Custody := custody setup fabric binders moves
  refine ⟨?_, ?_, ?_⟩
  · intro i name c b h
    apply h.handsOver htidy
    have hagrees := agrees setup fabric binders (moves ++ [.advance i])
    rw [run_append] at hagrees
    apply hagrees
  · intro m i name c b h
    apply of_bound htidy h
  · constructor
    · intro name
      rw [Cache.mem_names, Option.isSome_iff_exists]
      constructor
      · rintro ⟨⟨c, b⟩, hcached⟩
        obtain ⟨i, hi⟩ := hcustody.agrees.cached_iff.1 hcached
        exact ⟨i, c, b, hi⟩
      · rintro ⟨i, c, b, hi⟩
        exact ⟨⟨c, b⟩, hcustody.agrees.cached_iff.2 ⟨i, hi⟩⟩
    · intro name c b i pre post h
      apply hcustody.tracked_or_taken pre post h
    · intro name c b i pre post h
      apply hcustody.registered_or_drained pre post h
    · intro name hname
      rw [Table.mem_keys_iff, Option.isSome_iff_exists] at hname
      obtain ⟨c, hc⟩ := hname
      obtain ⟨i, b, hi⟩ := hcustody.bound_of_registered hc
      refine ⟨c, b, hcustody.agrees.cached_iff.2 ⟨i, hi⟩, ?_⟩
      intro held hheld
      have halive : c ∈ w.system.fabric.alive held :=
        Fabric.mem_alive hheld (hasBound_run hkeep fabric binders moves i name c b hi)
      rw [Registry.output?, hc]
      simp [halive]

/-- A resolution that an in-memory binder has just made a binding for is handed it in its next step. -/
theorem World.no_producer_stranded_in_memory :
  let moves := [.call (.resolve "orders"), .advance 0, .advance 0, .advance 0, .advance 0, .advance 0,
    .advance 0]
  let w := (fresh {} {} : World Unit MemoryBinder MemoryCall).run MemoryBinder.setup moves
  w.IsHanded MemoryBinder.setup 0 "orders" ⟨0⟩ ⟨0⟩
    ∧ w.HandsOver (w.next MemoryBinder.setup (.advance 0)) 0 "orders" ⟨0⟩ ⟨0⟩
  := by
  intro moves w
  have hhanded : w.IsHanded MemoryBinder.setup 0 "orders" ⟨0⟩ ⟨0⟩ :=
    ⟨_, _, _, _, rfl, rfl, rfl, rfl⟩
  have hstranded := @no_producer_stranded Unit MemoryBinder MemoryCall MemoryBinder.setup
    MemoryBinder.keepsChannels {} {} moves
  exact ⟨hhanded, hstranded.1 _ _ _ _ hhanded⟩

end ChannelBinding
