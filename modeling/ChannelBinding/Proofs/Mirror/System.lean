import ChannelBinding.Proofs.Mirror.Binder
import ChannelBinding.Proofs.Mirror.Cache

/-!
# Mirrored systems

What a system has of a name is its fixed channel, its place in the cache, its tracked producers, its
registration, its announcements, and what the binder has to do with its destination: a facet of the
system.  Two systems have the same of a name when their facets are the same but for the names of
handles.  A change is for a name when it leaves the facets of all other names of other destinations as
they are, takes no handle away, and tracks producers of that name only.
-/

namespace ChannelBinding

/-- What a system has of a name. -/
structure Facet where
  /-- The channel that the name resolves to without a bind. -/
  fixed : Option ChannelId
  place : Option (CellId × Option Cell)
  tracked : Option (List BindingId)
  output : Option ChannelId
  announced : List Announcement
  dealings : Dealings

/-- Whether one system has of a name what another has, but for the names of handles. -/
structure Facet.Mirrors (ρ : Renaming) (F G : Facet) : Prop where
  fixed : F.fixed = G.fixed.map ρ.channel
  place : F.place = G.place.map ρ.place
  tracked : F.tracked = G.tracked.map (List.map ρ.binding)
  output : F.output = G.output.map ρ.channel
  announced : F.announced = G.announced
  dealings : F.dealings.Mirrors ρ G.dealings

namespace System

/-- The announcements of a name. -/
def announced (s : System PlannedBinder) (name : String) : List Announcement :=
  s.announcements.toList.filter fun a => a.name = name

/-- What a system has of a name, and its binder of the name's destination. -/
def facet (s : System PlannedBinder) (settings : Settings) (name : String) : Facet where
  fixed := s.fixed.get? name
  place := s.cache.place name
  tracked := s.ledger.producers.get? name
  output := s.registry.outputs.get? name
  announced := s.announced name
  dealings := dealingsWith (settings.destination name) s.bindersView

/-- The number of handles of a kind that were given out. -/
def count (s : System PlannedBinder) : Kind → Nat
  | .channel => s.fabric.channels.size
  | .binding => s.fabric.bindings.size
  | .cell => s.cache.cells.size
  | .ticket => s.cache.issued

/-- Whether everything that has changed in a system is for one name. -/
structure ChangedFor (settings : Settings) (name : String) (s s' : System PlannedBinder) : Prop where
  facet : ∀ {other}, name ≠ other → settings.destination name ≠ settings.destination other →
    s'.facet settings other = s.facet settings other
  isOf : ∀ {d b}, s.fabric.IsOf d b → s'.fabric.IsOf d b
  tracked : ∀ {other b}, b ∈ s'.ledger.tracked .producer other →
    b ∈ s.ledger.tracked .producer other
      ∨ name = other ∧ s'.fabric.IsOf (settings.destination name) b
  count : ∀ kind, s.count kind ≤ s'.count kind

namespace ChangedFor

variable {settings : Settings} {name : String} {s s₁ s' : System PlannedBinder}

theorem refl (settings : Settings) (name : String) (s : System PlannedBinder) :
  s.ChangedFor settings name s
  := ⟨fun _ _ => rfl, id, Or.inl, fun _ => Nat.le_refl _⟩

theorem trans (h : s.ChangedFor settings name s₁) (h' : s₁.ChangedFor settings name s') :
  s.ChangedFor settings name s'
  := by
  constructor
  · intro other hname hdest
    rw [h'.facet hname hdest, h.facet hname hdest]
  · intro d b hb
    apply h'.isOf (h.isOf hb)
  · intro other b hb
    rcases h'.tracked hb with hb | hb
    · rcases h.tracked hb with hb | ⟨hother, hb⟩
      · exact Or.inl hb
      · exact Or.inr ⟨hother, h'.isOf hb⟩
    · exact Or.inr hb
  · intro kind
    apply Nat.le_trans (h.count kind) (h'.count kind)

theorem emit (h : s.ChangedFor settings name s') (e : Event) :
  s.ChangedFor settings name (s'.emit e)
  := ⟨h.facet, h.isOf, h.tracked, h.count⟩

/-- A cache that leaves the places of other names as they are changes nothing else. -/
theorem withCache {c : Cache} (hplace : ∀ {other}, name ≠ other → c.place other = s.cache.place other)
    (hcells : s.cache.cells.size ≤ c.cells.size) (hissued : s.cache.issued ≤ c.issued) :
  s.ChangedFor settings name { s with cache := c }
  := by
  refine ⟨?_, id, Or.inl, ?_⟩
  · intro other hname _
    simp only [System.facet, hplace hname]
    rfl
  · intro kind
    cases kind with
    | cell => exact hcells
    | ticket => exact hissued
    | channel | binding => apply Nat.le_refl

/-- A binder that leaves its dealings with other destinations as they are changes nothing else. -/
theorem withBindersView {v : Fabric × PlannedBinder}
    (hdealings : ∀ {d}, settings.destination name ≠ d → dealingsWith d v = dealingsWith d s.bindersView)
    (hisOf : ∀ {d b}, s.fabric.IsOf d b → v.1.IsOf d b)
    (hchannels : s.fabric.channels.size ≤ v.1.channels.size)
    (hbindings : s.fabric.bindings.size ≤ v.1.bindings.size) :
  s.ChangedFor settings name (s.withBindersView v)
  := by
  refine ⟨?_, hisOf, Or.inl, ?_⟩
  · intro other _ hdest
    have hview : (s.withBindersView v).bindersView = v := rfl
    simp only [System.facet, hview, hdealings hdest]
    rfl
  · intro kind
    cases kind with
    | channel => exact hchannels
    | binding => exact hbindings
    | cell | ticket => apply Nat.le_refl

/-- A bind of the name's destination changes nothing for other names. -/
theorem of_deals {v : Fabric × PlannedBinder}
    (h : Deals (settings.destination name) s.bindersView v) :
  s.ChangedFor settings name (s.withBindersView v)
  := by
  apply withBindersView
  · intro d hne
    apply h.dealings_eq hne
  · intro d b hb
    apply h.isOf hb
  · apply h.channels
  · rcases h.bindings with hsame | ⟨binding, -, hpush⟩
    · exact Nat.le_of_eq (congrArg _ hsame.symm)
    · rw [hpush]
      simp [System.bindersView]

/-- A fabric in which the same bindings stand alike, and which has at least as many channels, changes
nothing for any name. -/
theorem withFabric {f : Fabric} (hbindings : f.bindings = s.fabric.bindings)
    (hchannels : s.fabric.channels.size ≤ f.channels.size) :
  s.ChangedFor settings name { s with fabric := f }
  := by
  apply withBindersView (v := (f, s.binders))
  · intro d _
    have hstanding : f.standing d = s.fabric.standing d := Fabric.standing_eq hbindings
    simp only [dealingsWith, System.bindersView, hstanding]
  · intro d b hb
    rw [Fabric.IsOf, Fabric.standing_eq hbindings]
    apply hb
  · apply hchannels
  · rw [hbindings]

theorem announce {a : Announcement} (ha : a.name = name) :
  s.ChangedFor settings name { s with announcements := s.announcements.push a }
  := by
  subst ha
  refine ⟨?_, id, Or.inl, fun kind => ?_⟩
  · intro other hname _
    simp only [System.facet, announced, Array.toList_push, List.filter_append, List.filter_cons,
      decide_eq_true_eq, if_neg hname, List.filter_nil, List.append_nil]
    rfl
  · cases kind <;> apply Nat.le_refl

/-- A binding of the name's destination that is recorded under the name. -/
theorem record {b : BindingId} (hb : s.fabric.IsOf (settings.destination name) b) :
  s.ChangedFor settings name { s with ledger := s.ledger.record .producer name [b] }
  := by
  refine ⟨?_, id, ?_, fun kind => ?_⟩
  · intro other hname _
    simp only [System.facet, Ledger.record, Ledger.set, Ledger.of, Table.get?_insert_of_ne _ _ hname]
    rfl
  · intro other b' hb'
    rw [Ledger.tracked_record] at hb'
    split at hb'
    · rename_i hsame
      rcases List.mem_append.mp hb' with hold | hnew
      · exact Or.inl hold
      · rw [List.mem_singleton.mp hnew]
        exact Or.inr ⟨hsame.2, hb⟩
    · exact Or.inl hb'
  · cases kind <;> apply Nat.le_refl

/-- The bindings of the name that are taken out of the ledger. -/
theorem take (settings : Settings) (name : String) (s : System PlannedBinder) :
  s.ChangedFor settings name { s with ledger := (s.ledger.take .producer name).1 }
  := by
  refine ⟨?_, id, ?_, fun kind => ?_⟩
  · intro other hname _
    simp only [System.facet, Ledger.take, Ledger.set, Ledger.of, Table.get?_erase_of_ne _ hname]
    rfl
  · intro other b hb
    rw [Ledger.tracked_take] at hb
    split at hb
    · cases hb
    · exact Or.inl hb
  · cases kind <;> apply Nat.le_refl

theorem addOutput (settings : Settings) (name : String) (s : System PlannedBinder) (c : ChannelId) :
  s.ChangedFor settings name (s.addOutput name c)
  := by
  refine ⟨?_, id, Or.inl, fun kind => ?_⟩
  · intro other hname _
    have houtput : (s.registry.add name c).outputs.get? other = s.registry.outputs.get? other :=
      Table.get?_insert_of_ne _ _ hname
    simp only [System.facet, System.addOutput, System.emit, houtput]
    rfl
  · cases kind <;> apply Nat.le_refl

end ChangedFor

end System

end ChannelBinding
