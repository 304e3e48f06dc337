import ChannelBinding.Binder.Memory
import ChannelBinding.Proofs.World.Observer

/-!
# Worlds of the in-memory binder

A set-up may have an in-memory binder as its only one, under every name that its factory knows.  The
binder adds channels and takes none away.
-/

namespace ChannelBinding

namespace MemoryBinder

/-- A set-up whose only binder is an in-memory one. -/
def setup (settings : Settings := {})
    (factory : Factory Unit := { binders := Table.ofEntries [("memory", ())] })
    (callback : Option Callback := none) : Setup Unit MemoryBinder MemoryCall :=
  { settings, factory, binders := behaviour, callback }

theorem size_openTransport (f : Fabric) (m : MemoryBinder) (destination : String) :
  f.channels.size ≤ (m.openTransport f destination).1.channels.size
  := by
  unfold openTransport
  split
  · apply Nat.le_refl
  · simp [Fabric.addChannel]

theorem size_attach (f : Fabric) (transport : ChannelId) (request : BindRequest) :
  (attach f transport request).1.channels.size = f.channels.size
  := by
  cases request with
  | consumer destination group input properties =>
    simp [attach, Fabric.addHandler, Fabric.addBinding]
  | producer destination output properties =>
    simp [attach, Fabric.addHandler, Fabric.addBinding]

/-- An in-memory binder keeps all channels. -/
theorem keepsChannels :
  behaviour.KeepsChannels
  := by
  rintro ⟨f, m⟩ call
  cases call with
  | opening request =>
    change f.channels.size ≤ (MemoryCall.step f m (.opening request)).1.channels.size
    simp only [MemoryCall.step]
    split
    · apply Nat.le_refl
    · apply size_openTransport
  | attaching request transport =>
    change f.channels.size ≤ (attach f transport request).1.channels.size
    apply Nat.le_of_eq
    rw [size_attach]

end MemoryBinder

end ChannelBinding
