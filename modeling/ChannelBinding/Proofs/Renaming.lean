import ChannelBinding.Proofs.Plan
import ChannelBinding.Proofs.Walk
import ChannelBinding.Proofs.World.Basic
import Mathlib.Data.List.Basic

/-!
# Renaming handles

Channels, bindings, cells and tickets are given out in order, so that their numbers tell how many were
given out before, to whomever.  A renaming replaces the numbers and keeps different handles apart.  It
acts on whatever refers to handles: on cells, on requests, and on calls wherever they stand.  What a
call does with a cell it does with the renamed one as well.
-/

namespace ChannelBinding

/-- The kinds of handles that are given out in order. -/
inductive Kind where
  | channel
  | binding
  | cell
  | ticket

/-- A renaming of the handles of every kind that keeps different handles apart. -/
structure Renaming where
  map : Kind → Nat → Nat
  injective : ∀ kind, Function.Injective (map kind)

namespace Renaming

variable (ρ : Renaming)

/-- The channel that a channel is renamed to. -/
def channel (c : ChannelId) : ChannelId := ⟨ρ.map .channel c.index⟩

/-- The binding that a binding is renamed to. -/
def binding (b : BindingId) : BindingId := ⟨ρ.map .binding b.index⟩

/-- The cell that a cell is renamed to. -/
def cell (id : CellId) : CellId := ⟨ρ.map .cell id.index⟩

/-- The ticket that a ticket is renamed to. -/
def ticket (t : Ticket) : Ticket := ⟨ρ.map .ticket t.number⟩

theorem binding_injective :
  Function.Injective ρ.binding
  := by
  rintro ⟨i⟩ ⟨j⟩ h
  obtain rfl : i = j := ρ.injective .binding (BindingId.mk.inj h)
  rfl

theorem ticket_injective :
  Function.Injective ρ.ticket
  := by
  rintro ⟨i⟩ ⟨j⟩ h
  obtain rfl : i = j := ρ.injective .ticket (Ticket.mk.inj h)
  rfl

end Renaming

variable (ρ : Renaming)

/-! ## Cells -/

/-- A resolved destination with its handles renamed. -/
def Resolved.rename (v : Resolved) : Resolved := ⟨ρ.channel v.channel, ρ.binding v.binding⟩

/-- A cell with its handles renamed. -/
def Cell.rename (cell : Cell) : Cell where
  value := cell.value.map (Resolved.rename ρ)
  permit := cell.permit.map ρ.ticket
  line := cell.line.map ρ.ticket
  holders := cell.holders.map ρ.ticket

/-- What asking for a cell comes to, with its handles renamed. -/
def Cell.Claim.rename : Cell.Claim → Cell.Claim
  | filled v => filled (v.rename ρ)
  | permitted => permitted
  | queued => queued

namespace Cell

variable (cell : Cell) (t : Ticket)

theorem claim_rename :
  (cell.rename ρ).claim (ρ.ticket t) = ((cell.claim t).1.rename ρ, (cell.claim t).2.rename ρ)
  := by
  obtain ⟨value, permit, line, holders⟩ := cell
  cases value with
  | some v => rfl
  | none =>
    cases permit with
    | none => rfl
    | some holder =>
      simp only [claim, rename, Option.map_none, Option.map_some, ρ.ticket_injective.eq_iff,
        List.mem_map_of_injective ρ.ticket_injective]
      by_cases hholder : holder = t
      · simp [hholder, Claim.rename]
      · by_cases hline : t ∈ line
        · simp [hholder, hline, Claim.rename]
        · simp [hholder, hline, Claim.rename]

theorem giveUp_rename :
  (cell.rename ρ).giveUp (ρ.ticket t) = (cell.giveUp t).rename ρ
  := by
  have hpermit : cell.permit.map ρ.ticket = some (ρ.ticket t) ↔ cell.permit = some t := by
    rw [← Option.map_some, (Option.map_injective ρ.ticket_injective).eq_iff]
  simp only [giveUp, rename, hpermit]
  split
  · simp [List.map_tail]
  · simp [List.map_erase ρ.ticket_injective]

theorem letGo_rename :
  (cell.rename ρ).letGo (ρ.ticket t) = (cell.letGo t).rename ρ
  := by
  simp [letGo, rename, List.map_erase ρ.ticket_injective]

theorem hold_rename :
  (cell.rename ρ).hold (ρ.ticket t) = (cell.hold t).rename ρ
  := rfl

theorem fill_rename (v : Resolved) :
  (cell.rename ρ).fill (v.rename ρ) = (cell.fill v).rename ρ
  := rfl

end Cell

/-! ## Calls -/

/-- A request with its channel renamed. -/
def BindRequest.rename : BindRequest → BindRequest
  | consumer destination group input properties =>
    consumer destination group (ρ.channel input) properties
  | producer destination output properties => producer destination (ρ.channel output) properties

@[simp]
theorem BindRequest.destination_rename (request : BindRequest) :
  (request.rename ρ).destination = request.destination
  := by
  cases request <;> rfl

/-- A bind of the in-memory binder with its handles renamed. -/
def MemoryCall.rename : MemoryCall → MemoryCall
  | opening request => opening (request.rename ρ)
  | attaching request transport => attaching (request.rename ρ) (ρ.channel transport)

/-- A bind of a planned binder with its handles renamed. -/
def PlannedCall.rename : PlannedCall → PlannedCall
  | asking request => asking (request.rename ρ)
  | pausing request bout left => pausing (request.rename ρ) bout left
  | attaching call after => attaching (call.rename ρ) after
  | lingering b left => lingering (ρ.binding b) left

/-- A producer bind with its handles renamed. -/
def ProducerBind.rename (bind : ProducerBind PlannedCall) : ProducerBind PlannedCall :=
  { bind with call := bind.call.rename ρ }

/-- Where a resolution stands, with its handles renamed. -/
def ResolutionStage.rename : ResolutionStage PlannedCall → ResolutionStage PlannedCall
  | requested => requested
  | readingFixed => readingFixed
  | readingCache => readingCache
  | entering => entering
  | claiming cell ticket => claiming (ρ.cell cell) (ρ.ticket ticket)
  | binding cell ticket channel bind =>
    binding (ρ.cell cell) (ρ.ticket ticket) (ρ.channel channel) (bind.rename ρ)
  | forgetting cell ticket error => forgetting (ρ.cell cell) (ρ.ticket ticket) error

/-- A resolution with its handles renamed. -/
def Resolution.rename (r : Resolution PlannedCall) : Resolution PlannedCall :=
  ⟨r.name, r.stage.rename ρ⟩

/-- The release of a binding with its handle renamed. -/
def Unbinding.rename : Unbinding → Unbinding
  | requested b => requested (ρ.binding b)
  | detaching b => detaching (ρ.binding b)

/-- A release with its handles renamed. -/
def Release.rename (r : Release) : Release :=
  { r with current := r.current.rename ρ, rest := r.rest.map ρ.binding }

/-- A withdrawal with its handles renamed. -/
def Withdrawal.rename (w : Withdrawal) : Withdrawal :=
  { w with current := w.current.map (Release.rename ρ) }

/-- A call with its handles renamed; other calls than resolutions, producer binds and releases by
name are left as they are. -/
def Call.rename {ι : Type} : Call ι PlannedCall → Call ι PlannedCall
  | resolving r => resolving (r.rename ρ)
  | producing bind => producing (bind.rename ρ)
  | releasing w => releasing (w.rename ρ)
  | call => call

end ChannelBinding
