import ChannelBinding.Proofs.Mirror.Doings

/-!
# Names do not interfere

What is done for names of different destinations, in any order, comes for each of them to what it
would come to alone.  Only the numbers of the handles differ, since channels, bindings, cells and
tickets are numbered as they are given out, to whichever name.  The renaming that makes up for it is
read off the run: what is done for the name gives out the same handles alone, in the same order.
-/

namespace ChannelBinding

variable {plan : Plan} {settings : Settings} {factory : Factory Unit} {callback : Option Callback}
variable {ρ : Renaming} {name : String}

/-! ## Where courses start -/

/-- Whether no call is under way in a cell. -/
def Cell.IsIdle (cell : Cell) : Prop := cell.permit = none ∧ cell.line = [] ∧ cell.holders = []

/-- Whether no call is under way in a system and all that it holds on to is there. -/
structure System.IsReady (settings : Settings) (s : System PlannedBinder) : Prop where
  cache : s.cache.Sound fun _ => {}
  idle : ∀ {id cell}, s.cache.cell? id = some cell → cell.IsIdle
  cached : ∀ {id cell v}, s.cache.cell? id = some cell → cell.value = some v →
    v.channel.index < s.fabric.channels.size ∧ v.binding.index < s.fabric.bindings.size
  tracks : s.TracksOwn settings
  fixed : ∀ {name c}, s.fixed.get? name = some c → c.index < s.fabric.channels.size
  output : ∀ {name c}, s.registry.outputs.get? name = some c → c.index < s.fabric.channels.size
  transport : ∀ {d c}, s.binders.inner.transports.get? d = some c → c.index < s.fabric.channels.size
  asked : ∀ request ∈ s.binders.asked, request.channel.index < s.fabric.channels.size

/-- Whether a renaming leaves the handles of a system as they are. -/
def Renaming.Fixes (ρ : Renaming) (s : System PlannedBinder) : Prop :=
  ∀ kind {i}, i < s.count kind → ρ.map kind i = i

section

variable {s : System PlannedBinder}

theorem Renaming.Fixes.channel (h : ρ.Fixes s) {c : ChannelId}
    (hc : c.index < s.fabric.channels.size) :
  ρ.channel c = c
  := congrArg ChannelId.mk (h .channel hc)

theorem Renaming.Fixes.binding (h : ρ.Fixes s) {b : BindingId}
    (hb : b.index < s.fabric.bindings.size) :
  ρ.binding b = b
  := congrArg BindingId.mk (h .binding hb)

theorem Renaming.Fixes.map_channel (h : ρ.Fixes s) {c : Option ChannelId}
    (hc : ∀ {ch}, c = some ch → ch.index < s.fabric.channels.size) :
  c = c.map ρ.channel
  := by
  cases c with
  | none => rfl
  | some ch => exact congrArg some (h.channel (hc rfl)).symm

/-- A binding of a destination is there. -/
theorem Fabric.IsOf.lt {f : Fabric} {d : String} {b : BindingId} (h : f.IsOf d b) :
  b.index < f.bindings.size
  := by
  obtain ⟨standing, hstanding⟩ := Option.isSome_iff_exists.mp h
  obtain ⟨binding, hb, -, -⟩ := Fabric.binding_of_standing hstanding
  exact (Array.getElem?_eq_some_iff.mp hb).1

theorem Renaming.Fixes.request (h : ρ.Fixes s) {request : BindRequest}
    (hr : request.channel.index < s.fabric.channels.size) :
  request.rename ρ = request
  := by
  cases request with
  | consumer d group input properties =>
    exact congrArg (BindRequest.consumer d group · properties) (h.channel hr)
  | producer d output properties =>
    exact congrArg (BindRequest.producer d · properties) (h.channel hr)

/-- The place of a name in a system that is ready is the same when it is renamed. -/
theorem System.IsReady.place (hs : s.IsReady settings) (h : ρ.Fixes s) (name : String) :
  s.cache.Mirrors ρ name s.cache
  := by
  cases hentry : s.cache.entries.get? name with
  | none =>
    rw [Cache.Mirrors, Cache.place_of_no_entry hentry]
    rfl
  | some id =>
    have hid : ρ.cell id = id := congrArg CellId.mk (h .cell (hs.cache.lt_of_entry hentry))
    apply Cache.Mirrors.of_entry hentry (by rw [hid, hentry])
    rw [hid]
    cases hcell : s.cache.cell? id with
    | none => rfl
    | some cell =>
      obtain ⟨hpermit, hline, hholders⟩ := hs.idle hcell
      obtain ⟨value, permit, line, holders⟩ := cell
      obtain ⟨rfl, rfl, rfl⟩ : permit = none ∧ line = [] ∧ holders = [] := ⟨hpermit, hline, hholders⟩
      cases value with
      | none => rfl
      | some v =>
        obtain ⟨hchannel, hbinding⟩ := hs.cached hcell rfl
        have hv : v.rename ρ = v := by
          rw [Resolved.rename, h.channel hchannel, h.binding hbinding]
        simp [Cell.rename, hv]

/-- What a system that is ready has of a name is the same when it is renamed. -/
theorem System.IsReady.mirrors (hs : s.IsReady settings) (h : ρ.Fixes s) (name : String) :
  (s.facet settings name).Mirrors ρ (s.facet settings name)
  := by
  refine ⟨h.map_channel hs.fixed, hs.place h name, ?_, h.map_channel hs.output, rfl,
    h.map_channel hs.transport, ?_, ?_⟩
  · cases htracked : s.ledger.producers.get? name with
    | none => simp [System.facet, htracked]
    | some bs =>
      have hbs : bs.map ρ.binding = bs := by
        refine (List.map_congr_left (g := id) fun b hb => ?_).trans (List.map_id bs)
        have hmem : b ∈ s.ledger.tracked .producer name := by
          simpa [Ledger.tracked, Ledger.of, htracked] using hb
        apply h.binding (hs.tracks hmem).lt
      simp [System.facet, htracked, hbs]
  · refine ((List.map_congr_left (g := id) fun request hr => ?_).trans (List.map_id _)).symm
    apply h.request (hs.asked request (List.mem_filter.mp hr).1)
  · intro b standing hb
    have hlt : b.index < s.fabric.bindings.size :=
      Fabric.IsOf.lt (Option.isSome_iff_exists.mpr ⟨standing, hb⟩)
    rw [h.binding hlt]
    apply hb

/-- A system on which nothing has been called yet is ready, whatever channels there are. -/
theorem System.isReady_fresh (settings : Settings) (fabric : Fabric) :
  ({ fabric, binders := {} } : System PlannedBinder).IsReady settings
  where
  cache := Cache.sound_empty
  idle h := by simp [Cache.cell?] at h
  cached h := by simp [Cache.cell?] at h
  tracks h := by simp [Ledger.tracked, Ledger.of] at h
  fixed h := by simp at h
  output h := by simp at h
  transport h := by simp at h
  asked := nofun

/-- A course that begins with a system that is ready is in order. -/
theorem System.IsReady.isOrderly (hs : s.IsReady settings) :
  (Course.begun s).IsOrderly settings
  := ⟨hs.cache, nofun, hs.tracks, nofun, fun _ => List.nodup_nil, nofun, nofun⟩

end

/-! ## Runs -/

/-- What is done for a name. -/
def doingsFor (name : String) (doings : List Doing) : List Doing :=
  doings.filter fun doing => doing.name = name

theorem doingsFor_cons_of_eq {doing : Doing} (h : doing.name = name) (doings : List Doing) :
  doingsFor name (doing :: doings) = doing :: doingsFor name doings
  := by
  simp [doingsFor, h]

theorem doingsFor_cons_of_ne {doing : Doing} (h : doing.name ≠ name) (doings : List Doing) :
  doingsFor name (doing :: doings) = doingsFor name doings
  := by
  simp [doingsFor, h]

namespace Course

variable {setup : Setup Unit PlannedBinder PlannedCall} {c d : Course}

variable (plan factory callback) in
/-- Handles stay given out. -/
theorem IsOrderly.count_le_run (h : c.IsOrderly settings) (doings : List Doing) (kind : Kind) :
  c.system.count kind
    ≤ (c.run (PlannedBinder.setup plan settings factory callback) doings).system.count kind
  := by
  induction doings generalizing c with
  | nil => apply Nat.le_refl
  | cons doing doings ih =>
    obtain ⟨horderly, hchanged⟩ := h.next plan factory callback doing
    exact Nat.le_trans (hchanged.system.count kind) (ih horderly)

/-- The handles of a kind that what is done for a name gives out, by their numbers. -/
def made (setup : Setup Unit PlannedBinder PlannedCall) (name : String) (kind : Kind) :
    Course → List Doing → List Nat
  | _, [] => []
  | c, doing :: doings =>
    if doing.name = name ∧ c.system.count kind < (c.next setup doing).system.count kind then
      c.system.count kind :: made setup name kind (c.next setup doing) doings
    else made setup name kind (c.next setup doing) doings

variable (plan factory callback) in
/-- The handles that are given out in a run have their numbers in the order of the run. -/
theorem IsOrderly.made_sorted (h : c.IsOrderly settings) (name : String) (kind : Kind)
    (doings : List Doing) :
  let setup := PlannedBinder.setup plan settings factory callback
  (made setup name kind c doings).Pairwise (· < ·)
    ∧ ∀ i ∈ made setup name kind c doings,
        c.system.count kind ≤ i ∧ i < (c.run setup doings).system.count kind
  := by
  intro setup
  induction doings generalizing c with
  | nil => exact ⟨List.Pairwise.nil, nofun⟩
  | cons doing doings ih =>
    obtain ⟨horderly, hchanged⟩ := h.next plan factory callback doing
    obtain ⟨hsorted, hbounds⟩ := ih horderly
    have hlater : ∀ i ∈ made setup name kind (c.next setup doing) doings,
        c.system.count kind ≤ i ∧ i < (c.run setup (doing :: doings)).system.count kind :=
      fun i hi => ⟨Nat.le_trans (hchanged.system.count kind) (hbounds i hi).1, (hbounds i hi).2⟩
    simp only [made]
    split
    · rename_i hgrows
      constructor
      · refine List.Pairwise.cons (fun i hi => ?_) hsorted
        apply Nat.lt_of_lt_of_le hgrows.2 (hbounds i hi).1
      · intro i hi
        rcases List.mem_cons.mp hi with rfl | hi
        · refine ⟨Nat.le_refl _, Nat.lt_of_lt_of_le hgrows.2 ?_⟩
          apply horderly.count_le_run plan factory callback doings kind
        · apply hlater i hi
    · exact ⟨hsorted, hlater⟩

/-- Whether a renaming takes the handles that one course is to give out to those that what is done for
a name gives out in another, and the handles that are there to handles that are there. -/
structure Fits (ρ : Renaming) (setup : Setup Unit PlannedBinder PlannedCall) (name : String)
    (c d : Course) (doings : List Doing) : Prop where
  old : ∀ kind {i}, i < d.system.count kind → ρ.map kind i < c.system.count kind
  made : ∀ {kind k i}, (made setup name kind c doings)[k]? = some i →
    ρ.map kind (d.system.count kind + k) = i
  rest : ∀ {kind k}, (Course.made setup name kind c doings)[k]? = none →
    (c.run setup doings).system.count kind ≤ ρ.map kind (d.system.count kind + k)

/-- A renaming that fits takes handles that are not there to handles that are not there. -/
theorem Fits.inRange {doings : List Doing}
    (h : Fits ρ (PlannedBinder.setup plan settings factory callback) name c d doings)
    (hc : c.IsOrderly settings) :
  InRange ρ c d
  := by
  intro ch
  refine ⟨fun hlt => ?_, fun hlt => h.old .channel hlt⟩
  -- a channel that is not there is to be given out, or will never be
  by_contra hge
  obtain ⟨k, hk⟩ := Nat.exists_eq_add_of_le (Nat.le_of_not_lt hge)
  have hle : c.system.count .channel ≤ ρ.map .channel (d.system.count .channel + k) := by
    cases hmade : (Course.made (PlannedBinder.setup plan settings factory callback) name .channel c
        doings)[k]? with
    | some i =>
      rw [h.made hmade]
      apply ((hc.made_sorted plan factory callback name .channel doings).2 i _).1
      apply List.mem_of_getElem? hmade
    | none =>
      apply Nat.le_trans (hc.count_le_run plan factory callback doings .channel)
      apply h.rest hmade
  apply absurd hlt (Nat.not_lt.mpr _)
  simp only [Renaming.channel, hk]
  exact hle

/-- What is done for the name gives out the handles that the renaming tells. -/
theorem Fits.suits {doing : Doing} {doings : List Doing} (h : Fits ρ setup name c d (doing :: doings))
    (hname : doing.name = name) :
  ρ.Suits c.system (c.next setup doing).system d.system
  := by
  intro kind hgrows
  apply h.made (k := 0)
  rw [Course.made, if_pos ⟨hname, hgrows⟩]
  rfl

/-- A renaming that fits still does after something is done for the name. -/
theorem Fits.next {doing : Doing} {doings : List Doing} (h : Fits ρ setup name c d (doing :: doings))
    (hname : doing.name = name)
    (hcount : ∀ kind, InStep (c.system.count kind) ((c.next setup doing).system.count kind)
      (d.system.count kind) ((d.next setup doing).system.count kind)) :
  Fits ρ setup name (c.next setup doing) (d.next setup doing) doings
  := by
  have hsuits := h.suits hname
  -- the handles to come after the doing are those to come before it, but for one that it gives out
  have hshift (kind : Kind) (k : Nat) :
      ∃ k', (Course.made setup name kind c (doing :: doings))[k']?
          = (Course.made setup name kind (c.next setup doing) doings)[k]?
        ∧ d.system.count kind + k' = (d.next setup doing).system.count kind + k := by
    rcases hcount kind with ⟨hc, hd⟩ | ⟨hc, hd⟩
    · refine ⟨k, ?_, by rw [hd]⟩
      rw [Course.made, if_neg]
      rintro ⟨-, hgrows⟩
      rw [hc] at hgrows
      apply Nat.lt_irrefl _ hgrows
    · refine ⟨k + 1, ?_, by rw [hd, Nat.add_right_comm, Nat.add_assoc]⟩
      rw [Course.made, if_pos ⟨hname, by rw [hc]; apply Nat.lt_succ_self⟩]
      rfl
  constructor
  · intro kind i hi
    rcases hcount kind with ⟨hc, hd⟩ | ⟨hc, hd⟩
    · rw [hc]
      apply h.old
      rw [← hd]
      apply hi
    · rw [hc]
      rcases Nat.lt_succ_iff_lt_or_eq.mp (hd ▸ hi) with hi | rfl
      · apply Nat.lt_succ_of_lt (h.old kind hi)
      · rw [hsuits kind (by rw [hc]; apply Nat.lt_succ_self)]
        apply Nat.lt_succ_self
  · intro kind k i hi
    obtain ⟨k', hmade, hk⟩ := hshift kind k
    rw [← hk]
    apply h.made
    rw [hmade]
    apply hi
  · intro kind k hnone
    obtain ⟨k', hmade, hk⟩ := hshift kind k
    rw [← hk]
    apply h.rest
    rw [hmade]
    apply hnone

/-- A renaming that fits still does after something is done for another name in one course. -/
theorem Fits.next_of_ne {doing : Doing} {doings : List Doing}
    (h : Fits ρ setup name c d (doing :: doings)) (hname : doing.name ≠ name)
    (hcount : ∀ kind, c.system.count kind ≤ (c.next setup doing).system.count kind) :
  Fits ρ setup name (c.next setup doing) d doings
  := by
  have hmade (kind : Kind) : Course.made setup name kind c (doing :: doings)
      = Course.made setup name kind (c.next setup doing) doings := if_neg fun h => hname h.1
  constructor
  · intro kind i hi
    apply Nat.lt_of_lt_of_le (h.old kind hi) (hcount kind)
  · intro kind k i hi
    apply h.made
    rw [hmade]
    apply hi
  · intro kind k hnone
    apply h.rest
    rw [hmade]
    apply hnone

variable (plan factory callback) in
/-- What is done for other names, of other destinations, can be left out. -/
theorem Mirrors.run {doings : List Doing} (h : c.Mirrors ρ settings name d)
    (hc : c.IsOrderly settings) (hd : d.IsOrderly settings)
    (hfits : Fits ρ (PlannedBinder.setup plan settings factory callback) name c d doings)
    (hdistinct : ∀ doing ∈ doings, doing.name ≠ name →
      settings.destination doing.name ≠ settings.destination name)
    (hgiven : ∀ doing ∈ doings, doing.name = name → ∀ {ch properties},
      doing.deed = .bindProducer (.given ch) properties → ρ.channel ch = ch) :
  let setup := PlannedBinder.setup plan settings factory callback
  (c.run setup doings).Mirrors ρ settings name (d.run setup (doingsFor name doings))
  := by
  intro setup
  -- the renaming stays while both courses go on: what it has yet to fit gets shorter
  induction doings generalizing c d with
  | nil => exact h
  | cons doing doings ih =>
    have hdistinct' := fun doing' h => hdistinct doing' (List.mem_cons_of_mem doing h)
    have hgiven' := fun doing' h => hgiven doing' (List.mem_cons_of_mem doing h)
    obtain ⟨hc', hchanged⟩ := hc.next plan factory callback doing
    by_cases hname : doing.name = name
    · obtain ⟨hd', -⟩ := hd.next plan factory callback doing
      have hkeep := h.next plan factory callback hc hd (hfits.inRange hc) hname
        (hgiven doing List.mem_cons_self hname) (hfits.suits hname)
      rw [doingsFor_cons_of_eq hname]
      exact ih hkeep.mirrors hc' hd' (hfits.next hname hkeep.count) hdistinct' hgiven'
    · have hdest := hdistinct doing List.mem_cons_self hname
      have hother : (c.next setup doing).Mirrors ρ settings name d := by
        refine ⟨?_, ?_, ?_⟩
        · rw [hchanged.system.facet hname hdest]
          apply h.facet
        · rw [hchanged.calls hname]
          apply h.calls
        · rw [hchanged.seen hname]
          apply h.seen
      rw [doingsFor_cons_of_ne hname]
      exact ih hother hc' hd (hfits.next_of_ne hname hchanged.system.count) hdistinct' hgiven'

end Course

/-! ## The renaming of a run -/

/-- The numbers below a base as they are, the next ones as a list tells, and all others from a limit
on. -/
def renumber (base limit : Nat) (made : List Nat) (i : Nat) : Nat :=
  if i < base then i else (made[i - base]?).getD (limit + i)

theorem renumber_of_lt {base limit i : Nat} {made : List Nat} (h : i < base) :
  renumber base limit made i = i
  := if_pos h

theorem renumber_add (base limit : Nat) (made : List Nat) (k : Nat) :
  renumber base limit made (base + k) = (made[k]?).getD (limit + (base + k))
  := by
  simp [renumber]

theorem le_renumber {base limit : Nat} {made : List Nat} (hbounds : ∀ i ∈ made, base ≤ i ∧ i < limit)
    {i : Nat} (hi : base ≤ i) :
  base ≤ renumber base limit made i
  := by
  obtain ⟨k, rfl⟩ := Nat.exists_eq_add_of_le hi
  rw [renumber_add]
  cases hk : made[k]? with
  | some j => exact (hbounds j (List.mem_of_getElem? hk)).1
  | none =>
    simp only [Option.getD_none]
    omega

/-- Different numbers stay different. -/
theorem renumber_injective {base limit : Nat} {made : List Nat} (hsorted : made.Pairwise (· < ·))
    (hbounds : ∀ i ∈ made, base ≤ i ∧ i < limit) :
  Function.Injective (renumber base limit made)
  := by
  intro i j h
  rcases Nat.lt_or_ge i base with hi | hi
  · rcases Nat.lt_or_ge j base with hj | hj
    · rwa [renumber_of_lt hi, renumber_of_lt hj] at h
    · have hle := le_renumber hbounds hj
      rw [← h, renumber_of_lt hi] at hle
      apply absurd hi (Nat.not_lt.mpr hle)
  · rcases Nat.lt_or_ge j base with hj | hj
    · have hle := le_renumber hbounds hi
      rw [h, renumber_of_lt hj] at hle
      apply absurd hj (Nat.not_lt.mpr hle)
    · obtain ⟨k, rfl⟩ := Nat.exists_eq_add_of_le hi
      obtain ⟨l, rfl⟩ := Nat.exists_eq_add_of_le hj
      rw [renumber_add, renumber_add] at h
      cases hk : made[k]? with
      | some x =>
        have hx := (hbounds x (List.mem_of_getElem? hk)).2
        cases hl : made[l]? with
        | some y =>
          rw [hk, hl] at h
          obtain rfl : x = y := h
          have hlt := (List.getElem?_eq_some_iff.mp hk).1
          have hnodup : made.Nodup := hsorted.imp Nat.ne_of_lt
          rw [(List.getElem?_inj hlt hnodup).mp (hk.trans hl.symm)]
        | none =>
          rw [hk, hl] at h
          simp only [Option.getD_some, Option.getD_none] at h
          omega
      | none =>
        cases hl : made[l]? with
        | some y =>
          have hy := (hbounds y (List.mem_of_getElem? hl)).2
          rw [hk, hl] at h
          simp only [Option.getD_some, Option.getD_none] at h
          omega
        | none =>
          rw [hk, hl] at h
          simp only [Option.getD_none] at h
          omega

namespace Course

variable {c : Course}

/-- The renaming that takes the handles that what is done for a name gives out alone to those that it
gives out in a run. -/
def IsOrderly.runRenaming (hc : c.IsOrderly settings) (plan : Plan) (factory : Factory Unit)
    (callback : Option Callback) (name : String) (doings : List Doing) : Renaming where
  map kind :=
    let setup := PlannedBinder.setup plan settings factory callback
    renumber (c.system.count kind) ((c.run setup doings).system.count kind)
      (made setup name kind c doings)
  injective kind := by
    obtain ⟨hsorted, hbounds⟩ := hc.made_sorted plan factory callback name kind doings
    exact renumber_injective hsorted hbounds

theorem IsOrderly.runRenaming_fixes (hc : c.IsOrderly settings) (name : String) (doings : List Doing) :
  (hc.runRenaming plan factory callback name doings).Fixes c.system
  := fun _ _ hi => renumber_of_lt hi

theorem IsOrderly.runRenaming_fits (hc : c.IsOrderly settings) (name : String) (doings : List Doing) :
  Fits (hc.runRenaming plan factory callback name doings)
    (PlannedBinder.setup plan settings factory callback) name c c doings
  := by
  constructor
  · intro kind i hi
    rw [hc.runRenaming_fixes name doings kind hi]
    apply hi
  · intro kind k i hi
    simp only [runRenaming, renumber_add, hi, Option.getD_some]
  · intro kind k hnone
    simp only [runRenaming, renumber_add, hnone, Option.getD_none]
    apply Nat.le_add_right

/-! ## Outcomes -/

/-- What a course comes to for a name. -/
structure Outcome where
  /-- What was seen of the calls for the name and of the look-ups, step by step. -/
  seen : List Sight
  /-- The announcements of the name to the callback. -/
  announced : List Announcement
  /-- What the binder was asked for the name's destination. -/
  asked : List BindRequest
  /-- The cell of the name in the cache. -/
  place : Option (CellId × Option Cell)
  /-- The producers that are tracked under the name. -/
  tracked : Option (List BindingId)
  /-- The channel that is registered under the name. -/
  registered : Option ChannelId

/-- An outcome with its handles renamed. -/
def Outcome.rename (ρ : Renaming) (o : Outcome) : Outcome where
  seen := o.seen.map (Sight.rename ρ)
  announced := o.announced
  asked := o.asked.map (BindRequest.rename ρ)
  place := o.place.map ρ.place
  tracked := o.tracked.map (List.map ρ.binding)
  registered := o.registered.map ρ.channel

/-- What a course has come to for a name. -/
def outcome (c : Course) (settings : Settings) (name : String) : Outcome where
  seen := c.seen name
  announced := c.system.announced name
  asked := c.system.binders.askedFor (settings.destination name)
  place := c.system.cache.place name
  tracked := c.system.ledger.producers.get? name
  registered := c.system.registry.outputs.get? name

/-- Courses that have the same of a name have come to the same for it. -/
theorem Mirrors.outcome {d : Course} (h : c.Mirrors ρ settings name d) :
  c.outcome settings name = (d.outcome settings name).rename ρ
  := by
  have hannounced : c.system.announced name = d.system.announced name := h.facet.announced
  have hasked : c.system.binders.askedFor (settings.destination name)
    = (d.system.binders.askedFor (settings.destination name)).map (BindRequest.rename ρ) :=
    h.facet.dealings.asked
  have hplace : c.system.cache.place name = (d.system.cache.place name).map ρ.place := h.facet.place
  have htracked : c.system.ledger.producers.get? name
    = (d.system.ledger.producers.get? name).map (List.map ρ.binding) := h.facet.tracked
  have hregistered : c.system.registry.outputs.get? name
    = (d.system.registry.outputs.get? name).map ρ.channel := h.facet.output
  simp only [Course.outcome, Outcome.rename, h.seen, hannounced, hasked, hplace, htracked, hregistered]

/-- Names do not interfere: for every name, what is done for it comes to the same alone as among
whatever is done for names of other destinations, in whatever order, up to the numbers of the handles
that are given out.  A bind that is suspended inside the binder is a call like any other, and so
changes and holds up nothing of other names.  A producer is bound to a channel that there is at the
start or to one that its own name was resolved to; a channel of another name is not there alone. -/
theorem names_do_not_interfere (plan : Plan) (settings : Settings) (factory : Factory Unit)
    (callback : Option Callback) {start : System PlannedBinder} (hstart : start.IsReady settings)
    (doings : List Doing) (name : String)
    (hdistinct : ∀ doing ∈ doings, doing.name ≠ name →
      settings.destination doing.name ≠ settings.destination name)
    (hgiven : ∀ doing ∈ doings, doing.name = name → ∀ ch properties,
      doing.deed = .bindProducer (.given ch) properties → ch.index < start.fabric.channels.size) :
  let setup := PlannedBinder.setup plan settings factory callback
  ∃ ρ : Renaming, ρ.Fixes start
    ∧ ((begun start).run setup doings).outcome settings name
      = (((begun start).run setup (doingsFor name doings)).outcome settings name).rename ρ
  := by
  intro setup
  have horderly := hstart.isOrderly
  have hfixes : (horderly.runRenaming plan factory callback name doings).Fixes start :=
    horderly.runRenaming_fixes name doings
  have hmirrors : (begun start).Mirrors (horderly.runRenaming plan factory callback name doings)
      settings name (begun start) := ⟨hstart.mirrors hfixes name, rfl, rfl⟩
  refine ⟨horderly.runRenaming plan factory callback name doings, hfixes, Mirrors.outcome ?_⟩
  apply hmirrors.run plan factory callback horderly horderly (horderly.runRenaming_fits name doings)
    hdistinct
  intro doing hdoing hname ch properties hdeed
  apply hfixes.channel (hgiven doing hdoing hname ch properties hdeed)

/-- A plan in which the binds of one destination give up a turn before they are decided. -/
def slowOrders : Plan where
  bout destination _ := { before := if destination = "orders" then 1 else 0 }

/-- A factory whose only binder is the default one. -/
def planned : Factory Unit where
  binders := (∅ : Table String Unit).insert "planned" ()
  fallback := some "planned"

/-- A resolution gets as far as a bind that is suspended; then another name is resolved, and bound to
the channel of its answer. -/
def auditAmongOrders : List Doing :=
  ⟨"orders", .resolve⟩ :: List.replicate 7 ⟨"orders", .advance 0⟩
    ++ ⟨"audit", .resolve⟩ :: List.replicate 10 ⟨"audit", .advance 0⟩
    ++ [⟨"audit", .look⟩, ⟨"orders", .drop 0⟩, ⟨"audit", .bindProducer (.answered 0) none⟩]

/-- While a bind for a name is suspended in the binder, another name is resolved as it is alone. -/
theorem names_do_not_interfere_while_suspended :
  let start : Course := begun { fabric := {}, binders := {} }
  let together := start.run (PlannedBinder.setup slowOrders {} planned none) auditAmongOrders
  let alone := start.run (PlannedBinder.setup slowOrders {} planned none)
    (doingsFor "audit" auditAmongOrders)
  together.seen "orders" = List.replicate 7 .goesOn ++ [.waits .turn, .dropped]
    ∧ together.seen "audit"
      = List.replicate 10 .goesOn ++ [.resolved (.ok ⟨1⟩), .found (some ⟨0⟩), .goesOn]
    ∧ alone.seen "audit"
      = List.replicate 10 .goesOn ++ [.resolved (.ok ⟨0⟩), .found (some ⟨0⟩), .goesOn]
    ∧ ∃ ρ : Renaming, together.outcome {} "audit" = (alone.outcome {} "audit").rename ρ
  := by
  refine ⟨by decide, by decide, by decide, ?_⟩
  obtain ⟨ρ, -, houtcome⟩ := names_do_not_interfere slowOrders {} planned none
    (System.isReady_fresh {} {}) auditAmongOrders "audit" (by decide) (by simp [auditAmongOrders])
  exact ⟨ρ, houtcome⟩

end Course

end ChannelBinding
