import ChannelBinding.Proofs.Course
import ChannelBinding.Proofs.Mirror.Steps

/-!
# Mirrored courses

When two courses have the same of a name but for the names of handles, whatever is done for the name
in both of them, with the handles renamed, has the same results, is seen alike, and keeps them so.
-/

namespace ChannelBinding

variable {plan : Plan} {settings : Settings} {factory : Factory Unit} {callback : Option Callback}
variable {ρ : Renaming} {s t : System PlannedBinder} {name : String}

/-! ## What is seen, renamed -/

/-- What is seen, with handles renamed. -/
def Sight.rename (ρ : Renaming) : Sight → Sight
  | resolved answer => resolved (answer.map ρ.channel)
  | bound answer => bound (answer.map ρ.binding)
  | found b => found (b.map ρ.binding)
  | sight => sight

theorem Sight.channel?_rename (sight : Sight) :
  (sight.rename ρ).channel? = sight.channel?.map ρ.channel
  := by
  match sight with
  | .resolved (.ok c) => rfl
  | .resolved (.error e) => rfl
  | .goesOn | .waits _ | .bound _ | .unbound _ | .found _ | .dropped | .denied => rfl

/-- What is left and what is seen of calls whose progress is the same but for the names of handles. -/
theorem Call.after_and_sight {γ α : Type} {p q : Progress γ α} {f : γ → γ} {g : α → α}
    (h : p = q.map f g) (call : γ → Call Unit PlannedCall) (answer : α → Sight)
    (hf : ∀ r, call (f r) = (call r).rename ρ) (hg : ∀ a, answer (g a) = (answer a).rename ρ) :
  after call p = (after call q).rename ρ ∧ p.sight answer = (q.sight answer).rename ρ
  := by
  subst h
  cases q with
  | running r => exact ⟨hf r, rfl⟩
  | waiting r pause => exact ⟨hf r, rfl⟩
  | ended a => exact ⟨rfl, hg a⟩

/-! ## Calls -/

variable (plan factory callback) in
/-- A call for the name takes a step alike on both sides. -/
theorem Call.keep_step (h : (s.facet settings name).Mirrors ρ (t.facet settings name))
    {call : Call Unit PlannedCall} (hcall : call.IsFor settings t.fabric name)
    (hheld : ∀ {hold}, call.stake.hold = some hold →
      t.cache.entries.get? hold.name = some hold.cell)
    (hsuits : ρ.Suits s
      ((call.rename ρ).step (PlannedBinder.setup plan settings factory callback) s).1 t) :
  let setup := PlannedBinder.setup plan settings factory callback
  System.Keep ρ settings name s ((call.rename ρ).step setup s).1 t (call.step setup t).1
    ∧ ((call.rename ρ).step setup s).2.1 = (call.step setup t).2.1.rename ρ
    ∧ (call.rename ρ).sight setup s = (call.sight setup t).rename ρ
  := by
  cases call with
  | resolving r =>
    obtain ⟨hkeep, hprogress⟩ := Resolution.keep_step plan factory callback h hcall hheld hsuits
    exact ⟨hkeep, after_and_sight hprogress .resolving .resolved (fun _ => rfl) fun _ => rfl⟩
  | producing bind =>
    obtain ⟨hkeep, hprogress⟩ := ProducerBind.keep_step plan factory callback h hcall hsuits
    exact ⟨hkeep, after_and_sight hprogress .producing .bound (fun _ => rfl) fun _ => rfl⟩
  | releasing w =>
    obtain ⟨hkeep, hprogress⟩ := Withdrawal.keep_step h hcall
    exact ⟨hkeep, after_and_sight hprogress .releasing .unbound (fun _ => rfl) fun _ => rfl⟩
  | finished => exact ⟨.refl h, rfl, rfl⟩
  | _ => exact hcall.elim

/-- A call for the name is dropped alike on both sides. -/
theorem Call.keep_abandon (h : (s.facet settings name).Mirrors ρ (t.facet settings name))
    {call : Call Unit PlannedCall} (hcall : call.IsFor settings t.fabric name)
    (hheld : ∀ {hold}, call.stake.hold = some hold →
      t.cache.entries.get? hold.name = some hold.cell) :
  System.Keep ρ settings name s ((call.rename ρ).abandon s) t (call.abandon t)
    ∧ (call.rename ρ).dropped = call.dropped.rename ρ
    ∧ (call.rename ρ).dropSight = call.dropSight.rename ρ
  := by
  cases call with
  | resolving r => exact ⟨Resolution.keep_abandon h hcall.1 hheld, rfl, rfl⟩
  | _ => exact ⟨.refl h, rfl, rfl⟩

/-- A request with its channel renamed. -/
def Request.rename (ρ : Renaming) : Request Unit → Request Unit
  | bindProducer name output properties => bindProducer name (ρ.channel output) properties
  | request => request

variable (plan factory callback) in
/-- A call for the name begins alike on both sides. -/
theorem Request.keep_begin (h : (s.facet settings name).Mirrors ρ (t.facet settings name))
    {request : Request Unit} (hrequest : request.IsFor name) :
  let setup := PlannedBinder.setup plan settings factory callback
  System.Keep ρ settings name s ((request.rename ρ).begin setup s).1 t (request.begin setup t).1
    ∧ ((request.rename ρ).begin setup s).2.1 = (request.begin setup t).2.1.rename ρ
    ∧ (request.rename ρ).sight setup s = (request.sight setup t).rename ρ
  := by
  cases request with
  | resolve n => exact ⟨.refl h, rfl, rfl⟩
  | bindProducer n output properties =>
    obtain rfl : n = name := hrequest
    obtain ⟨hkeep, hprogress⟩ := ProducerBind.keep_begin plan factory callback h output
      (properties.getD (settings.producerProperties n))
    exact ⟨hkeep, Call.after_and_sight hprogress .producing .bound (fun _ => rfl) fun _ => rfl⟩
  | unbindTracked role n => exact ⟨.refl h, rfl, rfl⟩
  | _ => exact hrequest.elim

/-! ## Courses -/

namespace Course

/-- Whether one course has of a name what another has, but for the names of handles. -/
structure Mirrors (ρ : Renaming) (settings : Settings) (name : String) (c d : Course) : Prop where
  facet : (c.system.facet settings name).Mirrors ρ (d.system.facet settings name)
  calls : c.calls name = (d.calls name).map (Call.rename ρ)
  seen : c.seen name = (d.seen name).map (Sight.rename ρ)

/-- Whether two courses have the same of a name after a doing, but for the names of handles, and have
given out handles together. -/
structure Keep (ρ : Renaming) (settings : Settings) (name : String) (c c' d d' : Course) : Prop where
  mirrors : c'.Mirrors ρ settings name d'
  count : ∀ kind, InStep (c.system.count kind) (c'.system.count kind) (d.system.count kind)
    (d'.system.count kind)

variable {c c' d d' : Course}

theorem Keep.refl (h : c.Mirrors ρ settings name d) :
  Keep ρ settings name c c d d
  := ⟨h, fun _ => .refl _ _⟩

/-- What is seen alike in both courses keeps them alike. -/
theorem Keep.see (h : Keep ρ settings name c c' d d') (sight : Sight) :
  Keep ρ settings name c (c'.see name (sight.rename ρ)) d (d'.see name sight)
  := by
  refine ⟨⟨h.mirrors.facet, h.mirrors.calls, ?_⟩, h.count⟩
  simp only [Course.see, Function.update_self, h.mirrors.seen, List.map_append, List.map_cons,
    List.map_nil]

/-- The calls for a name when one of them changes. -/
theorem IsOrderly.calls_set (h : c.IsOrderly settings) {w : World Unit PlannedBinder PlannedCall}
    {k i : Nat} (hk : (c.numbers name)[k]? = some i) {call : Call Unit PlannedCall}
    (hw : w.call = Function.update c.world.call i call) :
  ({ c with world := w } : Course).calls name = (c.calls name).set k call
  := by
  obtain ⟨hlt, hi⟩ := List.getElem?_eq_some_iff.mp hk
  simp only [calls, hw]
  rw [(h.nodup name).map_update, if_pos (List.mem_of_getElem? hk), ← hi,
    (h.nodup name).idxOf_getElem k hlt]

/-- A call that is at the same place among those for the name in both courses. -/
theorem Mirrors.call (h : c.Mirrors ρ settings name d) (k : Nat) :
  (∃ i j, (c.numbers name)[k]? = some i ∧ (d.numbers name)[k]? = some j
      ∧ c.world.call i = (d.world.call j).rename ρ)
    ∨ (c.numbers name)[k]? = none ∧ (d.numbers name)[k]? = none
  := by
  have hcalls := congrArg (·[k]?) h.calls
  simp only [Course.calls, List.getElem?_map] at hcalls
  cases hi : (c.numbers name)[k]? with
  | some i =>
    cases hj : (d.numbers name)[k]? with
    | some j =>
      rw [hi, hj] at hcalls
      exact Or.inl ⟨i, j, rfl, rfl, Option.some.inj hcalls⟩
    | none =>
      rw [hi, hj] at hcalls
      cases hcalls
  | none =>
    cases hj : (d.numbers name)[k]? with
    | some j =>
      rw [hi, hj] at hcalls
      cases hcalls
    | none => exact Or.inr ⟨rfl, rfl⟩

/-- A move of both worlds that changes a call for the name alike. -/
theorem Mirrors.move (h : c.Mirrors ρ settings name d) (hc : c.IsOrderly settings)
    (hd : d.IsOrderly settings) {w x : World Unit PlannedBinder PlannedCall} {k i j : Nat}
    (hi : (c.numbers name)[k]? = some i) (hj : (d.numbers name)[k]? = some j)
    {call : Call Unit PlannedCall} (hw : w.call = Function.update c.world.call i (call.rename ρ))
    (hx : x.call = Function.update d.world.call j call)
    (hkeep : System.Keep ρ settings name c.system w.system d.system x.system) :
  Keep ρ settings name c { c with world := w } d { d with world := x }
  := by
  refine ⟨⟨hkeep.facet, ?_, h.seen⟩, hkeep.count⟩
  rw [hc.calls_set hi hw, hd.calls_set hj hx, h.calls, List.map_set]

variable (plan factory callback) in
/-- A call for the name takes a step alike in both courses. -/
theorem Mirrors.advance (h : c.Mirrors ρ settings name d) (hc : c.IsOrderly settings)
    (hd : d.IsOrderly settings) (k : Nat)
    (hsuits : ρ.Suits c.system
      (c.advance (PlannedBinder.setup plan settings factory callback) name k).system d.system) :
  let setup := PlannedBinder.setup plan settings factory callback
  Keep ρ settings name c (c.advance setup name k) d (d.advance setup name k)
  := by
  intro setup
  rcases h.call k with ⟨i, j, hi, hj, hcall⟩ | ⟨hi, hj⟩
  · simp only [Course.advance, hi, hj] at hsuits ⊢
    have hstep := Call.keep_step plan factory callback h.facet (hd.isFor (List.mem_of_getElem? hj))
      fun hhold => hd.sound.entry_of_hold (i := j) hhold
    have hsuits' : ρ.Suits c.system (((d.world.call j).rename ρ).step setup c.system).1 d.system := by
      rw [← hcall]
      change ρ.Suits c.system (c.world.next setup (.advance i)).system d.system at hsuits
      rw [World.next_advance] at hsuits
      apply hsuits
    obtain ⟨hkeep, hafter, hsight⟩ := hstep hsuits'
    rw [hcall, hsight]
    apply Keep.see
    apply h.move hc hd hi hj
    · rw [World.call_advance, hcall]
      exact congrArg _ hafter
    · apply World.call_advance
    · rw [World.next_advance, World.next_advance, hcall]
      apply hkeep
  · simp only [Course.advance, hi, hj]
    exact (Keep.refl h).see .denied

variable (plan factory callback) in
/-- A call for the name is dropped alike in both courses. -/
theorem Mirrors.drop (h : c.Mirrors ρ settings name d) (hc : c.IsOrderly settings)
    (hd : d.IsOrderly settings) (k : Nat) :
  let setup := PlannedBinder.setup plan settings factory callback
  Keep ρ settings name c (c.drop setup name k) d (d.drop setup name k)
  := by
  intro setup
  rcases h.call k with ⟨i, j, hi, hj, hcall⟩ | ⟨hi, hj⟩
  · simp only [Course.drop, hi, hj]
    obtain ⟨hkeep, hafter, hsight⟩ := Call.keep_abandon h.facet
      (hd.isFor (List.mem_of_getElem? hj)) fun hhold => hd.sound.entry_of_hold (i := j) hhold
    rw [hcall, hsight]
    apply Keep.see
    apply h.move hc hd hi hj
    · rw [World.call_drop, hcall, hafter]
    · apply World.call_drop
    · rw [World.system_drop, World.system_drop, hcall]
      apply hkeep
  · simp only [Course.drop, hi, hj]
    exact (Keep.refl h).see .denied

/-- Whether a channel is there in one course just when the renamed channel is there in another. -/
def InRange (ρ : Renaming) (c d : Course) : Prop :=
  ∀ ch : ChannelId, (ρ.channel ch).index < c.system.fabric.channels.size
    ↔ ch.index < d.system.fabric.channels.size

variable (plan factory callback) in
/-- A call for the name is asked for alike in both courses. -/
theorem Mirrors.ask (h : c.Mirrors ρ settings name d) (hc : c.IsOrderly settings)
    (hd : d.IsOrderly settings) (hrange : InRange ρ c d) (request : Request Unit)
    (hrequest : request.IsFor name) :
  let setup := PlannedBinder.setup plan settings factory callback
  Keep ρ settings name c (c.ask setup name (request.rename ρ)) d (d.ask setup name request)
  := by
  intro setup
  have hchannels : (request.rename ρ).channels = request.channels.map ρ.channel := by
    cases request with
    | attach | bindConsumer => exact hrequest.elim
    | _ => rfl
  have hguard : (∀ ch ∈ (request.rename ρ).channels, ch.index < c.system.fabric.channels.size)
      ↔ ∀ ch ∈ request.channels, ch.index < d.system.fabric.channels.size := by
    rw [hchannels, List.forall_mem_map]
    exact forall₂_congr fun ch _ => hrange ch
  by_cases hin : ∀ ch ∈ request.channels, ch.index < d.system.fabric.channels.size
  · have hin' := hguard.mpr hin
    obtain ⟨hkeep, hcall, hsight⟩ := Request.keep_begin plan factory callback h.facet hrequest
    have hsystem : (d.begin setup name request).system = (request.begin setup d.system).1 :=
      congrArg World.system (World.next_call hin)
    have hsystem' : (c.begin setup name (request.rename ρ)).system
        = ((request.rename ρ).begin setup c.system).1 := congrArg World.system (World.next_call hin')
    rw [← hsystem, ← hsystem'] at hkeep
    simp only [Course.ask, if_pos hin, if_pos hin']
    rw [hsight]
    apply Keep.see
    refine ⟨⟨hkeep.facet, ?_, h.seen⟩, hkeep.count⟩
    rw [hc.calls_begin hin', hd.calls_begin hin, h.calls, hcall, List.map_append, List.map_singleton]
  · have hout := mt hguard.mp hin
    simp only [Course.ask, if_neg hin, if_neg hout]
    exact (Keep.refl h).see .denied

/-- A channel that is meant in one course is the renamed one of what is meant in another. -/
theorem Mirrors.output (h : c.Mirrors ρ settings name d) {output : Output}
    (hgiven : ∀ {ch}, output = .given ch → ρ.channel ch = ch) :
  output.channel? (c.seen name) = (output.channel? (d.seen name)).map ρ.channel
  := by
  cases output with
  | given ch => simp only [Output.channel?, Option.map_some, hgiven rfl]
  | answered k =>
    have hanswers : (c.seen name).filterMap Sight.channel?
        = ((d.seen name).filterMap Sight.channel?).map ρ.channel := by
      rw [h.seen, List.filterMap_map, List.map_filterMap]
      exact List.filterMap_congr fun sight _ => sight.channel?_rename
    simp only [Output.channel?, hanswers, List.getElem?_map]

variable (plan factory callback) in
/-- Whatever is done for the name is done alike in both courses. -/
theorem Mirrors.next (h : c.Mirrors ρ settings name d) (hc : c.IsOrderly settings)
    (hd : d.IsOrderly settings) (hrange : InRange ρ c d) {doing : Doing} (hname : doing.name = name)
    (hgiven : ∀ {ch properties}, doing.deed = .bindProducer (.given ch) properties →
      ρ.channel ch = ch)
    (hsuits : ρ.Suits c.system
      (c.next (PlannedBinder.setup plan settings factory callback) doing).system d.system) :
  let setup := PlannedBinder.setup plan settings factory callback
  Keep ρ settings name c (c.next setup doing) d (d.next setup doing)
  := by
  obtain ⟨_, deed⟩ := doing
  subst hname
  cases deed with
  | resolve => exact h.ask plan factory callback hc hd hrange (.resolve _) rfl
  | bindProducer output properties =>
    have hmeant := h.output fun houtput => hgiven (congrArg (Deed.bindProducer · properties) houtput)
    simp only [Course.next, hmeant]
    cases output.channel? (d.seen _) with
    | none => exact (Keep.refl h).see .denied
    | some ch =>
      exact h.ask plan factory callback hc hd hrange (.bindProducer _ ch properties) rfl
  | unbindProducers =>
    exact h.ask plan factory callback hc hd hrange (.unbindTracked .producer _) ⟨rfl, rfl⟩
  | look =>
    have hfound {n : String} (hplace : c.system.cache.Mirrors ρ n d.system.cache) :
        (c.system.cache.get? n).map (·.binding)
          = ((d.system.cache.get? n).map (·.binding)).map ρ.binding := by
      rw [hplace.get?, Option.map_map, Option.map_map]
      rfl
    simp only [Course.next, hfound h.facet.cache]
    exact (Keep.refl h).see (.found _)
  | advance k => exact h.advance plan factory callback hc hd k hsuits
  | drop k => exact h.drop plan factory callback hc hd k

end Course

end ChannelBinding
