import ChannelBinding.Proofs.Dispatch
import Mathlib.Data.List.TakeWhile

/-!
# Taking turns

How a channel shares messages out between subscribers some of whom accept every message and the others
none.  Each message goes to the first in its turn who accepts.  Over a turn of the cycle, whoever accepts
gets one message for itself and one for each of the failing subscribers directly before it; so where
everybody accepts, the shares are even.
-/

namespace ChannelBinding

/-! ## Cycles -/

section Cycles

variable {accepts : HandlerId → Bool} {h : HandlerId} {hs others : List HandlerId}

/-- Of the places to begin at in a list, one more leads to its end without an acceptance than there are
failures at its end. -/
theorem countP_drop (accepts : HandlerId → Bool) (hs : List HandlerId) :
  (List.range (hs.length + 1)).countP (fun j => (hs.drop j).all fun h => !accepts h)
    = 1 + (hs.reverse.takeWhile fun h => !accepts h).length
  := by
  induction hs with
  | nil => rfl
  | cons h hs ih =>
    rw [List.length_cons, List.range_succ_eq_map, List.countP_cons, List.countP_map]
    have hrest : (fun j => ((h :: hs).drop j).all fun h => !accepts h) ∘ Nat.succ
        = fun j => (hs.drop j).all fun h => !accepts h := by
      funext j
      rfl
    rw [hrest, ih, List.drop_zero, List.reverse_cons, List.takeWhile_append]
    by_cases hall : hs.all fun h => !accepts h
    · have htake : hs.reverse.takeWhile (fun h => !accepts h) = hs.reverse := by
        apply List.takeWhile_eq_self_iff.mpr
        simpa using hall
      rw [htake, if_pos rfl]
      cases hh : accepts h with
      | false =>
        simp [hh, hall]
        omega
      | true => simp [hh]
    · have htake : (hs.reverse.takeWhile fun h => !accepts h).length ≠ hs.reverse.length := by
        intro hlength
        apply hall
        rw [← List.all_reverse, List.all_eq_true, ← List.takeWhile_eq_self_iff]
        apply (List.takeWhile_prefix _).eq_of_length hlength
      rw [if_neg htake]
      simp [hall]

/-- Whoever comes last and accepts is the first to accept from a place on if nobody does between. -/
theorem find?_rotate_eq_iff (hh : accepts h = true) (hnot : h ∉ others) {j : Nat}
    (hj : j ≤ others.length) :
  ((others ++ [h]).rotate j).find? accepts = some h
    ↔ (others.drop j).all (fun h => !accepts h) = true
  := by
  rw [List.rotate_eq_drop_append_take (by rw [List.length_append]; omega),
    List.drop_append_of_le_length hj, List.append_assoc, List.find?_append]
  cases hfind : (others.drop j).find? accepts with
  | none =>
    simp [hh]
    simpa using hfind
  | some other =>
    have hmem := List.mem_of_find?_eq_some hfind
    have hother := List.find?_some hfind
    constructor
    · intro heq
      cases heq
      apply absurd (List.mem_of_mem_drop hmem) hnot
    · intro hall
      have hfails := List.all_eq_true.mp hall other hmem
      simp [hother] at hfails

/-- The ways to begin in a cycle are the same from wherever they are counted. -/
theorem map_rotate_perm (hs : List HandlerId) (k : Nat) :
  ((List.range hs.length).map fun j => hs.rotate (k + j)).Perm ((List.range hs.length).map hs.rotate)
  := by
  by_cases hne : hs = []
  · subst hne
    rfl
  · have hrotated : ∀ hs : List HandlerId, hs ≠ [] →
        (List.range hs.length).map hs.rotate = hs.cyclicPermutations := by
      intro hs hne
      apply List.ext_getElem
      · rw [List.length_map, List.length_range, List.length_cyclicPermutations_of_ne_nil hs hne]
      · intro j _ _
        simp
    have hk : ((List.range hs.length).map fun j => hs.rotate (k + j))
        = (hs.rotate k).cyclicPermutations := by
      rw [← hrotated _ (mt List.rotate_eq_nil_iff.mp hne), List.length_rotate]
      apply List.map_congr_left
      intro j _
      rw [List.rotate_rotate]
    rw [hk, hrotated hs hne, List.cyclicPermutations_rotate]
    apply List.rotate_perm

/-- The number of failures directly before a place in a cycle of handlers. -/
def failuresBefore (accepts : HandlerId → Bool) (hs : List HandlerId) (i : Nat) : Nat :=
  ((hs.rotate i).reverse.takeWhile fun h => !accepts h).length

theorem failuresBefore_eq_zero (hall : ∀ h ∈ hs, accepts h = true) (i : Nat) :
  failuresBefore accepts hs i = 0
  := by
  rw [failuresBefore, List.length_eq_zero_iff, List.takeWhile_eq_nil_iff]
  intro hpos
  have hmem := List.getElem_mem hpos
  rw [List.mem_reverse, List.mem_rotate] at hmem
  rw [List.get_eq_getElem, hall _ hmem]
  apply Bool.false_ne_true

/-- In how many of some turns, counted from a place on, a handler is the first to accept. -/
def turnsTaken (accepts : HandlerId → Bool) (hs : List HandlerId) (h : HandlerId) (k n : Nat) : Nat :=
  (List.range n).countP fun j => (hs.rotate (k + j)).find? accepts = some h

theorem turnsTaken_add (accepts : HandlerId → Bool) (hs : List HandlerId) (h : HandlerId)
    (k n n' : Nat) :
  turnsTaken accepts hs h k (n + n') = turnsTaken accepts hs h k n + turnsTaken accepts hs h (k + n) n'
  := by
  rw [turnsTaken, List.range_add, List.countP_append, List.countP_map, turnsTaken, turnsTaken]
  congr 2
  funext j
  rw [Function.comp_apply, Nat.add_assoc]

/-- Once around the cycle, whoever accepts takes its own turn and those of the failures before it. -/
theorem turnsTaken_cycle (hnodup : hs.Nodup) {i : Nat} (hi : hs[i]? = some h) (hh : accepts h = true)
    (k : Nat) :
  turnsTaken accepts hs h k hs.length = 1 + failuresBefore accepts hs i
  := by
  obtain ⟨hlt, rfl⟩ := List.getElem?_eq_some_iff.mp hi
  obtain ⟨others, hothers⟩ : ∃ others, hs.rotate i = hs[i] :: others := by
    refine ⟨hs.drop (i + 1) ++ hs.take i, ?_⟩
    rw [List.rotate_eq_drop_append_take (Nat.le_of_lt hlt), List.drop_eq_getElem_cons hlt]
    rfl
  have hlength : hs.length = others.length + 1 := by
    rw [← List.length_rotate hs i, hothers, List.length_cons]
  have hnot : hs[i] ∉ others := by
    rw [← List.nodup_rotate, hothers, List.nodup_cons] at hnodup
    exact hnodup.1
  -- the turns may as well be counted from the place after the handler on, where it comes last
  have hlast : hs.rotate (i + 1) = others ++ [hs[i]] := by
    rw [← List.rotate_rotate, hothers, List.rotate_cons_succ, List.rotate_zero]
  have hfrom : ∀ k, turnsTaken accepts hs hs[i] k hs.length
      = ((List.range hs.length).map hs.rotate).countP fun hs' => hs'.find? accepts = some hs[i] := by
    intro k
    rw [← (map_rotate_perm hs k).countP_eq, List.countP_map]
    rfl
  have hstop : (others.reverse ++ [hs[i]]).takeWhile (fun h => !accepts h)
      = others.reverse.takeWhile fun h => !accepts h := by
    rw [List.takeWhile_append]
    split
    · rename_i hall
      rw [List.takeWhile_cons_of_neg (by simp [hh]), List.append_nil]
      symm
      apply (List.takeWhile_prefix _).eq_of_length hall
    · rfl
  rw [hfrom, ← hfrom (i + 1), turnsTaken, hlength, failuresBefore, hothers, List.reverse_cons, hstop,
    ← countP_drop]
  apply List.countP_congr
  intro j hj
  rw [← List.rotate_rotate, hlast, decide_eq_true_iff]
  apply find?_rotate_eq_iff hh hnot
  apply Nat.le_of_lt_succ (List.mem_range.mp hj)

/-- Where everybody accepts, everybody takes an even share of the turns. -/
theorem turnsTaken_even (hnodup : hs.Nodup) (hall : ∀ h ∈ hs, accepts h = true) (hmem : h ∈ hs)
    (k n : Nat) :
  turnsTaken accepts hs h k n = n / hs.length
    ∨ turnsTaken accepts hs h k n = (n + hs.length - 1) / hs.length
  := by
  have hpos : 0 < hs.length := List.length_pos_of_mem hmem
  have hcycle : ∀ k, turnsTaken accepts hs h k hs.length = 1 := by
    intro k
    obtain ⟨i, hi⟩ := List.getElem?_of_mem hmem
    rw [turnsTaken_cycle hnodup hi (hall h hmem), failuresBefore_eq_zero hall]
  induction n using Nat.strong_induction_on generalizing k with
  | _ n ih =>
    by_cases hlt : n < hs.length
    · -- the turns are among those of one cycle
      have hle : turnsTaken accepts hs h k n ≤ 1 := by
        have hadd := turnsTaken_add accepts hs h k n (hs.length - n)
        rw [Nat.add_sub_of_le (Nat.le_of_lt hlt), hcycle] at hadd
        omega
      rcases Nat.le_one_iff_eq_zero_or_eq_one.mp hle with hnone | hone
      · left
        rw [hnone, Nat.div_eq_of_lt hlt]
      · right
        have hn : 0 < n := by
          apply Nat.pos_of_ne_zero
          rintro rfl
          cases hone
        rw [hone, Nat.div_eq_of_lt_le]
        · omega
        · omega
    · obtain ⟨rest, rfl⟩ := Nat.exists_eq_add_of_le (Nat.le_of_not_lt hlt)
      rw [turnsTaken_add, hcycle]
      rcases ih rest (by omega) (k + hs.length) with hfloor | hceil
      · left
        rw [hfloor, Nat.add_div_left _ hpos, Nat.add_comm]
      · right
        have hsum : hs.length + rest + hs.length - 1 = hs.length + (rest + hs.length - 1) := by
          omega
        rw [hceil, hsum, Nat.add_div_left _ hpos, Nat.add_comm]

end Cycles

/-! ## Steady subscribers -/

/-- The calls by which subscribers of a channel have accepted a message in a dispatch on it. -/
def Outcome.acceptances (o : Outcome) (c : ChannelId) : List HandlerCall :=
  o.accepted.filter fun call => call.path = [c]

/-- How many messages a handler has accepted from a channel in some dispatches on it. -/
def sharedOut (os : List Outcome) (c : ChannelId) (h : HandlerId) : Nat :=
  (os.flatMap fun o => o.acceptances c).countP fun call => call.handler = h

/-- Whether each of some handlers always accepts or always fails, and leaves a channel as it is, while
what holds of the fabric holds on. -/
structure Steady (take : Taking) (c : ChannelId) (hs : List HandlerId) (accepts : HandlerId → Bool)
    (I : Fabric → Prop) : Prop where
  emit : ∀ {f} (e : Event), I f → I (f.emit e)
  turn : ∀ {f channel}, I f → f.channel? c = some channel → I (f.countTurn c channel)
  /-- Every handler returns, its verdict is fixed, and it neither subscribes to the channel nor takes a
  subscription away nor sends on it.  What it calls it reaches by sends, on some path. -/
  take : ∀ {f h} (m : Message), I f → h ∈ hs → ∃ o f', take h m f = some (o, f') ∧ I f'
    ∧ f'.channel? c = f.channel? c ∧ (o.verdict = .ok () ↔ accepts h = true)
    ∧ ∀ call ∈ o.calls, call.path ≠ []

section Dispatches

variable {take : Taking} {c : ChannelId} {accepts : HandlerId → Bool} {I : Fabric → Prop}
  {f f' : Fabric} {channel : Channel} {m : Message} {o taken : Outcome} {h : HandlerId}
  {tries : List Try}

/-- The acceptances among the calls of a try: its own call, if it accepts. -/
theorem Outcome.acceptances_callsOf (hpath : ∀ call ∈ taken.calls, call.path ≠ []) (c : ChannelId)
    (h : HandlerId) (m : Message) (verdict : Verdict) :
  acceptances ⟨taken.callsOf c h m, verdict⟩ c
    = if taken.verdict.isOk then [⟨[c], h, m, taken.verdict⟩] else []
  := by
  have hinner : ((taken.through c).calls.filter fun call => call.verdict.isOk).filter
      (fun call => call.path = [c]) = [] := by
    rw [List.filter_filter, List.filter_eq_nil_iff]
    intro call hcall
    obtain ⟨inner, hinner, rfl⟩ := List.mem_map.mp hcall
    simp [hpath inner hinner]
  rw [acceptances, accepted, callsOf, List.filter_cons]
  split
  · rw [List.filter_cons_of_pos (by simp), hinner]
  · exact hinner

/-- The first of the handlers that are tried who accepts is the only one who does. -/
theorem Tried.acceptances (htried : Tried take c m f tries f')
    (hsteady : ∀ t ∈ tries, (t.taken.verdict = .ok () ↔ accepts t.handler = true)
      ∧ ∀ call ∈ t.taken.calls, call.path ≠ []) (verdict : Verdict) :
  Outcome.acceptances ⟨tries.flatMap fun t => t.taken.callsOf c t.handler m, verdict⟩ c
    = ((tries.map Try.handler).find? accepts).toList.map fun h => ⟨[c], h, m, .ok ()⟩
  := by
  induction htried with
  | nobody f => rfl
  | @accepted f t hbefore ht hok =>
    obtain ⟨hverdict, hpath⟩ := hsteady t List.mem_cons_self
    rw [List.flatMap_singleton, Outcome.acceptances_callsOf hpath, hok, List.map_singleton,
      List.find?_singleton, if_pos (hverdict.mp hok)]
    rfl
  | @passed f f' t tries e hbefore ht he htries ih =>
    obtain ⟨hverdict, hpath⟩ := hsteady t List.mem_cons_self
    have hfails : ¬ accepts t.handler = true := by
      rw [← hverdict, he]
      rintro ⟨⟩
    have hfirst := Outcome.acceptances_callsOf hpath c t.handler m verdict
    rw [he, if_neg (by rintro ⟨⟩)] at hfirst
    have hrest := ih fun t ht => hsteady t (List.mem_cons_of_mem _ ht)
    rw [List.map_cons, List.find?_cons_of_neg hfails, ← hrest]
    rw [Outcome.acceptances, Outcome.accepted] at hfirst ⊢
    rw [List.flatMap_cons, List.filter_append, List.filter_append, hfirst]
    rfl

/-- Only the last of some tries may accept. -/
theorem Tried.getLast?_of_ok (htried : Tried take c m f tries f') {t : Try} (ht : t ∈ tries)
    (hok : t.taken.verdict = .ok ()) :
  tries.getLast? = some t
  := by
  induction htried with
  | nobody f => cases ht
  | accepted hbefore htake hok' =>
    cases List.mem_singleton.mp ht
    rfl
  | passed hbefore htake he htries ih =>
    rcases List.mem_cons.mp ht with rfl | ht
    · rw [he] at hok
      cases hok
    · rw [List.getLast?_cons, ih ht]
      rfl

/-- The handlers that a dispatch tries are the first of those that it may be offered to. -/
theorem Channel.TriesInTurn.handlers (htries : channel.TriesInTurn take c m f tries o f') :
  tries.map Try.handler <+: channel.subscribers.rotate channel.turn.toNat
  := by
  rw [List.prefix_iff_getElem?]
  intro j hj
  rw [List.length_map] at hj
  rw [List.getElem?_rotate (Nat.lt_of_lt_of_le hj htries.length_le), Nat.add_comm, List.getElem_map]
  apply htries.handler
  apply List.getElem?_eq_getElem hj

/-- A message that is dispatched to steady subscribers is accepted by the first in turn who accepts. -/
theorem dispatch_of_steady (hsteady : Steady take c channel.subscribers accepts I) (hf : I f)
    (hc : f.channel? c = some channel) (hsome : ∃ h ∈ channel.subscribers, accepts h = true)
    (m : Message) :
  ∃ o f' h, dispatch take c m f = some (o, f') ∧ I f'
    ∧ f'.channel? c = some { channel with turn := channel.turn + 1 } ∧ o.verdict = .ok ()
    ∧ (channel.subscribers.rotate channel.turn.toNat).find? accepts = some h
    ∧ o.acceptances c = [⟨[c], h, m.stamp channel.contentType, .ok ()⟩]
  := by
  obtain ⟨h, hmem, haccepts⟩ := hsome
  have hafter : (f.countTurn c channel).channel? c
      = some { channel with turn := channel.turn + 1 } := by
    rw [Fabric.countTurn, Fabric.channel?_setChannel, if_pos rfl, hc]
    rfl
  have htake : ∀ h ∈ channel.subscribers, ∀ {f},
      (I f ∧ f.channel? c = some { channel with turn := channel.turn + 1 }) →
        ∃ o f', take h (m.stamp channel.contentType) f = some (o, f')
          ∧ (I f' ∧ f'.channel? c = some { channel with turn := channel.turn + 1 })
          ∧ (o.verdict = .ok () ↔ accepts h = true) ∧ ∀ call ∈ o.calls, call.path ≠ [] := by
    rintro h hmem f ⟨hf, hc⟩
    obtain ⟨o, f', ht, hf', hc', hverdict⟩ := hsteady.take (m.stamp channel.contentType) hf hmem
    exact ⟨o, f', ht, ⟨hf', hc'.trans hc⟩, hverdict⟩
  obtain ⟨o, f', tries, hdispatch, htries, ⟨hf', hc'⟩, hverdicts⟩ :=
    dispatch_keeps hc (List.ne_nil_of_mem hmem) (fun e hf => ⟨hsteady.emit e hf.1, hf.2⟩)
      ⟨hsteady.turn hf hc, hafter⟩ htake
  have hverdict : o.verdict = .ok () := by
    cases herror : o.verdict with
    | ok => rfl
    | error e =>
      -- everybody is tried then, also the one who accepts
      obtain ⟨hall, last, hlast, he, -⟩ := htries.rejected herror
      have heq := htries.handlers.eq_of_length (by rw [List.length_map, List.length_rotate, hall])
      rw [← List.mem_rotate, ← heq] at hmem
      obtain ⟨t, ht, rfl⟩ := List.mem_map.mp hmem
      have hok := (hverdicts t ht).1.mpr haccepts
      rw [htries.tried.getLast?_of_ok ht hok] at hlast
      cases hlast
      rw [hok] at he
      cases he
  obtain ⟨t, ht, hok⟩ := htries.ok_iff.mp hverdict
  have htmem := List.mem_of_getLast? ht
  obtain ⟨h', hfind⟩ : ∃ h', (tries.map Try.handler).find? accepts = some h' := by
    apply Option.isSome_iff_exists.mp
    apply List.find?_isSome.mpr
    exact ⟨t.handler, List.mem_map_of_mem htmem, (hverdicts t htmem).1.mp hok⟩
  have hcalls := htries.tried.acceptances hverdicts o.verdict
  rw [← htries.calls_eq, hfind] at hcalls
  refine ⟨o, f', h', hdispatch, hf', hc', hverdict, ?_, hcalls⟩
  obtain ⟨others, heq⟩ := htries.handlers
  rw [← heq, List.find?_append, hfind]
  rfl

end Dispatches

/-! ## Runs -/

section Runs

variable {take : Taking} {c : ChannelId} {accepts : HandlerId → Bool} {I : Fabric → Prop}
  {f : Fabric} {channel : Channel} {ms : List Message} {os window : List Outcome} {h : HandlerId}
  {hs : List HandlerId} {contentType : Option String} {k : Nat}

/-- Whether some messages that were dispatched one after the other were each accepted once, by the first
in its turn who accepts; the turns are counted from a place on. -/
inductive TakenInTurn (accepts : HandlerId → Bool) (hs : List HandlerId) (c : ChannelId)
    (contentType : Option String) : Nat → List Message → List Outcome → Prop where
  | nil (k : Nat) : TakenInTurn accepts hs c contentType k [] []
  | cons {k : Nat} {m : Message} {ms : List Message} {o : Outcome} {os : List Outcome} {h : HandlerId}
      (hok : o.verdict = .ok ()) (hfirst : (hs.rotate k).find? accepts = some h)
      (hcalls : o.acceptances c = [⟨[c], h, m.stamp contentType, .ok ()⟩])
      (hrest : TakenInTurn accepts hs c contentType (k + 1) ms os) :
    TakenInTurn accepts hs c contentType k (m :: ms) (o :: os)

/-- Messages that are dispatched to steady subscribers are accepted in turn. -/
theorem dispatches_of_steady (hsteady : Steady take c channel.subscribers accepts I) (hf : I f)
    (hc : f.channel? c = some channel) (hsome : ∃ h ∈ channel.subscribers, accepts h = true)
    (hk : channel.turn.toNat = k % UInt64.size) (hturns : k + ms.length ≤ UInt64.size) :
  ∃ os f', ms.mapM (dispatch take c) f = some (os, f')
    ∧ TakenInTurn accepts channel.subscribers c channel.contentType k ms os
  := by
  induction ms generalizing f channel k with
  | nil => exact ⟨[], f, rfl, .nil k⟩
  | cons m ms ih =>
    rw [List.length_cons] at hturns
    obtain ⟨o, f₁, h, hdispatch, hf₁, hc₁, hok, hfirst, hcalls⟩ :=
      dispatch_of_steady hsteady hf hc hsome m
    have hk₁ : (channel.turn + 1).toNat = (k + 1) % UInt64.size := by
      rw [UInt64.toNat_add, hk, UInt64.toNat_one, Nat.mod_add_mod]
    obtain ⟨os, f', hrun, hrest⟩ :=
      @ih f₁ { channel with turn := channel.turn + 1 } (k + 1) hsteady hf₁ hc₁ hsome hk₁ (by omega)
    refine ⟨o :: os, f', ?_, ?_⟩
    · rw [List.mapM_cons]
      change (dispatch take c m f).bind _ = _
      rw [hdispatch, Option.bind_some]
      change (ms.mapM (dispatch take c) f₁).bind _ = _
      rw [hrun]
      rfl
    · rw [hk, Nat.mod_eq_of_lt (by omega)] at hfirst
      apply TakenInTurn.cons hok hfirst hcalls hrest

/-- Messages that are accepted in turn may be cut anywhere. -/
theorem TakenInTurn.split {earlier later : List Outcome}
    (hturns : TakenInTurn accepts hs c contentType k ms (earlier ++ later)) :
  ∃ ms₁ k₂ ms₂, TakenInTurn accepts hs c contentType k ms₁ earlier
    ∧ TakenInTurn accepts hs c contentType k₂ ms₂ later
  := by
  induction earlier generalizing k ms with
  | nil => exact ⟨[], k, ms, .nil k, hturns⟩
  | cons o earlier ih =>
    cases hturns with
    | cons hok hfirst hcalls hrest =>
      obtain ⟨ms₁, k₂, ms₂, hearlier, hlater⟩ := ih hrest
      exact ⟨_ :: ms₁, k₂, ms₂, .cons hok hfirst hcalls hearlier, hlater⟩

/-- Messages in a row among those accepted in turn are accepted in turn, counted from elsewhere. -/
theorem TakenInTurn.of_infix (hturns : TakenInTurn accepts hs c contentType k ms os)
    (hwindow : window <:+: os) :
  ∃ k ms, TakenInTurn accepts hs c contentType k ms window
  := by
  obtain ⟨earlier, later, rfl⟩ := hwindow
  obtain ⟨_, _, _, hupto, _⟩ := hturns.split
  obtain ⟨_, k', ms', _, hmiddle⟩ := hupto.split
  exact ⟨k', ms', hmiddle⟩

/-- Of messages that are accepted in turn, a handler gets those in whose turn it is the first to accept. -/
theorem TakenInTurn.sharedOut_eq (hturns : TakenInTurn accepts hs c contentType k ms os)
    (h : HandlerId) :
  sharedOut os c h = turnsTaken accepts hs h k os.length
  := by
  induction hturns with
  | nil k => rfl
  | @cons k m ms o os h' hok hfirst hcalls hrest ih =>
    rw [List.length_cons, Nat.add_comm, turnsTaken_add, ← ih, sharedOut, List.flatMap_cons, hcalls,
      List.countP_append, sharedOut]
    congr 1
    simp [turnsTaken, List.range_one, List.countP_cons, hfirst]

/-- How dispatches on a channel share messages out among subscribers who each always accept or always
fail. -/
structure Channel.SharesFairly (channel : Channel) (accepts : HandlerId → Bool) (c : ChannelId)
    (ms : List Message) (os : List Outcome) : Prop where
  /-- Every message is accepted by one subscriber, once. -/
  accepted : List.Forall₂ (fun m o => o.verdict = .ok () ∧ ∃ h ∈ channel.subscribers, accepts h = true
    ∧ o.acceptances c = [⟨[c], h, m.stamp channel.contentType, .ok ()⟩]) ms os
  /-- Of as many messages in a row as there are subscribers, whoever accepts gets one and one more for
  each of the failures directly before it. -/
  share : ∀ {window i h}, window <:+: os → window.length = channel.subscribers.length →
    channel.subscribers[i]? = some h → accepts h = true →
    sharedOut window c h = 1 + failuresBefore accepts channel.subscribers i
  /-- Where everybody accepts, everybody gets an even share of any messages in a row. -/
  even : ∀ {window h}, window <:+: os → (∀ h ∈ channel.subscribers, accepts h = true) →
    h ∈ channel.subscribers →
    sharedOut window c h = window.length / channel.subscribers.length
      ∨ sharedOut window c h
        = (window.length + channel.subscribers.length - 1) / channel.subscribers.length

/-- Messages that are accepted in turn are shared out fairly. -/
theorem TakenInTurn.sharesFairly
    (hturns : TakenInTurn accepts channel.subscribers c channel.contentType k ms os)
    (hnodup : channel.subscribers.Nodup) :
  channel.SharesFairly accepts c ms os
  := by
  constructor
  · clear hnodup
    induction hturns with
    | nil k => apply List.Forall₂.nil
    | @cons k m ms o os h hok hfirst hcalls hrest ih =>
      refine .cons ⟨hok, h, ?_, List.find?_some hfirst, hcalls⟩ ih
      apply List.mem_rotate.mp (List.mem_of_find?_eq_some hfirst)
  · intro window i h hwindow hlength hi hh
    obtain ⟨k', ms', hmiddle⟩ := hturns.of_infix hwindow
    rw [hmiddle.sharedOut_eq, hlength]
    apply turnsTaken_cycle hnodup hi hh
  · intro window h hwindow hall hmem
    obtain ⟨k', ms', hmiddle⟩ := hturns.of_infix hwindow
    rw [hmiddle.sharedOut_eq]
    apply turnsTaken_even hnodup hall hmem

/-- Messages that are dispatched to subscribers who each always accept or always fail, and who leave the
channel as it is, are shared out fairly while the count of turns does not start anew. -/
theorem dispatches_share_fairly {take : Taking} {c : ChannelId} {channel : Channel}
    {accepts : HandlerId → Bool} {I : Fabric → Prop} {f : Fabric}
    (hsteady : Steady take c channel.subscribers accepts I) (hf : I f)
    (hc : f.channel? c = some channel) (hnodup : channel.subscribers.Nodup)
    (hsome : ∃ h ∈ channel.subscribers, accepts h = true) (ms : List Message)
    (hturns : channel.turn.toNat + ms.length ≤ UInt64.size) :
  ∃ os f', ms.mapM (dispatch take c) f = some (os, f') ∧ channel.SharesFairly accepts c ms os
  := by
  have hk : channel.turn.toNat = channel.turn.toNat % UInt64.size := by
    rw [Nat.mod_eq_of_lt]
    apply UInt64.toNat_lt
  obtain ⟨os, f', hrun, htaken⟩ := dispatches_of_steady hsteady hf hc hsome hk hturns
  exact ⟨os, f', hrun, htaken.sharesFairly hnodup⟩

end Runs

/-! ## Handlers of fixed verdicts -/

/-- Whether each of some handlers has a fixed verdict, and who of them accepts. -/
def Fabric.Answers (f : Fabric) (hs : List HandlerId) (accepts : HandlerId → Bool) : Prop :=
  ∀ h ∈ hs, ∃ verdict, f.manner h = some (.answering verdict)
    ∧ (verdict = .ok () ↔ accepts h = true)

theorem Handler.isPassive_of_answering {handler : Handler} {verdict : Verdict}
    (hmanner : handler.manner = some (.answering verdict)) :
  handler.isPassive = true
  := by
  cases handler with
  | collecting received => rfl
  | failing error => rfl
  | forwarding target => cases hmanner
  | scripted outcomes actions received =>
    cases actions with
    | nil => rfl
    | cons action rest => cases hmanner
  | reporting name received => rfl

/-- Handlers of fixed verdicts are steady subscribers. -/
theorem steady_of_answers (send : ChannelId → Message → Work Outcome) (c : ChannelId)
    (hs : List HandlerId) (accepts : HandlerId → Bool) :
  Steady (Handler.take send) c hs accepts fun f => f.Answers hs accepts
  := by
  constructor
  · intro f e hf
    exact hf
  · intro f channel hf _
    exact hf
  · intro f h m hf hmem
    obtain ⟨verdict, hmanner, haccepts⟩ := hf h hmem
    obtain ⟨handler, hh, hanswer⟩ := Option.bind_eq_some_iff.mp hmanner
    obtain ⟨o, f', ht, halike, rfl⟩ :=
      @Fabric.take_answering f send h m verdict hmanner f (Fabric.Alike.refl f)
    obtain ⟨verdict', f'', ht', hafter⟩ :=
      @take_passive f h send ⟨handler, hh, Handler.isPassive_of_answering hanswer⟩ m
    rw [ht] at ht'
    cases ht'
    refine ⟨⟨[], verdict⟩, f', ht, ?_, ?_, haccepts, ?_⟩
    · intro h' hmem'
      obtain ⟨verdict', hmanner', haccepts'⟩ := hf h' hmem'
      exact ⟨verdict', halike.manner hmanner', haccepts'⟩
    · rw [Fabric.channel?, hafter.channels]
      rfl
    · rintro call ⟨⟩

/-- A channel with two subscribers that accept, behind one that fails and behind two; five more of its
turns can be counted. -/
def rota : Fabric where
  channels := #[⟨"rota", some "text/plain", [⟨0⟩, ⟨1⟩, ⟨2⟩, ⟨3⟩, ⟨4⟩], .ofNat (UInt64.size - 5)⟩]
  handlers := #[.failing (.handlerFailed "out"), .collecting [], .failing (.handlerFailed "ill"),
    .failing (.handlerFailed "away"), .reporting "rota" 0]

/-- Of five messages that are sent, the one who accepts gets two and the other gets three. -/
theorem dispatches_share_fairly_rota :
  ∃ os f', ((List.range 5).map fun n => ⟨⟨n⟩, ∅, []⟩).mapM (Fabric.send 1 ⟨0⟩) rota = some (os, f')
    ∧ sharedOut os ⟨0⟩ ⟨1⟩ = 2 ∧ sharedOut os ⟨0⟩ ⟨4⟩ = 3
  := by
  have hc : rota.channel? ⟨0⟩
      = some ⟨"rota", some "text/plain", [⟨0⟩, ⟨1⟩, ⟨2⟩, ⟨3⟩, ⟨4⟩], .ofNat (UInt64.size - 5)⟩ := rfl
  have hanswers : rota.Answers [⟨0⟩, ⟨1⟩, ⟨2⟩, ⟨3⟩, ⟨4⟩] fun h => h = ⟨1⟩ ∨ h = ⟨4⟩ := by
    intro h hmem
    simp only [List.mem_cons, List.not_mem_nil, or_false] at hmem
    rcases hmem with rfl | rfl | rfl | rfl | rfl
    all_goals exact ⟨_, rfl, by simp⟩
  obtain ⟨os, f', hrun, hfair⟩ := dispatches_share_fairly (steady_of_answers (Fabric.send 0) ⟨0⟩ _ _)
    hanswers hc (by decide) ⟨⟨1⟩, by decide, by decide⟩
    ((List.range 5).map fun n => ⟨⟨n⟩, ∅, []⟩) (by decide +kernel)
  have hlength : os.length = 5 := hfair.accepted.length_eq.symm
  refine ⟨os, f', hrun, ?_, ?_⟩
  · rw [hfair.share (i := 1) List.infix_rfl hlength rfl (by decide)]
    rfl
  · rw [hfair.share (i := 4) List.infix_rfl hlength rfl (by decide)]
    rfl

end ChannelBinding
