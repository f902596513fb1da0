import Mathlib.Data.List.Nodup
import ZBot.Verify.Cron

/-!
# The registry of instances

The bot keeps every instance twice: in `_bercons`, which gets the Discord messages, and in
`_data[g].beRcons`, which a reload of the guild closes. `Agreement` says that the two hold the same
instances.

What `initBERcon` does to the two lists is said once. Building (`Grows`) appends the new instances
to both lists, one per server, whether it returns or throws in a constructor; closing (`Closes`)
takes them out of `_bercons`. What remains is `_data[g] = {…}` itself. It is run for a guild that
is there already when the bot is invited again, since `addActiveGuild` looks for a guild named
`key`, and the instances of the old data object are then out of reach of every reload
(`disagreement_rejoin`). So agreement needs `SafeOverwrite`, that what is overwritten lists no
instance (`run_agreement`).
-/

namespace ZBot

open Js BotM

/-! ## Building -/

/-- The world after building: instances for the configurations `cfgs` were made on the data object
`d` and listed, and nothing else changed. -/
structure Grows (d : DataRef) (cfgs : List Value) (w w' : World) : Prop where
  guildIds : w'.guildIds = w.guildIds
  gens : w'.gens = w.gens
  redis : w'.redis = w.redis
  running : w'.running = w.running
  others : ∀ d', d' ≠ d → w'.objs d' = w.objs d'
  guild : (w'.objs d).guild = (w.objs d).guild
  specific : (w'.objs d).specific = (w.objs d).specific
  built : (w.objs d).built ≤ (w'.objs d).built
  rcons : ∀ r, r.data ≠ d ∨ r.num < (w.objs d).built → w'.rcons r = w.rcons r
  news : ∃ rs : List RconRef, w'.bercons = w.bercons ++ rs ∧
    (w'.objs d).beRcons = (w.objs d).beRcons ++ rs ∧
    rs.map (fun r => (w'.rcons r).cfg) = cfgs ∧ rs.Nodup ∧
    ∀ r ∈ rs, r.data = d ∧ (w.objs d).built ≤ r.num ∧ r.num < (w'.objs d).built ∧
      (w'.rcons r).bnode ≠ none

theorem Grows.refl (d : DataRef) (w : World) : Grows d [] w w where
  guildIds := rfl
  gens := rfl
  redis := rfl
  running := rfl
  others _ _ := rfl
  guild := rfl
  specific := rfl
  built := le_rfl
  rcons _ _ := rfl
  news := ⟨[], by simp, by simp, rfl, List.nodup_nil, by simp⟩

theorem Grows.trans {d : DataRef} {cfgs cfgs' : List Value} {w w' w'' : World}
    (h : Grows d cfgs w w') (h' : Grows d cfgs' w' w'') : Grows d (cfgs ++ cfgs') w w'' where
  guildIds := h'.guildIds.trans h.guildIds
  gens := h'.gens.trans h.gens
  redis := h'.redis.trans h.redis
  running := h'.running.trans h.running
  others d' hd := (h'.others d' hd).trans (h.others d' hd)
  guild := h'.guild.trans h.guild
  specific := h'.specific.trans h.specific
  built := h.built.trans h'.built
  rcons r hr := (h'.rcons r (hr.imp_right fun h₁ => h₁.trans_le h.built)).trans (h.rcons r hr)
  news := by
    obtain ⟨rs, hbercons, hlist, hcfgs, hnodup, hrs⟩ := h.news
    obtain ⟨rs', hbercons', hlist', hcfgs', hnodup', hrs'⟩ := h'.news
    have hold : ∀ r ∈ rs, w''.rcons r = w'.rcons r := fun r hr =>
      h'.rcons r (.inr (hrs r hr).2.2.1)
    refine ⟨rs ++ rs', ?_, ?_, ?_, ?_, ?_⟩
    · rw [hbercons', hbercons, List.append_assoc]
    · rw [hlist', hlist, List.append_assoc]
    · rw [List.map_append, hcfgs']
      congr 1
      rw [← hcfgs]
      exact List.map_congr_left fun r hr => by rw [hold r hr]
    · refine List.nodup_append.2 ⟨hnodup, hnodup', fun r hr r' hr' heq => ?_⟩
      subst heq
      exact absurd (hrs r hr).2.2.1 (Nat.not_lt.2 (hrs' r hr').2.1)
    · intro r hr
      rcases List.mem_append.1 hr with hr | hr
      · obtain ⟨hd, hge, hlt, hnode⟩ := hrs r hr
        exact ⟨hd, hge, hlt.trans_le h'.built, by rw [hold r hr]; exact hnode⟩
      · obtain ⟨hd, hge, hlt, hnode⟩ := hrs' r hr
        exact ⟨hd, h.built.trans hge, hlt, hnode⟩

/-- The constructor of a new instance has run. -/
theorem construct_grows (env : Env) (o : Oracle) (d : DataRef) (server : Value) (position : Nat)
    (specific : Value) (w : World) :
    Grows d [] w (onRcon ⟨d, (w.objs d).built⟩ (construct env o specific)
      (w.alloc d server position)).2 where
  guildIds := rfl
  gens := rfl
  redis := rfl
  running := rfl
  others d' hd := (w.alloc_objs d d' server position).trans (if_neg hd)
  guild := by
    change ((w.alloc d server position).objs d).guild = _
    rw [World.alloc_objs, if_pos rfl]
  specific := w.alloc_specific d d server position
  built := (Nat.le_succ _).trans_eq ((w.alloc_built d d server position).trans (if_pos rfl)).symm
  rcons r hr := by
    have hne : r ≠ ⟨d, (w.objs d).built⟩ := by
      rintro rfl
      exact hr.elim (fun h => h rfl) (lt_irrefl _)
    simp [onRcon, World.record, World.setRcon, World.alloc, World.setObj, hne]
  news := ⟨[], (List.append_nil _).symm,
    (w.alloc_beRcons d d server position).trans (List.append_nil _).symm, rfl, List.nodup_nil,
    by simp⟩

theorem Grows.push {d : DataRef} {server : Value} {w w' : World} (h : Grows d [] w w')
    (hbuilt : (w.objs d).built < (w'.objs d).built)
    (hcfg : (w'.rcons ⟨d, (w.objs d).built⟩).cfg = server)
    (hbnode : (w'.rcons ⟨d, (w.objs d).built⟩).bnode ≠ none) :
    Grows d [server] w (w'.push ⟨d, (w.objs d).built⟩) := by
  obtain ⟨rs, hbercons, hlist, hcfgs, -, -⟩ := h.news
  obtain rfl : rs = [] := List.map_eq_nil_iff.1 hcfgs
  refine ⟨h.guildIds, h.gens, h.redis, h.running, fun d' hd => ?_, ?_, ?_, ?_, h.rcons,
    [⟨d, (w.objs d).built⟩], ?_, ?_, by simp [World.push, World.setObj, hcfg], by simp, ?_⟩
  · simp [World.push, World.setObj, hd, h.others d' hd]
  · simp [World.push, World.setObj, h.guild]
  · simp [World.push, World.setObj, h.specific]
  · simp [World.push, World.setObj, h.built]
  · simp [World.push, hbercons]
  · simp [World.push, World.setObj, hlist]
  · intro r hr
    rw [List.mem_singleton] at hr
    subst hr
    exact ⟨rfl, le_rfl, by simpa [World.push, World.setObj] using hbuilt, hbnode⟩

/-- A constructor that returns has made a BattleNode. -/
theorem construct_bnode {env : Env} {o : Oracle} {specific server : Value} {guild : Guild}
    (h : (construct env o specific ⟨.blank server guild, []⟩).1 = .ok ()) :
    (construct env o specific ⟨.blank server guild, []⟩).2.rcon.bnode ≠ none := by
  obtain ⟨new, l, hbuild, hl, -⟩ := (construct_link env o specific).of_ok
    (s := ⟨.blank server guild, []⟩) ⟨rfl, rfl⟩ h
  have : l.bnode ≠ none := by cases hbuild <;> simp [Link.renewed]
  rwa [← hl] at this

theorem buildRcon_grows (env : Env) (o : RconRef → Oracle) (d : DataRef) (server : Value)
    (position : Nat) (cfgs : List Value) (w : World) :
    Prog.Triple (Grows d cfgs w) (buildRcon env o d server position)
      (fun _ => Grows d (cfgs ++ [server]) w) (Grows d cfgs w) := by
  intro w' hw'
  let r : RconRef := ⟨d, (w'.objs d).built⟩
  let x := construct env (o r) (w'.objs d).specific
  let blank : RconSt := ⟨.blank server (w'.objs d).guild, []⟩
  have hgrows := construct_grows env (o r) d server position (w'.objs d).specific w'
  have hbuilt := (World.alloc_built w' d d server position).trans (if_pos rfl)
  have hnew : (w'.alloc d server position).rcons r = blank.rcon := by
    simp [World.alloc, World.setRcon, r, blank]
  rw [buildRcon_apply]
  rcases h : onRcon r x (w'.alloc d server position) with ⟨e | _, w₁⟩
  · rw [Prog.bind_error h]
    rw [h] at hgrows
    simpa using hw'.trans hgrows
  · rw [Prog.bind_ok h]
    rw [h] at hgrows
    -- the new instance is what the constructor left
    have hreturned : (x blank).1 = .ok () := by
      have := congrArg Prod.fst h
      simpa [onRcon, hnew] using this
    have hrcon : w₁.rcons r = (x blank).2.rcon := by
      have := congrArg (fun p => p.2.rcons r) h
      simpa [onRcon, hnew, World.record, World.setRcon] using this.symm
    refine hw'.trans (hgrows.push ?_ ?_ ?_)
    · have := congrArg (fun p => (p.2.objs d).built) h
      exact (Nat.lt_succ_self _).trans_eq (hbuilt.symm.trans this)
    · rw [hrcon]
      exact construct_cfg env (o r) _ blank
    · rw [hrcon]
      exact construct_bnode hreturned

/-- The constructors of a guild's servers, up to the first that throws. -/
theorem buildServers_grows (env : Env) (o : RconRef → Oracle) (d : DataRef)
    (servers cfgs : List Value) (position : Nat) (w : World) :
    Prog.Triple (Grows d cfgs w)
      (Prog.forEach (servers.zipIdx position) fun server => buildRcon env o d server.1 server.2)
      (fun _ => Grows d (cfgs ++ servers) w)
      fun w' => ∃ k, Grows d (cfgs ++ servers.take k) w w' := by
  induction servers generalizing cfgs position with
  | nil => exact .pure fun w' hw' => by simpa using hw'
  | cons server rest ih =>
    refine .bind ((buildRcon_grows env o d server position cfgs w).post (fun _ _ h => h)
      fun w' hw' => ?_) fun _ =>
      (ih (cfgs ++ [server]) (position + 1)).post (fun _ w' hw' => ?_) fun w' hw' => ?_
    · exact ⟨0, by simpa using hw'⟩
    · simpa using hw'
    · obtain ⟨k, hk⟩ := hw'
      exact ⟨k + 1, by simpa using hk⟩

/-- The servers a configuration asks to be connected to: none when `bercon` is not enabled, and
none when the configuration cannot be read. -/
def activeServers (specific : Value) : List Value :=
  match berconEnabled specific, serverList specific with
  | .ok true, .ok servers => servers
  | _, _ => []

/-- The configuration is refused before anything is built, or its active servers are built. -/
theorem buildRcons_cases (env : Env) (o : RconRef → Oracle) (d : DataRef) (w : World) :
    (∃ e, buildRcons env o d w = (.error e, w) ∧ activeServers (w.objs d).specific = []) ∨
      buildRcons env o d w = Prog.forEach (activeServers (w.objs d).specific).zipIdx
        (fun server => buildRcon env o d server.1 server.2) w := by
  rw [buildRcons, Prog.read_bind, activeServers]
  cases berconEnabled (w.objs d).specific with
  | error e => exact .inl ⟨e, rfl, rfl⟩
  | ok enabled =>
    cases enabled with
    | false => exact .inr rfl
    | true =>
      cases serverList (w.objs d).specific with
      | error e => exact .inl ⟨e, rfl, rfl⟩
      | ok servers => exact .inr rfl

/-- **Building a guild.** The instances are those of the active servers, or a first part of them
when a constructor throws. -/
theorem buildRcons_grows (env : Env) (o : RconRef → Oracle) (d : DataRef) (w : World) :
    Prog.Triple (· = w) (buildRcons env o d)
      (fun _ => Grows d (activeServers (w.objs d).specific) w)
      fun w' => ∃ k, Grows d ((activeServers (w.objs d).specific).take k) w w' := by
  rintro w₀ rfl
  rcases buildRcons_cases env o d w₀ with ⟨e, h, -⟩ | h
  · rw [h]
    exact ⟨0, Grows.refl d w₀⟩
  · rw [h]
    exact buildServers_grows env o d _ [] 0 w₀ w₀ (Grows.refl d w₀)

/-! ## Closing -/

/-- The world after the instances `rs` were closed. -/
structure Closes (rs : List RconRef) (w w' : World) : Prop where
  guildIds : w'.guildIds = w.guildIds
  gens : w'.gens = w.gens
  redis : w'.redis = w.redis
  running : w'.running = w.running
  objs : w'.objs = w.objs
  rcons : ∀ r, r ∉ rs → w'.rcons r = w.rcons r
  bercons : w'.bercons = w.bercons.filter (· ∉ rs)

theorem Closes.refl (w : World) : Closes [] w w :=
  ⟨rfl, rfl, rfl, rfl, rfl, fun _ _ => rfl, by simp⟩

theorem closeRcon_closes {env : Env} {o : RconRef → Oracle} {r : RconRef} {rs : List RconRef}
    {w : World} (hr : r ∉ rs) (hbnode : (w.rcons r).bnode ≠ none) :
    Prog.Triple (Closes rs w) (closeRcon env o r) (fun _ => Closes (rs ++ [r]) w)
      fun _ => True := by
  intro w₁ hw₁
  obtain ⟨n, hn⟩ := Option.ne_none_iff_exists'.1 hbnode
  rw [closeRcon_some (by rw [hw₁.rcons r hr]; exact hn)]
  rcases h : onRcon r (close env (o r) n) w₁ with ⟨e | _, w₂⟩
  · rw [Prog.bind_error h]
    trivial
  · rw [Prog.bind_ok h]
    obtain rfl : (onRcon r (close env (o r) n) w₁).2 = w₂ := congrArg Prod.snd h
    refine ⟨hw₁.guildIds, hw₁.gens, hw₁.redis, hw₁.running, hw₁.objs, fun r' hr' => ?_, ?_⟩
    · rw [List.mem_append, List.mem_singleton, not_or] at hr'
      simp [onRcon, World.record, World.setRcon, hr'.2, hw₁.rcons r' hr'.1]
    · change w₁.bercons.filter (· != r) = _
      rw [hw₁.bercons, List.filter_filter]
      refine List.filter_congr fun r' _ => ?_
      rw [Bool.eq_iff_iff]
      simp [and_comm]

/-- Closing instances that all have a BattleNode. -/
theorem closeAll_closes {env : Env} {o : RconRef → Oracle} {rs done : List RconRef} {w : World}
    (hnodup : (done ++ rs).Nodup) (hbnode : ∀ r ∈ rs, (w.rcons r).bnode ≠ none) :
    Prog.Triple (Closes done w) (Prog.forEach rs (closeRcon env o))
      (fun _ => Closes (done ++ rs) w) fun _ => True := by
  induction rs generalizing done with
  | nil => exact .pure fun w' hw' => by simpa using hw'
  | cons r rs ih =>
    rw [List.append_cons] at hnodup
    have hr : r ∉ done := fun hmem => by
      rw [List.append_assoc, List.nodup_append] at hnodup
      exact hnodup.2.2 r hmem r (by simp) rfl
    refine .bind (closeRcon_closes hr (hbnode r List.mem_cons_self)) fun _ => ?_
    rw [List.append_cons done r rs]
    exact ih hnodup fun r' hr' => hbnode r' (List.mem_cons_of_mem r hr')

/-! ## Agreement -/

/-- `_bercons` is a duplicate-free permutation of the instances of all guilds. -/
def Agreement (w : World) : Prop :=
  w.bercons.Perm (w.guildIds.flatMap fun g => (w.data g).beRcons) ∧ w.bercons.Nodup

/-- Agreement as it is kept: the same instances, each of them listed once, and with a BattleNode,
since a reload passes over those without. -/
structure Listed (w : World) : Prop where
  heap : w.Heap
  ids : w.guildIds.Nodup
  nodup : w.bercons.Nodup
  lists : ∀ g, (w.data g).beRcons.Nodup
  mem : ∀ r, r ∈ w.bercons ↔ r.guild ∈ w.guildIds ∧ r ∈ (w.data r.guild).beRcons
  bnode : ∀ r ∈ w.bercons, (w.rcons r).bnode ≠ none

theorem Listed.guild_eq {w : World} (hw : Listed w) {g : GuildId} {r : RconRef}
    (hr : r ∈ (w.data g).beRcons) : r.guild = g :=
  congrArg DataRef.guild (hw.heap.beRcons _ r hr).1

theorem Listed.agreement {w : World} (hw : Listed w) : Agreement w := by
  refine ⟨(List.perm_ext_iff_of_nodup hw.nodup ?_).2 fun r => ?_, hw.nodup⟩
  · refine List.nodup_flatMap.2 ⟨fun g _ => hw.lists g, ?_⟩
    refine hw.ids.pairwise_of_forall_ne fun g _ g' _ hne r hr hr' => hne ?_
    exact (hw.guild_eq hr).symm.trans (hw.guild_eq hr')
  · rw [hw.mem, List.mem_flatMap]
    constructor
    · rintro ⟨hg, hr⟩
      exact ⟨r.guild, hg, hr⟩
    · rintro ⟨g, hg, hr⟩
      rw [hw.guild_eq hr]
      exact ⟨hg, hr⟩

theorem Listed.start : Listed World.start where
  heap := World.Heap.start
  ids := List.nodup_nil
  nodup := List.nodup_nil
  lists _ := List.nodup_nil
  mem r := by simp [World.start]
  bnode r hr := by cases hr

section GuildData

variable {g : GuildId} {cfgs : List Value} {rs : List RconRef} {w w' : World}

theorem Grows.data_of_ne (h : Grows (w.dataRef g) cfgs w w') {g' : GuildId} (hne : g' ≠ g) :
    w'.data g' = w.data g' := by
  have hd : w'.dataRef g' = w.dataRef g' := by simp only [World.dataRef, h.gens]
  rw [World.data, hd, h.others _ (w.dataRef_ne hne)]
  rfl

theorem Grows.data_self (h : Grows (w.dataRef g) cfgs w w') :
    w'.data g = w'.objs (w.dataRef g) := by
  rw [World.data, World.dataRef, h.gens]
  rfl

/-- `_data[g].beRcons = []`. -/
def World.clear (w : World) (d : DataRef) : World :=
  w.setObj d fun data => { data with beRcons := [] }

theorem Closes.clear_dataRef (h : Closes rs w w') (g' : GuildId) :
    (w'.clear (w.dataRef g)).dataRef g' = w.dataRef g' := by
  simp [World.clear, World.dataRef, World.setObj, h.gens]

theorem Closes.clear_data_of_ne (h : Closes rs w w') {g' : GuildId}
    (hne : g' ≠ g) : (w'.clear (w.dataRef g)).data g' = w.data g' := by
  rw [World.data, h.clear_dataRef, World.clear, World.setObj, h.objs]
  exact Function.update_of_ne (w.dataRef_ne hne) _ _

theorem Closes.clear_data_self (h : Closes rs w w') :
    (w'.clear (w.dataRef g)).data g = { w.data g with beRcons := [] } := by
  rw [World.data, h.clear_dataRef, World.clear, World.setObj, h.objs]
  exact Function.update_self ..

end GuildData

/-- Building keeps the registry in order. -/
theorem Listed.grows {w w' : World} (hw : Listed w) (hheap : w'.Heap) {g : GuildId}
    (hg : g ∈ w.guildIds) {cfgs : List Value} (h : Grows (w.dataRef g) cfgs w w') : Listed w' := by
  obtain ⟨rs, hbercons, hlist, -, hnodup, hrs⟩ := h.news
  have hthis : (w'.data g).beRcons = (w.data g).beRcons ++ rs := by
    rw [h.data_self, hlist]
    rfl
  -- a new instance is in no list yet
  have hfresh : ∀ r ∈ rs, r ∉ w.bercons := fun r hr hmem => by
    have hlt := hw.heap.bercons r hmem
    rw [(hrs r hr).1] at hlt
    exact absurd hlt (Nat.not_lt.2 (hrs r hr).2.1)
  have hfresh' : ∀ r ∈ rs, r ∉ (w.data g).beRcons := fun r hr hmem =>
    absurd (hw.heap.beRcons _ r hmem).2 (Nat.not_lt.2 (hrs r hr).2.1)
  have hguild : ∀ r ∈ rs, r.guild = g := fun r hr => congrArg DataRef.guild (hrs r hr).1
  refine ⟨hheap, by rw [h.guildIds]; exact hw.ids, ?_, fun g' => ?_, fun r => ?_, fun r hr => ?_⟩
  · rw [hbercons, List.nodup_append]
    exact ⟨hw.nodup, hnodup, fun r hr r' hr' heq => hfresh r' hr' (heq ▸ hr)⟩
  · by_cases hne : g' = g
    · subst hne
      rw [hthis, List.nodup_append]
      exact ⟨hw.lists g', hnodup, fun r hr r' hr' heq => hfresh' r' hr' (heq ▸ hr)⟩
    · rw [h.data_of_ne hne]
      exact hw.lists g'
  · rw [hbercons, List.mem_append, hw.mem, h.guildIds]
    by_cases hne : r.guild = g
    · rw [hne, hthis, List.mem_append]
      constructor
      · rintro (⟨hids, hr⟩ | hr)
        · exact ⟨hids, .inl hr⟩
        · exact ⟨hg, .inr hr⟩
      · rintro ⟨hids, hr | hr⟩
        · exact .inl ⟨hids, hr⟩
        · exact .inr hr
    · rw [h.data_of_ne hne]
      exact ⟨fun hr => hr.elim id fun hr => absurd (hguild r hr) hne, .inl⟩
  · rw [hbercons, List.mem_append] at hr
    rcases hr with hr | hr
    · rw [h.rcons r (World.built_before (hw.heap.bercons r hr) _)]
      exact hw.bnode r hr
    · exact (hrs r hr).2.2.2

/-- Closing the instances of a guild and clearing its list keeps the registry in order. -/
theorem Listed.closes {w w' : World} (hw : Listed w) {g : GuildId}
    (hheap : (w'.setObj (w.dataRef g) fun data => { data with beRcons := [] }).Heap)
    (h : Closes (w.data g).beRcons w w') :
    Listed (w'.setObj (w.dataRef g) fun data => { data with beRcons := [] }) := by
  rw [← World.clear] at hheap ⊢
  have hthis : ((w'.clear (w.dataRef g)).data g).beRcons = [] := by rw [h.clear_data_self]
  refine ⟨hheap, h.guildIds ▸ hw.ids, ?_, fun g' => ?_, fun r => ?_, fun r hr => ?_⟩
  · change w'.bercons.Nodup
    rw [h.bercons]
    exact hw.nodup.filter _
  · by_cases hne : g' = g
    · subst hne
      rw [hthis]
      exact List.nodup_nil
    · rw [h.clear_data_of_ne hne]
      exact hw.lists g'
  · change r ∈ w'.bercons ↔ r.guild ∈ w'.guildIds ∧ _
    rw [h.bercons, h.guildIds, List.mem_filter, hw.mem, decide_eq_true_iff]
    by_cases hne : r.guild = g
    · rw [hne, hthis]
      exact ⟨fun hr => absurd hr.1.2 hr.2, fun hr => by cases hr.2⟩
    · rw [h.clear_data_of_ne hne]
      exact ⟨fun hr => hr.1, fun hr => ⟨hr, fun hmem => hne (hw.guild_eq hmem)⟩⟩
  · change r ∈ w'.bercons at hr
    rw [h.bercons, List.mem_filter, decide_eq_true_iff] at hr
    change (w'.rcons r).bnode ≠ none
    rw [h.rcons r hr.2]
    exact hw.bnode r hr.1

/-- A data object that lists no instance may be replaced. -/
theorem Listed.addData {env : Env} {w : World} (hw : Listed w) {guild : Guild}
    (h : guild.id ∈ w.guildIds → (w.data guild.id).beRcons = []) :
    Listed (w.addData env guild) := by
  refine ⟨hw.heap.addData env guild, ?_, hw.nodup, fun g => ?_, fun r => ?_, hw.bnode⟩
  · simp only [World.addData]
    split
    · exact hw.ids
    · rename_i hnew
      exact List.nodup_append.2 ⟨hw.ids, by simp, fun g hg g' hg' heq =>
        hnew (List.mem_singleton.1 hg' ▸ heq ▸ hg)⟩
  · by_cases hne : g = guild.id
    · rw [hne, World.addData_data_self]
      exact List.nodup_nil
    · rw [World.addData_data_of_ne w env hne]
      exact hw.lists g
  · change r ∈ w.bercons ↔ _
    rw [hw.mem]
    by_cases hne : r.guild = guild.id
    · rw [hne, World.addData_data_self]
      constructor
      · rintro ⟨hids, hr⟩
        rw [h hids] at hr
        cases hr
      · rintro ⟨-, hr⟩
        cases hr
    · rw [World.addData_data_of_ne w env hne, World.mem_addData w env hne]

/-! ## Steps -/

theorem Listed.of_registry {w w' : World} (hw : Listed w) (h : w'.registry = w.registry)
    (hheap : w'.Heap) (hbnode : ∀ r ∈ w.bercons, (w'.rcons r).bnode ≠ none) : Listed w' := by
  have hids := registry_guildIds h
  have hbercons := registry_bercons h
  refine ⟨hheap, hids ▸ hw.ids, hbercons ▸ hw.nodup, fun g => ?_, fun r => ?_,
    fun r hr => hbnode r (hbercons ▸ hr)⟩
  · rw [registry_beRcons h]
    exact hw.lists g
  · rw [hbercons, hids, registry_beRcons h]
    exact hw.mem r

theorem Passive.listed {w w' : World} (h : Passive w w') (hw : Listed w) : Listed w' :=
  hw.of_registry h.registry (h.heap hw.heap) fun r hr => by rw [h.rcons]; exact hw.bnode r hr

theorem passive_listed {x : BotM Unit} (hx : Prog.Within Passive x) :
    Prog.Triple Listed x (fun _ => Listed) Listed :=
  .of_within hx fun _ _ hw h => h.listed hw

/-- The registry is in order, and the guilds are the given ones. -/
def ListedIn (ids : List GuildId) (w : World) : Prop := Listed w ∧ w.guildIds = ids

theorem buildRcons_listed (env : Env) (o : RconRef → Oracle) {ids : List GuildId} {g : GuildId}
    (hg : g ∈ ids) :
    Prog.Triple (ListedIn ids)
      (do let d ← Prog.read fun w : World => w.dataRef g
          buildRcons env o d)
      (fun _ => ListedIn ids) (ListedIn ids) := by
  rintro w ⟨hw, rfl⟩
  have hheap := hw.heap.buildRcons env o g
  have hgrows := buildRcons_grows env o (w.dataRef g) w w rfl
  rw [Prog.read_bind]
  rcases e : buildRcons env o (w.dataRef g) w with ⟨_ | _, w'⟩ <;> rw [e] at hheap hgrows
  · obtain ⟨k, hk⟩ := hgrows
    exact ⟨hw.grows hheap hg hk, hk.guildIds⟩
  · exact ⟨hw.grows hheap hg hgrows, hgrows.guildIds⟩

theorem initBERconAll_listed (env : Env) (o : RconRef → Oracle) :
    Prog.Triple Listed (initBERconAll env o) (fun _ => Listed) Listed := by
  intro w hw
  exact ((Prog.Triple.forEach fun g hg => buildRcons_listed env o hg).post (fun _ _ h => h.1)
    fun _ h => h.1) w ⟨hw, rfl⟩

/-- `initBERcon(guild)` on a known guild. -/
theorem initBERconGuild_known {env : Env} {o : RconRef → Oracle} {g : GuildId} {w : World}
    (hg : g ∈ w.guildIds) :
    initBERconGuild env o g w = (do
      Prog.forEach (w.data g).beRcons (closeRcon env o)
      Prog.modify fun w' => w'.setObj (w.dataRef g) fun data => { data with beRcons := [] }
      buildRcons env o (w.dataRef g)) w := by
  rw [initBERconGuild, Prog.read_bind, if_pos (List.contains_iff_mem.2 hg)]
  rfl

/-- The loop that closes the instances of a guild. -/
theorem closeAll_listed {env : Env} {o : RconRef → Oracle} {g : GuildId} {w : World}
    (hw : Listed w) (hg : g ∈ w.guildIds) :
    Prog.Triple (· = w) (Prog.forEach (w.data g).beRcons (closeRcon env o))
      (fun _ w' => Closes (w.data g).beRcons w w' ∧ w'.Heap) fun _ => True := by
  have hbnode : ∀ r ∈ (w.data g).beRcons, (w.rcons r).bnode ≠ none := fun r hr =>
    hw.bnode r ((hw.mem r).2 (by rw [hw.guild_eq hr]; exact ⟨hg, hr⟩))
  have hcloses : Prog.Triple (Closes [] w) (Prog.forEach (w.data g).beRcons (closeRcon env o))
      (fun _ => Closes (w.data g).beRcons w) fun _ => True :=
    closeAll_closes (by simpa using hw.lists g) hbnode
  have htouch : Prog.Within (Touches env o fun _ => True)
      (Prog.forEach (w.data g).beRcons (closeRcon env o)) :=
    .forEach (Touches.frame ..) fun r _ => closeRcon_touches trivial
  rintro w₀ rfl
  have h := hcloses w₀ (Closes.refl w₀)
  have hheap := (htouch w₀).heap hw.heap
  rcases e : Prog.forEach (w₀.data g).beRcons (closeRcon env o) w₀ with ⟨_ | _, w'⟩ <;>
    rw [e] at h hheap
  · trivial
  · exact ⟨h, hheap⟩

/-- A reload that returns keeps the registry in order. -/
theorem initBERconGuild_listed (env : Env) (o : RconRef → Oracle) (g : GuildId) :
    Prog.Triple Listed (initBERconGuild env o g) (fun _ => Listed) fun _ => True := by
  intro w hw
  by_cases hg : g ∈ w.guildIds
  · rw [initBERconGuild_known hg]
    refine Prog.Triple.bind (closeAll_listed hw hg) (fun _ => .bind
      (R := fun _ w₂ => ListedIn w.guildIds w₂ ∧ w₂.dataRef g = w.dataRef g) ?_ fun _ => ?_) w rfl
    · rintro w₁ ⟨hcloses, hheap⟩
      refine ⟨⟨hw.closes (hheap.clear _) hcloses, hcloses.guildIds⟩, ?_⟩
      simp [World.dataRef, World.setObj, hcloses.gens]
    · rintro w₂ ⟨hw₂, hd⟩
      rw [← hd]
      exact (buildRcons_listed env o hg).post (fun _ _ h => h.1) (fun _ _ => trivial) w₂ hw₂
  · rw [initBERconGuild, Prog.read_bind, if_neg (by simpa using hg)]
    trivial

/-- A guild whose data object is replaced lists no instance. -/
def SafeOverwrite (w : World) (s : Step) : Prop :=
  match s.event with
  | .ready guilds => w.running = false → ∀ guild ∈ guilds, guild.id ∈ w.guildIds →
    (w.data guild.id).beRcons = []
  | .guildCreate guild => guild.id ∈ w.guildIds → (w.data guild.id).beRcons = []
  | _ => True

/-- The data objects of the guilds may be replaced. -/
def Replaceable (guilds : List Guild) (w : World) : Prop :=
  Listed w ∧ ∀ guild ∈ guilds, guild.id ∈ w.guildIds → (w.data guild.id).beRcons = []

theorem Passive.replaceable {w w' : World} (h : Passive w w') {guilds : List Guild}
    (hw : Replaceable guilds w) : Replaceable guilds w' := by
  refine ⟨h.listed hw.1, fun guild hguild hids => ?_⟩
  rw [registry_beRcons h.registry]
  exact hw.2 guild hguild (registry_guildIds h.registry ▸ hids)

theorem Replaceable.addData {env : Env} {w : World} {guild : Guild} {guilds : List Guild}
    (hw : Replaceable (guild :: guilds) w) : Replaceable guilds (w.addData env guild) := by
  refine ⟨hw.1.addData (hw.2 guild List.mem_cons_self), fun guild' hguild' hids => ?_⟩
  by_cases hne : guild'.id = guild.id
  · rw [hne, World.addData_data_self]
    rfl
  · rw [World.addData_data_of_ne w env hne]
    exact hw.2 guild' (List.mem_cons_of_mem guild hguild') ((World.mem_addData w env hne).1 hids)

theorem findAllActiveGuilds_listed (env : Env) (guilds : List Guild) {E : World → Prop}
    (hE : ∀ w, Listed w → E w) :
    Prog.Triple (Replaceable guilds) (findAllActiveGuilds env guilds) (fun _ => Listed) E := by
  induction guilds with
  | nil => exact .pure fun w hw => hw.1
  | cons guild guilds ih =>
    refine .bind (R := fun _ => Replaceable guilds)
      (.bind (R := fun _ => Replaceable (guild :: guilds)) ?_ fun _ =>
        .modify fun w hw => hw.addData) fun _ => ih
    exact (Prog.Triple.of_within (E := Replaceable (guild :: guilds)) (emitting_passive _)
      fun _ _ hw h => h.replaceable hw).post (fun _ _ h => h) fun w hw => hE w hw.1

theorem initRcons_listed (env : Env) (o : RconRef → Oracle) :
    Prog.Triple Listed (initRcons env o) (fun _ => Listed) Listed := by
  unfold initRcons
  split
  · exact passive_listed (request_passive _)
  · exact initBERconAll_listed env o

theorem running_passive (running : Bool) :
    Prog.Within Passive (Prog.modify fun w => { w with running := running }) :=
  fun _ => .of_objs rfl rfl fun _ => rfl

theorem initAfterReady_listed (env : Env) (o : RconRef → Oracle) (guilds : List Guild) {w : World}
    (hw : Listed w) (hguilds : w.running = false → ∀ guild ∈ guilds, guild.id ∈ w.guildIds →
      (w.data guild.id).beRcons = []) : Listed (initAfterReady env o guilds w).2 := by
  rw [initAfterReady, Prog.read_bind]
  cases hrunning : w.running with
  | true => exact hw
  | false =>
    refine Prog.Triple.snd (P := Replaceable guilds) ?_ ⟨hw, hguilds hrunning⟩
    exact .bind (findAllActiveGuilds_listed env guilds fun _ h => h) fun _ =>
      .bind (initRcons_listed env o) fun _ => passive_listed (running_passive true)

theorem onGuildCreate_listed (env : Env) (o : RconRef → Oracle) (guild : Guild) :
    Prog.Triple (Replaceable [guild]) (onGuildCreate env o guild) (fun _ => Listed) Listed := by
  have hpassive : ∀ {x : BotM Unit}, Prog.Within Passive x → Prog.Triple (Replaceable [guild]) x
      (fun _ => Replaceable [guild]) Listed := fun hx =>
    (Prog.Triple.of_within hx fun _ _ hw h => h.replaceable hw).post (fun _ _ h => h) fun _ h => h.1
  refine .bind (R := fun _ => Listed) (.bind (R := fun _ => Listed) ?_ fun _ => ?_) fun _ =>
    passive_listed (emitting_passive _)
  · refine .read_bind fun _ _ => .when (fun _ => ?_) fun _ w hw => hw.1
    exact .bind (hpassive (emitting_passive _)) fun _ => .modify fun w hw => hw.addData.1
  · split
    · exact passive_listed (request_passive _)
    · exact initBERconAll_listed env o

theorem refills_listed {x : BotM Unit} (hx : Prog.Within Refills x) :
    Prog.Triple Listed x (fun _ => Listed) Listed :=
  .of_within hx fun _ _ hw h => hw.of_registry h.registry (h.heap hw.heap) fun r hr => by
    rw [h.bnode]
    exact hw.bnode r hr

theorem reloadReply_listed (env : Env) (o : RconRef → Oracle) (guild : Guild)
    (channel : Option Channel) (result : Option Text) :
    Prog.Triple Listed (reloadReply env o guild channel result) (fun _ => Listed)
      fun _ => True := by
  have hpassive : ∀ {x : BotM Unit}, Prog.Within Passive x →
      Prog.Triple Listed x (fun _ => Listed) fun _ => True := fun hx =>
    (passive_listed hx).post (fun _ _ h => h) fun _ _ => trivial
  have happly : ∀ text, Prog.Triple Listed (applyConfig env guild.id text) (fun _ => Listed)
      fun _ => True := fun text =>
    (refills_listed (applyConfig_refills env guild.id text)).post (fun _ _ h => h)
      fun _ _ => trivial
  unfold reloadReply
  split
  · exact .bind (hpassive (emitting_passive _)) fun _ =>
      .bind (hpassive (emitting_passive _)) fun _ =>
      .bind (happly _) fun _ => initBERconGuild_listed env o _
  · exact .bind (hpassive (emitting_passive _)) fun _ => hpassive (emitting_passive _)

theorem adminAction_listed (env : Env) (o : RconRef → Oracle) (message : Message) (r : RconRef) :
    Prog.Triple Listed (adminAction env o message r) (fun _ => Listed) Listed := by
  refine .of_snd fun w hw => hw.of_registry rfl ?_ hw.bnode
  have htouch : Touches env o (fun _ => False) w (adminAction env o message r w).2 :=
    adminAction_touches message r w
  exact htouch.heap hw.heap

theorem checkMessageAction_listed (env : Env) (o : RconRef → Oracle) (message : Message) :
    Prog.Triple Listed (checkMessageAction env o message) (fun _ => Listed) Listed := by
  refine .when (fun _ => ?_) fun _ _ h => h
  exact .bind (passive_listed (checkCliMessagesAction_passive env message)) fun _ =>
    .read_bind fun _ _ => .forEach fun r _ => adminAction_listed env o message r

/-- An instance that has a BattleNode keeps it, unless a timer fires. -/
theorem LinkStep.bnode {event : RconEvent} {l l' : Link} {new : List Effect}
    (h : LinkStep event l new l') (htimer : ∀ i, event ≠ .timer i) : l'.bnode = l.bnode := by
  cases h with
  | reconnect => exact absurd rfl (htimer _)
  | lapse => exact absurd rfl (htimer _)
  | _ => rfl

/-- A callback leaves an instance a BattleNode, unless `new BattleNode` throws. -/
theorem rconStep_bnode {env : Env} {o : Oracle} {e : RconEvent} {s : RconSt}
    (hnew : (rconStep env o e s).1 = .ok () ∨
      ∀ i, e = .timer i → ∀ n, o.throws (.newNode n) = false)
    (hs : s.rcon.bnode ≠ none) : (rconStep env o e s).2.rcon.bnode ≠ none := by
  have hsome : ∀ {t : RconSt} {l : Link} {n : Nat}, t.rcon.link = l → l.bnode = some n →
      t.rcon.bnode ≠ none := fun ht hl =>
    ((congrArg Link.bnode ht).trans hl).trans_ne (Option.some_ne_none _)
  by_cases htimer : ∃ i, e = .timer i
  · obtain ⟨i, rfl⟩ := htimer
    cases htimer : s.rcon.timers[i]? with
    | none =>
      rw [timer_none env o htimer]
      exact hs
    | some cause =>
      rw [timer_some env o htimer] at hnew ⊢
      let t : RconSt := { s with rcon := { s.rcon with timers := s.rcon.timers.eraseIdx i } }
      have hlink := reconnect_link env o cause t ⟨rfl, rfl⟩
      rcases h : reconnect env o cause t with ⟨_ | _, t'⟩ <;> rw [h] at hlink hnew
      · cases hlink with
        | lapsed hthrows =>
          rw [hnew.resolve_left nofun i rfl] at hthrows
          cases hthrows
        | unnamed _ h => exact hsome h.1 rfl
        | unasked _ h => exact hsome h.1 rfl
      · exact hsome hlink.link.1 rfl
  · have hat : At s.rcon.link (marks s.calls) s := ⟨rfl, rfl⟩
    have hafter : After (LinkStep e) _ _ (rconStep env o e s).2 := (rconStep_link e).snd hat
    obtain ⟨new, l', hstep, hl', -⟩ := hafter
    have hbnode := hstep.bnode (fun i h => htimer ⟨i, h⟩)
    rw [← hl'] at hbnode
    exact hbnode.trans_ne hs

theorem rcon_listed {env : Env} {o : RconRef → Oracle} {r : RconRef} {e : RconEvent} {w : World}
    (hw : Listed w) (hnew : (step env ⟨.rcon r e, o⟩ w).1 = .ok () ∨
      ∀ i, e = .timer i → ∀ n, (o r).throws (.newNode n) = false) :
    Listed (step env ⟨.rcon r e, o⟩ w).2 := by
  refine hw.of_registry rfl (hw.heap.step env _) fun r' hr' => ?_
  by_cases h : r' = r
  · subst h
    rw [step_rcons rfl]
    exact rconStep_bnode (s := ⟨w.rcons r', []⟩) hnew (hw.bnode r' hr')
  · have := rconStep_inst env o r r' e w
    rw [if_neg h] at this
    rw [show (step env ⟨.rcon r e, o⟩ w).2.rcons r' = w.rcons r' from congrArg RconSt.rcon this]
    exact hw.bnode r' hr'

/-- The answer to a pending request. Only a reload that throws can leave the registry in
disorder. -/
theorem answerRequest_listed (env : Env) (o : RconRef → Oracle) (event : Event) (req : Request) :
    Prog.Triple Listed (answerRequest env o event req) (fun _ => Listed) fun _ => True := by
  have hany : ∀ {x : BotM Unit}, Prog.Triple Listed x (fun _ => Listed) Listed →
      Prog.Triple Listed x (fun _ => Listed) fun _ => True := fun hx =>
    hx.post (fun _ _ h => h) fun _ _ => trivial
  unfold answerRequest
  split
  · exact hany (passive_listed (request_passive _))
  · exact hany (.bind (refills_listed (applyConfigs_refills env _ _)) fun _ =>
      initBERconAll_listed env o)
  · exact reloadReply_listed env o _ _ _
  · exact .pure fun _ hw => hw

theorem redisAnswer_listed (env : Env) (o : RconRef → Oracle) (event : Event) :
    Prog.Triple Listed (redisAnswer env o event) (fun _ => Listed) fun _ => True := by
  intro w hw
  cases hpending : w.redis.find? event.answers with
  | none =>
    rw [redisAnswer_none hpending]
    exact hw
  | some req =>
    have hpassive : Passive w { w with redis := w.redis.eraseP event.answers } :=
      .of_objs rfl rfl fun _ => rfl
    rw [redisAnswer_some hpending]
    exact answerRequest_listed env o event req _ (hpassive.listed hw)

/-- One step keeps the registry in order. -/
theorem step_listed {env : Env} {s : Step} {w : World} (hw : Listed w)
    (hok : (step env s w).1 = .ok ()) (hs : SafeOverwrite w s) : Listed (step env s w).2 := by
  obtain ⟨event, o⟩ := s
  cases event with
  | ready guilds => exact initAfterReady_listed env o guilds hw hs
  | guildCreate guild =>
    refine (onGuildCreate_listed env o guild).snd ⟨hw, fun guild' hmem => ?_⟩
    rw [List.mem_singleton.1 hmem]
    exact hs
  | guildDelete guild => exact hw
  | guildUpdate oldGuild newGuild same =>
    exact (passive_listed (updateGuildData_passive oldGuild newGuild)).snd hw
  | message message => exact (checkMessageAction_listed env o message).snd hw
  | rcon r e => exact rcon_listed hw (.inl hok)
  | keysReply keys => exact (redisAnswer_listed env o _).of_ok hw hok
  | mgetReply results => exact (redisAnswer_listed env o _).of_ok hw hok
  | getReply g result => exact (redisAnswer_listed env o _).of_ok hw hok

/-- **Registry agreement, when no listed instance is overwritten.** In a run without exceptions in
which a data object is replaced only while it lists no instance, `_bercons` holds the instances of
all guilds, each once. -/
theorem run_agreement (env : Env) (steps : List Step)
    (h : Along env (fun w s => (step env s w).1 = .ok () ∧ SafeOverwrite w s) steps World.start) :
    Agreement (run env steps World.start) :=
  (Along.run_inv (I := Listed) (fun _ _ hw hs => step_listed hw hs.1 hs.2) .start h).agreement

theorem run_agreement_reload :
    let steps := joinSteps ++ reloadSteps
    Along sampleBot (fun w s => (step sampleBot s w).1 = .ok () ∧ SafeOverwrite w s) steps
        World.start ∧ Agreement (run sampleBot steps World.start) := by
  intro steps
  have h : Along sampleBot (fun w s => (step sampleBot s w).1 = .ok () ∧ SafeOverwrite w s) steps
      World.start := by
    refine ⟨⟨rfl, fun hmem => ?_⟩, ⟨?_, trivial⟩, ⟨?_, trivial⟩, ⟨?_, trivial⟩, trivial⟩
    · cases hmem
    all_goals decide +kernel
  exact ⟨h, run_agreement sampleBot steps h⟩

/-- The bot is removed from the guild and invited again: the instance that runs is in `_bercons`,
but in no guild's list, so no reload closes it. -/
theorem disagreement_rejoin :
    let steps := joinSteps ++ [sampleStep (.guildDelete (sampleGuild sampleId)),
      sampleStep (.guildCreate (sampleGuild sampleId))]
    Along sampleBot (fun w s => (step sampleBot s w).1 = .ok ()) steps World.start ∧
      ¬Agreement (run sampleBot steps World.start) := by
  intro steps
  refine ⟨⟨?_, ?_, ?_, ?_, trivial⟩, fun h => ?_⟩
  iterate 4 decide +kernel
  have hlength := h.1.length_eq
  revert hlength
  decide +kernel

end ZBot
