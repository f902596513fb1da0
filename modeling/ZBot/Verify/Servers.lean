import Mathlib.Data.List.Perm.Subperm
import ZBot.Verify.Config
import ZBot.Verify.Speech

/-!
# One instance per server

A guild should have one instance for each entry of `bercon.servers` of its configuration. The two
branches of `initBERcon` differ in what they do to the instances that are there: `initBERcon(guild)`
closes them first (`initBERconGuild_serves`), `initBERcon(null)` builds a second set beside them. So
the number is right as long as `initBERcon(null)` runs while nothing is listed
(`initBERconAll_serves`).

* With Redis, `initBERcon(null)` is run by the start-up reply, and a reload that was answered
  before it has listed instances already (`overtaken_startup`). When that does not happen, and a
  reload does not fail half way, no guild has an instance too many (`run_atMostOne`).
* Without Redis, it is run by every join, so that the instances of all guilds double
  (`doubled_by_join`). The number is exact only until the first join of a guild that finds instances
  listed (`run_exactlyOne`).
-/

namespace ZBot

open Js BotM

/-! ## Instances and servers -/

/-- The entries of `bercon.servers`. -/
def configured (specific : Value) : List Value :=
  match serverList specific with
  | .ok servers => servers
  | .error _ => []

/-- The configurations of the instances of a guild in `_bercons`. -/
def World.connections (w : World) (g : GuildId) : List Value :=
  (w.bercons.filter fun r => r.guild = g).map fun r => (w.rcons r).cfg

/-- Each guild has at most one instance for each entry. -/
def AtMostOne (w : World) : Prop :=
  ∀ g ∈ w.guildIds, (w.connections g).Subperm (configured (w.data g).specific)

/-- Each guild has exactly one instance for each entry when `bercon` is enabled, and none when it is
not. -/
def ExactlyOne (w : World) : Prop :=
  ∀ g ∈ w.guildIds, (w.connections g).Perm (activeServers (w.data g).specific)

/-- The configurations of the instances that a guild lists itself. -/
def World.cfgs (w : World) (g : GuildId) : List Value :=
  (w.data g).beRcons.map fun r => (w.rcons r).cfg

theorem Listed.connections {w : World} (hw : Listed w) {g : GuildId} (hg : g ∈ w.guildIds) :
    (w.connections g).Perm (w.cfgs g) := by
  refine List.Perm.map _ ((List.perm_ext_iff_of_nodup (hw.nodup.filter _) (hw.lists g)).2 ?_)
  intro r
  rw [List.mem_filter, decide_eq_true_iff, hw.mem]
  constructor
  · rintro ⟨⟨-, hr⟩, rfl⟩
    exact hr
  · intro hr
    have hguild := hw.guild_eq hr
    exact ⟨⟨hguild ▸ hg, hguild.symm ▸ hr⟩, hguild⟩

theorem activeServers_isPrefix (specific : Value) :
    activeServers specific <+: configured specific := by
  unfold activeServers configured
  cases berconEnabled specific with
  | error e => exact List.nil_prefix
  | ok enabled =>
    cases serverList specific with
    | error e => cases enabled <;> exact List.nil_prefix
    | ok servers =>
      cases enabled with
      | false => exact List.nil_prefix
      | true => exact List.prefix_rfl

/-! ## The two branches of `initBERcon` -/

/-- The registry is in order, and the guilds and their configurations are as before. -/
structure Serving (w w' : World) : Prop where
  listed : Listed w'
  guildIds : w'.guildIds = w.guildIds
  specific : ∀ g, (w'.data g).specific = (w.data g).specific

theorem Serving.refl {w : World} (hw : Listed w) : Serving w w := ⟨hw, rfl, fun _ => rfl⟩

theorem Serving.trans {w w' w'' : World} (h : Serving w w') (h' : Serving w' w'') : Serving w w'' :=
  ⟨h'.listed, h'.guildIds.trans h.guildIds, fun g => (h'.specific g).trans (h.specific g)⟩

section Growing

variable {g : GuildId} {cfgs : List Value} {w w' : World}

theorem Grows.specific_eq (h : Grows (w.dataRef g) cfgs w w') (g' : GuildId) :
    (w'.data g').specific = (w.data g').specific := by
  by_cases hne : g' = g
  · subst hne
    rw [h.data_self, h.specific]
    rfl
  · rw [h.data_of_ne hne]

theorem Grows.cfgs_of_ne (hw : w.Heap) (h : Grows (w.dataRef g) cfgs w w') {g' : GuildId}
    (hne : g' ≠ g) : w'.cfgs g' = w.cfgs g' := by
  unfold World.cfgs
  rw [h.data_of_ne hne]
  apply List.map_congr_left
  intro r hr
  have hd : r.data ≠ w.dataRef g := by
    rw [(hw.beRcons _ r hr).1]
    exact w.dataRef_ne hne
  rw [h.rcons r (.inl hd)]

theorem Grows.cfgs_self (hw : w.Heap) (h : Grows (w.dataRef g) cfgs w w') :
    w'.cfgs g = w.cfgs g ++ cfgs := by
  obtain ⟨rs, -, hlist, hcfgs, -, -⟩ := h.news
  unfold World.cfgs
  rw [h.data_self, hlist, List.map_append, hcfgs]
  congr 1
  apply List.map_congr_left
  intro r hr
  rw [h.rcons r (.inr (hw.beRcons _ r hr).2)]

end Growing

/-- One guild is built: the others are left alone, and the new instances are those of its active
servers, or a first part of them when a constructor throws. -/
theorem buildRcons_serves (env : Env) (o : RconRef → Oracle) {g : GuildId} {w : World}
    (hw : Listed w) (hg : g ∈ w.guildIds) :
    let w' := (buildRcons env o (w.dataRef g) w).2
    Serving w w' ∧ (∀ g', g' ≠ g → w'.cfgs g' = w.cfgs g') ∧
      (∃ k, w'.cfgs g = w.cfgs g ++ (activeServers (w.data g).specific).take k) ∧
      ((buildRcons env o (w.dataRef g) w).1 = .ok () →
        w'.cfgs g = w.cfgs g ++ activeServers (w.data g).specific) := by
  have hheap := hw.heap.buildRcons env o g
  have hgrows := buildRcons_grows env o (w.dataRef g) w w rfl
  have hserving : ∀ {cfgs w'}, w'.Heap → Grows (w.dataRef g) cfgs w w' → Serving w w' :=
    fun hheap h => ⟨hw.grows hheap hg h, h.guildIds, h.specific_eq⟩
  rcases e : buildRcons env o (w.dataRef g) w with ⟨_ | _, w'⟩ <;> rw [e] at hheap hgrows
  · obtain ⟨k, hk⟩ := hgrows
    exact ⟨hserving hheap hk, fun g' hne => hk.cfgs_of_ne hw.heap hne,
      ⟨k, hk.cfgs_self hw.heap⟩, nofun⟩
  · have hself := hgrows.cfgs_self hw.heap
    refine ⟨hserving hheap hgrows, fun g' hne => hgrows.cfgs_of_ne hw.heap hne,
      ⟨(activeServers (w.data g).specific).length, ?_⟩, fun _ => hself⟩
    rw [List.take_length]
    exact hself

/-- The loop body of `initBERcon(null)`. -/
def buildGuild (env : Env) (o : RconRef → Oracle) (g : GuildId) : BotM Unit := do
  let d ← Prog.read fun w : World => w.dataRef g
  buildRcons env o d

/-- The loop of `initBERcon(null)` over guilds that list nothing yet. -/
theorem buildGuilds_serves (env : Env) (o : RconRef → Oracle) {todo : List GuildId} {w : World}
    (hw : Listed w) (hnodup : todo.Nodup) (htodo : ∀ g ∈ todo, g ∈ w.guildIds ∧ w.cfgs g = []) :
    let w' := (Prog.forEach todo (buildGuild env o) w).2
    Serving w w' ∧ (∀ g, g ∉ todo → w'.cfgs g = w.cfgs g) ∧
      (∀ g ∈ todo, w'.cfgs g <+: activeServers (w.data g).specific) ∧
      ((Prog.forEach todo (buildGuild env o) w).1 = .ok () →
        ∀ g ∈ todo, w'.cfgs g = activeServers (w.data g).specific) := by
  induction todo generalizing w with
  | nil =>
    exact ⟨.refl hw, fun _ _ => rfl, fun _ h => absurd h List.not_mem_nil,
      fun _ _ h => absurd h List.not_mem_nil⟩
  | cons g rest ih =>
    obtain ⟨hg, hrest⟩ := List.nodup_cons.1 hnodup
    obtain ⟨hids, hnone⟩ := htodo g List.mem_cons_self
    obtain ⟨hserving, hothers, ⟨k, hpart⟩, hfull⟩ := buildRcons_serves env o hw hids
    rw [hnone, List.nil_append] at hpart hfull
    rw [Prog.forEach, Prog.bind_apply, buildGuild, Prog.read_bind]
    rcases e : buildRcons env o (w.dataRef g) w with ⟨_ | _, w₁⟩ <;>
      rw [e] at hserving hothers hpart hfull
    · -- a constructor threw, and the rest of the guilds is not reached
      refine ⟨hserving, fun g' hg' => hothers g' fun h => hg' (h ▸ List.mem_cons_self), ?_,
        fun h => by cases h⟩
      intro g' hg'
      by_cases hne : g' = g
      · subst hne
        rw [hpart]
        exact List.take_prefix k _
      · rw [hothers g' hne, (htodo g' hg').2]
        exact List.nil_prefix
    · have hrest' : ∀ g' ∈ rest, g' ∈ w₁.guildIds ∧ w₁.cfgs g' = [] := by
        intro g' hg'
        obtain ⟨hids', hnone'⟩ := htodo g' (List.mem_cons_of_mem g hg')
        rw [hserving.guildIds, hothers g' fun h => hg (h ▸ hg')]
        exact ⟨hids', hnone'⟩
      obtain ⟨hserving', hothers', hpart', hfull'⟩ := ih hserving.listed hrest hrest'
      refine ⟨hserving.trans hserving', ?_, ?_, ?_⟩
      · intro g' hg'
        rw [List.mem_cons, not_or] at hg'
        rw [hothers' g' hg'.2, hothers g' hg'.1]
      · intro g' hg'
        rcases List.mem_cons.1 hg' with rfl | hg'
        · rw [hothers' g' hg, hfull rfl]
        · rw [← hserving.specific]
          exact hpart' g' hg'
      · intro hreturns g' hg'
        rcases List.mem_cons.1 hg' with rfl | hg'
        · rw [hothers' g' hg, hfull rfl]
        · rw [← hserving.specific]
          exact hfull' hreturns g' hg'

/-- The loop of `initBERcon(null)` returns when every configuration is buildable. -/
theorem buildGuilds_ok_iff (env : Env) {o : RconRef → Oracle} (ho : ∀ r, (o r).Connects)
    (todo : List GuildId) (w : World) :
    (Prog.forEach todo (buildGuild env o) w).1 = .ok () ↔
      ∀ g ∈ todo, buildable (w.data g).specific = true := by
  have hspecific : ∀ g (w : World), (fun g' => ((buildGuild env o g w).2.data g').specific) =
      fun g' => (w.data g').specific := by
    intro g w
    have hgrows := buildRcons_grows env o (w.dataRef g) w w rfl
    rw [buildGuild, Prog.read_bind]
    rcases e : buildRcons env o (w.dataRef g) w with ⟨_ | _, w'⟩ <;> rw [e] at hgrows
    · obtain ⟨k, hk⟩ := hgrows
      exact funext hk.specific_eq
    · exact funext hgrows.specific_eq
  exact Prog.forEach_ok_iff (V := fun w : World => fun g' => (w.data g').specific)
    (p := fun specific g => buildable (specific g) = true) hspecific
    (fun g w => buildRcons_ok_iff ho env (w.dataRef g) w) todo w

theorem Listed.cfgs_nil {w : World} (hw : Listed w) (hnone : w.bercons = []) {g : GuildId}
    (hg : g ∈ w.guildIds) : w.cfgs g = [] := by
  have h := hw.connections hg
  rw [World.connections, hnone] at h
  exact h.nil_eq.symm

/-- **`initBERcon(null)` on an empty registry.** -/
theorem initBERconAll_serves (env : Env) (o : RconRef → Oracle) {w : World} (hw : Listed w)
    (hnone : w.bercons = []) :
    let w' := (initBERconAll env o w).2
    Serving w w' ∧ (∀ g ∈ w.guildIds, w'.cfgs g <+: activeServers (w.data g).specific) ∧
      ((initBERconAll env o w).1 = .ok () →
        ∀ g ∈ w.guildIds, w'.cfgs g = activeServers (w.data g).specific) := by
  obtain ⟨hserving, -, hpart, hfull⟩ :=
    buildGuilds_serves env o hw hw.ids fun g hg => ⟨hg, hw.cfgs_nil hnone hg⟩
  exact ⟨hserving, hpart, hfull⟩

section Clearing

variable {g : GuildId} {rs : List RconRef} {w w' : World}

theorem Closes.clear_specific (h : Closes rs w w') (g' : GuildId) :
    ((w'.clear (w.dataRef g)).data g').specific = (w.data g').specific := by
  by_cases hne : g' = g
  · subst hne
    rw [h.clear_data_self]
  · rw [h.clear_data_of_ne hne]

theorem Closes.clear_cfgs_of_ne (hw : Listed w) (h : Closes (w.data g).beRcons w w')
    {g' : GuildId} (hne : g' ≠ g) : (w'.clear (w.dataRef g)).cfgs g' = w.cfgs g' := by
  unfold World.cfgs
  rw [h.clear_data_of_ne hne]
  apply List.map_congr_left
  intro r hr
  have hout : r ∉ (w.data g).beRcons := fun hmem =>
    hne ((hw.guild_eq hr).symm.trans (hw.guild_eq hmem))
  exact congrArg Rcon.cfg (h.rcons r hout)

end Clearing

/-- **`initBERcon(guild)`, when its instances can be closed.** -/
theorem initBERconGuild_serves (env : Env) {o : RconRef → Oracle} {g : GuildId} {w : World}
    (hw : Listed w) (hg : g ∈ w.guildIds)
    (hclosable : ∀ r ∈ (w.data g).beRcons, Closable (o r) (w.rcons r)) :
    let w' := (initBERconGuild env o g w).2
    Serving w w' ∧ (∀ g', g' ≠ g → w'.cfgs g' = w.cfgs g') ∧
      w'.cfgs g <+: activeServers (w.data g).specific := by
  have hreturns := closeAll_returns env (hw.lists g) hclosable
  obtain ⟨hcloses, hheap⟩ := (closeAll_listed hw hg).of_ok rfl hreturns
  rcases e : Prog.forEach (w.data g).beRcons (closeRcon env o) w with ⟨_ | _, w₁⟩ <;>
    rw [e] at hreturns hcloses hheap
  · cases hreturns
  replace hcloses : Closes (w.data g).beRcons w w₁ := hcloses
  -- the registry with the guild's list cleared, in which the new instances are built
  have hcleared : Serving w (w₁.clear (w.dataRef g)) :=
    ⟨hw.closes (hheap.clear _) hcloses, hcloses.guildIds, hcloses.clear_specific⟩
  have hnone : (w₁.clear (w.dataRef g)).cfgs g = [] := by
    rw [World.cfgs, hcloses.clear_data_self]
    rfl
  have hknown : g ∈ (w₁.clear (w.dataRef g)).guildIds := by
    rw [hcleared.guildIds]
    exact hg
  have hrun : (initBERconGuild env o g w).2 = (buildRcons env o ((w₁.clear (w.dataRef g)).dataRef g)
      (w₁.clear (w.dataRef g))).2 := by
    rw [initBERconGuild_known hg, Prog.bind_ok e, Prog.modify_bind, hcloses.clear_dataRef]
    rfl
  obtain ⟨hserving, hothers, ⟨k, hpart⟩, -⟩ := buildRcons_serves env o hcleared.listed hknown
  rw [hnone, List.nil_append, hcleared.specific] at hpart
  rw [hrun]
  refine ⟨hcleared.trans hserving, fun g' hne => ?_, ?_⟩
  · rw [hothers g' hne, hcloses.clear_cfgs_of_ne hw hne]
  · rw [hpart]
    exact List.take_prefix k _

/-! ## Runs with Redis -/

/-- The instances of each guild are the first ones of its configuration. -/
def Fitting (w : World) : Prop := ∀ g ∈ w.guildIds, w.cfgs g <+: configured (w.data g).specific

theorem Listed.atMostOne {w : World} (hw : Listed w) (hfit : Fitting w) : AtMostOne w :=
  fun g hg => (hw.connections hg).subperm.trans (hfit g hg).sublist.subperm

/-- Neither the registry nor a configuration changes. -/
structure Untouched (w w' : World) : Prop where
  registry : w'.registry = w.registry
  specific : ∀ d, (w'.objs d).specific = (w.objs d).specific
  cfg : ∀ r, (w'.rcons r).cfg = (w.rcons r).cfg

theorem Untouched.frame : Prog.Frame Untouched where
  refl _ := ⟨rfl, fun _ => rfl, fun _ => rfl⟩
  trans h h' := ⟨h'.registry.trans h.registry, fun d => (h'.specific d).trans (h.specific d),
    fun r => (h'.cfg r).trans (h.cfg r)⟩

theorem Untouched.data_specific {w w' : World} (h : Untouched w w') (g : GuildId) :
    (w'.data g).specific = (w.data g).specific := by
  rw [World.data, World.dataRef, show w'.gens = w.gens from congrArg (·.2.1) h.registry, h.specific]
  rfl

theorem Untouched.cfgs {w w' : World} (h : Untouched w w') (g : GuildId) :
    w'.cfgs g = w.cfgs g := by
  rw [World.cfgs, registry_beRcons h.registry]
  exact List.map_congr_left fun r _ => h.cfg r

theorem Untouched.fitting {w w' : World} (h : Untouched w w') (hw : Fitting w) : Fitting w' := by
  intro g hg
  rw [h.cfgs, h.data_specific]
  exact hw g (registry_guildIds h.registry ▸ hg)

section Untouched

theorem emitting_untouched {α : Type} (source : Option RconRef) (x : Emit α) :
    Prog.Within Untouched (BotM.emitting source x) := fun _ => ⟨rfl, fun _ => rfl, fun _ => rfl⟩

theorem request_untouched (req : Request) : Prog.Within Untouched (request req) :=
  fun _ => ⟨rfl, fun _ => rfl, fun _ => rfl⟩

theorem updateGuildData_untouched (oldGuild newGuild : Guild) :
    Prog.Within Untouched (updateGuildData oldGuild newGuild) := by
  intro w
  refine ⟨(updateGuildData_passive oldGuild newGuild w).registry, fun d => ?_,
    fun r => by rw [(updateGuildData_passive oldGuild newGuild w).rcons]⟩
  rw [updateGuildData, Prog.read_bind]
  cases w.guildIds.contains oldGuild.id with
  | false => rfl
  | true =>
    by_cases hd : d = w.dataRef oldGuild.id
    · subst hd
      simp [World.setObj]
    · simp [World.setObj, hd]

theorem checkMessageAction_untouched (env : Env) (o : RconRef → Oracle) (message : Message) :
    Prog.Within Untouched (checkMessageAction env o message) :=
  checkMessageAction_within Untouched.frame env o (fun source => emitting_untouched source)
    request_untouched message

theorem rcon_untouched (env : Env) (o : Oracle) (r : RconRef) (e : RconEvent) :
    Prog.Within Untouched (onRcon r (rconStep env o e)) := by
  intro w
  refine ⟨rfl, fun _ => rfl, fun r' => ?_⟩
  by_cases hr : r' = r
  · subst hr
    simpa [onRcon, World.record, World.setRcon] using rconStep_cfg env o e ⟨w.rcons r', []⟩
  · simp [onRcon, World.record, World.setRcon, hr]

end Untouched

/-- A new data object lists nothing. -/
theorem addData_fitting (env : Env) (guild : Guild) {w : World} (hw : Fitting w) :
    Fitting (w.addData env guild) := by
  intro g hg
  by_cases hne : g = guild.id
  · rw [hne, World.cfgs, World.addData_data_self]
    exact List.nil_prefix
  · rw [World.cfgs, World.addData_data_of_ne w env hne]
    exact hw g ((World.mem_addData w env hne).1 hg)

section Redis

variable {env : Env} (hredis : env.useRedis = true)

include hredis

theorem initAfterReady_fitting (o : RconRef → Oracle) (guilds : List Guild) :
    Prog.Within (fun w w' => Fitting w → Fitting w') (initAfterReady env o guilds) :=
  initAfterReady_within (.inv Fitting) env
    (fun _ _ => (emitting_untouched none _).mono fun _ _ h => h.fitting)
    (fun guild => .modify fun _ => addData_fitting env guild)
    (fun req => (request_untouched req).mono fun _ _ h => h.fitting)
    (fun h => by rw [hredis] at h; cases h) (.modify fun _ hw => hw) guilds

theorem onGuildCreate_fitting (o : RconRef → Oracle) (guild : Guild) :
    Prog.Within (fun w w' => Fitting w → Fitting w') (onGuildCreate env o guild) :=
  onGuildCreate_within (.inv Fitting) env
    (fun _ _ => (emitting_untouched none _).mono fun _ _ h => h.fitting)
    (fun guild => .modify fun _ => addData_fitting env guild)
    (fun req => (request_untouched req).mono fun _ _ h => h.fitting)
    (fun h => by rw [hredis] at h; cases h) guild

end Redis

theorem mgetReply_fitting (env : Env) (o : RconRef → Oracle) (keys : List Text)
    (results : List (Option Text)) {w : World} (hw : Listed w) (hnone : w.bercons = []) :
    Listed (mgetReply env o keys results w).2 ∧ Fitting (mgetReply env o keys results w).2 := by
  have hrefills := applyConfigs_refills env keys results w
  have hlisted := (refills_listed (applyConfigs_refills env keys results)).snd hw
  rcases e : applyConfigs env keys results w with ⟨_ | _, w₁⟩ <;> rw [e] at hrefills hlisted
  all_goals
    have hnone₁ : w₁.bercons = [] := (registry_bercons hrefills.registry).trans hnone
  · rw [mgetReply, Prog.bind_error e]
    refine ⟨hlisted, fun g hg => ?_⟩
    rw [hlisted.cfgs_nil hnone₁ hg]
    exact List.nil_prefix
  · obtain ⟨hserving, hpart, -⟩ := initBERconAll_serves env o hlisted hnone₁
    rw [mgetReply, Prog.bind_ok e]
    refine ⟨hserving.listed, fun g hg => ?_⟩
    rw [hserving.specific]
    exact (hpart g (hserving.guildIds ▸ hg)).trans (activeServers_isPrefix _)

/-- The text can be applied to a guild that has instances, and the instances can be closed. -/
def Reloadable (env : Env) (o : RconRef → Oracle) (w : World) (g : GuildId) (text : Text) : Prop :=
  ∀ v, env.parse text = some v → servable (chosen (w.data g).specific v) = true ∧
    ∀ r ∈ (w.data g).beRcons, Closable (o r) (w.rcons r)

section Reconfigure

variable (w : World) {g g' : GuildId} (parsed specific : Value)

theorem reconfigure_data_specific :
    ((w.reconfigure (w.dataRef g) parsed specific).data g).specific = specific := by
  rw [World.data, World.reconfigure_dataRef, World.reconfigure_specific]

theorem reconfigure_data_beRcons :
    ((w.reconfigure (w.dataRef g) parsed specific).data g).beRcons = (w.data g).beRcons := by
  rw [World.data, World.reconfigure_dataRef, World.reconfigure_beRcons]
  rfl

theorem reconfigure_data_of_ne (hne : g' ≠ g) :
    (w.reconfigure (w.dataRef g) parsed specific).data g' = w.data g' := by
  rw [World.data, World.reconfigure_dataRef,
    World.reconfigure_of_ne _ _ _ _ (w.dataRef_ne hne)]
  rfl

/-- The instances of the other guilds do not see a write in place. -/
theorem reconfigure_cfgs_of_ne (hw : w.Heap) (hne : g' ≠ g) :
    (w.reconfigure (w.dataRef g) parsed specific).cfgs g' = w.cfgs g' := by
  unfold World.cfgs
  rw [reconfigure_data_of_ne w parsed specific hne]
  refine List.map_congr_left fun r hr => ?_
  have hd : r.data ≠ w.dataRef g := by
    rw [(hw.beRcons _ r hr).1]
    exact w.dataRef_ne hne
  rw [World.reconfigure_rcons _ _ _ _ hd]

end Reconfigure

/-- The part of a reload that changes the guild. -/
theorem reload_fitting {env : Env} {o : RconRef → Oracle} {g : GuildId} {text : Text} {w : World}
    (hw : Listed w) (hfit : Fitting w)
    (h : g ∈ w.guildIds → (w.data g).beRcons ≠ [] → Reloadable env o w g text) :
    let w' := ((do applyConfig env g text; initBERconGuild env o g) w).2
    Listed w' ∧ Fitting w' := by
  by_cases hg : g ∈ w.guildIds
  swap
  · rw [Prog.bind_ok (applyConfig_unknown hg), initBERconGuild, Prog.read_bind,
      if_neg (by simpa using hg)]
    exact ⟨hw, hfit⟩
  cases hparse : env.parse text with
  | none =>
    rw [Prog.bind_error (applyConfig_unparsed hg hparse)]
    exact ⟨hw, hfit⟩
  | some v =>
    have happly := applyConfig_parsed hg hparse
    have hrefills := applyConfig_refills env g text w
    have hlisted := (refills_listed (applyConfig_refills env g text)).snd hw
    have hservable := normalise_ok_iff env.showChannels (chosen (w.data g).specific v)
    rcases e : normalise env.showChannels (chosen (w.data g).specific v) with ⟨_ | _, specific⟩ <;>
      rw [e] at happly hservable <;> rw [happly] at hlisted hrefills
    · -- the new configuration stays half applied, and there are no instances that it should fit
      have hnone : (w.data g).beRcons = [] := by
        by_contra hsome
        cases hservable.2 (h hg hsome v hparse).1
      rw [Prog.bind_error happly]
      refine ⟨hlisted, fun g' hg' => ?_⟩
      by_cases hne : g' = g
      · subst hne
        rw [World.cfgs, reconfigure_data_beRcons, hnone]
        exact List.nil_prefix
      · rw [reconfigure_cfgs_of_ne w v specific hw.heap hne,
          reconfigure_data_of_ne w v specific hne]
        exact hfit g' (registry_guildIds hrefills.registry ▸ hg')
    · have hclosable : ∀ r ∈ ((w.reconfigure (w.dataRef g) v specific).data g).beRcons,
          Closable (o r) ((w.reconfigure (w.dataRef g) v specific).rcons r) := by
        intro r hr
        rw [reconfigure_data_beRcons] at hr
        obtain ⟨cfg, hcfg⟩ := hrefills.rcons r
        replace hcfg : (w.reconfigure (w.dataRef g) v specific).rcons r =
          { w.rcons r with cfg := cfg } := hcfg
        rw [hcfg]
        exact (h hg (List.ne_nil_of_mem hr) v hparse).2 r hr
      obtain ⟨hserving, hothers, hpart⟩ := initBERconGuild_serves env (o := o) hlisted
        (by rw [World.reconfigure_guildIds]; exact hg) hclosable
      rw [Prog.bind_ok happly]
      refine ⟨hserving.listed, fun g' hg' => ?_⟩
      rw [hserving.specific]
      by_cases hne : g' = g
      · subst hne
        exact hpart.trans (activeServers_isPrefix _)
      · rw [hothers g' hne, reconfigure_cfgs_of_ne w v specific hw.heap hne,
          reconfigure_data_of_ne w v specific hne]
        refine hfit g' ?_
        rwa [hserving.guildIds, World.reconfigure_guildIds] at hg'

/-- The start-up reply finds nothing listed, a reload does not fail half way, and a reconnect gets
its BattleNode. -/
def Orderly (env : Env) (w : World) (s : Step) : Prop :=
  match s.event with
  | .mgetReply _ => (∃ keys, .mget keys ∈ w.redis) → w.bercons = []
  | .getReply g (some text) =>
    g ∈ w.guildIds → (w.data g).beRcons ≠ [] → Reloadable env s.oracle w g text
  | .rcon r (.timer _) => ∀ n, (s.oracle r).throws (.newNode n) = false
  | _ => True

theorem Untouched.reloadable {env : Env} {o : RconRef → Oracle} {g : GuildId} {text : Text}
    {w w' : World} (h : Untouched w w') (hrcons : w'.rcons = w.rcons)
    (hw : Reloadable env o w g text) : Reloadable env o w' g text := by
  intro v hv
  rw [h.data_specific, registry_beRcons h.registry, hrcons]
  exact hw v hv

theorem reloadReply_fitting {env : Env} {o : RconRef → Oracle} {guild : Guild}
    {channel : Option Channel} {result : Option Text} {w : World} (hw : Listed w) (hfit : Fitting w)
    (h : ∀ text, result = some text → guild.id ∈ w.guildIds → (w.data guild.id).beRcons ≠ [] →
      Reloadable env o w guild.id text) :
    let w' := (reloadReply env o guild channel result w).2
    Listed w' ∧ Fitting w' := by
  let P : World → Prop := fun w => (Listed w ∧ Fitting w) ∧ ∀ text, result = some text →
    guild.id ∈ w.guildIds → (w.data guild.id).beRcons ≠ [] → Reloadable env o w guild.id text
  -- the messages change nothing that the condition speaks of
  have hspeech : ∀ x : Emit Unit, Prog.Triple P (emitting none x) (fun _ => P)
      fun w => Listed w ∧ Fitting w := by
    intro x
    refine (Prog.Triple.of_snd (E := P) fun w hw => ?_).post (fun _ _ h => h) fun _ h => h.1
    have hpassive := emitting_passive x w
    have huntouched := emitting_untouched none x w
    refine ⟨⟨hpassive.listed hw.1.1, huntouched.fitting hw.1.2⟩, fun text htext hids hsome => ?_⟩
    rw [registry_guildIds hpassive.registry] at hids
    rw [registry_beRcons hpassive.registry] at hsome
    exact huntouched.reloadable rfl (hw.2 text htext hids hsome)
  refine Prog.Triple.snd (P := P) (R := fun w => Listed w ∧ Fitting w) ?_ ⟨⟨hw, hfit⟩, h⟩
  unfold reloadReply
  split
  · refine .bind (hspeech _) fun _ => .bind (hspeech _) fun _ => .of_snd fun w hw => ?_
    exact reload_fitting hw.1.1 hw.1.2 (hw.2 _ rfl)
  · exact .bind (hspeech _) fun _ => (hspeech _).post (fun _ _ h => h.1) fun _ h => h

theorem redisAnswer_fitting {env : Env} {s : Step} {w : World} (hw : Listed w) (hfit : Fitting w)
    (hs : Orderly env w s) :
    Listed (redisAnswer env s.oracle s.event w).2 ∧
      Fitting (redisAnswer env s.oracle s.event w).2 := by
  cases hpending : w.redis.find? s.event.answers with
  | none =>
    rw [redisAnswer_none hpending]
    exact ⟨hw, hfit⟩
  | some req =>
    have hmem := List.mem_of_find?_eq_some hpending
    have hanswers := List.find?_some hpending
    let w₁ : World := { w with redis := w.redis.eraseP s.event.answers }
    have hpassive : Passive w w₁ := .of_objs rfl rfl fun _ => rfl
    have hlisted : Listed w₁ := hpassive.listed hw
    have hfit₁ : Fitting w₁ := hfit
    rw [redisAnswer_some hpending]
    obtain ⟨event, o⟩ := s
    cases event <;> cases req <;> simp only [Event.answers, Bool.false_eq_true] at hanswers
    · exact ⟨(request_passive _ w₁).listed hlisted, (request_untouched _ w₁).fitting hfit₁⟩
    · rename_i results keys
      exact mgetReply_fitting env o keys results hlisted (hs ⟨keys, hmem⟩)
    · rename_i g result guild channel
      obtain rfl : guild.id = g := beq_iff_eq.1 hanswers
      refine reloadReply_fitting hlisted hfit₁ fun text htext => ?_
      subst htext
      exact hs

/-- One step with Redis. -/
theorem step_fitting {env : Env} (hredis : env.useRedis = true) {s : Step} {w : World}
    (hw : Listed w ∧ Fitting w) (hs : SafeOverwrite w s ∧ Orderly env w s) :
    Listed (step env s w).2 ∧ Fitting (step env s w).2 := by
  obtain ⟨hw, hfit⟩ := hw
  obtain ⟨event, o⟩ := s
  cases event with
  | ready guilds =>
    exact ⟨initAfterReady_listed env o guilds hw hs.1,
      initAfterReady_fitting hredis o guilds w hfit⟩
  | guildCreate guild =>
    refine ⟨(onGuildCreate_listed env o guild).snd ⟨hw, fun guild' hmem => ?_⟩,
      onGuildCreate_fitting hredis o guild w hfit⟩
    rw [List.mem_singleton.1 hmem]
    exact hs.1
  | guildDelete guild => exact ⟨hw, hfit⟩
  | guildUpdate oldGuild newGuild same =>
    exact ⟨(passive_listed (updateGuildData_passive oldGuild newGuild)).snd hw,
      (updateGuildData_untouched oldGuild newGuild w).fitting hfit⟩
  | message message =>
    exact ⟨(checkMessageAction_listed env o message).snd hw,
      (checkMessageAction_untouched env o message w).fitting hfit⟩
  | rcon r e =>
    refine ⟨rcon_listed hw (.inr fun i hi => ?_), (rcon_untouched env (o r) r e w).fitting hfit⟩
    subst hi
    exact hs.2
  | keysReply keys => exact redisAnswer_fitting hw hfit hs.2
  | mgetReply results => exact redisAnswer_fitting hw hfit hs.2
  | getReply g result => exact redisAnswer_fitting hw hfit hs.2

/-- **At most one instance per server with Redis, when the start-up reply comes first.** -/
theorem run_atMostOne (env : Env) (hredis : env.useRedis = true) (steps : List Step)
    (h : Along env (fun w s => SafeOverwrite w s ∧ Orderly env w s) steps World.start) :
    AtMostOne (run env steps World.start) := by
  obtain ⟨hlisted, hfit⟩ := Along.run_inv (I := fun w => Listed w ∧ Fitting w)
    (fun _ _ hw hs => step_fitting hredis hw hs) ⟨.start, nofun⟩ h
  exact hlisted.atMostOne hfit

/-- A guild joins once, and Redis answers the requests in their order. -/
def InOrder (w : World) (s : Step) : Prop :=
  match s.event with
  | .guildCreate guild => guild.id ∉ w.guildIds
  | .keysReply _ | .mgetReply _ | .getReply .. => w.redis.head?.any s.event.answers = true
  | _ => True

/-- The bot starts and connects to the server of the sample guild, which is then reloaded. -/
def startSteps : List Step :=
  [.ready [sampleGuild sampleId], .keysReply [guildKey sampleId],
    .mgetReply [some (lit "stored")]].map sampleStep

theorem run_atMostOne_reload :
    let steps := startSteps ++ reloadSteps
    Along sampleBot (fun w s => SafeOverwrite w s ∧ Orderly sampleBot w s) steps World.start ∧
      AtMostOne (run sampleBot steps World.start) := by
  intro steps
  have h : Along sampleBot (fun w s => SafeOverwrite w s ∧ Orderly sampleBot w s) steps
      World.start := by
    refine ⟨⟨fun _ _ _ hmem => (nomatch hmem), trivial⟩, ⟨trivial, trivial⟩,
      ⟨trivial, fun _ => by decide +kernel⟩, ⟨trivial, trivial⟩, ⟨trivial, ?_⟩, trivial⟩
    intro _ _ v hv
    cases hv
    refine ⟨by decide +kernel, fun r hr => ⟨fun _ => rfl, ?_⟩⟩
    revert r
    decide +kernel
  exact ⟨h, run_atMostOne sampleBot rfl steps h⟩

/-- A reload is typed before the start-up has got its keys. Its answer comes in before that of the
`MGET`, whose callback builds a second instance. -/
theorem overtaken_startup :
    let steps := [.ready [sampleGuild sampleId], .message (reloadMessage sampleId),
      .keysReply [guildKey sampleId], .getReply sampleId (some (lit "stored")),
      .mgetReply [some (lit "stored")]].map sampleStep
    Along sampleBot InOrder steps World.start ∧ ¬AtMostOne (run sampleBot steps World.start) := by
  intro steps
  constructor
  · refine ⟨trivial, trivial, ?_, ?_, ?_, trivial⟩ <;> change Option.any _ _ = true <;>
      decide +kernel
  intro h
  have hknown : sampleId ∈ (run sampleBot steps World.start).guildIds := by decide +kernel
  have hlength := (h sampleId hknown).length_le
  revert hlength
  decide +kernel

/-! ## Runs without Redis -/

section Local

variable {env : Env}

/-- Nothing is listed, and every guild has the configuration of the file. -/
structure Fresh (env : Env) (w : World) : Prop where
  listed : Listed w
  none : w.bercons = []
  specific : ∀ g ∈ w.guildIds, (w.data g).specific = env.specific

/-- Every guild has the configuration of the file and the instances it asks for. -/
structure Exact (env : Env) (w : World) : Prop where
  listed : Listed w
  specific : ∀ g ∈ w.guildIds, (w.data g).specific = env.specific
  cfgs : ∀ g ∈ w.guildIds, w.cfgs g = activeServers env.specific

theorem Exact.exactlyOne {w : World} (h : Exact env w) : ExactlyOne w := by
  intro g hg
  rw [h.specific g hg, ← h.cfgs g hg]
  exact h.listed.connections hg

theorem Listed.bercons_nil {w : World} (hw : Listed w) (h : ∀ g ∈ w.guildIds, w.cfgs g = []) :
    w.bercons = [] := by
  rw [List.eq_nil_iff_forall_not_mem]
  intro r hr
  obtain ⟨hg, hmem⟩ := (hw.mem r).1 hr
  have hnil := List.map_eq_nil_iff.1 (h r.guild hg)
  rw [hnil] at hmem
  cases hmem

theorem Fresh.addData {w : World} (h : Fresh env w) (guild : Guild) :
    Fresh env (w.addData env guild) := by
  refine ⟨h.listed.addData fun hg => List.map_eq_nil_iff.1 (h.listed.cfgs_nil h.none hg),
    h.none, ?_⟩
  intro g hg
  by_cases hne : g = guild.id
  · rw [hne, World.addData_data_self]
    rfl
  · rw [World.addData_data_of_ne w env hne]
    exact h.specific g ((World.mem_addData w env hne).1 hg)

theorem Untouched.exact {w w' : World} (h : Untouched w w') (hlisted : Listed w')
    (hw : Exact env w) : Exact env w' := by
  refine ⟨hlisted, fun g hg => ?_, fun g hg => ?_⟩
  · rw [h.data_specific]
    exact hw.specific g (registry_guildIds h.registry ▸ hg)
  · rw [h.cfgs]
    exact hw.cfgs g (registry_guildIds h.registry ▸ hg)

/-- A log line is written, and nothing else happens. -/
theorem log_returns (env : Env) (text : Text) (w : World) :
    ∃ calls, emitting none (logBot env text) w = (.ok (), w.record none calls) := by
  unfold logBot
  cases env.logEnable with
  | false => exact ⟨[], rfl⟩
  | true => exact ⟨[.log text], rfl⟩

theorem newGuild_fresh (text : Text) (guild : Guild) :
    Prog.Triple (Fresh env)
      (do emitting none (logBot env text); Prog.modify (World.addData env guild))
      (fun _ => Fresh env) fun _ => False := by
  intro w hw
  obtain ⟨calls, hlog⟩ := log_returns env text w
  rw [Prog.bind_ok hlog]
  have hpassive := emitting_passive (logBot env text) w
  rw [hlog] at hpassive
  exact (Fresh.mk (hpassive.listed hw.listed) hw.none hw.specific).addData guild

/-- Every guild gets the instances of the configuration of the file. -/
theorem initBERconAll_exact {o : RconRef → Oracle} (hfile : activeServers env.specific = [] ∨
      buildable env.specific = true ∧ ∀ r, (o r).Connects) {w : World}
    (hw : Fresh env w) : Exact env (initBERconAll env o w).2 := by
  obtain ⟨hserving, hpart, hfull⟩ := initBERconAll_serves env o hw.listed hw.none
  refine ⟨hserving.listed, fun g hg => ?_, fun g hg => ?_⟩
  · rw [hserving.specific]
    exact hw.specific g (hserving.guildIds ▸ hg)
  · have hg₀ : g ∈ w.guildIds := hserving.guildIds ▸ hg
    rcases hfile with hnone | ⟨hbuildable, ho⟩
    · have hprefix := hpart g hg₀
      rw [hw.specific g hg₀, hnone] at hprefix
      rw [hnone]
      exact List.prefix_nil.1 hprefix
    · rw [← hw.specific g hg₀]
      refine hfull ((buildGuilds_ok_iff env ho w.guildIds w).2 fun g' hg' => ?_) g hg₀
      rw [hw.specific g' hg']
      exact hbuildable

/-- A `ready` or a join. -/
def Event.joins : Event → Bool
  | .ready _ => true
  | .guildCreate _ => true
  | _ => false

/-- The file asks for no instance, or it can be built, the BattleNodes connect and nothing is
listed. -/
def Unbuilt (env : Env) (w : World) (s : Step) : Prop :=
  activeServers env.specific = [] ∨
    (buildable env.specific = true ∧ ∀ r, (s.oracle r).Connects) ∧ w.bercons = []

/-- Instances are built at most once. -/
def FirstBuild (env : Env) (w : World) (s : Step) : Prop :=
  match s.event with
  | .ready _ => w.running = false → Unbuilt env w s
  | .guildCreate _ => Unbuilt env w s
  | _ => True

theorem Exact.fresh {w : World} {s : Step} (hw : Exact env w) (h : Unbuilt env w s) :
    Fresh env w := by
  refine ⟨hw.listed, ?_, hw.specific⟩
  rcases h with hnone | ⟨-, hnone⟩
  · exact hw.listed.bercons_nil fun g hg => (hw.cfgs g hg).trans hnone
  · exact hnone

variable (hlocal : env.useRedis = false)

include hlocal

theorem initAfterReady_exact (s : Step) (guilds : List Guild) {w : World} (hw : Exact env w)
    (h : w.running = false → Unbuilt env w s) :
    Exact env (initAfterReady env s.oracle guilds w).2 := by
  rw [initAfterReady, Prog.read_bind]
  cases hrunning : w.running with
  | true => exact hw
  | false =>
    have hfile := (h hrunning).imp_right And.left
    refine Prog.Triple.snd (P := Fresh env) ?_ (hw.fresh (h hrunning))
    refine .bind (R := fun _ => Fresh env) ?_ fun _ =>
      .bind (R := fun _ => Exact env) ?_ fun _ => ?_
    · exact .post (.forEach fun guild _ => newGuild_fresh _ guild) (fun _ _ h => h)
        fun _ h => h.elim
    · rw [initRcons, if_neg (by simp [hlocal])]
      exact .of_snd fun w hw => initBERconAll_exact hfile hw
    · refine .modify fun w hw => ?_
      exact ⟨(running_passive true w).listed hw.listed, hw.specific, hw.cfgs⟩

theorem onGuildCreate_exact (s : Step) (guild : Guild) {w : World} (hw : Exact env w)
    (h : Unbuilt env w s) : Exact env (onGuildCreate env s.oracle guild w).2 := by
  have hfile := h.imp_right And.left
  refine Prog.Triple.snd (P := Fresh env) ?_ (hw.fresh h)
  refine .bind (R := fun _ => Exact env) (.bind (R := fun _ => Fresh env) ?_ fun _ => ?_)
    fun _ => ?_
  · refine .read_bind fun _ _ => .when (fun _ => ?_) fun _ _ hw => hw
    exact (newGuild_fresh _ guild).post (fun _ _ h => h) fun _ h => h.elim
  · rw [if_neg (by simp [hlocal])]
    exact .of_snd fun w hw => initBERconAll_exact hfile hw
  · refine .of_snd fun w hw => ?_
    exact (emitting_untouched none _ w).exact ((emitting_passive _ w).listed hw.listed) hw

/-- **Exactly one instance per server without Redis, up to the second build.** -/
theorem run_exactlyOne (steps : List Step)
    (h : Along env (fun w s => s.event.joins = true ∧ FirstBuild env w s) steps World.start) :
    ExactlyOne (run env steps World.start) := by
  have hstep : ∀ w s, Exact env w → s.event.joins = true ∧ FirstBuild env w s →
      Exact env (step env s w).2 := by
    rintro w ⟨event, o⟩ hw ⟨hjoins, hfirst⟩
    cases event with
    | ready guilds => exact initAfterReady_exact hlocal ⟨.ready guilds, o⟩ guilds hw hfirst
    | guildCreate guild =>
      exact onGuildCreate_exact hlocal ⟨.guildCreate guild, o⟩ guild hw hfirst
    | _ => cases hjoins
  exact (Along.run_inv hstep ⟨.start, nofun, nofun⟩ h).exactlyOne

end Local

/-- A bot without Redis, whose configuration file has one server. -/
def localBot : Env := { sampleBot with useRedis := false, specific := sampleConfig [sampleServer] }

theorem run_exactlyOne_ready :
    let steps := [.ready [sampleGuild sampleId, sampleGuild otherId], .ready []].map sampleStep
    Along localBot (fun w s => s.event.joins = true ∧ FirstBuild localBot w s) steps World.start ∧
      ExactlyOne (run localBot steps World.start) := by
  intro steps
  have h : Along localBot (fun w s => s.event.joins = true ∧ FirstBuild localBot w s) steps
      World.start := by
    refine ⟨⟨rfl, fun _ => .inr ⟨⟨by decide +kernel, fun _ _ => ⟨rfl, rfl⟩⟩, rfl⟩⟩,
      ⟨rfl, fun hrunning => absurd hrunning ?_⟩, trivial⟩
    decide +kernel
  exact ⟨h, run_exactlyOne rfl steps h⟩

/-- The bot starts in one guild and then joins another: the first one now has two instances for its
server. -/
theorem doubled_by_join :
    let steps := [.ready [sampleGuild sampleId], .guildCreate (sampleGuild otherId)].map sampleStep
    Along localBot (fun w s => s.event.joins = true ∧ InOrder w s) steps World.start ∧
      ¬ExactlyOne (run localBot steps World.start) := by
  intro steps
  constructor
  · refine ⟨⟨rfl, trivial⟩, ⟨rfl, ?_⟩, trivial⟩
    change otherId ∉ _
    decide +kernel
  intro h
  have hknown : sampleId ∈ (run localBot steps World.start).guildIds := by decide +kernel
  have hlength := (h sampleId hknown).length_eq
  revert hlength
  decide +kernel

end ZBot
