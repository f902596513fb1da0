import ZBot.Verify.Apply
import ZBot.Verify.Servers

/-!
# Where a configuration comes from

A guild starts with the bot's own configuration, and Redis answers bring in others. Nothing else
does: in every run the configuration of a guild is the bot's own or one that was stored under the
guild's key, with the defaults filled in, and every instance that was ever built has a server of
such a configuration of its own guild (`run_config_origin`), also after the defaults were filled
into a server that it shares with the configuration. So no guild ever connects with the address and
the password of a server that was stored for another guild.

The invariant `Sourced` reads only a part of the state (`World.setup`). Most code leaves that part
alone, and the three places that write it are the new data object of a guild, the application of a
stored value and the construction of an instance.
-/

namespace ZBot

open Js BotM

/-- A configuration of the guild, when `S` are the stored ones: the bot's own, or a stored one with
the defaults filled in. A reload may fill them in once more. -/
inductive ConfigOf (env : Env) (S : GuildId → Value → Prop) (g : GuildId) : Value → Prop
  | own : ConfigOf env S g env.specific
  | stored {v : Value} (h : S g v) : ConfigOf env S g (filled env.showChannels v)
  | filled {v : Value} (h : ConfigOf env S g v) : ConfigOf env S g (filled env.showChannels v)

/-- A server of a configuration of the guild. -/
def ServerOf (env : Env) (S : GuildId → Value → Prop) (g : GuildId) (server : Value) : Prop :=
  ∃ v, ConfigOf env S g v ∧ server ∈ configured v

/-- Guilds and instances have configurations of their own. -/
structure World.Sourced (env : Env) (S : GuildId → Value → Prop) (w : World) : Prop where
  data : ∀ g ∈ w.guildIds, ConfigOf env S g (w.data g).specific
  rcons : ∀ r, r.num < (w.objs r.data).built → ServerOf env S r.guild (w.rcons r).cfg

/-- What `Sourced` looks at. -/
def World.setup (w : World) :
    List GuildId × (GuildId → Nat) × (DataRef → Nat × Value) × (RconRef → Value) :=
  (w.guildIds, w.gens, fun d => ((w.objs d).built, (w.objs d).specific),
    fun r => (w.rcons r).cfg)

section Mono

variable {env : Env} {S S' : GuildId → Value → Prop} {g : GuildId} (hS : ∀ g v, S g v → S' g v)

include hS

theorem ConfigOf.mono {v : Value} (h : ConfigOf env S g v) : ConfigOf env S' g v := by
  induction h with
  | own => exact .own
  | stored h => exact .stored (hS g _ h)
  | filled _ ih => exact .filled ih

theorem World.Sourced.mono {w : World} (h : w.Sourced env S) : w.Sourced env S' where
  data g hg := (h.data g hg).mono hS
  rcons r hr := by
    obtain ⟨v, hv, hserver⟩ := h.rcons r hr
    exact ⟨v, hv.mono hS, hserver⟩

end Mono

section Setup

variable {env : Env} {S : GuildId → Value → Prop} {w w' : World}

theorem setup_obj (h : w'.setup = w.setup) (d : DataRef) :
    (w'.objs d).built = (w.objs d).built ∧ (w'.objs d).specific = (w.objs d).specific :=
  Prod.ext_iff.1 (congrFun (congrArg (fun x => x.2.2.1) h) d)

theorem setup_data (h : w'.setup = w.setup) (g : GuildId) :
    (w'.data g).specific = (w.data g).specific := by
  have hgens : w'.gens = w.gens := congrArg (fun x => x.2.1) h
  rw [World.data, World.dataRef, hgens]
  exact (setup_obj h _).2

theorem World.Sourced.of_setup (h : w'.setup = w.setup) (hw : w.Sourced env S) :
    w'.Sourced env S where
  data g hg := by
    rw [setup_data h]
    exact hw.data g ((congrArg (fun x => x.1) h : w'.guildIds = w.guildIds) ▸ hg)
  rcons r hr := by
    have hcfg : (w'.rcons r).cfg = (w.rcons r).cfg := congrFun (congrArg (fun x => x.2.2.2) h) r
    rw [hcfg]
    exact hw.rcons r ((setup_obj h r.data).1 ▸ hr)

end Setup

/-! ## Code that leaves the setup alone -/

section Settled

theorem setup_frame : Prog.Frame fun w w' : World => w'.setup = w.setup := .eq World.setup

theorem setObj_setup {d : DataRef} {f : GuildData → GuildData}
    (hf : ∀ data, (f data).built = data.built ∧ (f data).specific = data.specific) (w : World) :
    (w.setObj d f).setup = w.setup := by
  have hobj : ∀ d', (((w.setObj d f).objs d').built, ((w.setObj d f).objs d').specific) =
      ((w.objs d').built, (w.objs d').specific) := by
    intro d'
    by_cases h : d' = d
    · subst h
      rw [World.setObj_self, (hf _).1, (hf _).2]
    · rw [World.setObj_of_ne w f h]
  exact congrArg (fun objs => (w.guildIds, w.gens, objs, fun r => (w.rcons r).cfg)) (funext hobj)

theorem onRcon_setup {r : RconRef} {x : RconM Unit} {w : World}
    (h : (x ⟨w.rcons r, []⟩).2.rcon.cfg = (w.rcons r).cfg) : (onRcon r x w).2.setup = w.setup := by
  have hcfg : ∀ r', ((onRcon r x w).2.rcons r').cfg = (w.rcons r').cfg := by
    intro r'
    by_cases hr : r' = r
    · subst hr
      simpa [onRcon, World.record, World.setRcon] using h
    · simp [onRcon, World.record, World.setRcon, hr]
  exact congrArg (fun cfgs => (w.guildIds, w.gens,
    fun d => ((w.objs d).built, (w.objs d).specific), cfgs)) (funext hcfg)

theorem emitting_setup {α : Type} (source : Option RconRef) (x : Emit α) :
    Prog.Within (fun w w' : World => w'.setup = w.setup) (emitting source x) := fun _ => rfl

theorem request_setup (req : Request) :
    Prog.Within (fun w w' : World => w'.setup = w.setup) (request req) := fun _ => rfl

theorem rconStep_setup (env : Env) (o : Oracle) (r : RconRef) (e : RconEvent) (w : World) :
    (onRcon r (rconStep env o e) w).2.setup = w.setup :=
  onRcon_setup (rconStep_cfg env o e _)

theorem closeRcon_setup (env : Env) (o : RconRef → Oracle) (r : RconRef) :
    Prog.Within (fun w w' : World => w'.setup = w.setup) (closeRcon env o r) := by
  intro w
  cases hn : (w.rcons r).bnode with
  | none => rw [closeRcon_none hn]
  | some n =>
    rw [closeRcon_some hn]
    exact Prog.Within.bind_at setup_frame (onRcon_setup (close_cfg env (o r) n _)) fun _ =>
      .modify fun _ => rfl

theorem updateGuildData_setup (oldGuild newGuild : Guild) :
    Prog.Within (fun w w' : World => w'.setup = w.setup) (updateGuildData oldGuild newGuild) := by
  have hf := setup_frame
  exact .bind hf (.read hf _) fun _ => .when hf fun _ => .modify fun w =>
    setObj_setup (f := fun data => { data with guild := newGuild }) (fun _ => ⟨rfl, rfl⟩) w

theorem checkMessageAction_setup (env : Env) (o : RconRef → Oracle) (message : Message) :
    Prog.Within (fun w w' : World => w'.setup = w.setup) (checkMessageAction env o message) :=
  checkMessageAction_within setup_frame env o (fun source => emitting_setup source) request_setup
    message

end Settled

/-! ## Code that writes the setup -/

section Writing

variable {env : Env} {S : GuildId → Value → Prop} {ids : List GuildId} {gens : GuildId → Nat}

/-- The invariant, with the data objects that are in use. -/
def Founded (env : Env) (S : GuildId → Value → Prop) (ids : List GuildId) (gens : GuildId → Nat)
    (w : World) : Prop := w.Sourced env S ∧ w.guildIds = ids ∧ w.gens = gens

theorem Founded.of_setup {w w' : World} (h : w'.setup = w.setup) (hw : Founded env S ids gens w) :
    Founded env S ids gens w' :=
  ⟨hw.1.of_setup h, (congrArg (fun x => x.1) h).trans hw.2.1,
    (congrArg (fun x => x.2.1) h).trans hw.2.2⟩

theorem founded_of_setup {α : Type} {x : BotM α}
    (hx : Prog.Within (fun w w' : World => w'.setup = w.setup) x) :
    Prog.Triple (Founded env S ids gens) x (fun _ => Founded env S ids gens)
      (Founded env S ids gens) :=
  .of_within hx fun _ _ hw h => hw.of_setup h

theorem addData_sourced {w : World} (hw : w.Sourced env S) (guild : Guild) :
    (w.addData env guild).Sourced env S where
  data g hg := by
    by_cases hne : g = guild.id
    · rw [hne, World.addData_data_self]
      exact .own
    · rw [World.addData_data_of_ne w env hne]
      exact hw.data g ((World.mem_addData w env hne).1 hg)
  rcons r hr := by
    by_cases hd : r.data = ⟨guild.id, w.gens guild.id + 1⟩
    · -- nothing was built on the new object
      simp [World.addData, hd, newGuildData] at hr
    · simp only [World.addData, Function.update_of_ne hd] at hr
      exact hw.rcons r hr

/-- The `_cfg` of an rcon after a write in place is the old one, or a server of the
configuration. -/
theorem fill_cfg (w : World) (d : DataRef) (v : Value) (r : RconRef) :
    ((w.fill d v).rcons r).cfg = (w.rcons r).cfg ∨
      r.data = d ∧ ((w.fill d v).rcons r).cfg ∈ configured v := by
  by_cases hd : r.data = d
  · simp only [World.fill, if_pos hd, Rcon.reread, configured]
    split
    · rename_i server hserver
      obtain ⟨i, -, hi⟩ := Option.bind_eq_some_iff.1 hserver
      refine .inr ⟨hd, ?_⟩
      cases hlist : serverList v with
      | ok servers =>
        rw [hlist] at hi
        exact List.mem_of_getElem? hi
      | error e =>
        rw [hlist] at hi
        cases hi
    · exact .inl rfl
  · rw [w.fill_rcons_of_ne v hd]
    exact .inl rfl

/-- A configuration of the guild is installed, or written in place. -/
theorem reconfigure_founded {w : World} {g : GuildId} {parsed v : Value}
    (hw : Founded env S ids gens w) (hv : ConfigOf env S g v) :
    Founded env S ids gens (w.reconfigure ⟨g, gens g⟩ parsed v) := by
  obtain ⟨hsourced, rfl, rfl⟩ := hw
  have hgens : (w.reconfigure ⟨g, w.gens g⟩ parsed v).gens = w.gens := by
    unfold World.reconfigure
    split <;> rfl
  have hbuilt : ∀ d, ((w.reconfigure ⟨g, w.gens g⟩ parsed v).objs d).built =
      (w.objs d).built := by
    intro d
    by_cases hd : d = ⟨g, w.gens g⟩
    · subst hd
      unfold World.reconfigure
      split <;> simp
    · rw [World.reconfigure_of_ne _ _ _ _ hd]
  refine ⟨⟨fun g' hg' => ?_, fun r hr => ?_⟩, World.reconfigure_guildIds .., hgens⟩
  · rw [World.reconfigure_guildIds] at hg'
    rw [World.data, World.reconfigure_dataRef]
    by_cases hne : g' = g
    · subst hne
      change ConfigOf env S g' ((w.reconfigure ⟨g', w.gens g'⟩ parsed v).objs
        ⟨g', w.gens g'⟩).specific
      rw [World.reconfigure_specific]
      exact hv
    · rw [World.reconfigure_of_ne _ _ _ _ fun h => hne (congrArg DataRef.guild h)]
      exact hsourced.data g' hg'
  · have hold := hsourced.rcons r (hbuilt r.data ▸ hr)
    unfold World.reconfigure
    split
    · exact hold
    · rcases fill_cfg w ⟨g, w.gens g⟩ v r with hsame | ⟨hd, hserver⟩
      · rw [hsame]
        exact hold
      · have hguild : r.guild = g := congrArg DataRef.guild hd
        exact ⟨v, hguild ▸ hv, hserver⟩

/-- An instance is made for a server of the guild. -/
theorem alloc_sourced {w : World} {d : DataRef} {server : Value} {position : Nat}
    (hw : w.Sourced env S) (hserver : ServerOf env S d.guild server) :
    (w.alloc d server position).Sourced env S where
  data g hg := by
    change ConfigOf env S g ((w.alloc d server position).objs (w.dataRef g)).specific
    rw [World.alloc_specific]
    exact hw.data g hg
  rcons r hr := by
    have hinst := w.alloc_inst d server position r
    by_cases hnew : r = ⟨d, (w.objs d).built⟩
    · rw [if_pos hnew] at hinst
      have hcfg : ((w.alloc d server position).rcons r).cfg = server :=
        congrArg (fun s => s.rcon.cfg) hinst
      rw [hcfg, hnew]
      exact hserver
    · rw [if_neg hnew] at hinst
      have hcfg : ((w.alloc d server position).rcons r).cfg = (w.rcons r).cfg :=
        congrArg (fun s => s.rcon.cfg) hinst
      rw [hcfg]
      refine hw.rcons r ?_
      rw [World.alloc_built] at hr
      split at hr
      · rename_i h
        have hnum : r.num ≠ (w.objs d).built := fun heq => hnew (by rw [← heq, ← h])
        rw [h]
        exact lt_of_le_of_ne (Nat.lt_succ_iff.1 hr) hnum
      · exact hr

variable (o : RconRef → Oracle)

theorem buildRcon_founded {d : DataRef} {server : Value}
    (hserver : ServerOf env S d.guild server) (position : Nat) :
    Prog.Triple (Founded env S ids gens) (buildRcon env o d server position)
      (fun _ => Founded env S ids gens) (Founded env S ids gens) := by
  intro w hw
  have halloc : Founded env S ids gens (w.alloc d server position) :=
    ⟨alloc_sourced hw.1 hserver, hw.2.1, hw.2.2⟩
  let r : RconRef := ⟨d, (w.objs d).built⟩
  have hconstruct : Prog.Within (fun v v' : World => v'.setup = v.setup)
      (onRcon r (construct env (o r) (w.objs d).specific)) := fun v =>
    onRcon_setup (construct_cfg env (o r) _ ⟨v.rcons r, []⟩)
  have hpush : Prog.Within (fun v v' : World => v'.setup = v.setup)
      (Prog.modify (World.push · r)) := .modify fun v =>
    setObj_setup (f := fun data => { data with beRcons := data.beRcons ++ [r] })
      (fun _ => ⟨rfl, rfl⟩) v
  rw [buildRcon_apply]
  exact founded_of_setup (.bind setup_frame hconstruct fun _ => hpush) _ halloc

theorem buildRcons_founded {g : GuildId} (hg : g ∈ ids) :
    Prog.Triple (Founded env S ids gens) (buildRcons env o ⟨g, gens g⟩)
      (fun _ => Founded env S ids gens) (Founded env S ids gens) := by
  refine .of_snd fun w hw => ?_
  have hconfig := hw.1.data g (hw.2.1.symm ▸ hg)
  rw [World.data, World.dataRef, hw.2.2] at hconfig
  rcases buildRcons_cases env o ⟨g, gens g⟩ w with ⟨e, herror, -⟩ | hloop
  · rw [herror]
    exact hw
  · rw [hloop]
    refine (Prog.Triple.forEach fun server hserver => buildRcon_founded o ?_ server.2).snd hw
    have hactive := List.mem_of_getElem? (List.mem_zipIdx_iff_getElem?.1 hserver)
    exact ⟨_, hconfig, (activeServers_isPrefix _).subset hactive⟩

theorem initBERconAll_founded :
    Prog.Triple (Founded env S ids gens) (initBERconAll env o) (fun _ => Founded env S ids gens)
      (Founded env S ids gens) := by
  refine .read_bind fun w hw => .forEach fun g hg => .read_bind fun w' hw' => ?_
  rw [World.dataRef, hw'.2.2]
  exact buildRcons_founded o (hw.2.1 ▸ hg)

theorem initBERconGuild_founded (g : GuildId) :
    Prog.Triple (Founded env S ids gens) (initBERconGuild env o g)
      (fun _ => Founded env S ids gens) (Founded env S ids gens) := by
  rintro w ⟨hw, rfl, rfl⟩
  have hstart : Founded env S w.guildIds w.gens w := ⟨hw, rfl, rfl⟩
  by_cases hg : g ∈ w.guildIds
  · have hclose : Prog.Within (fun v v' : World => v'.setup = v.setup)
        (Prog.forEach (w.data g).beRcons (closeRcon env o)) :=
      .forEach setup_frame fun r _ => closeRcon_setup env o r
    have hclear : Prog.Within (fun v v' : World => v'.setup = v.setup)
        (Prog.modify fun v => v.setObj (w.dataRef g) fun data => { data with beRcons := [] }) :=
      .modify fun v => setObj_setup (f := fun data => { data with beRcons := [] })
        (fun _ => ⟨rfl, rfl⟩) v
    have hbuild : Prog.Triple (Founded env S w.guildIds w.gens) (buildRcons env o (w.dataRef g))
        (fun _ => Founded env S w.guildIds w.gens) (Founded env S w.guildIds w.gens) :=
      buildRcons_founded o hg
    rw [initBERconGuild_known hg]
    exact Prog.Triple.bind (founded_of_setup hclose)
      (fun _ => .bind (founded_of_setup hclear) fun _ => hbuild) w hstart
  · have hraise : initBERconGuild env o g w = (.error .typeError, w) := by
      rw [initBERconGuild, Prog.read_bind, if_neg (by simpa using hg)]
      rfl
    rw [hraise]
    exact hstart

theorem applyConfig_founded {g : GuildId} {text : Text}
    (hS : ∀ v, env.parse text = some v → S g v) :
    Prog.Triple (Founded env S ids gens) (applyConfig env g text)
      (fun _ => Founded env S ids gens) (Founded env S ids gens) := by
  refine .of_snd fun w hw => ?_
  by_cases hg : g ∈ w.guildIds
  · cases hparse : env.parse text with
    | none =>
      rw [applyConfig_unparsed hg hparse]
      exact hw
    | some v =>
      rw [applyConfig_parsed hg hparse, normalise_snd, World.dataRef, hw.2.2]
      refine reconfigure_founded hw ?_
      unfold chosen
      split
      · exact .stored (hS v hparse)
      · exact .filled (hw.1.data g hg)
  · rw [applyConfig_unknown hg]
    exact hw

theorem applyStored_founded {key : Text} {stored : Option (Option Text)}
    (hS : ∀ g text v, replaceFirst key (lit "guild:") [] = g.val → stored = some (some text) →
      env.parse text = some v → S g v) :
    Prog.Triple (Founded env S ids gens) (applyStored env key stored)
      (fun _ => Founded env S ids gens) (Founded env S ids gens) := by
  refine .read_bind fun w _ => ?_
  cases hknown : w.guildIds.find? fun g => g.val == replaceFirst key (lit "guild:") [] with
  | none => exact .pure fun _ h => h
  | some g =>
    have hown : g.val = replaceFirst key (lit "guild:") [] := by
      simpa using List.find?_some hknown
    refine .lift_bind (fun v hv => .read_bind fun w' hw' => .when (fun htruthy => ?_)
      fun _ _ h => h) fun _ h => h
    have hstored : S g v := by
      rcases stored with _ | _ | text
      · cases hv
      · cases hv
        cases htruthy
      · cases hparse : env.parse text with
        | none =>
          rw [jsonParse, hparse] at hv
          cases hv
        | some v' =>
          rw [jsonParse, hparse] at hv
          cases hv
          exact hS g text _ hown.symm rfl hparse
    rw [World.dataRef, hw'.2.2]
    refine .of_snd fun w₁ hw₁ => ?_
    have hset : setSpecific ⟨g, gens g⟩ v w₁ = (.ok (), w₁.setConfig ⟨g, gens g⟩ v) := rfl
    rw [Prog.bind_ok hset, normaliseData_apply, World.setConfig_self, World.setConfig_fill,
      normalise_snd]
    have hstep : Founded env S ids gens (w₁.reconfigure ⟨g, gens g⟩ v _) :=
      reconfigure_founded hw₁ (.stored hstored)
    rwa [World.reconfigure, if_pos htruthy] at hstep

/-- What keeps the data objects in use keeps the invariant. -/
theorem sourced_of_founded {α : Type} {x : BotM α}
    (h : ∀ ids gens, Prog.Triple (Founded env S ids gens) x (fun _ => Founded env S ids gens)
      (Founded env S ids gens)) :
    Prog.Within (fun w w' => w.Sourced env S → w'.Sourced env S) x := fun w hw =>
  ((h w.guildIds w.gens).snd ⟨hw, rfl, rfl⟩).1

end Writing

/-! ## Runs -/

/-- What an answer of Redis says about a guild: the value under the guild's key. -/
inductive Stored (env : Env) (w : World) (s : Step) (g : GuildId) (v : Value) : Prop
  | get {text : Text} (hs : s.event = .getReply g (some text)) (hv : env.parse text = some v)
  | mget {results : List (Option Text)} {keys : List Text} {i : Nat} {key text : Text}
      (hs : s.event = .mgetReply results) (hrequest : .mget keys ∈ w.redis)
      (hkey : keys[i]? = some key) (hown : replaceFirst key (lit "guild:") [] = g.val)
      (htext : results[i]? = some (some text)) (hv : env.parse text = some v)

/-- What was stored for a guild in the answers of a run. -/
def StoredIn (env : Env) (steps : List Step) (g : GuildId) (v : Value) : Prop :=
  ∃ before s after, steps = before ++ s :: after ∧ Stored env (run env before World.start) s g v

section Steps

variable {env : Env} {S : GuildId → Value → Prop} (o : RconRef → Oracle)

theorem initAfterReady_sourced (guilds : List Guild) :
    Prog.Within (fun w w' => w.Sourced env S → w'.Sourced env S) (initAfterReady env o guilds) :=
  initAfterReady_within (.inv (World.Sourced env S)) env
    (fun _ _ => (emitting_setup none _).mono fun _ _ h hw => hw.of_setup h)
    (fun guild => .modify fun _ hw => addData_sourced hw guild)
    (fun req => (request_setup req).mono fun _ _ h hw => hw.of_setup h)
    (fun _ => sourced_of_founded fun _ _ => initBERconAll_founded o)
    (.modify fun w hw => World.Sourced.of_setup (w := w) rfl hw) guilds

theorem onGuildCreate_sourced (guild : Guild) :
    Prog.Within (fun w w' => w.Sourced env S → w'.Sourced env S) (onGuildCreate env o guild) :=
  onGuildCreate_within (.inv (World.Sourced env S)) env
    (fun _ _ => (emitting_setup none _).mono fun _ _ h hw => hw.of_setup h)
    (fun guild => .modify fun _ hw => addData_sourced hw guild)
    (fun req => (request_setup req).mono fun _ _ h hw => hw.of_setup h)
    (fun _ => sourced_of_founded fun _ _ => initBERconAll_founded o) guild

theorem reloadReply_sourced (guild : Guild) (channel : Option Channel)
    (result : Option Text)
    (hS : ∀ text v, result = some text → env.parse text = some v → S guild.id v) :
    Prog.Within (fun w w' => w.Sourced env S → w'.Sourced env S)
      (reloadReply env o guild channel result) := by
  refine sourced_of_founded fun ids gens => ?_
  have hemit : ∀ x : Emit Unit, Prog.Triple (Founded env S ids gens) (emitting none x)
      (fun _ => Founded env S ids gens) (Founded env S ids gens) := fun x =>
    founded_of_setup (emitting_setup none x)
  unfold reloadReply
  split
  · exact .bind (hemit _) fun _ => .bind (hemit _) fun _ =>
      .bind (applyConfig_founded fun v hv => hS _ v rfl hv) fun _ => initBERconGuild_founded o _
  · exact .bind (hemit _) fun _ => hemit _

theorem mgetReply_sourced (keys : List Text) (results : List (Option Text))
    (hS : ∀ (i : Nat) key text g v, keys[i]? = some key → results[i]? = some (some text) →
      replaceFirst key (lit "guild:") [] = g.val → env.parse text = some v → S g v) :
    Prog.Within (fun w w' => w.Sourced env S → w'.Sourced env S)
      (mgetReply env o keys results) := by
  refine sourced_of_founded fun ids gens =>
    .bind (.forEach fun key hkey => applyStored_founded ?_) fun _ => initBERconAll_founded o
  exact fun g text v hown htext hv =>
    hS key.2 key.1 text g v (List.mem_zipIdx_iff_getElem?.1 hkey) htext hown hv

/-- An answer brings in what it says about the guild of its request. -/
theorem answerRequest_sourced {w : World} {s : Step} (hS : ∀ g v, Stored env w s g v → S g v)
    {req : Request} (hreq : w.redis.find? s.event.answers = some req) :
    Prog.Within (fun w w' => w.Sourced env S → w'.Sourced env S)
      (answerRequest env s.oracle s.event req) := by
  cases hs : s.event with
  | keysReply keys =>
    cases req with
    | keys => exact (request_setup _).mono fun _ _ h hw => hw.of_setup h
    | _ => exact fun _ hw => hw
  | mgetReply results =>
    cases req with
    | mget keys =>
      exact mgetReply_sourced s.oracle keys results fun i key text g v hkey htext hown hv =>
        hS g v (.mget hs (List.mem_of_find?_eq_some hreq) hkey hown htext hv)
    | _ => exact fun _ hw => hw
  | getReply g result =>
    cases req with
    | get guild channel =>
      rw [hs] at hreq
      have hanswers := List.find?_some hreq
      have hid : guild.id = g := eq_of_beq hanswers
      refine reloadReply_sourced s.oracle guild channel result fun text v hresult hv => ?_
      subst hid hresult
      exact hS guild.id v (.get hs hv)
    | _ => exact fun _ hw => hw
  | _ => exact fun _ hw => hw

/-- A step brings in what an answer of Redis has stored, and nothing else. -/
theorem step_sourced {w : World} {s : Step} (hS : ∀ g v, Stored env w s g v → S g v)
    (hw : w.Sourced env S) : (step env s w).2.Sourced env S := by
  have hredis : (redisAnswer env s.oracle s.event w).2.Sourced env S := by
    cases hreq : w.redis.find? s.event.answers with
    | none =>
      rw [redisAnswer_none hreq]
      exact hw
    | some req =>
      rw [redisAnswer_some hreq]
      exact answerRequest_sourced hS hreq _ (World.Sourced.of_setup (w := w) rfl hw)
  cases hs : s.event with
  | ready guilds =>
    simp only [step, hs]
    exact initAfterReady_sourced s.oracle guilds w hw
  | guildCreate guild =>
    simp only [step, hs]
    exact onGuildCreate_sourced s.oracle guild w hw
  | guildDelete guild =>
    simp only [step, hs]
    exact hw
  | guildUpdate oldGuild newGuild same =>
    simp only [step, hs]
    exact hw.of_setup (updateGuildData_setup oldGuild newGuild w)
  | message message =>
    simp only [step, hs]
    exact hw.of_setup (checkMessageAction_setup env s.oracle message w)
  | rcon r e =>
    simp only [step, hs]
    exact hw.of_setup (rconStep_setup env (s.oracle r) r e w)
  | _ =>
    rw [hs] at hredis
    simp only [step, hs]
    exact hredis

end Steps

theorem run_sourced (env : Env) (steps : List Step) :
    (run env steps World.start).Sourced env (StoredIn env steps) := by
  induction steps using List.reverseRecOn with
  | nil => exact ⟨fun g hg => absurd hg List.not_mem_nil, fun r hr => absurd hr (Nat.not_lt_zero _)⟩
  | append_singleton steps s ih =>
    have hmono : ∀ g v, StoredIn env steps g v → StoredIn env (steps ++ [s]) g v := by
      rintro g v ⟨before, s', after, rfl, hstored⟩
      exact ⟨before, s', after ++ [s], by simp, hstored⟩
    rw [run, List.foldl_append]
    exact step_sourced (fun g v h => ⟨steps, s, [], rfl, h⟩) (ih.mono hmono)

/-- **Every configuration belongs to its guild.** In every run the configuration of a guild is the
bot's own, or one that an answer of Redis has brought under the key of the guild, with the defaults
filled in; and every instance that has ever done something has a server of such a configuration of
its own guild. -/
theorem run_config_origin (env : Env) (steps : List Step) :
    let w := run env steps World.start
    (∀ g ∈ w.guildIds, ConfigOf env (StoredIn env steps) g (w.data g).specific) ∧
      ∀ r, w.calls r ≠ [] → ServerOf env (StoredIn env steps) r.guild (w.rcons r).cfg := by
  intro w
  have hw := run_sourced env steps
  refine ⟨hw.data, fun r hr => hw.rcons r ?_⟩
  by_contra hbuilt
  have hunbuilt := (World.Heap.start.run env steps).unbuilt r (Nat.not_lt.1 hbuilt)
  exact hr (congrArg RconSt.calls hunbuilt)

end ZBot
