import Mathlib.Logic.Relation
import ZBot.Verify.Filling
import ZBot.Verify.Link

/-!
# What a step does to each instance

A callback of an instance runs a method of that instance and leaves all others alone
(`rconStep_inst`). Any other step of the bot reaches an instance in four ways only: it closes the
instance in a reload, it hands a Discord message to its `checkAdminCommand`, it builds the instance,
or it fills defaults into the server object that the instance shares with the configuration. `Touch`
lists them, and `step_touches` says that the step is, for every instance, a sequence of touches.
`step_inv` is the rule for an invariant of the instances that follows.

The representation invariant `World.Heap` comes along: an instance that was not built yet has done
nothing, the lists of instances hold built ones only, and the servers that are recorded as shared
are the configurations of their instances.
-/

namespace ZBot

open Js RconM BotM

/-! ## One instance of a world -/

/-- The effects of an instance so far. -/
def World.calls (w : World) (r : RconRef) : List Effect :=
  w.trace.filterMap fun entry => if entry.1 = some r then some entry.2 else none

/-- An instance with its effects. -/
def World.inst (w : World) (r : RconRef) : RconSt := ⟨w.rcons r, w.calls r⟩

/-- An instance after it has run a method. -/
def RconSt.after {α : Type} (s : RconSt) (x : RconM α) : RconSt :=
  ⟨(x ⟨s.rcon, []⟩).2.rcon, s.calls ++ (x ⟨s.rcon, []⟩).2.calls⟩

theorem World.calls_record (w : World) (source : Option RconRef) (calls : List Effect)
    (r : RconRef) :
    (w.record source calls).calls r = w.calls r ++ if source = some r then calls else [] := by
  simp only [World.calls, World.record, List.filterMap_append, List.filterMap_map]
  congr 1
  by_cases h : source = some r
  · simp [h]
  · simp [h]

theorem onRcon_inst {α : Type} (r : RconRef) (x : RconM α) (w : World) (r' : RconRef) :
    (onRcon r x w).2.inst r' = if r' = r then (w.inst r).after x else w.inst r' := by
  simp only [World.inst, onRcon, Prog.zoom_apply, World.calls_record, Option.some.injEq]
  by_cases h : r' = r
  · subst h
    simp [World.record, World.setRcon, RconSt.after, World.calls]
  · simp [World.record, World.setRcon, World.calls, h, Ne.symm h]

/-! ## Instances and the lists they are in -/

theorem World.dataRef_ne (w : World) {g g' : GuildId} (hne : g' ≠ g) :
    w.dataRef g' ≠ w.dataRef g := by
  simp [World.dataRef, hne]

/-- An instance that is built is none of those that `d` builds next. -/
theorem World.built_before {w : World} {r : RconRef} (h : r.num < (w.objs r.data).built)
    (d : DataRef) : r.data ≠ d ∨ r.num < (w.objs d).built := by
  by_cases hd : r.data = d
  · exact .inr (hd ▸ h)
  · exact .inl hd

/-- The ways a step of the bot reaches an instance; `closing` says whether it may close it. -/
inductive Touch (env : Env) (o : Oracle) (closing : Prop) : RconSt → RconSt → Prop
  | close {s : RconSt} {n : Nat} (hclosing : closing) (hn : s.rcon.bnode = some n) :
      Touch env o closing s (s.after (close env o n))
  | admin {s : RconSt} (specific : Value) (message : Message) :
      Touch env o closing s
        (s.after (emitting (checkAdminCommand env s.rcon specific o.throws message)))
  | build {s : RconSt} (hnew : s.calls = []) (server specific : Value) (guild : Guild) :
      Touch env o closing s (RconSt.after ⟨.blank server guild, []⟩ (construct env o specific))
  | fill {s : RconSt} {cfg : Value}
      (hcfg : normaliseServer env.showChannels s.rcon.cfg = .ok cfg) :
      Touch env o closing s { s with rcon := { s.rcon with cfg := cfg } }

/-- The lists of instances hold built instances, an instance that is not built has done nothing, and
one that shares a server with the configuration has it as its own. -/
structure World.Heap (w : World) : Prop where
  built : ∀ d, w.gens d.guild < d.gen → (w.objs d).built = 0
  unbuilt : ∀ r, (w.objs r.data).built ≤ r.num → w.inst r = ⟨default, []⟩
  bercons : ∀ r ∈ w.bercons, r.num < (w.objs r.data).built
  beRcons : ∀ d, ∀ r ∈ (w.objs d).beRcons, r.data = d ∧ r.num < (w.objs d).built
  shares : w.Shares
  unshared : ∀ d num, (w.objs d).built ≤ num → (w.objs d).shared num = none

theorem World.Heap.start : World.start.Heap where
  built _ _ := rfl
  unbuilt _ _ := rfl
  bercons _ hr := by cases hr
  beRcons _ _ hr := by cases hr
  shares _ _ hr := by cases hr
  unshared _ _ _ := rfl

/-- No server is shared that was not, and those that are belong to the same configuration. -/
def World.SharesOf (w w' : World) : Prop :=
  ∀ d num i, (w'.objs d).shared num = some i →
    (w.objs d).shared num = some i ∧ (w'.objs d).specific = (w.objs d).specific

/-- Nothing was built, and the lists did not grow. -/
theorem World.Heap.shrink {w w' : World} (hw : w.Heap) (hgens : ∀ g, w.gens g ≤ w'.gens g)
    (hinst : ∀ r, w'.inst r = w.inst r) (hbuilt : ∀ d, (w'.objs d).built = (w.objs d).built)
    (hbercons : w'.bercons ⊆ w.bercons)
    (hbeRcons : ∀ d, (w'.objs d).beRcons ⊆ (w.objs d).beRcons) (hshared : w.SharesOf w') :
    w'.Heap where
  built d hd := by rw [hbuilt]; exact hw.built d ((hgens _).trans_lt hd)
  unbuilt r hr := by rw [hinst]; exact hw.unbuilt r (hbuilt _ ▸ hr)
  bercons r hr := by rw [hbuilt]; exact hw.bercons r (hbercons hr)
  beRcons d r hr := by rw [hbuilt]; exact hw.beRcons d r (hbeRcons d hr)
  shares r i hr := by
    obtain ⟨hold, hspecific⟩ := hshared r.data r.num i hr
    have hcfg : (w'.rcons r).cfg = (w.rcons r).cfg := congrArg (fun s => s.rcon.cfg) (hinst r)
    rw [hspecific, hcfg]
    exact hw.shares r i hold
  unshared d num hnum := by
    cases h : (w'.objs d).shared num with
    | none => rfl
    | some i =>
      have hold := (hshared d num i h).1
      rw [hw.unshared d num (hbuilt d ▸ hnum)] at hold
      cases hold

/-- Emptying the list of a data object. -/
theorem World.Heap.clear {w : World} (hw : w.Heap) (d : DataRef) :
    (w.setObj d fun data => { data with beRcons := [] }).Heap := by
  refine hw.shrink (fun _ => le_rfl) (fun _ => rfl) (fun d' => ?_) (fun _ h => h) (fun d' => ?_)
    fun d' num i h => ?_
  · by_cases h : d' = d <;> simp [World.setObj, h]
  · by_cases h : d' = d <;> simp [World.setObj, h]
  · by_cases hd : d' = d
    · subst hd
      rw [World.setObj_self] at h ⊢
      exact ⟨h, rfl⟩
    · rw [World.setObj_of_ne _ _ hd] at h ⊢
      exact ⟨h, rfl⟩

theorem World.addData_data_self (w : World) (env : Env) (guild : Guild) :
    (w.addData env guild).data guild.id = newGuildData env guild := by
  simp [World.data, World.dataRef, World.addData]

theorem World.addData_data_of_ne (w : World) (env : Env) {guild : Guild} {g : GuildId}
    (hne : g ≠ guild.id) : (w.addData env guild).data g = w.data g := by
  simp [World.data, World.dataRef, World.addData, hne]

theorem World.mem_addData (w : World) (env : Env) {guild : Guild} {g : GuildId}
    (hne : g ≠ guild.id) : g ∈ (w.addData env guild).guildIds ↔ g ∈ w.guildIds := by
  simp only [World.addData]
  split
  · exact Iff.rfl
  · simp [hne]

theorem World.gens_addData (w : World) (env : Env) (guild : Guild) (g : GuildId) :
    w.gens g ≤ (w.addData env guild).gens g := by
  by_cases h : g = guild.id
  · subst h; simp [World.addData]
  · simp [World.addData, h]

/-- Making a data object. -/
theorem World.Heap.addData {w : World} (hw : w.Heap) (env : Env) (guild : Guild) :
    (w.addData env guild).Heap := by
  have hnew : (w.objs ⟨guild.id, w.gens guild.id + 1⟩).built = 0 :=
    hw.built _ (Nat.lt_succ_self _)
  refine hw.shrink (w.gens_addData env guild) (fun _ => rfl) (fun d => ?_) (fun _ h => h)
    (fun d => ?_) fun d num i hi => ?_
  · by_cases h : d = ⟨guild.id, w.gens guild.id + 1⟩
    · subst h; simp [World.addData, newGuildData, hnew]
    · simp [World.addData, h]
  · by_cases h : d = ⟨guild.id, w.gens guild.id + 1⟩
    · subst h; simp [World.addData, newGuildData]
    · simp [World.addData, h]
  · by_cases h : d = ⟨guild.id, w.gens guild.id + 1⟩
    · subst h
      simp [World.addData, newGuildData] at hi
    · simp only [World.addData, Function.update_of_ne h] at hi ⊢
      exact ⟨hi, trivial⟩

/-! ## What reaches no instance -/

/-- Where the bot looks up data objects and instances. -/
def World.registry (w : World) :
    List GuildId × (GuildId → Nat) × (DataRef → List RconRef) × List RconRef :=
  (w.guildIds, w.gens, fun d => (w.objs d).beRcons, w.bercons)

theorem registry_guildIds {w w' : World} (h : w'.registry = w.registry) :
    w'.guildIds = w.guildIds := congrArg (fun x => x.1) h

theorem registry_bercons {w w' : World} (h : w'.registry = w.registry) :
    w'.bercons = w.bercons := congrArg (fun x => x.2.2.2) h

theorem registry_beRcons {w w' : World} (h : w'.registry = w.registry) (g : GuildId) :
    (w'.data g).beRcons = (w.data g).beRcons := by
  have hgens : w'.gens = w.gens := congrArg (fun x => x.2.1) h
  have hlists := congrFun (congrArg (fun x => x.2.2.1) h) ⟨g, w.gens g⟩
  simp only [World.data, World.dataRef, hgens]
  exact hlists

/-- The registry and the instances are left alone. -/
structure Passive (w w' : World) : Prop where
  registry : w'.registry = w.registry
  built : ∀ d, (w'.objs d).built = (w.objs d).built
  inst : ∀ r, w'.inst r = w.inst r
  shared : w.SharesOf w'

theorem World.SharesOf.refl (w : World) : w.SharesOf w := fun _ _ _ h => ⟨h, rfl⟩

theorem Passive.frame : Prog.Frame Passive := by
  refine ⟨fun w => ⟨rfl, fun _ => rfl, fun _ => rfl, .refl w⟩, fun h h' => ⟨h'.registry.trans
    h.registry, fun d => (h'.built d).trans (h.built d), fun r => (h'.inst r).trans (h.inst r),
    fun d num i hi => ?_⟩⟩
  obtain ⟨hi', hspecific'⟩ := h'.shared d num i hi
  obtain ⟨hi'', hspecific⟩ := h.shared d num i hi'
  exact ⟨hi'', hspecific'.trans hspecific⟩

/-- The data objects are left alone too. -/
theorem Passive.of_objs {w w' : World} (hregistry : w'.registry = w.registry)
    (hobjs : w'.objs = w.objs) (hinst : ∀ r, w'.inst r = w.inst r) : Passive w w' :=
  ⟨hregistry, fun d => by rw [hobjs], hinst, fun _ _ _ h => by rw [hobjs] at h ⊢; exact ⟨h, rfl⟩⟩

namespace Passive

variable {w w' : World} (h : Passive w w')

include h

theorem gens : w'.gens = w.gens := congrArg (fun x => x.2.1) h.registry

theorem rcons (r : RconRef) : w'.rcons r = w.rcons r := congrArg RconSt.rcon (h.inst r)

theorem heap (hw : w.Heap) : w'.Heap := by
  refine hw.shrink (fun _ => h.gens ▸ le_rfl) h.inst h.built ?_ (fun d => ?_) h.shared
  · exact (registry_bercons h.registry) ▸ List.Subset.refl _
  · have hlist : (w'.objs d).beRcons = (w.objs d).beRcons :=
      congrFun (congrArg (fun x => x.2.2.1) h.registry) d
    exact hlist ▸ List.Subset.refl _

end Passive

theorem emitting_passive {α : Type} (x : Emit α) :
    Prog.Within Passive (BotM.emitting none x) := by
  refine fun w => .of_objs rfl rfl fun r => ?_
  simp only [World.inst, BotM.emitting, Prog.zoom_apply, World.calls_record, reduceCtorEq,
    if_false, List.append_nil]
  rfl

theorem request_passive (req : Request) : Prog.Within Passive (request req) :=
  fun _ => .of_objs rfl rfl fun _ => rfl

/-- Writing a data object, its instances apart. -/
theorem setObj_passive {d : World → DataRef} {f : World → GuildData → GuildData}
    (hbeRcons : ∀ w data, (f w data).beRcons = data.beRcons)
    (hbuilt : ∀ w data, (f w data).built = data.built)
    (hshared : ∀ w data num i, (f w data).shared num = some i →
      data.shared num = some i ∧ (f w data).specific = data.specific) :
    Prog.Within Passive (Prog.modify fun w => w.setObj (d w) (f w)) := by
  refine fun w => ⟨Prod.ext rfl (Prod.ext rfl (Prod.ext (funext fun d' => ?_) rfl)), fun d' => ?_,
    fun _ => rfl, fun d' num i hi => ?_⟩
  · by_cases h : d' = d w
    · subst h; simp [World.setObj, World.registry, hbeRcons]
    · simp [World.setObj, World.registry, h]
  · by_cases h : d' = d w
    · subst h; simp [World.setObj, hbuilt]
    · simp [World.setObj, h]
  · by_cases h : d' = d w
    · subst h
      simp only [Prog.modify_apply, World.setObj_self] at hi ⊢
      exact hshared w _ num i hi
    · simp only [Prog.modify_apply, World.setObj_of_ne _ _ h] at hi ⊢
      exact ⟨hi, trivial⟩

/-- A new configuration is shared with nobody. -/
theorem setSpecific_passive (d : DataRef) (specific : Value) :
    Prog.Within Passive (setSpecific d specific) :=
  setObj_passive (fun _ _ => rfl) (fun _ _ => rfl) fun _ _ _ _ h => by cases h

theorem updateGuildData_passive (oldGuild newGuild : Guild) :
    Prog.Within Passive (updateGuildData oldGuild newGuild) :=
  have hf := Passive.frame
  .bind hf (.read hf _) fun _ => .when hf fun _ =>
    setObj_passive (fun _ _ => rfl) (fun _ _ => rfl) fun _ _ _ _ h => ⟨h, rfl⟩

/-! ### Rules for the bot's own code -/

section Code

variable {R : World → World → Prop} (hR : Prog.Frame R) (env : Env)

include hR

/-- Applying a configuration writes the data object of the guild. -/
theorem applyConfig_within {g : GuildId} (text : Text)
    (hset : ∀ d : DataRef, d.guild = g → ∀ v, Prog.Within R (setSpecific d v))
    (hfill : ∀ d : DataRef, d.guild = g → Prog.Within R (normaliseData env d)) :
    Prog.Within R (applyConfig env g text) := by
  refine .bind hR (.read hR _) fun known => .read_bind fun w => .when hR fun _ => ?_
  refine .bind hR (.lift hR _) fun specific => ?_
  exact .bind hR (.when hR fun _ => hset _ rfl specific) fun _ => hfill _ rfl

theorem applyConfigs_within (keys : List Text) (specificConfigs : List (Option Text))
    (hset : ∀ d v, Prog.Within R (setSpecific d v))
    (hfill : ∀ d, Prog.Within R (normaliseData env d)) :
    Prog.Within R (applyConfigs env keys specificConfigs) := by
  refine .forEach hR fun key _ => .bind hR (.read hR _) fun known => ?_
  cases known with
  | none => exact .pure hR _
  | some g =>
    refine .bind hR (.lift hR _) fun specific => .bind hR (.read hR _) fun d => .when hR fun _ => ?_
    exact .bind hR (hset d specific) fun _ => hfill d

/-- The instances of a data object are built one by one. -/
theorem buildRcons_within (o : RconRef → Oracle) (d : DataRef)
    (hbuild : ∀ server position, Prog.Within R (buildRcon env o d server position)) :
    Prog.Within R (buildRcons env o d) := by
  refine .bind hR (.read hR _) fun specific => .bind hR (.lift hR _) fun enabled => ?_
  refine .when hR fun _ => .bind hR (.lift hR _) fun servers => ?_
  exact .forEach hR fun server _ => hbuild server.1 server.2

theorem initBERconAll_within (o : RconRef → Oracle)
    (hbuild : ∀ d, Prog.Within R (buildRcons env o d)) : Prog.Within R (initBERconAll env o) := by
  refine .bind hR (.read hR _) fun guildIds => .forEach hR fun g _ => ?_
  exact .bind hR (.read hR _) fun d => hbuild d

/-- A reload closes, forgets and builds the instances of a data object. -/
theorem initBERconGuild_within (o : RconRef → Oracle) (g : GuildId)
    (hclose : ∀ r, Prog.Within R (closeRcon env o r))
    (hclear : ∀ d, Prog.Within R (Prog.modify fun w =>
      w.setObj d fun data => { data with beRcons := [] }))
    (hbuild : ∀ d, Prog.Within R (buildRcons env o d)) :
    Prog.Within R (initBERconGuild env o g) := by
  refine .bind hR (.read hR _) fun known => .ite (fun _ => ?_) fun _ => .raise hR _
  refine .bind hR (.read hR _) fun d => .bind hR (.read hR _) fun beRcons => ?_
  exact .bind hR (.forEach hR fun r _ => hclose r) fun _ => .bind hR (hclear d) fun _ => hbuild d

/-- A Discord command that is not for an instance prints, or sends the request of a reload. -/
theorem runCli_within (hemit : ∀ x : Emit Unit, Prog.Within R (BotM.emitting none x))
    (message : Message) {c : CliCall}
    (hrequest : c = .reload → ∀ req, Prog.Within R (request req)) :
    Prog.Within R (runCli env message c) := by
  cases c with
  | broadcast =>
    refine .ite (fun _ => ?_) fun _ => hemit _
    exact .bind hR (.read hR _) fun _ => .forEach hR fun _ _ =>
      .bind hR (.read hR _) fun _ => hemit _
  | disconnect => exact .when hR fun _ => hemit _
  | listinfo guildId =>
    refine .ite (fun _ => .bind hR (.read hR _) fun known => ?_) fun _ => hemit _
    cases known with
    | none => exact .when hR fun _ => hemit _
    | some g => exact .bind hR (.read hR _) fun _ => .ite (fun _ => hemit _) fun _ => .raise hR _
  | liststats extended =>
    refine .ite (fun _ => .bind hR ?_ fun _ => .when hR fun _ => ?_) fun _ => hemit _
    · exact .bind hR (hemit _) fun _ => .bind hR (.read hR _) fun _ => hemit _
    · exact .bind hR (.read hR _) fun _ => .bind hR (.lift hR _) fun _ => hemit _
  | reload =>
    rw [runCli]
    split
    · exact hrequest rfl _
    · exact .raise hR _
  | _ => exact hemit _

theorem checkCliMessagesAction_within
    (hemit : ∀ x : Emit Unit, Prog.Within R (BotM.emitting none x))
    (hrequest : ∀ req, Prog.Within R (request req)) (message : Message) :
    Prog.Within R (checkCliMessagesAction env message) := by
  unfold checkCliMessagesAction
  split
  · exact runCli_within hR env hemit message fun _ => hrequest
  · exact .pure hR _

/-- A message is read, answered, and handed to the listed instances. -/
theorem checkMessageAction_within (o : RconRef → Oracle)
    (hemit : ∀ source (x : Emit Unit), Prog.Within R (BotM.emitting source x))
    (hrequest : ∀ req, Prog.Within R (request req)) (message : Message) :
    Prog.Within R (checkMessageAction env o message) := by
  refine .when hR fun _ => .bind hR ?_ fun _ => .bind hR (.read hR _) fun _ => .forEach hR ?_
  · exact checkCliMessagesAction_within hR env (hemit none) hrequest message
  · intro r _
    exact .bind hR (.read hR _) fun _ => .bind hR (.read hR _) fun _ => hemit _ _

section Joining

variable {o : RconRef → Oracle} (hlog : ∀ text, Shown text →
    Prog.Within R (BotM.emitting none (logBot env text)))
  (hadd : ∀ guild, Prog.Within R (Prog.modify (World.addData env guild)))
  (hrequest : ∀ req, Prog.Within R (request req))
  (hbuild : env.useRedis = false → Prog.Within R (initBERconAll env o))

include hlog hadd hrequest hbuild

/-- The first `ready` makes the data objects, and asks for configurations or builds. -/
theorem initAfterReady_within
    (hrunning : Prog.Within R (Prog.modify fun w => { w with running := true }))
    (guilds : List Guild) : Prog.Within R (initAfterReady env o guilds) := by
  refine .bind hR (.read hR _) fun _ => .when hR fun _ => .bind hR ?_ fun _ =>
    .bind hR ?_ fun _ => hrunning
  · refine .forEach hR fun guild _ => .bind hR (hlog _ ?_) fun _ => hadd guild
    exact .append_left (.append_right _ (by decide)) _
  · exact .ite (fun _ => hrequest _) fun h => hbuild (Bool.not_eq_true _ ▸ h)

theorem onGuildCreate_within (guild : Guild) : Prog.Within R (onGuildCreate env o guild) := by
  refine .bind hR (.bind hR ?_ fun _ => ?_) fun _ => hlog _ (.append_left (by decide) _)
  · refine .bind hR (.read hR _) fun _ => .when hR fun _ => .bind hR (hlog _ ?_) fun _ => hadd guild
    exact .append_left (.append_left (.append_left (by decide) _) _) _
  · exact .ite (fun _ => hrequest _) fun h => hbuild (Bool.not_eq_true _ ▸ h)

end Joining

end Code

theorem checkCliMessagesAction_passive (env : Env) (message : Message) :
    Prog.Within Passive (checkCliMessagesAction env message) :=
  checkCliMessagesAction_within Passive.frame env emitting_passive request_passive message

/-- Running a method that keeps the configuration of its instance. -/
theorem World.Heap.onRcon {w : World} (hw : w.Heap) {α : Type} {r : RconRef} {x : RconM α}
    (hunbuilt : w.inst r = ⟨default, []⟩ → (w.inst r).after x = w.inst r)
    (hcfg : ((w.inst r).after x).rcon.cfg = (w.rcons r).cfg) : (onRcon r x w).2.Heap := by
  refine ⟨hw.built, fun r' hr' => ?_, hw.bercons, hw.beRcons, fun r' i hi => ?_, hw.unshared⟩
  · rw [onRcon_inst]
    split
    · rename_i h; subst h
      rw [hunbuilt (hw.unbuilt r' hr')]
      exact hw.unbuilt r' hr'
    · exact hw.unbuilt r' hr'
  · have hsame : ((BotM.onRcon r x w).2.rcons r').cfg = (w.rcons r').cfg := by
      have hinst := onRcon_inst r x w r'
      by_cases h : r' = r
      · subst h
        rw [if_pos rfl] at hinst
        exact (congrArg (fun s => s.rcon.cfg) hinst).trans hcfg
      · rw [if_neg h] at hinst
        exact congrArg (fun s => s.rcon.cfg) hinst
    rw [hsame]
    exact hw.shares r' i hi

theorem rconStep_cfg (env : Env) (o : Oracle) (e : RconEvent) (s : RconSt) :
    (rconStep env o e s).2.rcon.cfg = s.rcon.cfg :=
  (rconStep_held (E := Rcon.cfg) (fun _ _ _ _ _ => rfl) (fun _ _ _ _ _ => rfl)
    (Permits.trivial _ s e)).rcon

theorem close_cfg (env : Env) (o : Oracle) (n : Nat) (s : RconSt) :
    (close env o n s).2.rcon.cfg = s.rcon.cfg :=
  (close_held (E := Rcon.cfg) (fun _ _ _ _ => rfl) (fun _ _ _ _ _ => rfl) (Voices.trivial _ s)
    (fun _ _ => trivial) (fun _ _ => trivial) trivial trivial).rcon

theorem construct_cfg (env : Env) (o : Oracle) (specific : Value) (s : RconSt) :
    (construct env o specific s).2.rcon.cfg = s.rcon.cfg :=
  (construct_held (E := Rcon.cfg) (P := fun _ => True) (fun _ _ _ _ _ => rfl) (fun _ _ => rfl)
    (fun _ _ => rfl) (fun _ _ => trivial) (fun _ => trivial) (fun _ => trivial) specific).rcon

/-! ## Touches -/

section Touches

variable (env : Env) (o : RconRef → Oracle) (closing : RconRef → Prop)

/-- Every instance was reached by touches, and the representation invariant is kept. -/
def Touches (w w' : World) : Prop :=
  (∀ g, w.gens g ≤ w'.gens g) ∧ (w.Heap → w'.Heap ∧
    ∀ r, Relation.ReflTransGen (Touch env (o r) (closing r)) (w.inst r) (w'.inst r))

theorem Touches.frame : Prog.Frame (Touches env o closing) :=
  Prog.Frame.and ⟨fun _ _ => le_rfl, fun h h' g => (h g).trans (h' g)⟩
    (Prog.Frame.guard ⟨fun _ _ => .refl, fun h h' r => (h r).trans (h' r)⟩ World.Heap)

variable {env o closing}

/-- No instance is reached. -/
theorem Touches.of_inst {w w' : World} (hgens : ∀ g, w.gens g ≤ w'.gens g)
    (hinst : ∀ r, w'.inst r = w.inst r) (hheap : w.Heap → w'.Heap) :
    Touches env o closing w w' :=
  ⟨hgens, fun hw => ⟨hheap hw, fun r => by rw [hinst r]⟩⟩

theorem Touches.heap {w w' : World} (h : Touches env o closing w w') (hw : w.Heap) : w'.Heap :=
  (h.2 hw).1

theorem Passive.touches {w w' : World} (h : Passive w w') : Touches env o closing w w' :=
  .of_inst (fun _ => h.gens ▸ le_rfl) h.inst h.heap

theorem passive_touches {α : Type} {x : BotM α} (hx : Prog.Within Passive x) :
    Prog.Within (Touches env o closing) x := fun w => (hx w).touches

theorem addData_touches (guild : Guild) :
    Prog.Within (Touches env o closing) (Prog.modify (World.addData env guild)) :=
  fun w => .of_inst (w.gens_addData env guild) (fun _ => rfl) fun hw => hw.addData env guild

/-- A method of an instance is a touch when it keeps the configuration, and an instance that is not
built has none to run. -/
theorem onRcon_touches {α : Type} {r : RconRef} {x : RconM α} {w : World}
    (htouch : Touch env (o r) (closing r) (w.inst r) ((w.inst r).after x))
    (hunbuilt : w.inst r = ⟨default, []⟩ → (w.inst r).after x = w.inst r)
    (hcfg : ((w.inst r).after x).rcon.cfg = (w.rcons r).cfg) :
    Touches env o closing w (onRcon r x w).2 :=
  ⟨fun _ => le_rfl, fun hw => ⟨hw.onRcon hunbuilt hcfg, fun r' => by
    rw [onRcon_inst]
    split
    · rename_i h; subst h; exact .single htouch
    · exact .refl⟩⟩

/-- An instance that is not built gets no event. -/
theorem rconStep_default (env : Env) (o : Oracle) (e : RconEvent) :
    rconStep env o e ⟨default, []⟩ = (.ok (), ⟨default, []⟩) := by
  cases e <;> rfl

theorem closeRcon_none {env : Env} {o : RconRef → Oracle} {r : RconRef} {w : World}
    (hn : (w.rcons r).bnode = none) : closeRcon env o r w = (.ok (), w) := by
  simp only [closeRcon, Prog.read_bind, hn]
  rfl

theorem closeRcon_some {env : Env} {o : RconRef → Oracle} {r : RconRef} {w : World} {n : Nat}
    (hn : (w.rcons r).bnode = some n) :
    closeRcon env o r w = (do
      onRcon r (close env (o r) n)
      Prog.modify fun w => { w with bercons := w.bercons.filter (· != r) }) w := by
  simp only [closeRcon, Prog.read_bind, hn]

theorem closeRcon_touches {r : RconRef} (hr : closing r) :
    Prog.Within (Touches env o closing) (closeRcon env o r) := by
  intro w
  cases hn : (w.rcons r).bnode with
  | none =>
    rw [closeRcon_none hn]
    exact (Touches.frame ..).refl w
  | some n =>
    rw [closeRcon_some hn]
    refine Prog.Within.bind_at (Touches.frame ..)
      (onRcon_touches (.close hr hn) (fun h => ?_) (close_cfg env (o r) n _)) fun _ => ?_
    · have : (w.rcons r).bnode = none := congrArg (fun s => s.rcon.bnode) h
      cases this.symm.trans hn
    · refine .modify fun w => .of_inst (fun _ => le_rfl) (fun _ => rfl) fun hw => ?_
      exact hw.shrink (fun _ => le_rfl) (fun _ => rfl) (fun _ => rfl)
        (fun _ h => List.mem_of_mem_filter h) (fun _ _ h => h) (.refl w)

theorem emitting_some_eq {α : Type} (r : RconRef) (x : Emit α) :
    BotM.emitting (some r) x = onRcon r (RconM.emitting x) := by
  funext w
  simp [BotM.emitting, onRcon, RconM.emitting, World.setRcon, World.record]

theorem adminAction_touches (message : Message) (r : RconRef) :
    Prog.Within (Touches env o closing) (adminAction env o message r) := by
  intro w
  simp only [adminAction, Prog.read_bind, emitting_some_eq]
  refine onRcon_touches (.admin _ message) (fun h => ?_) rfl
  have hrcon : w.rcons r = default := congrArg RconSt.rcon h
  rw [h, hrcon]
  rfl

/-- A write in place is a touch of the instances that share a server. -/
theorem normaliseData_touches (d : DataRef) :
    Prog.Within (Touches env o closing) (normaliseData env d) := by
  intro w
  let w' := w.fill d (normalise env.showChannels (w.objs d).specific).2
  have hobjs : ∀ d', (w'.objs d').built = (w.objs d').built ∧
      (w'.objs d').beRcons = (w.objs d').beRcons ∧ (w'.objs d').shared = (w.objs d').shared := by
    intro d'
    by_cases h : d' = d
    · subst h; simp [w']
    · simp [w', h]
  have hunshared : ∀ r, (w.objs r.data).shared r.num = none → w'.inst r = w.inst r :=
    fun r hr => congrArg (RconSt.mk · (w.calls r)) (w.fill_rcons_of_none _ hr)
  refine ⟨fun _ => le_rfl, fun hw => ⟨⟨fun d' hd' => ?_, fun r hr => ?_, fun r hr => ?_,
    fun d' r hr => ?_, hw.shares.fill env.showChannels d, fun d' num hnum => ?_⟩, fun r => ?_⟩⟩
  · exact (hobjs d').1.trans (hw.built d' hd')
  · have hr' : (w.objs r.data).built ≤ r.num := (hobjs r.data).1 ▸ hr
    exact (hunshared r (hw.unshared _ _ hr')).trans (hw.unbuilt r hr')
  · exact (hw.bercons r hr).trans_eq (hobjs r.data).1.symm
  · have hold := hw.beRcons d' r ((hobjs d').2.1 ▸ hr)
    exact ⟨hold.1, hold.2.trans_eq (hobjs d').1.symm⟩
  · exact (congrFun (hobjs d').2.2 num).trans (hw.unshared d' num ((hobjs d').1 ▸ hnum))
  · rcases hw.shares.filled env.showChannels d r with hsame | ⟨cfg, hcfg, hfilled⟩
    · have hinst : w'.inst r = w.inst r := congrArg (RconSt.mk · (w.calls r)) hsame
      exact hinst ▸ .refl
    · have hinst : w'.inst r = ⟨{ w.rcons r with cfg := cfg }, w.calls r⟩ :=
        congrArg (RconSt.mk · (w.calls r)) hfilled
      exact hinst ▸ .single (.fill hcfg)

theorem applyConfig_touches (g : GuildId) (text : Text) :
    Prog.Within (Touches env o closing) (applyConfig env g text) :=
  applyConfig_within (Touches.frame ..) env text
    (fun d _ v => passive_touches (setSpecific_passive d v)) fun d _ => normaliseData_touches d

theorem applyConfigs_touches (keys : List Text) (specificConfigs : List (Option Text)) :
    Prog.Within (Touches env o closing) (applyConfigs env keys specificConfigs) :=
  applyConfigs_within (Touches.frame ..) env keys specificConfigs
    (fun d v => passive_touches (setSpecific_passive d v)) normaliseData_touches

/-- Only the configurations are written: the registry is left alone, and the instances apart from
what they share with a configuration. -/
structure Refills (w w' : World) : Prop where
  registry : w'.registry = w.registry
  heap : w.Heap → w'.Heap
  calls : ∀ r, w'.calls r = w.calls r
  rcons : ∀ r, ∃ cfg, w'.rcons r = { w.rcons r with cfg := cfg }

theorem Refills.frame : Prog.Frame Refills := by
  refine ⟨fun w => ⟨rfl, id, fun _ => rfl, fun r => ⟨(w.rcons r).cfg, rfl⟩⟩,
    fun h h' => ⟨?_, ?_, ?_, fun r => ?_⟩⟩
  · exact h'.registry.trans h.registry
  · exact fun hw => h'.heap (h.heap hw)
  · exact fun r => (h'.calls r).trans (h.calls r)
  · obtain ⟨cfg, hcfg⟩ := h.rcons r
    obtain ⟨cfg', hcfg'⟩ := h'.rcons r
    exact ⟨cfg', by rw [hcfg', hcfg]⟩

theorem Passive.refills {w w' : World} (h : Passive w w') : Refills w w' :=
  ⟨h.registry, h.heap, fun r => congrArg RconSt.calls (h.inst r),
    fun r => ⟨(w.rcons r).cfg, h.rcons r⟩⟩

theorem Refills.bnode {w w' : World} (h : Refills w w') (r : RconRef) :
    (w'.rcons r).bnode = (w.rcons r).bnode := by
  obtain ⟨cfg, hcfg⟩ := h.rcons r
  rw [hcfg]

theorem normaliseData_refills (env : Env) (d : DataRef) :
    Prog.Within Refills (normaliseData env d) := by
  intro w
  have htouches : Touches env (fun _ => ⟨fun _ => false, fun _ => false⟩) (fun _ => False) w _ :=
    normaliseData_touches d w
  refine ⟨?_, htouches.heap, fun _ => rfl, fun r => w.fill_rcons d _ r⟩
  refine Prod.ext rfl (Prod.ext rfl (Prod.ext (funext fun d' => ?_) rfl))
  change ((w.fill d _).objs d').beRcons = (w.objs d').beRcons
  by_cases h : d' = d
  · subst h; rw [World.fill_self]
  · rw [World.fill_of_ne _ _ h]

theorem applyConfig_refills (env : Env) (g : GuildId) (text : Text) :
    Prog.Within Refills (applyConfig env g text) :=
  applyConfig_within Refills.frame env text (fun d _ v w => (setSpecific_passive d v w).refills)
    fun d _ => normaliseData_refills env d

theorem applyConfigs_refills (env : Env) (keys : List Text)
    (specificConfigs : List (Option Text)) :
    Prog.Within Refills (applyConfigs env keys specificConfigs) :=
  applyConfigs_within Refills.frame env keys specificConfigs
    (fun d v w => (setSpecific_passive d v w).refills) (normaliseData_refills env)

/-! ### Building -/

/-- The state in which the constructor of the next instance on `d` runs. -/
def World.alloc (w : World) (d : DataRef) (server : Value) (position : Nat) : World :=
  (w.setObj d fun data => { data with
    built := data.built + 1
    shared := Function.update data.shared (w.objs d).built (some position) }).setRcon
    ⟨d, (w.objs d).built⟩ (.blank server (w.objs d).guild)

/-- The two pushes of `initBERcon`. -/
def World.push (w : World) (r : RconRef) : World :=
  { w.setObj r.data fun data => { data with beRcons := data.beRcons ++ [r] } with
    bercons := w.bercons ++ [r] }

/-- An instance is built, and listed when its constructor returns. -/
theorem buildRcon_apply (env : Env) (o : RconRef → Oracle) (d : DataRef) (server : Value)
    (position : Nat) (w : World) :
    buildRcon env o d server position w =
      (do onRcon ⟨d, (w.objs d).built⟩
            (construct env (o ⟨d, (w.objs d).built⟩) (w.objs d).specific)
          Prog.modify (World.push · ⟨d, (w.objs d).built⟩)) (w.alloc d server position) := rfl

/-- What a push does to the data objects. -/
theorem World.push_objs (w : World) (r : RconRef) (d : DataRef) :
    (w.push r).objs d = if d = r.data then
      { w.objs d with beRcons := (w.objs d).beRcons ++ [r] } else w.objs d := by
  by_cases h : d = r.data
  · subst h; simp [World.push, World.setObj]
  · simp [World.push, World.setObj, h]

theorem World.Heap.push {w : World} (hw : w.Heap) {r : RconRef}
    (hr : r.num < (w.objs r.data).built) : (w.push r).Heap := by
  have hobjs : ∀ d, ((w.push r).objs d).built = (w.objs d).built ∧
      ((w.push r).objs d).shared = (w.objs d).shared ∧
      ((w.push r).objs d).specific = (w.objs d).specific := fun d => by
    rw [World.push_objs]
    split <;> exact ⟨rfl, rfl, rfl⟩
  refine ⟨fun d hd => ?_, fun r' hr' => hw.unbuilt r' ((hobjs _).1 ▸ hr'), fun r' hr' => ?_,
    fun d r' hr' => ?_, fun r' i hi => ?_, fun d num hnum => ?_⟩
  · rw [(hobjs d).1]
    exact hw.built d hd
  · rw [(hobjs _).1]
    rcases List.mem_append.1 hr' with h | h
    · exact hw.bercons r' h
    · rw [List.mem_singleton.1 h]
      exact hr
  · rw [(hobjs d).1]
    rw [World.push_objs] at hr'
    by_cases h : d = r.data
    · subst h
      rw [if_pos rfl] at hr'
      rcases List.mem_append.1 hr' with h | h
      · exact hw.beRcons r.data r' h
      · rw [List.mem_singleton.1 h]
        exact ⟨rfl, hr⟩
    · rw [if_neg h] at hr'
      exact hw.beRcons d r' hr'
  · rw [(hobjs _).2.1] at hi
    rw [(hobjs _).2.2]
    exact hw.shares r' i hi
  · rw [(hobjs d).2.1]
    exact hw.unshared d num ((hobjs d).1 ▸ hnum)

/-- What an allocation does to the data objects. -/
theorem World.alloc_objs (w : World) (d d' : DataRef) (server : Value) (position : Nat) :
    (w.alloc d server position).objs d' = if d' = d then
      { w.objs d with
        built := (w.objs d).built + 1
        shared := Function.update (w.objs d).shared (w.objs d).built (some position) }
      else w.objs d' := by
  by_cases h : d' = d
  · subst h; simp [World.alloc, World.setObj, World.setRcon]
  · simp [World.alloc, World.setObj, World.setRcon, h]

theorem World.alloc_built (w : World) (d d' : DataRef) (server : Value) (position : Nat) :
    ((w.alloc d server position).objs d').built =
      if d' = d then (w.objs d).built + 1 else (w.objs d').built := by
  rw [World.alloc_objs]
  split <;> rfl

theorem World.alloc_beRcons (w : World) (d d' : DataRef) (server : Value) (position : Nat) :
    ((w.alloc d server position).objs d').beRcons = (w.objs d').beRcons := by
  rw [World.alloc_objs]
  split
  · rename_i h; subst h; rfl
  · rfl

theorem World.alloc_specific (w : World) (d d' : DataRef) (server : Value) (position : Nat) :
    ((w.alloc d server position).objs d').specific = (w.objs d').specific := by
  rw [World.alloc_objs]
  split
  · rename_i h; subst h; rfl
  · rfl

theorem World.alloc_inst (w : World) (d : DataRef) (server : Value) (position : Nat)
    (r : RconRef) :
    (w.alloc d server position).inst r = if r = ⟨d, (w.objs d).built⟩ then
      ⟨.blank server (w.objs d).guild, w.calls r⟩ else w.inst r := by
  by_cases h : r = ⟨d, (w.objs d).built⟩
  · subst h; simp [World.alloc, World.setObj, World.setRcon, World.inst, World.calls]
  · simp [World.alloc, World.setObj, World.setRcon, World.inst, World.calls, h]

/-- The new instance shares its server, the others share what they did. -/
theorem World.alloc_shared {w : World} {d : DataRef} {server : Value} {position : Nat}
    {r : RconRef} {i : Nat} (h : ((w.alloc d server position).objs r.data).shared r.num = some i) :
    (r = ⟨d, (w.objs d).built⟩ ∧ i = position) ∨
      (r ≠ ⟨d, (w.objs d).built⟩ ∧ (w.objs r.data).shared r.num = some i) := by
  rw [World.alloc_objs] at h
  rcases r with ⟨rd, num⟩
  by_cases hd : rd = d
  · subst hd
    rw [if_pos rfl] at h
    by_cases hnum : num = (w.objs rd).built
    · subst hnum
      simp only [Function.update_self, Option.some.injEq] at h
      exact .inl ⟨rfl, h.symm⟩
    · simp only [Function.update_of_ne hnum] at h
      exact .inr ⟨by simp [hnum], h⟩
  · rw [if_neg hd] at h
    exact .inr ⟨by simp [hd], h⟩

/-- The server at a position of a configuration. -/
def IsServer (specific : Value) (position : Nat) (server : Value) : Prop :=
  ∃ servers, serverList specific = .ok servers ∧ servers[position]? = some server

theorem World.alloc_built_le (w : World) (d d' : DataRef) (server : Value) (position : Nat) :
    (w.objs d').built ≤ ((w.alloc d server position).objs d').built := by
  rw [World.alloc_built]
  split
  · rename_i h
    subst h
    exact Nat.le_succ _
  · exact le_rfl

/-- The instance that is built next is the only one its constructor changes. -/
theorem World.Heap.alloc_inst {w : World} (hw : w.Heap) (d : DataRef) (server : Value)
    (position : Nat) (x : RconM Unit) (r : RconRef) :
    (BotM.onRcon ⟨d, (w.objs d).built⟩ x (w.alloc d server position)).2.inst r =
      if r = ⟨d, (w.objs d).built⟩ then RconSt.after ⟨.blank server (w.objs d).guild, []⟩ x
      else w.inst r := by
  have hcalls : w.calls ⟨d, (w.objs d).built⟩ = [] :=
    congrArg RconSt.calls (hw.unbuilt ⟨d, (w.objs d).built⟩ le_rfl)
  rw [onRcon_inst]
  split
  · rename_i h
    subst h
    rw [World.alloc_inst, if_pos rfl, hcalls]
  · rename_i h
    rw [World.alloc_inst, if_neg h]

/-- The constructor of a new instance runs, and leaves it the server it was given. -/
theorem World.Heap.alloc {w : World} (hw : w.Heap) {d : DataRef} (hd : d.gen ≤ w.gens d.guild)
    {server : Value} {position : Nat} (hserver : IsServer (w.objs d).specific position server)
    {x : RconM Unit}
    (hcfg : (RconSt.after ⟨.blank server (w.objs d).guild, []⟩ x).rcon.cfg = server) :
    (BotM.onRcon ⟨d, (w.objs d).built⟩ x (w.alloc d server position)).2.Heap where
  built d' hd' := by
    have hne : d' ≠ d := fun h => absurd hd (Nat.not_le.2 (h ▸ hd'))
    exact (w.alloc_built d d' server position).trans (by rw [if_neg hne]; exact hw.built d' hd')
  unbuilt r hr := by
    -- an instance that is still not built is an old one
    have hr' : ((w.alloc d server position).objs r.data).built ≤ r.num := hr
    have hne : r ≠ ⟨d, (w.objs d).built⟩ := by
      rintro rfl
      rw [World.alloc_built, if_pos rfl] at hr'
      exact absurd hr' (Nat.not_succ_le_self _)
    rw [hw.alloc_inst, if_neg hne]
    exact hw.unbuilt r ((w.alloc_built_le d _ server position).trans hr')
  bercons r hr := (hw.bercons r hr).trans_le (w.alloc_built_le d _ server position)
  beRcons d' r hr := by
    have hold : r ∈ (w.objs d').beRcons := by
      rw [← w.alloc_beRcons d d' server position]
      exact hr
    obtain ⟨hdata, hnum⟩ := hw.beRcons d' r hold
    exact ⟨hdata, hnum.trans_le (w.alloc_built_le d d' server position)⟩
  shares r i hi := by
    let w' := (BotM.onRcon ⟨d, (w.objs d).built⟩ x (w.alloc d server position)).2
    have hshared : ((w.alloc d server position).objs r.data).shared r.num = some i := hi
    change ∃ servers, serverList ((w.alloc d server position).objs r.data).specific = _ ∧
      servers[i]? = some (w'.inst r).rcon.cfg
    rw [World.alloc_specific, hw.alloc_inst d server position x r]
    rcases World.alloc_shared hshared with ⟨rfl, rfl⟩ | ⟨hne, hold⟩
    · rw [if_pos rfl, hcfg]
      exact hserver
    · rw [if_neg hne]
      exact hw.shares r i hold
  unshared d' num hnum := by
    have hnum' : ((w.alloc d server position).objs d').built ≤ num := hnum
    cases hi : ((w.alloc d server position).objs d').shared num with
    | none => exact hi
    | some i =>
      rcases World.alloc_shared (r := ⟨d', num⟩) hi with ⟨hr, -⟩ | ⟨-, hold⟩
      · cases hr
        rw [World.alloc_built, if_pos rfl] at hnum'
        exact absurd hnum' (Nat.not_succ_le_self _)
      · rw [hw.unshared d' num ((w.alloc_built_le d d' server position).trans hnum')] at hold
        cases hold

/-- A new instance is touched for the first time by its constructor. -/
theorem construct_touches {d : DataRef} {w : World} (hd : d.gen ≤ w.gens d.guild)
    {server : Value} {position : Nat} (hserver : IsServer (w.objs d).specific position server)
    (specific : Value) : Touches env o closing w
      (onRcon ⟨d, (w.objs d).built⟩ (construct env (o ⟨d, (w.objs d).built⟩) specific)
        (w.alloc d server position)).2 := by
  refine ⟨fun _ => le_rfl, fun hw => ⟨hw.alloc hd hserver ?_, fun r => ?_⟩⟩
  · exact construct_cfg env _ specific ⟨.blank server (w.objs d).guild, []⟩
  · rw [hw.alloc_inst]
    split
    · rename_i h
      subst h
      have hcalls := congrArg RconSt.calls (hw.unbuilt ⟨d, (w.objs d).built⟩ le_rfl)
      exact .single (.build hcalls server specific _)
    · exact .refl

variable (env o closing)

/-- Building happens on the data object of a guild, from its configuration. -/
def Builds (d : DataRef) (specific : Value) (w w' : World) : Prop :=
  (d.gen ≤ w.gens d.guild ∧ (w.objs d).specific = specific) →
    (d.gen ≤ w'.gens d.guild ∧ (w'.objs d).specific = specific) ∧ Touches env o closing w w'

theorem Builds.frame (d : DataRef) (specific : Value) :
    Prog.Frame (Builds env o closing d specific) :=
  (Touches.frame ..).guard _

variable {env o closing}

theorem buildRcon_builds (d : DataRef) {specific server : Value} {position : Nat}
    (hserver : IsServer specific position server) :
    Prog.Within (Builds env o closing d specific) (buildRcon env o d server position) := by
  rintro w ⟨hd, rfl⟩
  let r : RconRef := ⟨d, (w.objs d).built⟩
  let x : BotM Unit := onRcon r (construct env (o r) (w.objs d).specific)
  let w₁ := w.alloc d server position
  have htouch : Touches env o closing w (x w₁).2 := construct_touches hd hserver _
  have hbuilt : r.num < ((x w₁).2.objs r.data).built :=
    (Nat.lt_succ_self _).trans_eq ((w.alloc_built d d server position).trans (if_pos rfl)).symm
  have hspecific : ((x w₁).2.objs d).specific = (w.objs d).specific :=
    w.alloc_specific d d server position
  rw [buildRcon_apply]
  change (_ ∧ (((x >>= fun _ => Prog.modify (World.push · r)) w₁).2.objs d).specific = _) ∧
    Touches env o closing w ((x >>= fun _ => Prog.modify (World.push · r)) w₁).2
  rcases h : x w₁ with ⟨e | _, w'⟩ <;> rw [h] at htouch hbuilt hspecific
  · rw [Prog.bind_error h]
    exact ⟨⟨hd.trans (htouch.1 _), hspecific⟩, htouch⟩
  · rw [Prog.bind_ok h]
    have hpush : Touches env o closing w' (w'.push r) :=
      .of_inst (fun _ => le_rfl) (fun _ => rfl) fun hw => hw.push hbuilt
    refine ⟨⟨hd.trans (htouch.1 _), ?_⟩, (Touches.frame ..).trans htouch hpush⟩
    change ((w'.push r).objs d).specific = _
    rw [World.push_objs, if_pos rfl]
    exact hspecific

/-- The items of a list with their positions. -/
theorem IsServer.of_mem {specific : Value} {servers : List Value}
    (hservers : serverList specific = .ok servers) {item : Value × Nat}
    (hitem : item ∈ servers.zipIdx) : IsServer specific item.2 item.1 :=
  ⟨servers, hservers, List.mk_mem_zipIdx_iff_getElem?.1 hitem⟩

theorem buildRcons_touches {d : DataRef} {w : World} (hd : d.gen ≤ w.gens d.guild) :
    Touches env o closing w (buildRcons env o d w).2 := by
  have hf := Builds.frame env o closing d (w.objs d).specific
  have hbuilds : Prog.Within (Builds env o closing d (w.objs d).specific) (do
      let enabled ← Prog.lift (berconEnabled (w.objs d).specific)
      Prog.when enabled do
        let servers ← Prog.lift (serverList (w.objs d).specific)
        Prog.forEach servers.zipIdx fun server => buildRcon env o d server.1 server.2) := by
    refine .bind hf (.lift hf _) fun enabled => .when hf fun _ => ?_
    refine .lift_bind hf fun servers hservers => .forEach hf fun item hitem => ?_
    exact buildRcon_builds d (.of_mem hservers hitem)
  exact (hbuilds w ⟨hd, rfl⟩).2

theorem World.Heap.buildRcons {w : World} (hw : w.Heap) (env : Env) (o : RconRef → Oracle)
    (g : GuildId) : (buildRcons env o (w.dataRef g) w).2.Heap :=
  have h : Touches env o (fun _ => False) w _ := buildRcons_touches (d := w.dataRef g) le_rfl
  h.heap hw

/-! ### Steps -/

theorem initBERconAll_touches :
    Prog.Within (Touches env o closing) (initBERconAll env o) := by
  have hf := Touches.frame env o closing
  exact .bind hf (.read hf _) fun guildIds => .forEach hf fun g _ w =>
    buildRcons_touches (d := w.dataRef g) le_rfl

/-- A reload closes what the guild lists. -/
theorem initBERconGuild_touches {g : GuildId} {w : World}
    (hclosing : ∀ r ∈ (w.data g).beRcons, closing r) :
    Touches env o closing w (initBERconGuild env o g w).2 := by
  -- the data object stays one that was made
  let R := fun v v' : World => (w.dataRef g).gen ≤ v.gens g →
    (w.dataRef g).gen ≤ v'.gens g ∧ Touches env o closing v v'
  have hf : Prog.Frame R := (Touches.frame env o closing).guard _
  have hR : ∀ {v v' : World}, Touches env o closing v v' → R v v' := fun h hd =>
    ⟨hd.trans (h.1 g), h⟩
  have hclose : Prog.Within R (Prog.forEach (w.data g).beRcons (closeRcon env o)) :=
    .forEach hf fun r hr v => hR (closeRcon_touches (hclosing r hr) v)
  have hclear : Prog.Within R (Prog.modify fun w' =>
      w'.setObj (w.dataRef g) fun data => { data with beRcons := [] }) := fun v =>
    hR (.of_inst (fun _ => le_rfl) (fun _ => rfl) fun hv => hv.clear _)
  have hbuild : Prog.Within R (buildRcons env o (w.dataRef g)) := fun v hd =>
    hR (buildRcons_touches (d := w.dataRef g) hd) hd
  have hall := Prog.Within.bind hf hclose fun _ => .bind hf hclear fun _ => hbuild
  unfold initBERconGuild
  rw [Prog.read_bind]
  split
  · exact (hall w le_rfl).2
  · exact (Touches.frame ..).refl w

end Touches

/-! ## Steps -/

/-- A step closes only what the reloaded guild lists. -/
def Step.closes (s : Step) (w : World) (r : RconRef) : Prop :=
  ∃ g result, s.event = .getReply g result ∧ r ∈ (w.data g).beRcons

section StepTouches

variable {env : Env} {o : RconRef → Oracle} {closing : RconRef → Prop}

theorem checkMessageAction_touches (message : Message) :
    Prog.Within (Touches env o closing) (checkMessageAction env o message) := by
  have hf := Touches.frame env o closing
  exact .when hf fun _ => .bind hf (passive_touches (checkCliMessagesAction_passive env message))
    fun _ => .bind hf (.read hf _) fun bercons =>
    .forEach hf fun r _ => adminAction_touches message r

theorem initAfterReady_touches (guilds : List Guild) :
    Prog.Within (Touches env o closing) (initAfterReady env o guilds) :=
  initAfterReady_within (Touches.frame ..) env (fun _ _ => passive_touches (emitting_passive _))
    addData_touches (fun _ => passive_touches (request_passive _)) (fun _ => initBERconAll_touches)
    (passive_touches fun _ => .of_objs rfl rfl fun _ => rfl) guilds

theorem onGuildCreate_touches (guild : Guild) :
    Prog.Within (Touches env o closing) (onGuildCreate env o guild) :=
  onGuildCreate_within (Touches.frame ..) env (fun _ _ => passive_touches (emitting_passive _))
    addData_touches (fun _ => passive_touches (request_passive _)) (fun _ => initBERconAll_touches)
    guild

theorem reloadReply_touches (guild : Guild) (channel : Option Channel) (result : Option Text)
    {w : World} (hclosing : ∀ r ∈ (w.data guild.id).beRcons, closing r) :
    Touches env o closing w (reloadReply env o guild channel result w).2 := by
  have hf := Touches.frame env o closing
  -- up to the reload itself the registry stays as it is
  let R := fun w w' : World => Touches env o closing w w' ∧ w'.registry = w.registry
  have hR : Prog.Frame R := hf.and (.eq World.registry)
  have hprologue : ∀ {x : BotM Unit}, Prog.Within R x →
      Prog.Triple (R w) x (fun _ => R w) (Touches env o closing w) := fun hx =>
    (Prog.Triple.frame hR hx w).post (fun _ _ h => h) fun _ h => h.1
  have hemit : ∀ x : Emit Unit, Prog.Within R (BotM.emitting none x) := fun x w =>
    ⟨(emitting_passive x w).touches, (emitting_passive x w).registry⟩
  unfold reloadReply
  split
  · rename_i c text
    refine Prog.Triple.snd (P := R w) ?_ (hR.refl w)
    refine .bind (hprologue (hemit _)) fun _ => .bind (hprologue (hemit _)) fun _ =>
      .bind (hprologue fun w => ⟨applyConfig_touches guild.id _ w,
        (applyConfig_refills env guild.id _ w).registry⟩) fun _ => .of_snd fun w' hw' => ?_
    refine hf.trans hw'.1 (initBERconGuild_touches fun r hr => hclosing r ?_)
    rwa [← registry_beRcons hw'.2]
  · exact Prog.Within.bind hf (passive_touches (emitting_passive _))
      (fun _ => passive_touches (emitting_passive _)) w

theorem mgetReply_touches (keys : List Text) (results : List (Option Text)) :
    Prog.Within (Touches env o closing) (mgetReply env o keys results) :=
  .bind (Touches.frame ..) (applyConfigs_touches keys results) fun _ => initBERconAll_touches

theorem answerRequest_touches {e : Event} {req : Request} {w : World}
    (he : e.answers req = true)
    (hclosing : ∀ g result, e = .getReply g result → ∀ r ∈ (w.data g).beRcons, closing r) :
    Touches env o closing w (answerRequest env o e req w).2 := by
  cases e <;> cases req <;> try cases he
  · exact passive_touches (request_passive _) w
  · exact mgetReply_touches _ _ w
  · rename_i g result guild channel
    have hg : guild.id = g := eq_of_beq he
    exact reloadReply_touches guild channel result (hclosing guild.id result (by rw [hg]))

end StepTouches

/-- **A step that is no callback of an instance is, for every instance, a sequence of touches.** -/
theorem step_touches (env : Env) {s : Step} {w : World} (hs : ¬∃ r e, s.event = .rcon r e) :
    Touches env s.oracle (s.closes w) w (step env s w).2 := by
  have hf := Touches.frame env s.oracle (s.closes w)
  have hredis : Touches env s.oracle (s.closes w) w (redisAnswer env s.oracle s.event w).2 := by
    cases h : w.redis.find? s.event.answers with
    | none =>
      rw [redisAnswer_none h]
      exact hf.refl w
    | some req =>
      rw [redisAnswer_some h]
      have herase : Passive w { w with redis := w.redis.eraseP s.event.answers } :=
        .of_objs rfl rfl fun _ => rfl
      exact hf.trans herase.touches (answerRequest_touches (List.find?_some h)
        fun g result he r hr => ⟨g, result, he, hr⟩)
  rcases s with ⟨event, o⟩
  cases event with
  | ready guilds => exact initAfterReady_touches guilds w
  | guildCreate guild => exact onGuildCreate_touches guild w
  | guildDelete guild => exact hf.refl w
  | guildUpdate oldGuild newGuild same =>
    exact passive_touches (updateGuildData_passive oldGuild newGuild) w
  | message message => exact checkMessageAction_touches message w
  | rcon r e => exact absurd ⟨r, e, rfl⟩ hs
  | keysReply keys => exact hredis
  | mgetReply results => exact hredis
  | getReply g result => exact hredis

/-- A callback of an instance reaches that instance only. -/
theorem rconStep_inst (env : Env) (o : RconRef → Oracle) (r r' : RconRef) (e : RconEvent)
    (w : World) : (step env ⟨.rcon r e, o⟩ w).2.inst r' =
      if r' = r then (w.inst r).after (rconStep env (o r) e) else w.inst r' :=
  onRcon_inst r _ w r'

theorem step_rcons {env : Env} {s : Step} {r : RconRef} {e : RconEvent} (he : s.event = .rcon r e)
    (w : World) : (step env s w).2.rcons r =
      (rconStep env (s.oracle r) e ⟨w.rcons r, []⟩).2.rcon := by
  rcases s with ⟨event, o⟩
  subst he
  have h := rconStep_inst env o r r e w
  rw [if_pos rfl] at h
  exact congrArg RconSt.rcon h

theorem World.Heap.step {w : World} (hw : w.Heap) (env : Env) (s : Step) :
    (step env s w).2.Heap := by
  rcases s with ⟨event, o⟩
  by_cases hs : ∃ r e, event = .rcon r e
  · obtain ⟨r, e, rfl⟩ := hs
    refine hw.onRcon (fun h => ?_) (rconStep_cfg env (o r) e ⟨w.rcons r, []⟩)
    rw [h, RconSt.after, rconStep_default]
    rfl
  · exact ((step_touches env (s := ⟨event, o⟩) hs).2 hw).1

theorem World.Heap.run {w : World} (hw : w.Heap) (env : Env) (steps : List Step) :
    (run env steps w).Heap := by
  induction steps generalizing w with
  | nil => exact hw
  | cons s steps ih => exact ih (hw.step env s)

/-- **The rule for invariants of the instances.** What every callback of an instance and every touch
keeps, a step keeps. -/
theorem step_inv {env : Env} {J : RconRef → RconSt → Prop} {s : Step} {w : World} (hw : w.Heap)
    (hJ : ∀ r, J r (w.inst r))
    (hevent : ∀ r e, s.event = .rcon r e → J r ((w.inst r).after (rconStep env (s.oracle r) e)))
    (htouch : ∀ r {t t'}, Touch env (s.oracle r) (s.closes w r) t t' → J r t → J r t')
    (r : RconRef) : J r ((step env s w).2.inst r) := by
  by_cases hs : ∃ r e, s.event = .rcon r e
  · obtain ⟨r', e, he⟩ := hs
    have h := hevent r' e he
    rcases s with ⟨event, o⟩
    subst he
    rw [rconStep_inst]
    split
    · rename_i hr; subst hr
      exact h
    · exact hJ r
  · have h := ((step_touches env hs).2 hw).2 r
    generalize (step env s w).2.inst r = t at h
    induction h with
    | refl => exact hJ r
    | tail _ h ih => exact htouch r h ih

/-! ## Connections -/

/-- What a method does to the connection of an instance that has a past. -/
theorem after_link {x : RconM Unit} {T : Link → List Effect → Link → Prop} {t : RconSt}
    (hx : Prog.Triple (At t.rcon.link []) x (fun _ => After T t.rcon.link [])
      (After T t.rcon.link [])) :
    ∃ new, T t.rcon.link new (t.after x).rcon.link ∧
      marks (t.after x).calls = marks t.calls ++ new := by
  obtain ⟨new, l', hT, hl, hm⟩ := hx.snd (s := ⟨t.rcon, []⟩) ⟨rfl, rfl⟩
  subst hl
  exact ⟨new, hT, by rw [RconSt.after, marks_append, hm, List.nil_append]⟩

section Connections

variable (env : Env) (o : Oracle) (t : RconSt)

theorem event_link (e : RconEvent) :
    ∃ new, LinkStep e t.rcon.link new (t.after (rconStep env o e)).rcon.link ∧
      marks (t.after (rconStep env o e)).calls = marks t.calls ++ new :=
  after_link (rconStep_link e)

theorem closing_link (n : Nat) :
    ∃ new, CloseStep n t.rcon.link new (t.after (close env o n)).rcon.link ∧
      marks (t.after (close env o n)).calls = marks t.calls ++ new :=
  after_link (close_link n)

theorem admin_link (specific : Value) (message : Message) :
    let t' := t.after (emitting (checkAdminCommand env t.rcon specific o.throws message))
    t'.rcon.link = t.rcon.link ∧ marks t'.calls = marks t.calls := by
  have h := checkAdminCommand_still env t.rcon specific o.throws message ⟨t.rcon, []⟩
  refine ⟨h.1, ?_⟩
  rw [RconSt.after, marks_append, h.2]
  exact List.append_nil _

theorem build_link (server specific : Value) (guild : Guild) :
    let t' := RconSt.after ⟨.blank server guild, []⟩ (construct env o specific)
    ∃ returned, BuildStep returned (marks t'.calls) t'.rcon.link := by
  have h := construct_link env o specific ⟨.blank server guild, []⟩ ⟨rfl, rfl⟩
  simp only [RconSt.after, List.nil_append]
  rcases e : construct env o specific ⟨.blank server guild, []⟩ with ⟨_ | _, s⟩ <;> rw [e] at h
  · obtain ⟨new, l, hstep, rfl, rfl⟩ := h
    exact ⟨false, hstep⟩
  · obtain ⟨new, l, hstep, rfl, rfl⟩ := h
    exact ⟨true, hstep⟩

end Connections

/-- **The rule for invariants of the connections.** They need to be kept by the steps of the
automaton only. -/
theorem link_inv (env : Env) {K : RconRef → Link → List Effect → Prop} {s : Step} {w : World}
    (hw : w.Heap) (hK : ∀ r, K r (w.rcons r).link (marks (w.calls r)))
    (hevent : ∀ r e new l', s.event = .rcon r e → LinkStep e (w.rcons r).link new l' →
      K r l' (marks (w.calls r) ++ new))
    (hclose : ∀ r n l ms new l', s.closes w r → l.bnode = some n → CloseStep n l new l' →
      K r l ms → K r l' (ms ++ new))
    (hbuild : ∀ r returned new l', BuildStep returned new l' → K r l' new) (r : RconRef) :
    K r ((step env s w).2.rcons r).link (marks ((step env s w).2.calls r)) := by
  refine step_inv (J := fun r t => K r t.rcon.link (marks t.calls)) hw hK ?_ ?_ r
  · intro r e he
    obtain ⟨new, hstep, hm⟩ := event_link env (s.oracle r) (w.inst r) e
    rw [hm]
    exact hevent r e new _ he hstep
  · rintro r t t'
      (⟨hclosing, hn⟩ | ⟨specific, message⟩ | ⟨hnew, server, specific, guild⟩ | ⟨hcfg⟩) ht
    · obtain ⟨new, hstep, hm⟩ := closing_link env (s.oracle r) t _
      rw [hm]
      exact hclose r _ _ _ new _ hclosing hn hstep ht
    · obtain ⟨hl, hm⟩ := admin_link env (s.oracle r) t specific message
      rw [hl, hm]
      exact ht
    · obtain ⟨returned, hstep⟩ := build_link env (s.oracle r) server specific guild
      exact hbuild r returned _ _ hstep
    · exact ht

/-! ## A small world -/

/-- A channel of the sample guild. -/
def sampleChannel (id : GuildId) : Channel := ⟨lit "rcon", some id, lit "rcon", .text⟩

/-- A guild with one text channel. -/
def sampleGuild (id : GuildId) : Guild :=
  ⟨id, lit "sample", [sampleChannel id], [], by simp [sampleChannel]⟩

/-- A server that uses the channel for everything. -/
def sampleServer : Value :=
  .obj [(lit "channels", .obj (["commands", "side", "group", "direct", "admin", "joins", "vehicle",
    "default", "global"].map fun key => (lit key, .str (lit "rcon")))), (lit "jobs", .arr [] [])]

/-- A configuration with the given servers. -/
def sampleConfig (servers : List Value) : Value :=
  .obj [(lit "bercon", .obj [(lit "enabled", .bool true), (lit "servers", .arr servers [])])]

/-- A bot without servers of its own, which uses Redis; every stored text is the configuration. -/
def sampleEnv (stored : Value) : Env :=
  { (default : Env) with
    useRedis := true, specific := sampleConfig [], showChannels := .obj []
    parse := fun _ => some stored, cli := fun _ => some .reload }

/-- The bot whose guilds have one server. -/
def sampleBot : Env := sampleEnv (sampleConfig [sampleServer])

/-- The libraries never fail. -/
def sampleOracle : RconRef → Oracle := fun _ => ⟨fun _ => false, fun _ => true⟩

def sampleId : GuildId := ⟨lit "1", by simp [lit], by simp [lit]⟩

def otherId : GuildId := ⟨lit "2", by simp [lit], by simp [lit]⟩

/-- Somebody types `!zbot reload`. -/
def reloadMessage (id : GuildId) : Message :=
  ⟨[], false, none, sampleChannel id, some (sampleGuild id), lit "!zbot reload"⟩

def sampleStep (event : Event) : Step := ⟨event, sampleOracle⟩

/-- The bot joins the sample guild and connects to its server. -/
def joinSteps : List Step :=
  [.guildCreate (sampleGuild sampleId), .getReply sampleId (some (lit "stored"))].map sampleStep

/-- The sample guild is reloaded. -/
def reloadSteps : List Step :=
  [.message (reloadMessage sampleId), .getReply sampleId (some (lit "stored"))].map sampleStep

/-- The instance that is built first. -/
def firstRcon : RconRef := ⟨⟨sampleId, 1⟩, 0⟩

end ZBot
