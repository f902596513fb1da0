import ZBot.Verify.Registry
import ZBot.Verify.Speech

/-!
# What belongs to a guild

The bot serves many guilds. What belongs to one of them (`Same`) is its data object, its instances
and their order in `_bercons`, the reloads of it that are pending, and what was sent to its channels
and BattleNodes; the log channel is shared and belongs to none.

Every step after the start-up is a step of one guild, and changes nothing that belongs to another
guild (`step_confined`). A reload edits the shared list, but takes out and appends instances of its
guild only. A message reaches the instances of all guilds, but one that is bound to channels of its
own guild ignores what is said elsewhere (`adminAction_skips`).

All of it needs that the objects of a guild lead to objects of the guild (`Tenants`), which every
step keeps.
-/

namespace ZBot

open Js BotM

/-! ## What belongs to a guild -/

/-- A reload of the guild. -/
def Request.isOf (h : GuildId) : Request → Bool
  | .get guild _ => guild.id = h
  | _ => false

/-- The effect is seen in the guild: a message in one of its channels, or a call of one of its
instances. Log lines are not. -/
def seenBy (h : GuildId) : Option RconRef × Effect → Bool
  | (_, .send c _) => c.guildId = some h
  | (_, .reply c _) => c.guildId = some h
  | (_, .log _) => false
  | (some r, _) => r.guild = h
  | (none, _) => false

/-- The two states are the same for a guild. -/
structure Same (h : GuildId) (w w' : World) : Prop where
  known : h ∈ w.guildIds ↔ h ∈ w'.guildIds
  gens : w.gens h = w'.gens h
  objs : ∀ d : DataRef, d.guild = h → w.objs d = w'.objs d
  rcons : ∀ r : RconRef, r.guild = h → w.rcons r = w'.rcons r
  bercons : w.bercons.filter (fun r => r.guild = h) = w'.bercons.filter fun r => r.guild = h
  redis : w.redis.filter (Request.isOf h) = w'.redis.filter (Request.isOf h)
  trace : w.trace.filter (seenBy h) = w'.trace.filter (seenBy h)

theorem Same.refl (h : GuildId) (w : World) : Same h w w :=
  ⟨Iff.rfl, rfl, fun _ _ => rfl, fun _ _ => rfl, rfl, rfl, rfl⟩

theorem Same.symm {h : GuildId} {w w' : World} (hs : Same h w w') : Same h w' w :=
  ⟨hs.known.symm, hs.gens.symm, fun d hd => (hs.objs d hd).symm, fun r hr => (hs.rcons r hr).symm,
    hs.bercons.symm, hs.redis.symm, hs.trace.symm⟩

theorem Same.trans {h : GuildId} {w w' w'' : World} (hs : Same h w w') (hs' : Same h w' w'') :
    Same h w w'' :=
  ⟨hs.known.trans hs'.known, hs.gens.trans hs'.gens,
    fun d hd => (hs.objs d hd).trans (hs'.objs d hd),
    fun r hr => (hs.rcons r hr).trans (hs'.rcons r hr), hs.bercons.trans hs'.bercons,
    hs.redis.trans hs'.redis, hs.trace.trans hs'.trace⟩

theorem Same.dataRef {h : GuildId} {w w' : World} (hs : Same h w w') :
    w.dataRef h = w'.dataRef h := by
  rw [World.dataRef, World.dataRef, hs.gens]

/-- The bot knows the same guilds, and the states differ for one of them only. -/
structure Only (g : GuildId) (w w' : World) : Prop where
  guildIds : w'.guildIds = w.guildIds
  gens : w'.gens = w.gens
  same : ∀ h, h ≠ g → Same h w w'

theorem Only.frame (g : GuildId) : Prog.Frame (Only g) where
  refl w := ⟨rfl, rfl, fun h _ => .refl h w⟩
  trans hs hs' := ⟨hs'.guildIds.trans hs.guildIds, hs'.gens.trans hs.gens,
    fun h hne => (hs.same h hne).trans (hs'.same h hne)⟩

theorem Only.dataRef {g : GuildId} {w w' : World} (h : Only g w w') (g' : GuildId) :
    w'.dataRef g' = w.dataRef g' := by
  rw [World.dataRef, World.dataRef, h.gens]

/-- The objects of a guild lead to objects of the guild. -/
structure Tenants (w : World) : Prop where
  lists : ∀ d, ∀ r ∈ (w.objs d).beRcons, r.guild = d.guild
  channels : ∀ r, ∀ c ∈ (w.rcons r).channels, c.guildId = some r.guild
  guilds : ∀ g ∈ w.guildIds, (w.data g).guild.id = g
  requests : ∀ guild c, .get guild (some c) ∈ w.redis → c.guildId = some guild.id

theorem Tenants.start : Tenants World.start where
  lists _ _ hr := nomatch hr
  channels _ _ hc := nomatch hc
  guilds _ hg := nomatch hg
  requests _ _ hc := nomatch hc

theorem Tenants.addData {w : World} (hw : Tenants w) (env : Env) (guild : Guild) :
    Tenants (w.addData env guild) := by
  refine ⟨fun d r hr => ?_, hw.channels, fun g hg => ?_, hw.requests⟩
  · by_cases hd : d = ⟨guild.id, w.gens guild.id + 1⟩
    · subst hd
      simp [World.addData, newGuildData] at hr
    · refine hw.lists d r ?_
      simpa [World.addData, hd] using hr
  · by_cases heq : g = guild.id
    · subst heq
      rw [World.addData_data_self]
      rfl
    · rw [World.addData_data_of_ne w env heq]
      exact hw.guilds g ((w.mem_addData env heq).1 hg)

/-- Only what belongs to the guild is changed. -/
def Confined (g : GuildId) (w w' : World) : Prop := Tenants w → Tenants w' ∧ Only g w w'

theorem Confined.frame (g : GuildId) : Prog.Frame (Confined g) := (Only.frame g).guard Tenants

/-! ## Changing one guild -/

section Confined

variable {g : GuildId}

/-- The effect is no message to another guild. -/
def Effect.StaysIn (g : GuildId) : Effect → Prop
  | .send c _ => c.guildId = some g
  | .reply c _ => c.guildId = some g
  | _ => True

theorem Effect.Stays.staysIn {channels : List Channel} {e : Effect} (he : e.Stays channels)
    (h : ∀ c ∈ channels, c.guildId = some g) : e.StaysIn g := by
  cases e with
  | send c text => exact h c he
  | reply c text => cases he
  | _ => trivial

theorem unseen {h : GuildId} (hne : h ≠ g) {source : Option RconRef}
    (hsource : ∀ r, source = some r → r.guild = g) {e : Effect} (he : e.StaysIn g) :
    seenBy h (source, e) = false := by
  have hchannel : ∀ c : Channel, c.guildId = some g → ¬c.guildId = some h := by
    intro c hc heq
    rw [hc] at heq
    exact hne (Option.some.inj heq).symm
  have hcall : ∀ r, source = some r → ¬r.guild = h := fun r hr heq =>
    hne (heq.symm.trans (hsource r hr))
  cases e with
  | send c text => exact decide_eq_false (hchannel c he)
  | reply c text => exact decide_eq_false (hchannel c he)
  | log text => rfl
  | _ =>
    cases source with
    | none => rfl
    | some r => exact decide_eq_false (hcall r rfl)

theorem record_confined {source : Option RconRef} (hsource : ∀ r, source = some r → r.guild = g)
    {calls : List Effect} (hcalls : ∀ e ∈ calls, e.StaysIn g) (w : World) :
    Confined g w (w.record source calls) := by
  refine fun hw => ⟨⟨hw.lists, hw.channels, hw.guilds, hw.requests⟩, rfl, rfl, fun h hne => ?_⟩
  refine ⟨Iff.rfl, rfl, fun _ _ => rfl, fun _ _ => rfl, rfl, rfl, ?_⟩
  have hnone : (calls.map fun e => (source, e)).filter (seenBy h) = [] := by
    rw [List.filter_eq_nil_iff]
    intro entry hentry
    obtain ⟨e, he, rfl⟩ := List.mem_map.1 hentry
    rw [unseen hne hsource (hcalls e he)]
    exact Bool.false_ne_true
  rw [World.record, List.filter_append, hnone, List.append_nil]

theorem emitting_confined {α : Type} {x : Emit α} (hx : Prog.Within (Adds (Effect.StaysIn g)) x) :
    Prog.Within (Confined g) (emitting none x) :=
  fun w => record_confined (by rintro r ⟨⟩) (hx []).forall w

theorem setRcon_confined {r : RconRef} (hr : r.guild = g) {rcon : Rcon}
    (hchannels : ∀ c ∈ rcon.channels, c.guildId = some g) (w : World) :
    Confined g w (w.setRcon r rcon) := by
  refine fun hw => ⟨⟨hw.lists, fun r' c hc => ?_, hw.guilds, hw.requests⟩, rfl, rfl,
    fun h hne => ⟨Iff.rfl, rfl, fun _ _ => rfl, fun r' hr' => ?_, rfl, rfl, rfl⟩⟩
  · by_cases heq : r' = r
    · subst heq
      rw [hr]
      rw [World.setRcon_self] at hc
      exact hchannels c hc
    · rw [World.setRcon_of_ne w rcon heq] at hc
      exact hw.channels r' c hc
  · have hother : r' ≠ r := fun heq => hne (hr'.symm.trans (heq ▸ hr))
    rw [World.setRcon_of_ne w rcon hother]

/-- A method of an instance of the guild. -/
theorem onRcon_confined {α : Type} {r : RconRef} (hr : r.guild = g) {x : RconM α} {w : World}
    (hchannels : ∀ c ∈ (x ⟨w.rcons r, []⟩).2.rcon.channels, c.guildId = some g)
    (hcalls : ∀ e ∈ (x ⟨w.rcons r, []⟩).2.calls, e.StaysIn g) :
    Confined g w (onRcon r x w).2 := by
  have hsource : ∀ r', some r = some r' → r'.guild = g := by
    rintro r' ⟨⟩
    exact hr
  exact (Confined.frame g).trans (setRcon_confined hr hchannels w)
    (record_confined hsource hcalls _)

/-- An instance that is bound to channels of the guild speaks there. -/
theorem speaks_confined {r : RconRef} (hr : r.guild = g) {x : RconM Unit}
    (hx : ∀ s, Held Rcon.bound (Effect.Stays s.rcon.channels) s (x s).2) :
    Prog.Within (Confined g) (onRcon r x) := by
  intro w hw
  have hheld := hx ⟨w.rcons r, []⟩
  have hown : ∀ c ∈ (w.rcons r).channels, c.guildId = some g := hr ▸ hw.channels r
  refine onRcon_confined hr ?_ (fun e he => (hheld.calls.forall e he).staysIn hown) hw
  rw [Rcon.channels_of_bound hheld.rcon]
  exact hown

theorem setObj_confined {d : DataRef} (hd : d.guild = g) (f : GuildData → GuildData)
    (hguild : ∀ data, (f data).guild = data.guild)
    (hlist : ∀ data, ∀ r ∈ (f data).beRcons, r ∈ data.beRcons ∨ r.guild = g) (w : World) :
    Confined g w (w.setObj d f) := by
  refine fun hw => ⟨⟨fun d' r hr => ?_, hw.channels, fun g' hg' => ?_, hw.requests⟩, rfl, rfl,
    fun h hne => ⟨Iff.rfl, rfl, fun d' hd' => ?_, fun _ _ => rfl, rfl, rfl, rfl⟩⟩
  · by_cases heq : d' = d
    · subst heq
      rw [World.setObj_self] at hr
      rcases hlist _ r hr with hr | hr
      · exact hw.lists d' r hr
      · rw [hr, hd]
    · rw [World.setObj_of_ne w f heq] at hr
      exact hw.lists d' r hr
  · have hold : ((w.setObj d f).data g').guild = (w.data g').guild := by
      change ((w.setObj d f).objs (w.dataRef g')).guild = _
      by_cases heq : w.dataRef g' = d
      · rw [heq, World.setObj_self, hguild, ← heq]
        rfl
      · rw [World.setObj_of_ne w f heq]
        rfl
    rw [hold]
    exact hw.guilds g' hg'
  · have hother : d' ≠ d := fun heq => hne (hd'.symm.trans (heq ▸ hd))
    rw [World.setObj_of_ne w f hother]

theorem bercons_confined {bercons : List RconRef} {w : World} (h : ∀ h, h ≠ g →
    w.bercons.filter (fun r => r.guild = h) = bercons.filter fun r => r.guild = h) :
    Confined g w { w with bercons := bercons } :=
  fun hw => ⟨⟨hw.lists, hw.channels, hw.guilds, hw.requests⟩, rfl, rfl, fun h' hne =>
    ⟨Iff.rfl, rfl, fun _ _ => rfl, fun _ _ => rfl, h h' hne, rfl, rfl⟩⟩

/-! ### A reload -/

theorem setSpecific_confined {d : DataRef} (hd : d.guild = g) (specific : Value) :
    Prog.Within (Confined g) (setSpecific d specific) :=
  setObj_confined hd (fun data => { data with specific := specific, shared := fun _ => none })
    (fun _ => rfl) fun _ _ hr => .inl hr

/-- A write in place is seen by instances of the guild only. -/
theorem fill_confined {d : DataRef} (hd : d.guild = g) (specific : Value) (w : World) :
    Confined g w (w.fill d specific) := by
  intro hw
  obtain ⟨htenants, honly⟩ := setObj_confined hd
    (fun data => { data with specific := specific }) (fun _ => rfl) (fun _ _ hr => .inl hr) w hw
  refine ⟨⟨htenants.lists, fun r c hc => ?_, htenants.guilds, htenants.requests⟩,
    honly.guildIds, honly.gens, fun h hne => ?_⟩
  · obtain ⟨cfg, hcfg⟩ := w.fill_rcons d specific r
    rw [hcfg] at hc
    exact hw.channels r c hc
  · obtain ⟨hknown, hgens, hobjs, -, hbercons, hredis, htrace⟩ := honly.same h hne
    refine ⟨hknown, hgens, hobjs, fun r hr => ?_, hbercons, hredis, htrace⟩
    have hother : r.data ≠ d := fun heq =>
      hne (hr.symm.trans ((congrArg DataRef.guild heq).trans hd))
    exact (w.fill_rcons_of_ne specific hother).symm

theorem normaliseData_confined (env : Env) {d : DataRef} (hd : d.guild = g) :
    Prog.Within (Confined g) (normaliseData env d) := by
  have hf := Confined.frame g
  refine .bind hf (.read hf _) fun specific => ?_
  exact .bind hf (.modify (fill_confined hd _)) fun _ => .lift hf _

theorem applyConfig_confined (env : Env) (text : Text) :
    Prog.Within (Confined g) (applyConfig env g text) :=
  applyConfig_within (Confined.frame g) env text (fun _ hd v => setSpecific_confined hd v)
    fun _ hd => normaliseData_confined env hd

theorem closeRcon_confined (env : Env) (o : RconRef → Oracle) {r : RconRef} (hr : r.guild = g) :
    Prog.Within (Confined g) (closeRcon env o r) := by
  intro w
  cases hn : (w.rcons r).bnode with
  | none =>
    rw [closeRcon_none hn]
    exact (Confined.frame g).refl w
  | some n =>
    rw [closeRcon_some hn]
    refine Prog.Within.bind_at (Confined.frame g)
      (speaks_confined hr (close_speaks env (o r) n) w) fun _ => .modify fun w => ?_
    -- only an instance of the guild is taken out
    refine bercons_confined fun h hne => ?_
    rw [List.filter_filter]
    refine List.filter_congr fun r' _ => ?_
    by_cases hr' : r'.guild = h
    · have : r' ≠ r := fun heq => hne (hr'.symm.trans (heq ▸ hr))
      simp [hr', this]
    · simp [hr']

theorem push_confined {r : RconRef} (hr : r.guild = g) (w : World) : Confined g w (w.push r) := by
  refine (Confined.frame g).trans (setObj_confined hr
    (fun data => { data with beRcons := data.beRcons ++ [r] }) (fun _ => rfl)
    (fun data r' hr' => ?_) w) (bercons_confined fun h hne => ?_)
  · rw [List.mem_append, List.mem_singleton] at hr'
    rcases hr' with hr' | rfl
    · exact .inl hr'
    · exact .inr hr
  · have hother : ¬r.guild = h := fun heq => hne (heq.symm.trans hr)
    rw [List.filter_append, List.filter_cons_of_neg (by simpa using hother)]
    simp [World.setObj]

/-- An instance is built on a data object of the guild. -/
theorem buildRcon_confined (env : Env) (o : RconRef → Oracle) {d : DataRef} (hd : d.guild = g)
    (server : Value) (position : Nat) {w : World} (hguild : (w.objs d).guild.id = g) :
    Confined g w (buildRcon env o d server position w).2 := by
  have hf := Confined.frame g
  let r : RconRef := ⟨d, (w.objs d).built⟩
  let x := construct env (o r) (w.objs d).specific
  have hr : r.guild = g := hd
  have hnew : (w.alloc d server position).rcons r = .blank server (w.objs d).guild := by
    rw [World.alloc, World.setRcon_self]
  have halloc : Confined g w (w.alloc d server position) := by
    refine hf.trans (setObj_confined hd (fun data => { data with
      built := data.built + 1
      shared := Function.update data.shared (w.objs d).built (some position) })
      (fun _ => rfl) (fun _ _ hr => .inl hr) w) (setRcon_confined hr ?_ _)
    simp [Rcon.channels, Rcon.blank]
  rw [buildRcon_apply]
  refine hf.trans halloc (Prog.Within.bind_at hf ?_ fun _ => .modify fun w => push_confined hr w)
  have hbinding : Binding (w.objs d).guild (x ⟨(w.alloc d server position).rcons r, []⟩).2 := by
    rw [hnew]
    exact (construct_binds env (o r) _).snd (binding_blank server _)
  have hsilent := (construct_silent env (o r) (w.objs d).specific
    ⟨(w.alloc d server position).rcons r, []⟩).forall
  refine onRcon_confined hr (fun c hc => ?_) fun e he =>
    (hsilent e he).staysIn fun _ hmem => absurd hmem List.not_mem_nil
  rw [(w.objs d).guild.channels_own c (hbinding.channels c hc), hguild]

theorem buildServers_confined (env : Env) (o : RconRef → Oracle) {d : DataRef} (hd : d.guild = g)
    (servers : List (Value × Nat)) {w : World} (hguild : (w.objs d).guild.id = g) :
    Confined g w
      (Prog.forEach servers (fun server => buildRcon env o d server.1 server.2) w).2 := by
  induction servers generalizing w with
  | nil => exact (Confined.frame g).refl w
  | cons server rest ih =>
    have hserver := buildRcon_confined env o hd server.1 server.2 hguild
    have hgrows := buildRcon_grows env o d server.1 server.2 [] w w (Grows.refl d w)
    rw [Prog.forEach]
    rcases e : buildRcon env o d server.1 server.2 w with ⟨_ | _, w₁⟩ <;> rw [e] at hserver hgrows
    · rw [Prog.bind_error e]
      exact hserver
    · rw [Prog.bind_ok e]
      exact (Confined.frame g).trans hserver (ih (by rw [hgrows.guild]; exact hguild))

theorem buildRcons_confined (env : Env) (o : RconRef → Oracle) {d : DataRef} (hd : d.guild = g)
    {w : World} (hguild : (w.objs d).guild.id = g) :
    Confined g w (buildRcons env o d w).2 := by
  rcases buildRcons_cases env o d w with ⟨e, h, -⟩ | h
  · rw [h]
    exact (Confined.frame g).refl w
  · rw [h]
    exact buildServers_confined env o hd _ hguild

theorem initBERconGuild_confined (env : Env) (o : RconRef → Oracle) :
    Prog.Within (Confined g) (initBERconGuild env o g) := by
  have hf := Confined.frame g
  intro w hw
  by_cases hg : g ∈ w.guildIds
  swap
  · rw [initBERconGuild, Prog.read_bind, if_neg (by simpa using hg)]
    exact hf.refl w hw
  have hclose : Prog.Within (Confined g) (Prog.forEach (w.data g).beRcons (closeRcon env o)) :=
    .forEach hf fun r hr => closeRcon_confined env o (hw.lists _ r hr)
  have hclosed := hclose w
  rw [initBERconGuild_known hg]
  rcases e : Prog.forEach (w.data g).beRcons (closeRcon env o) w with ⟨_ | _, w₁⟩ <;>
    rw [e] at hclosed
  · rw [Prog.bind_error e]
    exact hclosed hw
  · rw [Prog.bind_ok e, Prog.modify_bind]
    have hcleared :
        Confined g w (w₁.setObj (w.dataRef g) fun data => { data with beRcons := [] }) :=
      hf.trans hclosed (setObj_confined rfl (fun data => { data with beRcons := [] }) (fun _ => rfl)
        (fun _ _ hr => absurd hr List.not_mem_nil) w₁)
    obtain ⟨htenants, honly⟩ := hcleared hw
    refine hf.trans hcleared (buildRcons_confined env o rfl ?_) hw
    have hguild := htenants.guilds g (by rw [honly.guildIds]; exact hg)
    rwa [World.data, honly.dataRef] at hguild

theorem say_confined {channel : Option Channel} (h : ∀ c, channel = some c → c.guildId = some g)
    (text : Text) : Prog.Within (Confined g) (emitting none (sendTextMessage channel text)) :=
  emitting_confined (sendTextMessage_adds h)

theorem log_confined (env : Env) (text : Text) :
    Prog.Within (Confined g) (emitting none (logBot env text)) :=
  emitting_confined (logBot_adds trivial)

theorem reloadReply_confined (env : Env) (o : RconRef → Oracle) {guild : Guild}
    (hguild : guild.id = g) {channel : Option Channel}
    (hchannel : ∀ c, channel = some c → c.guildId = some g) (result : Option Text) :
    Prog.Within (Confined g) (reloadReply env o guild channel result) := by
  have hf := Confined.frame g
  subst hguild
  unfold reloadReply
  split
  · refine .bind hf (say_confined hchannel _) fun _ => .bind hf (log_confined env _) fun _ => ?_
    exact .bind hf (applyConfig_confined env _) fun _ => initBERconGuild_confined env o
  · exact .bind hf (say_confined hchannel _) fun _ => log_confined env _

/-! ### A message -/

/-- The message was written in the guild, and not by the owner of the bot. -/
structure Message.In (g : GuildId) (message : Message) : Prop where
  guild : ∃ guild, message.guild = some guild ∧ guild.id = g
  channel : message.channel.guildId = some g
  author : message.authorId ≠ ownerId

theorem request_confined {req : Request} (hreq : ∀ h, h ≠ g → req.isOf h = false)
    (hchannel : ∀ guild c, req = .get guild (some c) → c.guildId = some guild.id) :
    Prog.Within (Confined g) (request req) := by
  intro w hw
  refine ⟨⟨hw.lists, hw.channels, hw.guilds, fun guild c hc => ?_⟩, rfl, rfl, fun h hne =>
    ⟨Iff.rfl, rfl, fun _ _ => rfl, fun _ _ => rfl, rfl, ?_, rfl⟩⟩
  · rcases List.mem_append.1 hc with hc | hc
    · exact hw.requests guild c hc
    · exact hchannel guild c (List.mem_singleton.1 hc).symm
  · change _ = (w.redis ++ [req]).filter _
    rw [List.filter_append, List.filter_cons_of_neg (by simp [hreq h hne])]
    simp

variable {message : Message} (hm : message.In g)

include hm

theorem print_confined (text : Text) :
    Prog.Within (Confined g)
      (emitting none (zbotPrintLongMessage text (some message.channel))) := by
  refine emitting_confined (zbotPrintLongMessage_adds fun c _ hc => ?_)
  rw [← Option.some.inj hc]
  exact hm.channel

theorem reply_confined (text : Text) :
    Prog.Within (Confined g) (emitting none (emit (.reply message.channel text))) :=
  emitting_confined (emit_adds hm.channel)

theorem reload_confined {guild : Guild} (hguild : message.guild = some guild) :
    Prog.Within (Confined g) (reloadSpecificConfig guild (some message.channel)) := by
  obtain ⟨guild', hguild', hid⟩ := hm.guild
  obtain rfl : guild' = guild := Option.some.inj (hguild'.symm.trans hguild)
  refine request_confined (fun h hne => ?_) ?_
  · exact decide_eq_false fun heq => hne (heq.symm.trans hid)
  · rintro _ _ ⟨⟩
    rw [hm.channel, hid]

/-- What anyone but the owner can make the bot do. -/
theorem runCli_confined (env : Env) (c : CliCall) :
    Prog.Within (Confined g) (runCli env message c) := by
  have hf := Confined.frame g
  cases c with
  | answer text => exact reply_confined hm _
  | about => exact reply_confined hm _
  | awesome name => exact reply_confined hm _
  | maker => exact reply_confined hm _
  | broadcast =>
    rw [runCli, if_neg hm.author]
    exact print_confined hm _
  | disconnect =>
    rw [runCli, decide_eq_false hm.author]
    exact .pure hf _
  | gif => exact emitting_confined (emit_adds trivial)
  | listinfo guildId =>
    rw [runCli, if_neg hm.author]
    exact print_confined hm _
  | liststats extended =>
    rw [runCli, if_neg hm.author]
    exact print_confined hm _
  | reload =>
    rw [runCli]
    split
    · exact reload_confined hm ‹_›
    · exact .raise hf _

omit hm

/-- An instance ignores a message in a channel that is not one of its guild. -/
theorem adminAction_skips (env : Env) (o : RconRef → Oracle) {r : RconRef} (hr : r.guild ≠ g)
    (hchannel : message.channel.guildId = some g) {w : World} (hw : Tenants w) :
    adminAction env o message r w = (.ok (), w) := by
  have hforeign : ¬some message.channel = (w.rcons r).commandChannel := by
    intro heq
    have hown := hw.channels r message.channel (Rcon.mem_channels.2 (.inl heq.symm))
    rw [hchannel] at hown
    exact hr (Option.some.inj hown).symm
  have hnothing : (w.record (some r) []) = w := by simp [World.record]
  simp only [adminAction, Prog.read_bind, checkAdminCommand, if_neg hforeign]
  change (Except.ok (), w.record (some r) []) = _
  rw [hnothing]

include hm

theorem adminAction_confined (env : Env) (o : RconRef → Oracle) (r : RconRef) :
    Prog.Within (Confined g) (adminAction env o message r) := by
  intro w hw
  by_cases hr : r.guild = g
  · have hown : ∀ c ∈ (w.rcons r).channels, c.guildId = some g := hr ▸ hw.channels r
    have hsource : ∀ r', some r = some r' → r'.guild = g := by
      rintro r' ⟨⟩
      exact hr
    have hstays : Prog.Within (Adds (Effect.Stays (w.rcons r).channels)) (checkAdminCommand env
        (w.rcons r) (w.objs r.data).specific (o r).throws message) :=
      checkAdminCommand_adds (fun _ hc => Rcon.commandChannel_mem hc) (fun _ _ _ => trivial)
        fun _ _ _ _ => trivial
    exact record_confined hsource (fun e he => ((hstays []).forall e he).staysIn hown) w hw
  · rw [adminAction_skips env o hr hm.channel hw]
    exact (Confined.frame g).refl w hw

theorem checkMessageAction_confined (env : Env) (o : RconRef → Oracle) :
    Prog.Within (Confined g) (checkMessageAction env o message) := by
  have hf := Confined.frame g
  have hadmin : ∀ bercons,
      Prog.Within (Confined g) (Prog.forEach bercons (adminAction env o message)) :=
    fun bercons => .forEach hf fun r _ => adminAction_confined hm env o r
  refine .when hf fun _ => .bind hf ?_ fun _ => .bind hf (.read hf _) hadmin
  unfold checkCliMessagesAction
  split
  · exact runCli_confined hm env _
  · exact .pure hf _

omit hm

/-! ### The steps of a guild -/

/-- The step is one of the guild: a message in it, the answer to a reload of it, or an event of one
of its instances. -/
def Step.BelongsTo (g : GuildId) (s : Step) : Prop :=
  match s.event with
  | .message message => message.In g
  | .getReply g' _ => g' = g
  | .rcon r _ => r.guild = g
  | _ => False

theorem answers_getReply (result : Option Text) :
    (Event.getReply g result).answers = Request.isOf g := by
  funext req
  cases req with
  | get guild channel => exact Bool.beq_eq_decide_eq guild.id g
  | _ => rfl

/-- The oldest reload of the guild is taken from the queue. -/
theorem dequeue_cases (g : GuildId) (redis : List Request) :
    (redis.find? (Request.isOf g) = none ∧ redis.filter (Request.isOf g) = []) ∨
      ∃ guild channel, redis.find? (Request.isOf g) = some (.get guild channel) ∧ guild.id = g ∧
        redis.filter (Request.isOf g) =
          .get guild channel :: (redis.eraseP (Request.isOf g)).filter (Request.isOf g) ∧
        ∀ h, h ≠ g → (redis.eraseP (Request.isOf g)).filter (Request.isOf h) =
          redis.filter (Request.isOf h) := by
  cases hfind : redis.find? (Request.isOf g) with
  | none =>
    refine .inl ⟨rfl, List.filter_eq_nil_iff.2 fun req hreq => ?_⟩
    exact List.find?_eq_none.1 hfind req hreq
  | some req =>
    have hof := List.find?_some hfind
    obtain ⟨first, before, after, hbefore, hfirst, hsplit, herase⟩ :=
      List.exists_of_eraseP (List.mem_of_find?_eq_some hfind) hof
    have hnone : before.filter (Request.isOf g) = [] := List.filter_eq_nil_iff.2 hbefore
    have heq : first = req := by
      rw [hsplit, List.find?_append, List.find?_eq_none.2 hbefore, Option.none_or,
        List.find?_cons_of_pos hfirst] at hfind
      exact Option.some.inj hfind
    subst heq
    cases first with
    | get guild channel =>
      have hid : guild.id = g := of_decide_eq_true hof
      refine .inr ⟨guild, channel, rfl, hid, ?_, fun h hne => ?_⟩
      · rw [herase, hsplit, List.filter_append, List.filter_append, hnone,
          List.filter_cons_of_pos hof]
        rfl
      · have hother : ¬Request.isOf h (.get guild channel) = true := by
          intro heq
          exact hne ((of_decide_eq_true heq).symm.trans hid)
        rw [herase, hsplit, List.filter_append, List.filter_append, List.filter_cons_of_neg hother]
    | keys => cases hof
    | mget keys => cases hof

theorem dequeue_confined {redis : List Request} {w : World}
    (hsub : ∀ req ∈ redis, req ∈ w.redis) (hother : ∀ h, h ≠ g →
      redis.filter (Request.isOf h) = w.redis.filter (Request.isOf h)) :
    Confined g w { w with redis := redis } :=
  fun hw => ⟨⟨hw.lists, hw.channels, hw.guilds, fun guild c hc => hw.requests guild c (hsub _ hc)⟩,
    rfl, rfl, fun h hne =>
      ⟨Iff.rfl, rfl, fun _ _ => rfl, fun _ _ => rfl, rfl, (hother h hne).symm, rfl⟩⟩

theorem getReply_confined (env : Env) (o : RconRef → Oracle) (result : Option Text) :
    Prog.Within (Confined g) (redisAnswer env o (.getReply g result)) := by
  intro w hw
  rcases dequeue_cases g w.redis with ⟨hnone, -⟩ | ⟨guild, channel, hsome, hid, -, hother⟩
  · rw [redisAnswer_none (by rw [answers_getReply]; exact hnone)]
    exact (Confined.frame g).refl w hw
  · rw [redisAnswer_some (by rw [answers_getReply]; exact hsome), answers_getReply]
    have hdequeue : Confined g w { w with redis := w.redis.eraseP (Request.isOf g) } :=
      dequeue_confined (fun _ => List.mem_of_mem_eraseP) hother
    refine (Confined.frame g).trans hdequeue (reloadReply_confined env o hid ?_ result _) hw
    rintro c rfl
    rw [hw.requests guild c (List.mem_of_find?_eq_some hsome), hid]

/-- **A step of a guild changes nothing of another guild.** -/
theorem step_confined (env : Env) {s : Step} (hs : s.BelongsTo g) :
    Prog.Within (Confined g) (step env s) := by
  obtain ⟨event, o⟩ := s
  cases event with
  | message message => exact checkMessageAction_confined hs env o
  | getReply g' result =>
    obtain rfl : g' = g := hs
    exact getReply_confined env o result
  | rcon r e => exact speaks_confined hs (rconStep_speaks env (o r) e)
  | _ => cases hs

end Confined

end ZBot
