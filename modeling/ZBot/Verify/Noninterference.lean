import ZBot.Js.TwoRuns
import ZBot.Verify.Tenant

/-!
# Guilds do not interfere

What a step of a guild does to the guild depends on nothing but what belongs to it: in two states
that are the same for the guild it has the same outcome and leaves states that are the same for the
guild (`step_agrees`). A step of another guild does not show at all (`step_confined`). By the
unwinding rule a run then looks to a guild like the run of the guild's own steps
(`run_noninterference`).
-/

namespace ZBot

open Js BotM

section Own

variable {h : GuildId}

/-! ## Parts of a step -/

theorem record_same {w w' : World} (hs : Same h w w') (source : Option RconRef)
    (calls : List Effect) : Same h (w.record source calls) (w'.record source calls) := by
  refine ⟨hs.known, hs.gens, hs.objs, hs.rcons, hs.bercons, hs.redis, ?_⟩
  rw [World.record, World.record, List.filter_append, List.filter_append, hs.trace]

theorem emitting_agrees {α : Type} (source : Option RconRef) (x : Emit α) :
    Prog.Agree (Same h) (emitting source x) (emitting source x) :=
  fun _ _ hs => ⟨rfl, record_same hs source _⟩

theorem request_agrees (req : Request) : Prog.Agree (Same h) (request req) (request req) := by
  refine .modify fun w w' hs => ⟨hs.known, hs.gens, hs.objs, hs.rcons, hs.bercons, ?_, hs.trace⟩
  change (w.redis ++ [req]).filter _ = (w'.redis ++ [req]).filter _
  rw [List.filter_append, List.filter_append, hs.redis]

theorem setRcon_same {w w' : World} (hs : Same h w w') (r : RconRef) (rcon : Rcon) :
    Same h (w.setRcon r rcon) (w'.setRcon r rcon) := by
  refine ⟨hs.known, hs.gens, hs.objs, fun r' hr' => ?_, hs.bercons, hs.redis, hs.trace⟩
  by_cases heq : r' = r
  · rw [heq, World.setRcon_self, World.setRcon_self]
  · rw [World.setRcon_of_ne _ _ heq, World.setRcon_of_ne _ _ heq]
    exact hs.rcons r' hr'

theorem onRcon_agrees {α : Type} {r : RconRef} (hr : r.guild = h) (x : RconM α) :
    Prog.Agree (Same h) (onRcon r x) (onRcon r x) := by
  intro w w' hs
  have hrcon := hs.rcons r hr
  simp only [onRcon, Prog.zoom_apply, hrcon]
  exact ⟨trivial, record_same (setRcon_same hs r _) _ _⟩

theorem setObj_same {w w' : World} (hs : Same h w w') {d : DataRef} (hd : d.guild = h)
    (f : GuildData → GuildData) : Same h (w.setObj d f) (w'.setObj d f) := by
  refine ⟨hs.known, hs.gens, fun d' hd' => ?_, hs.rcons, hs.bercons, hs.redis, hs.trace⟩
  by_cases heq : d' = d
  · rw [heq, World.setObj_self, World.setObj_self, hs.objs d hd]
  · rw [World.setObj_of_ne _ _ heq, World.setObj_of_ne _ _ heq]
    exact hs.objs d' hd'

/-! ## A reload -/

theorem setSpecific_agrees {d : DataRef} (hd : d.guild = h) (specific : Value) :
    Prog.Agree (Same h) (setSpecific d specific) (setSpecific d specific) :=
  .modify fun _ _ hs => setObj_same hs hd _

theorem fill_same {w w' : World} (hs : Same h w w') {d : DataRef} (hd : d.guild = h)
    (specific : Value) : Same h (w.fill d specific) (w'.fill d specific) := by
  obtain ⟨hknown, hgens, hobjs, -, hbercons, hredis, htrace⟩ :=
    setObj_same hs hd fun data => { data with specific := specific }
  refine ⟨hknown, hgens, hobjs, fun r hr => ?_, hbercons, hredis, htrace⟩
  simp only [World.fill, hs.rcons r hr, hs.objs d hd]

theorem normaliseData_agrees (env : Env) {d : DataRef} (hd : d.guild = h) :
    Prog.Agree (Same h) (normaliseData env d) (normaliseData env d) := by
  refine .read_bind fun w w' hs => ?_
  rw [hs.objs d hd]
  exact .bind (.modify fun _ _ hv => fill_same hv hd _) fun _ => .lift _

theorem applyConfig_agrees (env : Env) (text : Text) :
    Prog.Agree (Same h) (applyConfig env h text) (applyConfig env h text) := by
  refine .read_bind fun w w' hs => .read_bind fun v v' hv => ?_
  have hknown : w.guildIds.contains h = w'.guildIds.contains h := by
    rw [Bool.eq_iff_iff, List.contains_iff_mem, List.contains_iff_mem]
    exact hs.known
  have hd : (v'.dataRef h).guild = h := rfl
  rw [hknown, hv.dataRef]
  refine .when fun _ => .bind (.lift _) fun specific => .bind (.when fun _ => ?_) fun _ => ?_
  · exact setSpecific_agrees hd specific
  · exact normaliseData_agrees env hd

theorem closeRcon_agrees (env : Env) (o : RconRef → Oracle) {r : RconRef} (hr : r.guild = h) :
    Prog.Agree (Same h) (closeRcon env o r) (closeRcon env o r) := by
  refine .read_bind fun w w' hs => ?_
  rw [hs.rcons r hr]
  split
  · refine .bind (onRcon_agrees hr _) fun _ => .modify fun w w' hs => ?_
    refine ⟨hs.known, hs.gens, hs.objs, hs.rcons, ?_, hs.redis, hs.trace⟩
    change (w.bercons.filter _).filter _ = (w'.bercons.filter _).filter _
    rw [List.filter_comm, hs.bercons, List.filter_comm]
  · exact .pure ()

theorem buildRcon_agrees (env : Env) (o : RconRef → Oracle) {d : DataRef} (hd : d.guild = h)
    (server : Value) (position : Nat) :
    Prog.Agree (Same h) (buildRcon env o d server position)
      (buildRcon env o d server position) := by
  refine .read_bind fun w w' hs => ?_
  have hr : (⟨d, (w'.objs d).built⟩ : RconRef).guild = h := hd
  rw [hs.objs d hd]
  refine .bind (.modify fun v v' hv => setRcon_same (setObj_same hv hd _) _ _) fun _ =>
    .bind (onRcon_agrees hr _) fun _ => .bind (.modify fun v v' hv => setObj_same hv hd _) fun _ =>
    .modify fun v v' hv => ⟨hv.known, hv.gens, hv.objs, hv.rcons, ?_, hv.redis, hv.trace⟩
  change (v.bercons ++ _).filter _ = (v'.bercons ++ _).filter _
  rw [List.filter_append, List.filter_append, hv.bercons]

theorem buildRcons_agrees (env : Env) (o : RconRef → Oracle) {d : DataRef} (hd : d.guild = h) :
    Prog.Agree (Same h) (buildRcons env o d) (buildRcons env o d) := by
  refine .read_bind fun w w' hs => ?_
  rw [hs.objs d hd]
  exact .bind (.lift _) fun _ => .when fun _ => .bind (.lift _) fun _ => .forEach fun server _ =>
    buildRcon_agrees env o hd server.1 server.2

/-- Two states in order that are the same for the guild. -/
def Twins (h : GuildId) (w w' : World) : Prop := Same h w w' ∧ Tenants w ∧ Tenants w'

theorem twins {α : Type} {x : BotM α} (hagree : Prog.Agree (Same h) x x)
    (hconfined : Prog.Within (Confined h) x) : Prog.Agree (Twins h) x x :=
  hagree.and_inv fun w hw => (hconfined w hw).1

/-- The instances that are closed are those of the guild. -/
theorem initBERconGuild_agrees (env : Env) (o : RconRef → Oracle) {w w' : World}
    (hs : Same h w w') (hw : Tenants w) :
    (initBERconGuild env o h w).1 = (initBERconGuild env o h w').1 ∧
      Same h (initBERconGuild env o h w).2 (initBERconGuild env o h w').2 := by
  by_cases hg : h ∈ w.guildIds
  swap
  · have hg' : h ∉ w'.guildIds := fun hmem => hg (hs.known.2 hmem)
    rw [initBERconGuild, Prog.read_bind, Prog.read_bind, if_neg (by simpa using hg),
      if_neg (by simpa using hg')]
    exact ⟨rfl, hs⟩
  have hd : (w.dataRef h).guild = h := rfl
  have hdata : w.data h = w'.data h := by
    rw [World.data, World.data, ← hs.dataRef]
    exact hs.objs _ hd
  rw [initBERconGuild_known hg, initBERconGuild_known (hs.known.1 hg), ← hdata, ← hs.dataRef]
  refine Prog.Agree.bind (.forEach fun r hr => closeRcon_agrees env o (hw.lists _ r hr))
    (fun _ => ?_) w w' hs
  exact .bind (.modify fun v v' hv => setObj_same hv hd _) fun _ => buildRcons_agrees env o hd

theorem reloadReply_agrees (env : Env) (o : RconRef → Oracle) {guild : Guild}
    (hguild : guild.id = h) {channel : Option Channel}
    (hchannel : ∀ c, channel = some c → c.guildId = some h) (result : Option Text) :
    Prog.Agree (Twins h) (reloadReply env o guild channel result)
      (reloadReply env o guild channel result) := by
  subst hguild
  have hsay := fun text => twins (emitting_agrees none _) (say_confined hchannel text)
  have hlog := fun text => twins (h := guild.id) (emitting_agrees none _) (log_confined env text)
  unfold reloadReply
  split
  · refine .bind (hsay _) fun _ => .bind (hlog _) fun _ => .bind ?_ fun _ => ?_
    · exact twins (applyConfig_agrees env _) (applyConfig_confined env _)
    · rintro w w' ⟨hs, hw, hw'⟩
      obtain ⟨hout, hs'⟩ := initBERconGuild_agrees env o hs hw
      exact ⟨hout, hs', (initBERconGuild_confined env o w hw).1,
        (initBERconGuild_confined env o w' hw').1⟩
  · exact .bind (hsay _) fun _ => hlog _

theorem getReply_agrees (env : Env) (o : RconRef → Oracle) (result : Option Text) {w w' : World}
    (hs : Twins h w w') : Same h (redisAnswer env o (.getReply h result) w).2
      (redisAnswer env o (.getReply h result) w').2 := by
  obtain ⟨hsame, hw, hw'⟩ := hs
  rcases dequeue_cases h w.redis with
    ⟨hnone, hfilter⟩ | ⟨guild, channel, hsome, hid, hfilter, hother⟩ <;>
    rcases dequeue_cases h w'.redis with
      ⟨hnone', hfilter'⟩ | ⟨guild', channel', hsome', hid', hfilter', hother'⟩
  · rw [redisAnswer_none (by rw [answers_getReply]; exact hnone),
      redisAnswer_none (by rw [answers_getReply]; exact hnone')]
    exact hsame
  · have := hsame.redis
    rw [hfilter, hfilter'] at this
    cases this
  · have := hsame.redis
    rw [hfilter, hfilter'] at this
    cases this
  · -- the same request is answered in both states
    have hqueue := hsame.redis
    rw [hfilter, hfilter'] at hqueue
    obtain ⟨hreq, hrest⟩ := List.cons.inj hqueue
    cases hreq
    rw [redisAnswer_some (by rw [answers_getReply]; exact hsome),
      redisAnswer_some (by rw [answers_getReply]; exact hsome'), answers_getReply]
    have hchannel : ∀ c, channel = some c → c.guildId = some h := by
      rintro c rfl
      rw [hw.requests guild c (List.mem_of_find?_eq_some hsome), hid]
    refine (reloadReply_agrees env o hid hchannel result _ _ ⟨?_, ?_, ?_⟩).2.1
    · exact ⟨hsame.known, hsame.gens, hsame.objs, hsame.rcons, hsame.bercons, hrest, hsame.trace⟩
    · exact (dequeue_confined (fun _ => List.mem_of_mem_eraseP) hother hw).1
    · exact (dequeue_confined (fun _ => List.mem_of_mem_eraseP) hother' hw').1

/-! ## A message -/

variable {message : Message} (hm : message.In h)

include hm

/-- Without the owner's commands, what is said does not depend on the state. -/
theorem runCli_agrees (env : Env) (c : CliCall) :
    Prog.Agree (Same h) (runCli env message c) (runCli env message c) := by
  cases c with
  | broadcast =>
    rw [runCli, if_neg hm.author]
    exact emitting_agrees none _
  | disconnect =>
    rw [runCli, decide_eq_false hm.author]
    exact .pure ()
  | listinfo guildId =>
    rw [runCli, if_neg hm.author]
    exact emitting_agrees none _
  | liststats extended =>
    rw [runCli, if_neg hm.author]
    exact emitting_agrees none _
  | reload =>
    rw [runCli]
    split
    · exact request_agrees _
    · exact .raise _
  | _ => exact emitting_agrees none _

omit hm in
theorem adminAction_agrees (env : Env) (o : RconRef → Oracle) {r : RconRef} (hr : r.guild = h) :
    Prog.Agree (Same h) (adminAction env o message r) (adminAction env o message r) := by
  refine .read_bind fun w w' hs => .read_bind fun v v' hv => ?_
  rw [hs.rcons r hr, hv.objs r.data hr]
  exact emitting_agrees _ _

/-- The message is handled by the instances of the guild alone. -/
theorem fanOut_own (env : Env) (o : RconRef → Oracle) {w : World} (hw : Tenants w) :
    Prog.forEach w.bercons (adminAction env o message) w =
      Prog.forEach (w.bercons.filter fun r => r.guild = h) (adminAction env o message) w := by
  refine Prog.forEach_filter (fun r v hr hv => ?_) (fun r v hv => ?_) w.bercons hw
  · exact adminAction_skips env o (of_decide_eq_false hr) hm.channel hv
  · exact (adminAction_confined hm env o r v hv).1

theorem fanOut_agrees (env : Env) (o : RconRef → Oracle) {w w' : World} (hs : Twins h w w') :
    Same h (Prog.forEach w.bercons (adminAction env o message) w).2
      (Prog.forEach w'.bercons (adminAction env o message) w').2 := by
  obtain ⟨hsame, hw, hw'⟩ := hs
  rw [fanOut_own hm env o hw, fanOut_own hm env o hw', hsame.bercons]
  refine (Prog.Agree.forEach (fun r hr => adminAction_agrees env o ?_) w w' hsame).2
  exact of_decide_eq_true (List.mem_filter.1 hr).2

theorem checkMessageAction_agrees (env : Env) (o : RconRef → Oracle) {w w' : World}
    (hs : Twins h w w') :
    Same h (checkMessageAction env o message w).2 (checkMessageAction env o message w').2 := by
  unfold checkMessageAction
  cases message.authorBot with
  | true => exact hs.1
  | false =>
    have hcli : Prog.Agree (Twins h) (checkCliMessagesAction env message)
        (checkCliMessagesAction env message) := by
      unfold checkCliMessagesAction
      split
      · exact twins (runCli_agrees hm env _) (runCli_confined hm env _)
      · exact .pure ()
    obtain ⟨hout, hs₁⟩ := hcli w w' hs
    rw [Bool.not_false, Prog.when_true]
    rcases e : checkCliMessagesAction env message w with ⟨_ | _, w₁⟩ <;>
      rcases e' : checkCliMessagesAction env message w' with ⟨_ | _, w₁'⟩ <;>
      rw [e, e'] at hout hs₁ <;> cases hout
    · rw [Prog.bind_error e, Prog.bind_error e']
      exact hs₁.1
    · rw [Prog.bind_ok e, Prog.bind_ok e', Prog.read_bind, Prog.read_bind]
      exact fanOut_agrees hm env o hs₁

omit hm

/-- **A step of a guild depends on what belongs to the guild.** -/
theorem step_agrees (env : Env) {s : Step} (hstep : s.BelongsTo h) {w w' : World}
    (hs : Twins h w w') : Same h (step env s w).2 (step env s w').2 := by
  obtain ⟨event, o⟩ := s
  cases event with
  | message message => exact checkMessageAction_agrees hstep env o hs
  | getReply g result =>
    obtain rfl : g = h := hstep
    exact getReply_agrees env o result hs
  | rcon r e => exact (onRcon_agrees hstep _ w w' hs.1).2
  | _ => cases hstep

end Own

/-! ## Runs -/

/-- The guild a step belongs to. -/
def Step.tenant (s : Step) : Option GuildId :=
  match s.event with
  | .message message => message.guild.map Guild.id
  | .getReply g _ => some g
  | .rcon r _ => some r.guild
  | _ => none

theorem Step.BelongsTo.tenant_eq {g : GuildId} {s : Step} (hs : s.BelongsTo g) :
    s.tenant = some g := by
  obtain ⟨event, o⟩ := s
  cases event with
  | message message =>
    obtain ⟨guild, hguild, hid⟩ := hs.guild
    change message.guild.map Guild.id = some g
    rw [hguild, Option.map_some, hid]
  | getReply g' result => exact congrArg some hs
  | rcon r e => exact congrArg some hs
  | _ => cases hs

/-- **Guilds do not interfere.** In a run of steps that each belong to some guild, the steps of all
other guilds can be removed without a difference to a guild. -/
theorem run_noninterference (env : Env) (h : GuildId) {steps : List Step}
    (hsteps : ∀ s ∈ steps, ∃ g, s.BelongsTo g) {w : World} (hw : Tenants w) :
    Same h (run env steps w) (run env (steps.filter fun s => s.tenant = some h) w) := by
  refine unwinding (I := Tenants) (A := fun s => ∃ g, s.BelongsTo g) ?_ ?_ ?_ hsteps hw hw
    (.refl h w)
  · rintro s w ⟨g, hs⟩ hw
    exact (step_confined env hs w hw).1
  · rintro s w w' ⟨g, hs⟩ hown hw hw' hsame
    have hg : g = h := Option.some.inj (hs.tenant_eq.symm.trans (of_decide_eq_true hown))
    subst hg
    exact step_agrees env hs ⟨hsame, hw, hw'⟩
  · rintro s w w' ⟨g, hs⟩ hother hw hsame
    have hne : h ≠ g := by
      rintro rfl
      exact of_decide_eq_false hother hs.tenant_eq
    exact ((step_confined env hs w hw).2.same h hne).symm.trans hsame

/-- The bot in two guilds, before it has built anything. -/
def twoGuilds : World :=
  (World.start.addData sampleBot (sampleGuild sampleId)).addData sampleBot (sampleGuild otherId)

/-- Two guilds are reloaded at the same time, and the instance of one of them is logged in. -/
theorem run_noninterference_reloads :
    let steps := [.message (reloadMessage sampleId), .message (reloadMessage otherId),
      .getReply otherId (some (lit "stored")), .getReply sampleId (some (lit "stored")),
      .rcon ⟨⟨otherId, 1⟩, 0⟩ (.login 0 false (some true))].map sampleStep
    ((∀ s ∈ steps, ∃ g, s.BelongsTo g) ∧ Tenants twoGuilds) ∧
      (run sampleBot steps twoGuilds).bercons.length = 2 ∧
      Same sampleId (run sampleBot steps twoGuilds)
        (run sampleBot (steps.filter fun s => s.tenant = some sampleId) twoGuilds) := by
  intro steps
  have hauthor : ([] : Text) ≠ ownerId := by decide +kernel
  have hmessage : ∀ g, (reloadMessage g).In g := fun g => ⟨⟨sampleGuild g, rfl, rfl⟩, rfl, hauthor⟩
  have hsteps : ∀ s ∈ steps, ∃ g, s.BelongsTo g :=
    List.forall_mem_cons.2 ⟨⟨sampleId, hmessage _⟩, List.forall_mem_cons.2 ⟨⟨otherId, hmessage _⟩,
      List.forall_mem_cons.2 ⟨⟨otherId, rfl⟩, List.forall_mem_cons.2 ⟨⟨sampleId, rfl⟩,
      List.forall_mem_singleton.2 ⟨otherId, rfl⟩⟩⟩⟩⟩
  have hw : Tenants twoGuilds := (Tenants.start.addData sampleBot _).addData sampleBot _
  exact ⟨⟨hsteps, hw⟩, by decide +kernel, run_noninterference sampleBot sampleId hsteps hw⟩

end ZBot
