import ZBot.Verify.Instances
import ZBot.Verify.Speech

/-!
# Where the calls of a step come from

A step of the bot adds entries to the trace. `Origin` lists everything it can add, with the code
that adds it in the state before the step: a line of the log, an answer to the command line
interface, the report of a reload, `checkAdminCommand` of a listed instance on a message, the
callback of an instance, the closing of an instance in a reload, and a constructor. `step_origin`
is the inversion lemma for `step` that the properties of the trace are derived from, here and in the
modules that follow: nothing but a role, a configured action, a cron job or a reload makes the bot
send a command to a game server (`run_command_origin`), and whoever is not the owner of the bot is
answered in the channel where they speak (`message_answered_here`).
-/

namespace ZBot

open Js BotM

/-! ## Growing traces -/

theorem Along.of_forall {env : Env} {P : World → Step → Prop} (h : ∀ w s, P w s)
    (steps : List Step) (w : World) : Along env P steps w := by
  induction steps generalizing w with
  | nil => trivial
  | cons s steps ih => exact ⟨h w s, ih _⟩

/-- The trace grows by entries with the property. -/
def Traces (P : Option RconRef → Effect → Prop) (w w' : World) : Prop :=
  ∃ new, w'.trace = w.trace ++ new ∧ ∀ entry ∈ new, P entry.1 entry.2

section Traces

variable {P : Option RconRef → Effect → Prop}

theorem Traces.frame (P : Option RconRef → Effect → Prop) : Prog.Frame (Traces P) := by
  refine ⟨fun w => ⟨[], by simp, by simp⟩, ?_⟩
  rintro w w' w'' ⟨new, h, hnew⟩ ⟨new', h', hnew'⟩
  refine ⟨new ++ new', by rw [h', h, List.append_assoc], fun entry hentry => ?_⟩
  rcases List.mem_append.1 hentry with hentry | hentry
  · exact hnew entry hentry
  · exact hnew' entry hentry

theorem Traces.of_eq {w w' : World} (h : w'.trace = w.trace) : Traces P w w' :=
  ⟨[], by rw [h, List.append_nil], by simp⟩

theorem record_traces {source : Option RconRef} {calls : List Effect}
    (h : ∀ e ∈ calls, P source e) (w : World) : Traces P w (w.record source calls) := by
  refine ⟨calls.map fun e => (source, e), rfl, fun entry hentry => ?_⟩
  obtain ⟨e, he, rfl⟩ := List.mem_map.1 hentry
  exact h e he

theorem emitting_traces {α : Type} {source : Option RconRef} {x : Emit α}
    (hx : Prog.Within (Adds (P source)) x) : Prog.Within (Traces P) (emitting source x) :=
  fun w => record_traces (hx []).forall w

theorem onRcon_traces {α : Type} {r : RconRef} {x : RconM α} {w : World}
    (h : ∀ e ∈ (x ⟨w.rcons r, []⟩).2.calls, P (some r) e) : Traces P w (onRcon r x w).2 :=
  record_traces h (w.setRcon r _)

theorem modify_traces {f : World → World} (h : ∀ w, (f w).trace = w.trace) :
    Prog.Within (Traces P) (Prog.modify f) := fun w => .of_eq (h w)

end Traces

/-! ## Origins -/

/-- What the command line interface does for a message. -/
inductive Answered (env : Env) (w : World) (message : Message) : Effect → Prop
  | send (text : Text) : Answered env w message (.send message.channel text)
  | reply (text : Text) : Answered env w message (.reply message.channel text)
  /-- a gif search for what the command is followed by -/
  | request (hgif : env.cli message.content = some .gif) : Answered env w message
      (.request (replaceFirst message.content (env.cliPrefix ++ lit " gif ") []))
  /-- the owner speaks in the command channels of all instances -/
  | broadcast (howner : message.authorId = ownerId) {r : RconRef} (hr : r ∈ w.bercons) {c : Channel}
      (hc : (w.rcons r).commandChannel = some c) (text : Text) :
      Answered env w message (.send c text)
  | disconnect (howner : message.authorId = ownerId) : Answered env w message .emitDisconnect

/-- The events that may build instances. -/
def Step.builds (s : Step) : Prop :=
  (∀ message, s.event ≠ .message message) ∧ ∀ r e, s.event ≠ .rcon r e

/-- What a step can add to the trace, with the code that adds it. -/
inductive Origin (env : Env) (w : World) (s : Step) : Option RconRef → Effect → Prop
  | log {text : Text} (h : Shown text) : Origin env w s none (.log text)
  | cli {message : Message} {e : Effect} (hs : s.event = .message message)
      (hbot : message.authorBot = false) (h : Answered env w message e) : Origin env w s none e
  /-- a reload reports to the channel it was asked for in -/
  | report {g : GuildId} {result : Option Text} {guild : Guild} {c : Channel}
      (hs : s.event = .getReply g result) (h : .get guild (some c) ∈ w.redis) (text : Text) :
      Origin env w s none (.send c text)
  | admin {message : Message} {r : RconRef} {e : Effect} (hs : s.event = .message message)
      (hbot : message.authorBot = false) (hr : r ∈ w.bercons)
      (h : e ∈ (checkAdminCommand env (w.rcons r) (w.objs r.data).specific (s.oracle r).throws
        message []).2) : Origin env w s (some r) e
  | callback {r : RconRef} {event : RconEvent} {e : Effect} (hs : s.event = .rcon r event)
      (h : e ∈ (rconStep env (s.oracle r) event ⟨w.rcons r, []⟩).2.calls) :
      Origin env w s (some r) e
  | close {r : RconRef} {this : Rcon} {n : Nat} {e : Effect} (hs : s.closes w r)
      (hthis : this.bound = (w.rcons r).bound) (hn : this.bnode = some n)
      (h : e ∈ (close env (s.oracle r) n ⟨this, []⟩).2.calls) : Origin env w s (some r) e
  | build {r : RconRef} {server specific : Value} {guild : Guild} {e : Effect} (hs : s.builds)
      (h : e ∈ (construct env (s.oracle r) specific ⟨.blank server guild, []⟩).2.calls) :
      Origin env w s (some r) e

/-! ## Steps -/

section Background

variable {env : Env} {o : RconRef → Oracle} {P : Option RconRef → Effect → Prop}

/-- A line of the log in front of anything else. -/
theorem logBot_traces (hlog : ∀ text, Shown text → P none (.log text)) (text : Text)
    (h : Shown text) : Prog.Within (Traces P) (emitting none (logBot env text)) :=
  emitting_traces (logBot_adds (hlog text h))

variable (hbuild : ∀ r server specific guild e,
  e ∈ (construct env (o r) specific ⟨.blank server guild, []⟩).2.calls → P (some r) e)

include hbuild

theorem buildRcon_traces (d : DataRef) (server : Value) (position : Nat) :
    Prog.Within (Traces P) (buildRcon env o d server position) := by
  intro w
  have hf := Traces.frame P
  rw [buildRcon_apply]
  have halloc : Traces P w (w.alloc d server position) := .of_eq rfl
  refine hf.trans halloc (Prog.Within.bind_at hf (onRcon_traces fun e he => ?_) fun _ =>
    modify_traces fun _ => rfl)
  have hblank : (w.alloc d server position).rcons ⟨d, (w.objs d).built⟩ =
    .blank server (w.objs d).guild := Function.update_self ..
  rw [hblank] at he
  exact hbuild _ _ _ _ e he

theorem buildRcons_traces (d : DataRef) : Prog.Within (Traces P) (buildRcons env o d) :=
  buildRcons_within (Traces.frame P) env o d (buildRcon_traces hbuild d)

theorem initBERconAll_traces : Prog.Within (Traces P) (initBERconAll env o) :=
  initBERconAll_within (Traces.frame P) env o (buildRcons_traces hbuild)

variable (hlog : ∀ text, Shown text → P none (.log text))

include hlog

theorem initAfterReady_traces (guilds : List Guild) :
    Prog.Within (Traces P) (initAfterReady env o guilds) :=
  initAfterReady_within (Traces.frame P) env (logBot_traces hlog)
    (fun _ => modify_traces fun _ => rfl) (fun _ => modify_traces fun _ => rfl)
    (fun _ => initBERconAll_traces hbuild) (modify_traces fun _ => rfl) guilds

theorem onGuildCreate_traces (guild : Guild) :
    Prog.Within (Traces P) (onGuildCreate env o guild) :=
  onGuildCreate_within (Traces.frame P) env (logBot_traces hlog)
    (fun _ => modify_traces fun _ => rfl) (fun _ => modify_traces fun _ => rfl)
    (fun _ => initBERconAll_traces hbuild) guild

end Background

/-- No configuration that is applied adds a call. -/
theorem applyConfig_trace (env : Env) (g : GuildId) (specificConfig : Text) :
    Prog.Within (fun w w' : World => w'.trace = w.trace) (applyConfig env g specificConfig) :=
  applyConfig_within (.eq World.trace) env specificConfig (fun _ _ _ _ => rfl) fun _ _ _ => rfl

theorem applyConfigs_trace (env : Env) (keys : List Text) (results : List (Option Text)) :
    Prog.Within (fun w w' : World => w'.trace = w.trace) (applyConfigs env keys results) :=
  applyConfigs_within (.eq World.trace) env keys results (fun _ _ _ => rfl) fun _ _ => rfl

section Reload

variable {env : Env} {o : RconRef → Oracle} {P : Option RconRef → Effect → Prop} {w₀ : World}

/-- The instances are bound as at the start, and the trace has grown as allowed. -/
structure Closing (P : Option RconRef → Effect → Prop) (w₀ w : World) : Prop where
  bound : ∀ r, (w.rcons r).bound = (w₀.rcons r).bound
  traces : Traces P w₀ w

theorem closeRcon_closing {r : RconRef}
    (hclose : ∀ this n, this.bound = (w₀.rcons r).bound → this.bnode = some n →
      ∀ e ∈ (close env (o r) n ⟨this, []⟩).2.calls, P (some r) e) :
    Prog.Triple (Closing P w₀) (closeRcon env o r) (fun _ => Closing P w₀) (Closing P w₀) := by
  refine .of_snd fun w hw => ?_
  cases hn : (w.rcons r).bnode with
  | none =>
    rw [closeRcon_none hn]
    exact hw
  | some n =>
    rw [closeRcon_some hn]
    have hgrow : Traces P w (onRcon r (close env (o r) n) w).2 :=
      onRcon_traces (hclose _ n (hw.bound r) hn)
    have hone : Closing P w₀ (onRcon r (close env (o r) n) w).2 := by
      refine ⟨fun r' => ?_, (Traces.frame P).trans hw.traces hgrow⟩
      by_cases hr : r' = r
      · subst hr
        have hbound := (close_speaks env (o r') n ⟨w.rcons r', []⟩).rcon
        simp only [onRcon, Prog.zoom_apply, World.record, World.setRcon_self]
        exact hbound.trans (hw.bound r')
      · simp only [onRcon, Prog.zoom_apply, World.record, World.setRcon_of_ne _ _ hr]
        exact hw.bound r'
    refine Prog.Triple.snd (P := fun v => v = w) (R := Closing P w₀) ?_ rfl
    refine .bind (R := fun _ => Closing P w₀) (.of_snd ?_) fun _ => .modify fun v hv => ?_
    · rintro _ rfl
      exact hone
    · exact ⟨hv.bound, hv.traces⟩

theorem initBERconGuild_traces {g : GuildId} {w : World} (hw : Closing P w₀ w)
    (hclose : ∀ r ∈ (w.data g).beRcons, ∀ this n, this.bound = (w₀.rcons r).bound →
      this.bnode = some n → ∀ e ∈ (close env (o r) n ⟨this, []⟩).2.calls, P (some r) e)
    (hbuild : ∀ r server specific guild e,
      e ∈ (construct env (o r) specific ⟨.blank server guild, []⟩).2.calls → P (some r) e) :
    Traces P w₀ (initBERconGuild env o g w).2 := by
  have hf := Traces.frame P
  unfold initBERconGuild
  rw [Prog.read_bind]
  split
  · rw [Prog.read_bind, Prog.read_bind]
    refine Prog.Triple.snd (P := Closing P w₀) (R := Traces P w₀) ?_ hw
    refine .bind ((Prog.Triple.forEach fun r hr => closeRcon_closing (hclose r hr)).post
      (fun _ _ h => h) fun _ h => h.traces) fun _ => ?_
    refine .of_snd fun v hv => hf.trans hv.traces ?_
    refine Prog.Within.bind hf ?_ (fun _ => buildRcons_traces hbuild _) v
    exact modify_traces fun _ => rfl
  · exact hw.traces

theorem reloadReply_traces {guild : Guild} {channel : Option Channel} {result : Option Text}
    {w : World} (hsend : ∀ c, channel = some c → ∀ text, P none (.send c text))
    (hlog : ∀ text, Shown text → P none (.log text))
    (hclose : ∀ r ∈ (w.data guild.id).beRcons, ∀ this n, this.bound = (w.rcons r).bound →
      this.bnode = some n → ∀ e ∈ (close env (o r) n ⟨this, []⟩).2.calls, P (some r) e)
    (hbuild : ∀ r server specific guild e,
      e ∈ (construct env (o r) specific ⟨.blank server guild, []⟩).2.calls → P (some r) e) :
    Traces P w (reloadReply env o guild channel result w).2 := by
  have hf := Traces.frame P
  have htext : ∀ text, Prog.Within (Traces P) (emitting none (sendTextMessage channel text)) :=
    fun text => emitting_traces (sendTextMessage_adds fun c hc => hsend c hc text)
  -- the prologue writes nothing but configurations
  have hrefills : ∀ {x : BotM Unit}, Prog.Within Refills x → Prog.Within (Traces P) x →
      Prog.Triple (fun v => Refills w v ∧ Traces P w v) x (fun _ v => Refills w v ∧ Traces P w v)
        (Traces P w) := fun hx hx' => by
    have h := Prog.Triple.frame (Refills.frame.and hf)
      (fun v => ⟨hx v, hx' v⟩ : Prog.Within (fun s s' => Refills s s' ∧ Traces P s s') _) w
    exact h.post (fun _ _ h => h) fun _ h => h.2
  have hemit : ∀ x : Emit Unit, Prog.Within Refills (emitting none x) := fun x v =>
    (emitting_passive x v).refills
  unfold reloadReply
  split
  · rename_i c text
    refine Prog.Triple.snd (P := fun v => Refills w v ∧ Traces P w v) ?_
      ⟨Refills.frame.refl w, hf.refl w⟩
    refine .bind (hrefills (hemit _) (htext _)) fun _ =>
      .bind (hrefills (hemit _) (logBot_traces hlog _ (.append_left (by decide) _)))
        fun _ => .bind (hrefills (applyConfig_refills env guild.id _) fun v =>
          .of_eq (applyConfig_trace env guild.id _ v)) fun _ => .of_snd fun v hv => ?_
    refine initBERconGuild_traces ⟨fun r => ?_, hv.2⟩ (fun r hr => ?_) hbuild
    · obtain ⟨cfg, hcfg⟩ := hv.1.rcons r
      rw [hcfg]
      rfl
    · rw [registry_beRcons hv.1.registry] at hr
      exact hclose r hr
  · exact Prog.Within.bind hf (htext _)
      (fun _ => logBot_traces hlog _ (.append_left (by decide) _)) w

end Reload

section Messages

variable {env : Env} {o : RconRef → Oracle} {P : Option RconRef → Effect → Prop}

/-- Nothing but the trace and the requests has changed. -/
structure Spoken (P : Option RconRef → Effect → Prop) (w w' : World) : Prop where
  rcons : w'.rcons = w.rcons
  objs : w'.objs = w.objs
  bercons : w'.bercons = w.bercons
  traces : Traces P w w'

theorem Spoken.frame (P : Option RconRef → Effect → Prop) : Prog.Frame (Spoken P) :=
  ⟨fun w => ⟨rfl, rfl, rfl, (Traces.frame P).refl w⟩, fun h h' => ⟨h'.rcons.trans h.rcons,
    h'.objs.trans h.objs, h'.bercons.trans h.bercons, (Traces.frame P).trans h.traces h'.traces⟩⟩

theorem emitting_spoken {α : Type} {source : Option RconRef} {x : Emit α}
    (hx : Prog.Within (Adds (P source)) x) : Prog.Within (Spoken P) (emitting source x) :=
  fun w => ⟨rfl, rfl, rfl, emitting_traces hx w⟩

theorem request_spoken (req : Request) : Prog.Within (Spoken P) (request req) :=
  fun _ => ⟨rfl, rfl, rfl, .of_eq rfl⟩

/-- The command line interface answers in the channel of the message, and the owner everywhere. -/
theorem runCli_spoken {message : Message} {w₀ : World}
    (hP : ∀ e, Answered env w₀ message e → P none e) {c : CliCall}
    (hcall : env.cli message.content = some c) :
    Spoken P w₀ (runCli env message c w₀).2 := by
  have hf := Spoken.frame P
  have hsend : ∀ {x : Emit Unit}, Prog.Within (Adds fun e => Answered env w₀ message e) x →
      Prog.Within (Spoken P) (emitting none x) := fun hx =>
    emitting_spoken (hx.mono fun _ _ h => h.mono hP)
  have hprint : ∀ text, Prog.Within (Spoken P)
      (emitting none (zbotPrintLongMessage text (some message.channel))) := fun text =>
    hsend (zbotPrintLongMessage_adds fun c text hc => Option.some.inj hc ▸ .send text)
  have htext : ∀ text, Prog.Within (Spoken P)
      (emitting none (sendTextMessage (some message.channel) text)) := fun text =>
    hsend (sendTextMessage_adds fun c hc => Option.some.inj hc ▸ .send text)
  have hemit : ∀ {e}, Answered env w₀ message e →
      Prog.Within (Spoken P) (emitting none (emit e)) := fun he => hsend (emit_adds he)
  cases c with
  | answer text => exact hemit (.reply _) w₀
  | about => exact hemit (.reply _) w₀
  | awesome name => exact hemit (.reply _) w₀
  | maker => exact hemit (.reply _) w₀
  | gif => exact hemit (.request hcall) w₀
  | broadcast =>
    unfold runCli
    split
    · rename_i howner
      -- every instance is read in a state that differs by the trace only
      refine Prog.Triple.snd (P := Spoken P w₀) (R := Spoken P w₀) ?_ (hf.refl w₀)
      refine .read_bind fun w hw => .forEach fun r hr => .read_bind fun v hv => ?_
      refine Prog.Triple.frame hf (hsend (sendTextMessage_adds fun c hc => ?_)) w₀
      rw [hv.rcons] at hc
      exact .broadcast howner (hw.bercons ▸ hr) hc _
    · exact hprint _ w₀
  | disconnect =>
    exact Prog.Within.when hf (fun howner => hemit (.disconnect (of_decide_eq_true howner))) w₀
  | listinfo guildId =>
    unfold runCli
    split
    · refine Prog.Within.bind hf (.read hf _) (fun known => ?_) w₀
      cases known with
      | none => exact .when hf fun _ => hprint _
      | some g =>
        exact .bind hf (.read hf _) fun _ => .ite (fun _ => hprint _) fun _ => .raise hf _
    · exact hprint _ w₀
  | liststats extended =>
    unfold runCli
    split
    · refine Prog.Within.bind hf ?_ (fun _ => .when hf fun _ => ?_) w₀
      · exact .bind hf (htext _) fun _ => .bind hf (.read hf _) fun _ => htext _
      · exact .bind hf (.read hf _) fun _ => .bind hf (.lift hf _) fun _ => hprint _
    · exact hprint _ w₀
  | reload =>
    cases hguild : message.guild with
    | none =>
      simp only [runCli, hguild]
      exact hf.refl w₀
    | some guild =>
      simp only [runCli, hguild]
      exact request_spoken _ w₀

/-- A message is answered by the command line interface, and handed to the listed instances. -/
theorem checkMessageAction_spoken {message : Message} {w₀ : World}
    (hcli : message.authorBot = false → ∀ e, Answered env w₀ message e → P none e)
    (hadmin : message.authorBot = false → ∀ r ∈ w₀.bercons,
      ∀ e ∈ (checkAdminCommand env (w₀.rcons r) (w₀.objs r.data).specific (o r).throws
        message []).2, P (some r) e) :
    Spoken P w₀ (checkMessageAction env o message w₀).2 := by
  have hf := Spoken.frame P
  cases hbot : message.authorBot with
  | true =>
    rw [checkMessageAction, hbot]
    exact hf.refl w₀
  | false =>
    rw [checkMessageAction, hbot, Bool.not_false, Prog.when_true]
    refine Prog.Triple.snd (P := fun w => w = w₀) (R := Spoken P w₀) ?_ rfl
    refine .bind (R := fun _ => Spoken P w₀) (.of_snd ?_) fun _ => ?_
    · rintro w rfl
      cases hcall : env.cli message.content with
      | none =>
        simp only [checkCliMessagesAction, hcall]
        exact hf.refl w
      | some c =>
        simp only [checkCliMessagesAction, hcall]
        exact runCli_spoken (hcli hbot) hcall
    · refine .read_bind fun w hw => .forEach fun r hr => .of_snd fun v hv => hf.trans hv ?_
      simp only [adminAction, Prog.read_bind, hv.rcons, hv.objs]
      exact ⟨rfl, rfl, rfl, record_traces (hadmin hbot r (hw.bercons ▸ hr)) v⟩

end Messages

/-- **Every call that a step adds has an origin.** -/
theorem step_origin (env : Env) (s : Step) (w : World) :
    Traces (Origin env w s) w (step env s w).2 := by
  have hf := Traces.frame (Origin env w s)
  have hlog : ∀ text, Shown text → Origin env w s none (.log text) := fun _ => .log
  have hbuild : s.builds → ∀ r server specific guild e,
      e ∈ (construct env (s.oracle r) specific ⟨.blank server guild, []⟩).2.calls →
      Origin env w s (some r) e := fun hs _ _ _ _ _ => .build hs
  have hredis : s.builds →
      Traces (Origin env w s) w (redisAnswer env s.oracle s.event w).2 := fun hs => by
    have hbuild := hbuild hs
    cases h : w.redis.find? s.event.answers with
    | none =>
      rw [redisAnswer_none h]
      exact hf.refl w
    | some req =>
      rw [redisAnswer_some h]
      have hreq : req ∈ w.redis := List.mem_of_find?_eq_some h
      have hanswers := List.find?_some h
      have herase : Traces (Origin env w s) w { w with redis := w.redis.eraseP s.event.answers } :=
        .of_eq rfl
      refine hf.trans herase ?_
      cases he : s.event <;> cases req <;> rw [he] at hanswers <;> try cases hanswers
      · exact .of_eq rfl
      · exact Prog.Within.bind hf (fun v => .of_eq (applyConfigs_trace env _ _ v))
          (fun _ => initBERconAll_traces hbuild) _
      · rename_i g result guild channel
        have hg : guild.id = g := eq_of_beq hanswers
        refine reloadReply_traces (fun c hc text => ?_) hlog (fun r hr this n hthis hn e hmem => ?_)
          hbuild
        · subst hc
          exact .report he hreq text
        · exact .close ⟨g, result, he, hg ▸ hr⟩ hthis hn hmem
  rcases s with ⟨event, o⟩
  cases event with
  | ready guilds => exact initAfterReady_traces (hbuild ⟨by simp, by simp⟩) hlog guilds w
  | guildCreate guild => exact onGuildCreate_traces (hbuild ⟨by simp, by simp⟩) hlog guild w
  | guildDelete guild => exact hf.refl w
  | guildUpdate oldGuild newGuild same =>
    refine Prog.Within.bind hf (.read hf _) (fun _ => .when hf fun _ => ?_) w
    exact modify_traces fun _ => rfl
  | message message =>
    exact (checkMessageAction_spoken (fun hbot e he => .cli rfl hbot he)
      fun hbot r hr e he => .admin rfl hbot hr he).traces
  | rcon r e => exact onRcon_traces fun e he => .callback rfl he
  | keysReply keys => exact hredis ⟨by simp, by simp⟩
  | mgetReply results => exact hredis ⟨by simp, by simp⟩
  | getReply g result => exact hredis ⟨by simp, by simp⟩

end ZBot
