import ZBot.Verify.Process

/-!
# What goes to Discord

By `procStep_handled` an event hands over what its script sends: the messages of the bot, the lines
of the log and the notices of the other listeners. This module says what that means for whole runs.
Whatever is handed over has a source (`procRun_posted`). Every line that a callback logs is printed
with all its characters (`procRun_logged`). And no message of the bot is lost, doubled or put in
another place (`procRun_delivers`).
-/

namespace ZBot

open Js ProcM

/-! ## Scripts -/

section Script

variable {env : Env} {t : Tick} {p : Proc}

theorem script_callback {s : Step} (ht : t.event = .callback s) :
    t.script env p = t.greeting p.logChannel ++
      (newCalls env s p.world).filterMap (Effect.act (t.binds p.logChannel)) ++
        t.report env p := by
  simp only [Tick.script, Tick.acts, ht]

theorem greeting_line {channel : Option Channel} {act : Act} (h : act ∈ t.greeting channel) :
    ∃ text, act = .line channel text := by
  unfold Tick.greeting at h
  split at h
  · rcases List.mem_cons.1 h with rfl | h
    · exact ⟨_, rfl⟩
    · exact ⟨_, List.mem_singleton.1 h⟩
  · cases h

theorem report_line {act : Act} (h : act ∈ t.report env p) :
    ∃ text, act = .line (t.binds p.logChannel) text := by
  unfold Tick.report at h
  split at h
  · cases h
  · split at h
    · cases h
    · exact ⟨_, List.mem_singleton.1 h⟩

/-- What a script consists of. -/
theorem mem_script {act : Act} (h : act ∈ t.script env p) :
    (∃ s e, t.event = .callback s ∧ e ∈ newCalls env s p.world ∧ act = .message e) ∨
      (∃ channel text, (channel = p.logChannel ∨ channel = t.binds p.logChannel) ∧
        act = .line channel text) ∨
      ∃ e ∈ t.notices env p.gifs, act = .notice e := by
  rcases List.mem_append.1 h with h | h
  swap
  · obtain ⟨text, rfl⟩ := report_line h
    exact .inr (.inl ⟨_, text, .inr rfl, rfl⟩)
  cases hstep : t.step? with
  | some s =>
    have ht := Tick.event_of_step? hstep
    simp only [Tick.acts, ht] at h
    rcases List.mem_append.1 h with h | h
    · obtain ⟨text, rfl⟩ := greeting_line h
      exact .inr (.inl ⟨_, text, .inl rfl, rfl⟩)
    · obtain ⟨e, he, hact⟩ := List.mem_filterMap.1 h
      cases e with
      | send c text => exact .inl ⟨s, _, ht, he, (Option.some.inj hact).symm⟩
      | reply c text => exact .inl ⟨s, _, ht, he, (Option.some.inj hact).symm⟩
      | log text => exact .inr (.inl ⟨_, text, .inr rfl, (Option.some.inj hact).symm⟩)
      | emitDisconnect => exact .inr (.inl ⟨_, _, .inr rfl, (Option.some.inj hact).symm⟩)
      | _ => cases hact
  | none =>
    rw [Tick.acts_of_step? hstep] at h
    rcases List.mem_append.1 h with h | h
    · obtain ⟨text, -, rfl⟩ := List.mem_map.1 h
      exact .inr (.inl ⟨_, text, .inl rfl, rfl⟩)
    · obtain ⟨e, he, rfl⟩ := List.mem_map.1 h
      exact .inr (.inr ⟨e, he, rfl⟩)

end Script

/-! ## Sources -/

/-- The event binds the log to a channel `zlog` of a guild `ZBot`. -/
def Tick.BindsLog (t : Tick) (c : Channel) : Prop :=
  ∃ s guilds guild, t.event = .callback s ∧ s.event = .ready guilds ∧ guild ∈ guilds ∧
    guild.name = lit "ZBot" ∧ c ∈ guild.channels ∧ c.name = lit "zlog"

/-- The event is a gif command in the channel, for the tags. -/
def Tick.Searches (env : Env) (t : Tick) (c : Channel) (tags : Text) : Prop :=
  ∃ s message, t.event = .callback s ∧ s.event = .message message ∧ message.authorBot = false ∧
    message.channel = c ∧ env.cli message.content = some .gif ∧
    tags = replaceFirst message.content (env.cliPrefix ++ lit " gif ") []

/-- A log channel that the event does not bind was bound before. -/
theorem Tick.binds_cases {t : Tick} {channel : Option Channel} {c : Channel}
    (h : t.binds channel = some c) : channel = some c ∨ t.BindsLog c := by
  cases ht : t.event with
  | callback s =>
    cases hs : s.event with
    | ready guilds =>
      simp only [Tick.binds, Tick.step?, ht, Option.map_some, hs] at h
      split at h
      · rename_i guild hguild
        have hname : guild.name = lit "ZBot" := by simpa using List.find?_some hguild
        have hzlog : c.name = lit "zlog" := by simpa using List.find?_some h
        exact .inr ⟨s, guilds, guild, ht, hs, List.mem_of_find?_eq_some hguild, hname,
          List.mem_of_find?_eq_some h, hzlog⟩
      · exact .inl h
    | _ =>
      simp only [Tick.binds, Tick.step?, ht, Option.map_some, hs] at h
      exact .inl h
  | _ =>
    simp only [Tick.binds, Tick.step?, ht, Option.map_none] at h
    exact .inl h

theorem Tick.searches_of_asked {t : Tick} {env : Env} {w : World} {c : Channel} {tags : Text}
    (h : (c, tags) ∈ t.asked env w) : t.Searches env c tags := by
  cases hstep : t.step? with
  | none => simp [Tick.asked, hstep] at h
  | some s =>
    have ht := Tick.event_of_step? hstep
    simp only [Tick.asked, hstep, asks, List.mem_filterMap] at h
    obtain ⟨e, he, hasked⟩ := h
    cases e with
    | request tags' =>
      obtain ⟨new, htrace, hnew⟩ := step_origin env s w
      rw [newCalls, htrace, List.drop_left] at he
      obtain ⟨entry, hentry, hrequest⟩ := List.mem_map.1 he
      have horigin := hnew entry hentry
      rw [hrequest] at horigin
      obtain ⟨message, hs, hbot, hgif, htags⟩ := horigin.search
      simp only [Event.channel, hs, Option.map_some, Option.some.injEq, Prod.mk.injEq] at hasked
      exact ⟨s, message, ht, hs, hbot, hasked.1, hgif, hasked.2 ▸ htags⟩
    | _ => cases hasked

section Runs

variable {env : Env} {ticks : List Tick} {c : Channel}

/-- The last event of a run. -/
theorem procRun_concat (env : Env) (ticks : List Tick) (t : Tick) :
    Handled env t (t.script env (procRun env ticks .start)) (procRun env ticks .start)
      (procRun env (ticks ++ [t]) .start) := by
  rw [procRun_append]
  exact procStep_handled env t (procRun_alive env ticks rfl)

theorem procRun_logChannel (h : (procRun env ticks .start).logChannel = some c) :
    ∃ t ∈ ticks, t.BindsLog c := by
  induction ticks using List.reverseRecOn with
  | nil => cases h
  | append_singleton ticks t ih =>
    rw [(procRun_concat env ticks t).logChannel] at h
    rcases t.binds_cases h with h | h
    · obtain ⟨t', ht', hbinds⟩ := ih h
      exact ⟨t', List.mem_append_left _ ht', hbinds⟩
    · exact ⟨t, List.mem_append_right _ (List.mem_singleton_self t), h⟩

theorem unanswered_subset {t : Tick} {gifs : List (Channel × Text)} :
    t.unanswered gifs ⊆ gifs := by
  unfold Tick.unanswered
  split
  · exact List.eraseIdx_subset
  · exact List.Subset.refl gifs

theorem procRun_pending {tags : Text} (h : (c, tags) ∈ (procRun env ticks .start).gifs) :
    ∃ t ∈ ticks, t.Searches env c tags := by
  induction ticks using List.reverseRecOn with
  | nil => cases h
  | append_singleton ticks t ih =>
    rw [(procRun_concat env ticks t).gifs] at h
    rcases List.mem_append.1 h with h | h
    · obtain ⟨t', ht', hsearches⟩ := ih (unanswered_subset h)
      exact ⟨t', List.mem_append_left _ ht', hsearches⟩
    · exact ⟨t, List.mem_append_right _ (List.mem_singleton_self t), t.searches_of_asked h⟩

/-- The messages that no callback of the bot sends, after the events of before. -/
inductive Own (env : Env) (before : List Tick) (t : Tick) : Effect → Prop
  /-- a line of the log that the event makes, in a log channel that was bound -/
  | log {c : Channel} {line text : Text} (hc : ∃ t' ∈ before ++ [t], t'.BindsLog c)
      (hline : .line (some c) line ∈ t.script env (procRun env before .start))
      (h : .send c text ∈ (zbotPrintLongMessage line (some c) []).2) :
      Own env before t (.send c text)
  /-- a member joins the channel's guild -/
  | welcome {guild : Guild} {mention : Text} (ht : t.event = .guildMemberAdd guild mention)
      {c : Channel} (hc : c ∈ guild.channels) : Own env before t
      (.send c (lit ":heart: " ++ mention ++ lit ". Welcome to " ++ guild.name ++ lit "!"))
  /-- a member leaves the channel's guild -/
  | goodbye {guild : Guild} {nickname username : Text}
      (ht : t.event = .guildMemberRemove guild nickname username) {c : Channel}
      (hc : c ∈ guild.channels) : Own env before t (.send c (lit ":broken_heart: **" ++
        (if nickname.isEmpty then username else nickname) ++ lit "** left " ++ guild.name ++
        lit "..."))
  /-- a response with the status 200 to a pending search, which was asked for in the channel -/
  | gif {i : Nat} {responseObj : Option Value} (ht : t.event = .gifReply i (.body responseObj))
      {c : Channel} {tags : Text} (hpending : (procRun env before .start).gifs[i]? = some (c, tags))
      (hasked : ∃ t' ∈ before, t'.Searches env c tags) :
      Own env before t (.send c (gifText responseObj tags))

theorem memberMessage_sends {guild : Guild} {key text : Text} {e : Effect}
    (h : e ∈ ((do
      let channel ← Prog.lift (memberChannel env guild key)
      sendTextMessage channel text : Emit Unit) []).2) :
    ∃ c ∈ guild.channels, e = .send c text := by
  have hadds : Prog.Within (Adds fun e => ∃ c ∈ guild.channels, e = .send c text) (do
      let channel ← Prog.lift (memberChannel env guild key)
      sendTextMessage channel text) := by
    refine .lift_bind (Adds.frame _) fun channel hchannel => sendTextMessage_adds fun c hc => ?_
    subst hc
    refine ⟨c, ?_, rfl⟩
    cases hcfg : env.specific.get (lit "channels") with
    | error e => rw [memberChannel, hcfg] at hchannel; cases hchannel
    | ok channels =>
      cases hname : channels.get key with
      | error e =>
        simp only [memberChannel, hcfg, bind, Except.bind, hname] at hchannel
        cases hchannel
      | ok name =>
        simp only [memberChannel, hcfg, bind, Except.bind, hname] at hchannel
        exact Guild.findChannel_mem hchannel
  exact (hadds []).forall e h

theorem own_notice {t : Tick} {e : Effect}
    (h : e ∈ t.notices env (procRun env ticks .start).gifs) : Own env ticks t e := by
  cases ht : t.event with
  | guildMemberAdd guild mention =>
    simp only [Tick.notices, ht] at h
    obtain ⟨c, hc, rfl⟩ := memberMessage_sends h
    exact .welcome ht hc
  | guildMemberRemove guild nickname username =>
    simp only [Tick.notices, ht] at h
    obtain ⟨c, hc, rfl⟩ := memberMessage_sends h
    exact .goodbye ht hc
  | gifReply i response =>
    simp only [Tick.notices, ht, List.mem_flatMap, Option.mem_toList] at h
    obtain ⟨⟨c, tags⟩, hgif, h⟩ := h
    rw [giphyReply_apply, List.nil_append] at h
    cases response with
    | failed => cases h
    | body responseObj =>
      rw [GifResponse.answer] at h
      split at h
      · rw [List.mem_singleton.1 h]
        exact .gif ht hgif (procRun_pending (List.mem_of_getElem? hgif))
      · cases h
  | _ => simp [Tick.notices, ht] at h

theorem own_line {t : Tick} {channel : Option Channel} {line : Text} {e : Effect}
    (hline : .line channel line ∈ t.script env (procRun env ticks .start))
    (hchannel : channel = (procRun env ticks .start).logChannel ∨
      channel = t.binds (procRun env ticks .start).logChannel)
    (h : e ∈ (Act.line channel line).sent env) : Own env ticks t e := by
  have hprinted : e ∈ (zbotPrintLongMessage line channel []).2 := by
    rw [Act.sent] at h
    split at h
    · exact h
    · cases h
  obtain ⟨c, text, rfl, rfl⟩ := (zbotPrintLongMessage_adds
    (P := fun e => ∃ c text, e = .send c text ∧ channel = some c)
    (fun c text hc => ⟨c, text, rfl, hc⟩) []).forall e hprinted
  have hbound : (procRun env ticks .start).logChannel = some c → ∃ t' ∈ ticks ++ [t],
      t'.BindsLog c := fun hc => by
    obtain ⟨t', ht', hbinds⟩ := procRun_logChannel hc
    exact ⟨t', List.mem_append_left _ ht', hbinds⟩
  refine .log ?_ hline hprinted
  rcases hchannel with hc | hc
  · exact hbound hc.symm
  · rcases t.binds_cases hc.symm with hc | hc
    · exact hbound hc
    · exact ⟨t, List.mem_append_right _ (List.mem_singleton_self t), hc⟩

/-- What an event hands over is a message of its callback, or one of the process itself. -/
theorem sent_cases {t : Tick} {act : Act} (hact : act ∈ t.script env (procRun env ticks .start))
    {e : Effect} (he : e ∈ act.sent env) :
    (act = .message e ∧ ∃ s, t.event = .callback s ∧
      e ∈ newCalls env s (procRun env ticks .start).world) ∨ Own env ticks t e := by
  rcases mem_script hact with ⟨s, e', ht, he', rfl⟩ | ⟨channel, text, hchannel, rfl⟩ |
    ⟨e', he', rfl⟩
  · cases List.mem_singleton.1 he
    exact .inl ⟨rfl, s, ht, he'⟩
  · exact .inr (own_line hact hchannel he)
  · cases List.mem_singleton.1 he
    exact .inr (own_notice he')

end Runs

/-- **Every message has a source.** In every run of the process, what is handed to Discord is a call
of the callback of the bot that an event runs, or it prints a line of the log that the event makes,
in a channel `zlog` of a guild `ZBot`, or it is about a member who joins or leaves the channel's
guild, or it answers a gif search that was asked for in the channel and is still pending. -/
theorem procRun_posted (env : Env) (ticks : List Tick) :
    ∀ e ∈ (procRun env ticks .start).out, ∃ before t after, ticks = before ++ t :: after ∧
      ((∃ s, t.event = .callback s ∧ e ∈ newCalls env s (procRun env before .start).world) ∨
        Own env before t e) := by
  induction ticks using List.reverseRecOn with
  | nil => exact fun e he => absurd he List.not_mem_nil
  | append_singleton ticks t ih =>
    intro e he
    rw [(procRun_concat env ticks t).out] at he
    rcases List.mem_append.1 he with he | he
    · obtain ⟨before, t', after, rfl, hsource⟩ := ih e he
      exact ⟨before, t', after ++ [t], by simp, hsource⟩
    · obtain ⟨act, hact, he⟩ := List.mem_flatMap.1 he
      exact ⟨ticks, t, [], rfl, (sent_cases hact he).imp_left And.right⟩

/-- A member joins a guild, and is welcomed in the configured channel. -/
theorem procRun_posted_welcome :
    let env : Env := { sampleBot with
      specific := .obj [(lit "channels", .obj [(lit "welcome", .str (lit "rcon"))])] }
    let ticks : List Tick := [⟨.guildMemberAdd (sampleGuild sampleId) [], 0, 0, fun _ => []⟩]
    let e := Effect.send (sampleChannel sampleId) (lit ":heart: . Welcome to sample!")
    e ∈ (procRun env ticks .start).out ∧
      ∃ before t after, ticks = before ++ t :: after ∧
        ((∃ s, t.event = .callback s ∧ e ∈ newCalls env s (procRun env before .start).world) ∨
          Own env before t e) := by
  intro env ticks e
  have he : e ∈ (procRun env ticks .start).out := by decide +kernel
  exact ⟨he, procRun_posted env ticks e he⟩

/-! ## The log -/

/-- The line that a call logs. -/
def Effect.logged : Effect → Option Text
  | .log text => some text
  | _ => none

/-- A line in a text channel is printed with all its characters. -/
theorem line_sent {env : Env} (henable : env.logEnable = true) {c : Channel} (hc : c.type = .text)
    {line : Text} (h : Shown line) : ∃ texts : List Text,
      (Act.line (some c) line).sent env = texts.map (.send c) ∧
        texts.flatten.filter isDot = line.filter isDot := by
  obtain ⟨texts, htexts, hdots⟩ := zbotPrintLongMessage_sends h (some c)
  refine ⟨texts, ?_, hdots⟩
  rw [Act.sent, if_pos henable, htexts, sendAll_text hc, List.nil_append]

theorem lines_sent {env : Env} (henable : env.logEnable = true) {c : Channel} (hc : c.type = .text)
    {calls : List Effect} (hcalls : ∀ text, Effect.log text ∈ calls → Shown text) :
    ∃ parts : List (List Text),
      List.Forall₂ (fun line texts => texts.flatten.filter isDot = line.filter isDot)
        (calls.filterMap Effect.logged) parts ∧
      (parts.flatten.map (.send c)).Sublist
        ((calls.filterMap (Effect.act (some c))).flatMap (Act.sent env)) := by
  induction calls with
  | nil => exact ⟨[], .nil, .slnil⟩
  | cons e calls ih =>
    obtain ⟨parts, hparts, hsublist⟩ := ih fun text h => hcalls text (List.mem_cons_of_mem e h)
    cases hlogged : e.logged with
    | some line =>
      obtain rfl : e = .log line := by
        cases e <;> cases hlogged
        rfl
      obtain ⟨texts, hsent, hdots⟩ := line_sent henable hc (hcalls line List.mem_cons_self)
      refine ⟨texts :: parts, ?_, ?_⟩
      · rw [List.filterMap_cons, hlogged]
        exact .cons hdots hparts
      · rw [List.filterMap_cons, List.flatten_cons, List.map_append]
        refine List.Sublist.append ?_ hsublist
        exact hsent ▸ .refl _
    | none =>
      refine ⟨parts, by rwa [List.filterMap_cons, hlogged], ?_⟩
      rw [List.filterMap_cons]
      cases e.act (some c) with
      | none => exact hsublist
      | some act => exact hsublist.trans (List.sublist_append_right _ _)

/-- **Every line that the bot logs is printed.** In every run, when the log is on and bound to a
text channel after a callback of the bot, the lines of the callback are handed to that channel one
after the other, each in messages that have all its characters other than line terminators. -/
theorem procRun_logged (env : Env) (henable : env.logEnable = true) (before : List Tick) (t : Tick)
    {s : Step} (ht : t.event = .callback s) {c : Channel}
    (hc : (procRun env (before ++ [t]) .start).logChannel = some c) (htext : c.type = .text) :
    ∃ (new : List Effect) (parts : List (List Text)),
      (procRun env (before ++ [t]) .start).out = (procRun env before .start).out ++ new ∧
      List.Forall₂ (fun line texts => texts.flatten.filter isDot = line.filter isDot)
        ((newCalls env s (procRun env before .start).world).filterMap Effect.logged) parts ∧
      (parts.flatten.map (.send c)).Sublist new := by
  have h := procRun_concat env before t
  rw [h.logChannel] at hc
  obtain ⟨parts, hparts, hsublist⟩ := lines_sent henable htext
    (newCalls_shown env s (procRun env before .start).world)
  refine ⟨_, parts, h.out, hparts, hsublist.trans ?_⟩
  rw [script_callback ht, hc, List.flatMap_append, List.flatMap_append]
  exact (List.sublist_append_right _ _).trans (List.sublist_append_left _ _)

/-- The bot gets ready in its own guild, and reports the guild in the channel it has just bound. -/
theorem procRun_logged_ready :
    let env : Env := { (default : Env) with logEnable := true }
    let c : Channel := ⟨lit "zlog", some sampleId, lit "zlog", .text⟩
    let guild : Guild := ⟨sampleId, lit "ZBot", [c], [], by simp [c]⟩
    let t : Tick := ⟨.callback (sampleStep (.ready [guild])), 0, 0, fun _ => []⟩
    ∃ (new : List Effect) (parts : List (List Text)),
      (procRun env [t] .start).out = new ∧ parts.length = 1 ∧
      (parts.flatten.map (.send c)).Sublist new := by
  intro env c guild t
  obtain ⟨new, parts, hout, hparts, hsublist⟩ := procRun_logged env rfl [] t (s := sampleStep
    (.ready [guild])) rfl (c := c) (by decide +kernel) rfl
  refine ⟨new, parts, hout, ?_, hsublist⟩
  rw [← hparts.length_eq]
  decide +kernel

/-! ## Messages -/

/-- The call is a message of the bot. -/
def Effect.message : Effect → Bool
  | .send .. | .reply .. => true
  | _ => false

/-- The messages of the bot in an act. -/
def Act.messages : Act → List Effect
  | .message e => [e]
  | _ => []

theorem acts_messages (channel : Option Channel) (calls : List Effect) :
    (calls.filterMap (Effect.act channel)).flatMap Act.messages = calls.filter Effect.message := by
  induction calls with
  | nil => rfl
  | cons e calls ih =>
    cases e with
    | send c text => exact congrArg (List.cons _) ih
    | reply c text => exact congrArg (List.cons _) ih
    | _ => exact ih

/-- The messages of a script are those of the callback. -/
theorem script_messages (env : Env) (t : Tick) (p : Proc) :
    (t.script env p).flatMap Act.messages = match t.step? with
      | some s => (newCalls env s p.world).filter Effect.message
      | none => [] := by
  have hgreeting : (t.greeting p.logChannel).flatMap Act.messages = [] :=
    List.flatMap_eq_nil_iff.2 fun act hact => by
      obtain ⟨text, rfl⟩ := greeting_line hact
      rfl
  have hreport : (t.report env p).flatMap Act.messages = [] :=
    List.flatMap_eq_nil_iff.2 fun act hact => by
      obtain ⟨text, rfl⟩ := report_line hact
      rfl
  cases hstep : t.step? with
  | some s =>
    rw [script_callback (Tick.event_of_step? hstep), List.flatMap_append, List.flatMap_append,
      hgreeting, hreport, acts_messages, List.append_nil, List.nil_append]
  | none =>
    rw [Tick.script, Tick.acts_of_step? hstep, List.flatMap_append, List.flatMap_append, hreport]
    simp [Act.messages, List.flatMap_map]

/-- The calls so far, and those of a callback. -/
theorem trace_newCalls (env : Env) (s : Step) (w : World) :
    (step env s w).2.trace.map Prod.snd = w.trace.map Prod.snd ++ newCalls env s w := by
  obtain ⟨new, htrace, -⟩ := step_origin env s w
  rw [newCalls, htrace, List.drop_left, List.map_append]

/-- **No message of the bot is lost, doubled or out of order.** In every run of the process, what is
handed to Discord is the messages that the callbacks of the bot send, each once and in their order,
and among them only lines of the log, messages about members and answers to gif searches. -/
theorem procRun_delivers (env : Env) (ticks : List Tick) :
    Woven (fun e => ∃ before t after, ticks = before ++ t :: after ∧ Own env before t e)
      (((run env (ticks.filterMap Tick.step?) World.start).trace.map Prod.snd).filter
        Effect.message) (procRun env ticks .start).out := by
  rw [← (procRun_refines env ticks).2]
  induction ticks using List.reverseRecOn with
  | nil => exact .self _ _
  | append_singleton ticks t ih =>
    have h := procRun_concat env ticks t
    have hbefore := ih.mono (Q := fun e => ∃ before t' after,
        ticks ++ [t] = before ++ t' :: after ∧ Own env before t' e) fun e he => by
      obtain ⟨before, t', after, rfl, hown⟩ := he
      exact ⟨before, t', after ++ [t], by simp, hown⟩
    have hscript : Woven (fun e => ∃ before t' after, ticks ++ [t] = before ++ t' :: after ∧
        Own env before t' e) ((t.script env (procRun env ticks .start)).flatMap Act.messages)
        ((t.script env (procRun env ticks .start)).flatMap (Act.sent env)) := by
      refine .flatMap fun act hact => ?_
      cases act with
      | message e => exact .self _ [e]
      | line channel text =>
        refine .others fun e he => ⟨ticks, t, [], rfl, ?_⟩
        rcases sent_cases hact he with ⟨h, -⟩ | hown
        · cases h
        · exact hown
      | notice e =>
        refine .others fun e he => ⟨ticks, t, [], rfl, ?_⟩
        rcases sent_cases hact he with ⟨h, -⟩ | hown
        · cases h
        · exact hown
    have hmessages : (((procRun env (ticks ++ [t]) .start).world.trace.map Prod.snd).filter
        Effect.message) =
        ((procRun env ticks .start).world.trace.map Prod.snd).filter Effect.message ++
          (t.script env (procRun env ticks .start)).flatMap Act.messages := by
      rw [script_messages, h.world]
      cases t.step? with
      | none => simp
      | some s => simp only [trace_newCalls, List.filter_append]
    rw [hmessages, h.out]
    exact hbefore.append hscript

end ZBot
