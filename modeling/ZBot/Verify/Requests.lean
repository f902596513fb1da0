import ZBot.Js.Ledger
import ZBot.Verify.Origin
import ZBot.Verify.Printers

/-!
# Requests to Redis

The bot asks Redis at `ready`, when it joins a guild and when somebody types `!zbot reload`, and the
answers come back as events of their own, in between anything else. A step takes the oldest request
that the event answers off the queue and appends what it asks for itself (`step_redis`). So over
every run the requests are the answered ones and the pending ones (`run_requests`): no reload is
lost, and none is carried out twice. Every answer to a reload is reported once, in the channel that
has asked (`reload_reported`).
-/

namespace ZBot

open Js BotM

/-- The requests that a step sends. -/
def issued (env : Env) (w : World) (s : Step) : List Request :=
  match s.event with
  | .ready _ => if !w.running && env.useRedis then [.keys] else []
  | .guildCreate guild => if env.useRedis then [.get guild none] else []
  | .message message =>
    match message.authorBot, env.cli message.content, message.guild with
    | false, some .reload, some guild => [.get guild (some message.channel)]
    | _, _, _ => []
  | .keysReply keys => if (w.redis.find? s.event.answers).isSome then [.mget keys] else []
  | _ => []

/-- The request that a step answers. -/
def settled (w : World) (s : Step) : List Request := (w.redis.find? s.event.answers).toList

/-! ## Code that sends no request -/

/-- No request is sent. -/
def NoRequest {α : Type} (x : BotM α) : Prop :=
  Prog.Within (fun w w' : World => w'.redis = w.redis) x

section NoRequest

variable {env : Env} {o : RconRef → Oracle}

theorem redis_frame : Prog.Frame fun w w' : World => w'.redis = w.redis := .eq World.redis

theorem emitting_noRequest {α : Type} (source : Option RconRef) (x : Emit α) :
    NoRequest (emitting source x) := fun _ => rfl

theorem onRcon_noRequest {α : Type} (r : RconRef) (x : RconM α) : NoRequest (onRcon r x) :=
  fun _ => rfl

theorem buildRcons_noRequest (d : DataRef) : NoRequest (buildRcons env o d) := by
  refine buildRcons_within redis_frame env o d fun server position w => ?_
  have hconstruct := onRcon_noRequest (α := Unit) ⟨d, (w.objs d).built⟩
  rw [buildRcon_apply]
  exact Prog.Within.bind redis_frame (hconstruct _) (fun _ _ => rfl) (w.alloc d server position)

theorem initBERconAll_noRequest : NoRequest (initBERconAll env o) :=
  initBERconAll_within redis_frame env o buildRcons_noRequest

theorem closeRcon_noRequest (r : RconRef) : NoRequest (closeRcon env o r) := by
  have hf := redis_frame
  refine .bind hf (.read hf _) fun rcon => ?_
  split
  · exact .bind hf (onRcon_noRequest r _) fun _ _ => rfl
  · exact .pure hf ()

theorem applyConfig_noRequest (g : GuildId) (specificConfig : Text) :
    NoRequest (applyConfig env g specificConfig) :=
  applyConfig_within redis_frame env specificConfig (fun _ _ _ _ => rfl) fun _ _ _ => rfl

theorem applyConfigs_noRequest (keys : List Text) (results : List (Option Text)) :
    NoRequest (applyConfigs env keys results) :=
  applyConfigs_within redis_frame env keys results (fun _ _ _ => rfl) fun _ _ => rfl

theorem reloadReply_noRequest (guild : Guild) (channel : Option Channel) (result : Option Text) :
    NoRequest (reloadReply env o guild channel result) := by
  have hf := redis_frame
  have hinit : NoRequest (initBERconGuild env o guild.id) :=
    initBERconGuild_within hf env o guild.id closeRcon_noRequest (fun _ _ => rfl)
      buildRcons_noRequest
  have hsay : ∀ x : Emit Unit, NoRequest (emitting none x) := emitting_noRequest none
  unfold reloadReply
  split
  · refine .bind hf (hsay _) fun _ => .bind hf (hsay _) fun _ => ?_
    exact .bind hf (applyConfig_noRequest _ _) fun _ => hinit
  · exact .bind hf (hsay _) fun _ => hsay _

end NoRequest

/-! ## Steps -/

section Steps

variable {env : Env} {o : RconRef → Oracle}

/-- The guilds of the client are added without an exception. -/
theorem findAllActiveGuilds_total (guilds : List Guild) (requests : List Request) :
    Prog.Triple (fun w => w.redis = requests) (findAllActiveGuilds env guilds)
      (fun _ w => w.redis = requests) fun _ => False := by
  refine .forEach fun guild _ => .bind (R := fun _ w => w.redis = requests) ?_ fun _ =>
    .modify fun w hw => hw
  intro w hw
  cases hlog : env.logEnable <;> simpa [emitting, logBot, hlog, emit, World.record] using hw

theorem initAfterReady_redis (guilds : List Guild) (w : World) :
    (initAfterReady env o guilds w).2.redis =
      w.redis ++ if !w.running && env.useRedis then [.keys] else [] := by
  rw [initAfterReady, Prog.read_bind]
  cases w.running with
  | true => simp
  | false =>
    let R : World → Prop := fun v => v.redis = w.redis ++ if env.useRedis then [.keys] else []
    refine Prog.Triple.snd (P := fun v => v.redis = w.redis) (R := R) ?_ rfl
    refine .bind ((findAllActiveGuilds_total guilds w.redis).post (fun _ _ h => h) fun _ h =>
      h.elim) fun _ => .bind (R := fun _ => R) ?_ fun _ => .modify fun _ h => h
    unfold initRcons
    cases henv : env.useRedis with
    | true => exact .modify fun v hv => by simp [R, henv, hv]
    | false =>
      refine .of_within initBERconAll_noRequest fun v v' hv h => ?_
      simp [R, henv, hv, h]

theorem onGuildCreate_redis (guild : Guild) (w : World) :
    (onGuildCreate env o guild w).2.redis =
      w.redis ++ if env.useRedis then [.get guild none] else [] := by
  let R : World → Prop := fun v =>
    v.redis = w.redis ++ if env.useRedis then [.get guild none] else []
  have hlog : ∀ {Q : World → Prop} text, (∀ v calls, Q v → Q (v.record none calls)) →
      Prog.Triple Q (emitting none (logBot env text)) (fun _ => Q) R := fun text hQ v hv => by
    cases hlog : env.logEnable <;>
      simpa [emitting, logBot, hlog, emit] using hQ v _ hv
  refine Prog.Triple.snd (P := fun v => v.redis = w.redis) (R := R) ?_ rfl
  refine .bind (R := fun _ => R) (.bind (R := fun _ v => v.redis = w.redis) ?_ fun _ => ?_)
    fun _ => hlog _ fun v calls hv => hv
  · exact .read_bind fun v hv => .when (fun _ => .bind (hlog _ fun v calls hv => hv) fun _ =>
      .modify fun _ hv => hv) fun _ _ hv => hv
  · cases henv : env.useRedis with
    | true => exact .modify fun v hv => by simp [R, henv, hv]
    | false =>
      refine .of_within initBERconAll_noRequest fun v v' hv h => ?_
      simp [R, henv, hv, h]

theorem runCli_noRequest {message : Message} {c : CliCall} (hc : c ≠ .reload) :
    NoRequest (runCli env message c) :=
  runCli_within redis_frame env (fun _ _ => rfl) message fun h => absurd h hc

theorem checkMessageAction_redis (message : Message) (w : World) :
    (checkMessageAction env o message w).2.redis =
      w.redis ++ issued env w ⟨.message message, o⟩ := by
  have hf := redis_frame
  cases hbot : message.authorBot with
  | true => simp [checkMessageAction, issued, hbot]
  | false =>
    let R : World → Prop := fun v => v.redis = w.redis ++ issued env w ⟨.message message, o⟩
    rw [checkMessageAction, hbot, Bool.not_false, Prog.when_true]
    refine Prog.Triple.snd (P := fun v => v.redis = w.redis) (R := R) ?_ rfl
    have hadmin : ∀ r, NoRequest (adminAction env o message r) := fun r => by
      refine .bind hf (.read hf _) fun rcon => .bind hf (.read hf _) fun data => ?_
      exact emitting_noRequest (some r) _
    refine .bind (R := fun _ => R) ?_ fun _ => .read_bind fun v hv => ?_
    swap
    · exact .of_within (.forEach hf fun r _ => hadmin r) fun v v' hv h => h.trans hv
    unfold checkCliMessagesAction
    cases hcli : env.cli message.content with
    | none => exact .pure fun v hv => by simp [R, issued, hbot, hcli, hv]
    | some c =>
      cases c with
      | reload =>
        cases hguild : message.guild with
        | none =>
          simp only [runCli, hguild]
          exact .raise fun v hv => by simp [R, issued, hbot, hcli, hguild, hv]
        | some guild =>
          simp only [runCli, hguild]
          exact .modify fun v hv => by simp [R, issued, hbot, hcli, hguild, hv]
      | _ =>
        refine .of_within (runCli_noRequest (by simp)) fun v v' hv h => ?_
        simp [R, issued, hbot, hcli, hv, h]

/-- An answer of Redis. -/
theorem redisAnswer_redis (event : Event) (w : World) :
    (redisAnswer env o event w).2.redis = w.redis.eraseP event.answers ++
      match event with
      | .keysReply keys => if (w.redis.find? event.answers).isSome then [.mget keys] else []
      | _ => [] := by
  cases h : w.redis.find? event.answers with
  | none =>
    have hall := List.find?_eq_none.1 h
    rw [redisAnswer_none h, List.eraseP_of_forall_not hall]
    cases event <;> simp
  | some req =>
    have hanswers := List.find?_some h
    rw [redisAnswer_some h]
    generalize w.redis.eraseP event.answers = rest
    cases event with
    | keysReply keys =>
      cases req with
      | keys => rfl
      | _ => cases hanswers
    | mgetReply results =>
      cases req with
      | mget keys =>
        refine (Prog.Within.bind redis_frame (applyConfigs_noRequest keys results)
          (fun _ => initBERconAll_noRequest) _).trans ?_
        exact (List.append_nil _).symm
      | _ => cases hanswers
    | getReply g result =>
      cases req with
      | get guild channel =>
        exact (reloadReply_noRequest guild channel result _).trans (List.append_nil _).symm
      | _ => cases hanswers
    | _ => cases hanswers

/-- **The queue of a step.** It loses the oldest request that the event answers, and gains those
that the step sends. -/
theorem step_redis (env : Env) (s : Step) (w : World) :
    (step env s w).2.redis = w.redis.eraseP s.event.answers ++ issued env w s := by
  have hno : (∀ req, s.event.answers req = false) → w.redis.eraseP s.event.answers = w.redis :=
    fun h => List.eraseP_of_forall_not fun req _ => by simp [h req]
  rcases s with ⟨event, o⟩
  cases event with
  | ready guilds =>
    rw [hno fun _ => rfl]
    exact initAfterReady_redis guilds w
  | guildCreate guild =>
    rw [hno fun _ => rfl]
    exact onGuildCreate_redis guild w
  | guildDelete guild =>
    rw [hno fun _ => rfl]
    exact (List.append_nil _).symm
  | guildUpdate oldGuild newGuild same =>
    have hf := redis_frame
    rw [hno fun _ => rfl]
    refine (Prog.Within.bind hf (.read hf _) (fun _ => .when hf fun _ => fun _ => rfl) w).trans ?_
    exact (List.append_nil _).symm
  | message message =>
    rw [hno fun _ => rfl]
    exact checkMessageAction_redis message w
  | rcon r e =>
    rw [hno fun _ => rfl]
    exact (List.append_nil _).symm
  | keysReply keys => exact redisAnswer_redis (.keysReply keys) w
  | mgetReply results => exact redisAnswer_redis (.mgetReply results) w
  | getReply g result => exact redisAnswer_redis (.getReply g result) w

end Steps

/-! ## Runs -/

/-- The requests that are sent in a run. -/
def issuedIn (env : Env) (steps : List Step) : List Request :=
  collect (fun w s => (step env s w).2) (issued env) steps .start

/-- The requests that are answered in a run. -/
def settledIn (env : Env) (steps : List Step) : List Request :=
  collect (fun w s => (step env s w).2) settled steps .start

/-- The report of a reload. -/
def reloadReport (guild : Guild) : Option Text → Text
  | some (_ :: _) => lit "Reloaded config."
  | _ => lit "No config found for " ++ (guild.name ++ lit " (" ++ guild.id.val ++ lit ")")

theorem record_nil (w : World) (source : Option RconRef) : w.record source [] = w := by
  simp [World.record]

/-- An answer is reported first. After that the bot goes on as if nobody had asked. -/
theorem reloadReply_report (env : Env) (o : RconRef → Oracle) (guild : Guild) {c : Channel}
    (hc : c.type = .text) (result : Option Text) (w : World) :
    reloadReply env o guild (some c) result w =
      reloadReply env o guild none result
        (w.record none [.send c (reloadReport guild result)]) := by
  have hsend : ∀ text, emitting none (sendTextMessage (some c) text) w =
      (.ok (), w.record none [.send c text]) := fun text => by
    rw [emitting, Prog.zoom_apply, sendTextMessage_text hc]
    rfl
  have hnone : ∀ text v, emitting none (sendTextMessage none text) v = (.ok (), v) :=
    fun text v => by
      rw [emitting, Prog.zoom_apply]
      exact Prod.ext rfl (record_nil v none)
  rcases result with _ | _ | ⟨x, text⟩ <;>
    simp only [reloadReply, reloadReport, Prog.bind_ok (hsend _), Prog.bind_ok (hnone _ _)]

/-- An answer to a reload is reported once, in the channel that has asked. -/
theorem reload_reported (env : Env) (o : RconRef → Oracle) (guild : Guild) {c : Channel}
    (hc : c.type = .text) (result : Option Text) (w : World) :
    ∃ new, (reloadReply env o guild (some c) result w).2.trace =
        w.trace ++ (none, .send c (reloadReport guild result)) :: new ∧
      ∀ entry ∈ new, entry.1 = none → ∀ c' text, entry.2 ≠ .send c' text := by
  rw [reloadReply_report env o guild hc]
  let v := w.record none [.send c (reloadReport guild result)]
  have htraces : Traces (fun source e => source = none → ∀ c' text, e ≠ .send c' text) v
      (reloadReply env o guild none result v).2 :=
    reloadReply_traces (fun _ h => by cases h) (fun _ _ _ _ _ h => by cases h)
      (fun _ _ _ _ _ _ _ _ h => by cases h) fun _ _ _ _ _ _ h => by cases h
  obtain ⟨new, htrace, hnew⟩ := htraces
  refine ⟨new, htrace.trans ?_, hnew⟩
  simp [v, World.record]

/-- **No reload is lost, and none is carried out twice.** In every run the requests that were sent
to Redis are the answered ones and the pending ones; and every answer to a reload from a text
channel makes the bot itself send one message, in the channel that has asked. The line in the log is
no such message, and neither is what the instances say that are closed. -/
theorem run_requests (env : Env) (steps : List Step) :
    (issuedIn env steps).Perm (settledIn env steps ++ (run env steps World.start).redis) ∧
      ∀ before s after, steps = before ++ s :: after → ∀ guild c,
        settled (run env before World.start) s = [.get guild (some c)] → c.type = .text →
        ∃ result new, s.event = .getReply guild.id result ∧
          (step env s (run env before World.start)).2.trace =
            (run env before World.start).trace ++
              (none, .send c (reloadReport guild result)) :: new ∧
          ∀ entry ∈ new, entry.1 = none → ∀ c' text, entry.2 ≠ .send c' text := by
  constructor
  · have hstep : ∀ (w : World) (s : Step), True → (w.redis ++ issued env w s).Perm
        (settled w s ++ (step env s w).2.redis) := fun w s _ => by
      have h := (perm_eraseP s.event.answers w.redis).append_right (issued env w s)
      rw [List.append_assoc] at h
      rw [step_redis]
      exact h
    have hbooks := collect_balanced (I := fun _ : World => True) (fun _ _ h => h) hstep steps
      (s := World.start) trivial
    exact hbooks
  · rintro before s after - guild c hsettled hc
    generalize run env before World.start = w at hsettled
    have hfind : w.redis.find? s.event.answers = some (.get guild (some c)) := by
      rw [settled] at hsettled
      cases h : w.redis.find? s.event.answers with
      | none =>
        rw [h] at hsettled
        cases hsettled
      | some req =>
        rw [h] at hsettled
        exact congrArg some (List.cons.inj hsettled).1
    have hanswers := List.find?_some hfind
    rcases s with ⟨event, o⟩
    cases event with
    | getReply g result =>
      have hg : guild.id = g := eq_of_beq hanswers
      obtain ⟨new, htrace, hnew⟩ := reload_reported env o guild hc result
        { w with redis := w.redis.eraseP (Event.getReply g result).answers }
      refine ⟨result, new, by rw [hg], ?_, hnew⟩
      change (redisAnswer env o (.getReply g result) w).2.trace = _
      rw [redisAnswer_some hfind]
      exact htrace
    | _ => cases hanswers

/-- Somebody reloads the configuration of a guild that is connected. -/
theorem run_requests_reload :
    let before := joinSteps ++ [sampleStep (.message (reloadMessage sampleId))]
    let s := sampleStep (.getReply sampleId (some (lit "stored")))
    let w := run sampleBot before World.start
    let c := sampleChannel sampleId
    settled w s = [.get (sampleGuild sampleId) (some c)] ∧
      ∃ new, (step sampleBot s w).2.trace =
          w.trace ++ (none, .send c (lit "Reloaded config.")) :: new ∧
        ∀ entry ∈ new, entry.1 = none → ∀ c' text, entry.2 ≠ .send c' text := by
  intro before s w c
  have hjoined : (run sampleBot joinSteps World.start).redis = [] :=
    List.isEmpty_iff.1 (by decide +kernel)
  have hw : w = run sampleBot before World.start := rfl
  have hasked : w = (step sampleBot (sampleStep (.message (reloadMessage sampleId)))
      (run sampleBot joinSteps World.start)).2 := List.foldl_append
  clear_value w
  have hredis : w.redis = [.get (sampleGuild sampleId) (some c)] := by
    rw [hasked, step_redis, hjoined]
    rfl
  have hsettled : settled w s = [.get (sampleGuild sampleId) (some c)] := by
    rw [settled, hredis]
    rfl
  obtain ⟨result, new, hresult, htrace, hnew⟩ := (run_requests sampleBot (before ++ [s])).2 before s
    [] rfl (sampleGuild sampleId) c (hw ▸ hsettled) rfl
  have hreport : reloadReport (sampleGuild sampleId) result = lit "Reloaded config." := by
    rw [← (Event.getReply.inj hresult).2]
    rfl
  rw [hreport, ← hw] at htrace
  exact ⟨hsettled, new, htrace, hnew⟩

end ZBot
