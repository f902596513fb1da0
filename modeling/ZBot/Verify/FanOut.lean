import ZBot.Verify.Origin
import ZBot.Verify.Registry

/-!
# Handing a message to the instances

`checkMessageAction` hands a Discord message to `checkAdminCommand` of every instance in `_bercons`.
An exception in one of them ends the loop, so that the instances behind it never see the message.
`run_served` says exactly which calls every instance makes on a message: those of its
`checkAdminCommand`, once, when it is served, and none otherwise.

Once and not twice, because `_bercons` never holds an instance twice (`run_distinct`): an instance
is pushed when it is built, under a number that was not given before.

A broadcast of the owner goes the other way, from the bot to the command channels of all the
instances (`broadcast_reaches`).
-/

namespace ZBot

open Js BotM

/-! ## No instance is listed twice -/

/-- The representation invariant, with a list of instances without duplicates. -/
structure Distinct (w : World) : Prop where
  heap : w.Heap
  nodup : w.bercons.Nodup

section Distinct

variable {env : Env} {o : RconRef → Oracle}

theorem Distinct.start : Distinct World.start := ⟨.start, List.nodup_nil⟩

theorem Refills.distinct {w w' : World} (h : Refills w w') (hw : Distinct w) : Distinct w' :=
  ⟨h.heap hw.heap, by rw [registry_bercons h.registry]; exact hw.nodup⟩

/-- Building appends instances that were not built before. -/
theorem buildRcons_distinct {g : GuildId} {w : World} (hw : Distinct w) :
    Distinct (buildRcons env o (w.dataRef g) w).2 := by
  refine ⟨hw.heap.buildRcons env o g, ?_⟩
  have hgrows : Prog.Triple (· = w) (buildRcons env o (w.dataRef g))
      (fun _ w' => ∃ cfgs, Grows (w.dataRef g) cfgs w w')
      fun w' => ∃ cfgs, Grows (w.dataRef g) cfgs w w' :=
    (buildRcons_grows env o (w.dataRef g) w).post (fun _ _ h => ⟨_, h⟩) fun _ h =>
      h.elim fun _ h => ⟨_, h⟩
  obtain ⟨cfgs, h⟩ := hgrows.snd rfl
  obtain ⟨rs, hbercons, -, -, hnodup, hrs⟩ := h.news
  rw [hbercons]
  refine List.nodup_append.2 ⟨hw.nodup, hnodup, fun r hr r' hr' heq => ?_⟩
  subst heq
  obtain ⟨hdata, hge, -, -⟩ := hrs r hr'
  exact absurd (hdata ▸ hw.heap.bercons r hr) (Nat.not_lt.2 hge)

theorem initBERconAll_distinct :
    Prog.Within (fun w w' => Distinct w → Distinct w') (initBERconAll env o) := by
  have hf := Prog.Frame.inv Distinct
  exact .bind hf (.read hf _) fun _ => .forEach hf fun g _ w hw => buildRcons_distinct hw

/-- Closing takes instances out of the list. -/
theorem closeRcon_distinct (r : RconRef) (w : World) :
    Prog.Triple (fun v => Distinct v ∧ v.gens = w.gens) (closeRcon env o r)
      (fun _ v => Distinct v ∧ v.gens = w.gens) (fun v => Distinct v ∧ v.gens = w.gens) := by
  refine .of_snd fun v hv => ?_
  have htouches : Touches env o (fun _ => True) v (closeRcon env o r v).2 :=
    closeRcon_touches trivial v
  have hlist : (closeRcon env o r v).2.bercons.Sublist v.bercons ∧
      (closeRcon env o r v).2.gens = v.gens := by
    cases hn : (v.rcons r).bnode with
    | none =>
      rw [closeRcon_none hn]
      exact ⟨List.Sublist.refl _, rfl⟩
    | some n =>
      rw [closeRcon_some hn]
      rcases h : onRcon r (close env (o r) n) v with ⟨e | _, v'⟩
      · rw [Prog.bind_error h]
        obtain rfl : (onRcon r (close env (o r) n) v).2 = v' := congrArg Prod.snd h
        exact ⟨List.Sublist.refl _, rfl⟩
      · rw [Prog.bind_ok h]
        obtain rfl : (onRcon r (close env (o r) n) v).2 = v' := congrArg Prod.snd h
        exact ⟨List.filter_sublist, rfl⟩
  exact ⟨⟨htouches.heap hv.1.heap, hv.1.nodup.sublist hlist.1⟩, hlist.2.trans hv.2⟩

theorem initBERconGuild_distinct {g : GuildId} {w : World} (hw : Distinct w) :
    Distinct (initBERconGuild env o g w).2 := by
  unfold initBERconGuild
  rw [Prog.read_bind]
  split
  · rw [Prog.read_bind, Prog.read_bind]
    refine Prog.Triple.snd (P := fun v => Distinct v ∧ v.gens = w.gens) (R := Distinct) ?_ ⟨hw, rfl⟩
    refine .bind ((Prog.Triple.forEach fun r _ => closeRcon_distinct r w).post (fun _ _ h => h)
      fun _ h => h.1) fun _ => ?_
    refine .bind (R := fun _ v => Distinct v ∧ v.gens = w.gens) (.modify fun v hv => ?_) fun _ =>
      .of_snd fun v hv => ?_
    · exact ⟨⟨hv.1.heap.clear _, hv.1.nodup⟩, hv.2⟩
    · have hd : w.dataRef g = v.dataRef g := by rw [World.dataRef, World.dataRef, hv.2]
      rw [hd]
      exact buildRcons_distinct hv.1
  · exact hw

theorem passive_distinct {x : BotM Unit} (hx : Prog.Within Passive x) :
    Prog.Within (fun w w' => Distinct w → Distinct w') x := fun w => (hx w).refills.distinct

theorem addData_distinct (guild : Guild) :
    Prog.Within (fun w w' => Distinct w → Distinct w') (Prog.modify (World.addData env guild)) :=
  fun _ hw => ⟨hw.heap.addData env guild, hw.nodup⟩

theorem reloadReply_distinct (guild : Guild) (channel : Option Channel) (result : Option Text) :
    Prog.Within (fun w w' => Distinct w → Distinct w')
      (reloadReply env o guild channel result) := by
  have hf := Prog.Frame.inv Distinct
  unfold reloadReply
  split
  · exact .bind hf (passive_distinct (emitting_passive _)) fun _ =>
      .bind hf (passive_distinct (emitting_passive _)) fun _ =>
      .bind hf (fun w => (applyConfig_refills env guild.id _ w).distinct) fun _ =>
      fun _ => initBERconGuild_distinct
  · exact .bind hf (passive_distinct (emitting_passive _)) fun _ =>
      passive_distinct (emitting_passive _)

theorem answerRequest_distinct (e : Event) (req : Request) :
    Prog.Within (fun w w' => Distinct w → Distinct w') (answerRequest env o e req) := by
  have hf := Prog.Frame.inv Distinct
  unfold answerRequest
  split
  · exact passive_distinct (request_passive _)
  · exact .bind hf (fun w => (applyConfigs_refills env _ _ w).distinct) fun _ =>
      initBERconAll_distinct
  · exact reloadReply_distinct _ _ _
  · exact .pure hf _

theorem checkMessageAction_distinct (message : Message) :
    Prog.Within (fun w w' => Distinct w → Distinct w') (checkMessageAction env o message) := by
  intro w hw
  have htouches : Touches env o (fun _ => False) w (checkMessageAction env o message w).2 :=
    checkMessageAction_touches message w
  have hspoken : Spoken (fun _ _ => True) w (checkMessageAction env o message w).2 :=
    checkMessageAction_spoken (fun _ _ _ => trivial) fun _ _ _ _ _ => trivial
  exact ⟨htouches.heap hw.heap, hspoken.bercons ▸ hw.nodup⟩

/-- **No instance is listed twice**, whatever a step does. -/
theorem Distinct.step (env : Env) {w : World} (hw : Distinct w) (s : Step) :
    Distinct (step env s w).2 := by
  have hf := Prog.Frame.inv Distinct
  have hredis : Distinct (redisAnswer env s.oracle s.event w).2 := by
    cases h : w.redis.find? s.event.answers with
    | none =>
      rw [redisAnswer_none h]
      exact hw
    | some req =>
      rw [redisAnswer_some h]
      have herase : Passive w { w with redis := w.redis.eraseP s.event.answers } :=
        .of_objs rfl rfl fun _ => rfl
      exact answerRequest_distinct s.event req _ (herase.refills.distinct hw)
  rcases s with ⟨event, o⟩
  cases event with
  | ready guilds =>
    exact initAfterReady_within hf env (fun _ _ => passive_distinct (emitting_passive _))
      addData_distinct (fun _ => passive_distinct (request_passive _))
      (fun _ => initBERconAll_distinct)
      (passive_distinct fun _ => .of_objs rfl rfl fun _ => rfl) guilds w hw
  | guildCreate guild =>
    exact onGuildCreate_within hf env (fun _ _ => passive_distinct (emitting_passive _))
      addData_distinct (fun _ => passive_distinct (request_passive _))
      (fun _ => initBERconAll_distinct) guild w hw
  | guildDelete guild => exact hw
  | guildUpdate oldGuild newGuild same =>
    exact passive_distinct (updateGuildData_passive oldGuild newGuild) w hw
  | message message => exact checkMessageAction_distinct message w hw
  | rcon r e =>
    have hheap := hw.heap.step env ⟨.rcon r e, o⟩
    exact ⟨hheap, hw.nodup⟩
  | keysReply keys => exact hredis
  | mgetReply results => exact hredis
  | getReply g result => exact hredis

theorem run_distinct (env : Env) (steps : List Step) : Distinct (run env steps World.start) :=
  Along.run_inv (I := Distinct) (fun _ s hw _ => hw.step env s) .start
    (Along.of_forall (P := fun _ _ => True) (fun _ _ => trivial) steps World.start)

end Distinct

/-! ## Serving a message -/

/-- The items up to and including the first that does not meet the condition. -/
def upTo {ι : Type} (p : ι → Bool) : List ι → List ι
  | [] => []
  | i :: is => i :: if p i then upTo p is else []

theorem mem_of_mem_upTo {ι : Type} {p : ι → Bool} {is : List ι} {i : ι} (h : i ∈ upTo p is) :
    i ∈ is := by
  induction is with
  | nil => cases h
  | cons j is ih =>
    rw [upTo] at h
    rcases List.mem_cons.1 h with rfl | h
    · exact List.mem_cons_self
    · split at h
      · exact List.mem_cons_of_mem j (ih h)
      · cases h

section Serving

variable (env : Env) (o : RconRef → Oracle) (message : Message) (w : World)

/-- What `checkAdminCommand` of an instance does with the message. -/
def handled (r : RconRef) : Except Error Unit × List Effect :=
  checkAdminCommand env (w.rcons r) (w.objs r.data).specific (o r).throws message []

/-- The method returned. -/
def returned (result : Except Error Unit × List Effect) : Bool :=
  match result.1 with
  | .ok _ => true
  | .error _ => false

/-- The instances that are handed the message: none when a bot wrote it or the command line
interface throws, and else all up to the first that throws. -/
def served : List RconRef :=
  if message.authorBot then [] else
  match (checkCliMessagesAction env message w).1 with
  | .ok _ => upTo (fun r => returned (handled env o message w r)) w.bercons
  | .error _ => []

variable {env o message w}

theorem adminAction_apply {v : World} (hrcons : v.rcons = w.rcons) (hobjs : v.objs = w.objs)
    (r : RconRef) : adminAction env o message r v =
      ((handled env o message w r).1, v.record (some r) (handled env o message w r).2) := by
  simp only [adminAction, Prog.read_bind, hrcons, hobjs]
  rfl

/-- The loop over the instances, in a state that differs by the trace and the requests. -/
theorem adminLoop_calls {rs : List RconRef} (hnodup : rs.Nodup) {v : World}
    (hrcons : v.rcons = w.rcons) (hobjs : v.objs = w.objs) (r : RconRef) :
    (Prog.forEach rs (adminAction env o message) v).2.calls r = v.calls r ++
      if r ∈ upTo (fun r => returned (handled env o message w r)) rs
      then (handled env o message w r).2 else [] := by
  induction rs generalizing v with
  | nil => simp [Prog.forEach, upTo]
  | cons r' rs ih =>
    obtain ⟨hr', hrs⟩ := List.nodup_cons.1 hnodup
    have happly : adminAction env o message r' v =
        ((handled env o message w r').1, v.record (some r') (handled env o message w r').2) :=
      adminAction_apply hrcons hobjs r'
    rw [Prog.forEach]
    cases hresult : (handled env o message w r').1 with
    | error e =>
      rw [hresult] at happly
      have hstop : returned (handled env o message w r') = false := by rw [returned, hresult]
      rw [Prog.bind_error happly, World.calls_record, upTo, hstop]
      by_cases hr : r' = r
      · subst hr
        simp
      · have hr'' : r ≠ r' := fun h => hr h.symm
        simp [hr, hr'']
    | ok u =>
      rw [hresult] at happly
      have hgo : returned (handled env o message w r') = true := by rw [returned, hresult]
      have hrest := ih hrs (v := v.record (some r') (handled env o message w r').2) hrcons hobjs
      rw [Prog.bind_ok happly, upTo, hgo, if_pos rfl]
      refine hrest.trans ?_
      rw [World.calls_record]
      by_cases hr : r' = r
      · -- the instance is served now, and not again
        subst hr
        have hnot : r' ∉ upTo (fun r => returned (handled env o message w r)) rs :=
          fun h => hr' (mem_of_mem_upTo h)
        simp [hnot]
      · have hr'' : r ≠ r' := fun h => hr h.symm
        simp [hr, hr'']

theorem calls_of_spoken {P : Option RconRef → Effect → Prop} (hP : ∀ r e, ¬P (some r) e)
    {v : World} (h : Spoken P w v) (r : RconRef) : v.calls r = w.calls r := by
  obtain ⟨new, htrace, hnew⟩ := h.traces
  rw [World.calls, htrace, List.filterMap_append]
  refine (congrArg _ ?_).trans (List.append_nil _)
  refine List.filterMap_eq_nil_iff.2 fun entry hentry => ?_
  have hsource : entry.1 ≠ some r := fun h => hP r entry.2 (h ▸ hnew entry hentry)
  exact if_neg hsource

/-- What a message makes an instance do, when no instance is listed twice. -/
theorem message_calls (hnodup : w.bercons.Nodup) (r : RconRef) :
    (step env ⟨.message message, o⟩ w).2.calls r = w.calls r ++
      if r ∈ served env o message w then (handled env o message w r).2 else [] := by
  change (checkMessageAction env o message w).2.calls r = _
  cases hbot : message.authorBot with
  | true => simp [checkMessageAction, served, hbot]
  | false =>
    have hcli : Spoken (fun source _ => source = none) w
        (checkCliMessagesAction env message w).2 := by
      cases hcall : env.cli message.content with
      | none =>
        simp only [checkCliMessagesAction, hcall]
        exact (Spoken.frame _).refl w
      | some c =>
        simp only [checkCliMessagesAction, hcall]
        exact runCli_spoken (fun _ _ => rfl) hcall
    have hcalls : (checkCliMessagesAction env message w).2.calls r = w.calls r :=
      calls_of_spoken (fun _ _ h => by cases h) hcli r
    rw [checkMessageAction, hbot, Bool.not_false, Prog.when_true, served, hbot]
    rcases hresult : checkCliMessagesAction env message w with ⟨_ | _, v⟩ <;>
      rw [hresult] at hcli hcalls
    · rw [Prog.bind_error hresult]
      simpa using hcalls
    · rw [Prog.bind_ok hresult, Prog.read_bind, hcli.bercons,
        adminLoop_calls hnodup hcli.rcons hcli.objs, hcalls]
      rfl

end Serving

/-- **Every instance that is served handles a message exactly once.** In every state that is
reached, the calls of an instance grow by those of its `checkAdminCommand` when it is served, and
stay as they are otherwise; no instance changes its state. -/
theorem run_served (env : Env) (steps : List Step) (o : RconRef → Oracle) (message : Message)
    (r : RconRef) :
    let w := run env steps World.start
    let w' := (step env ⟨.message message, o⟩ w).2
    w'.rcons = w.rcons ∧ w'.calls r = w.calls r ++
      if r ∈ served env o message w then (handled env o message w r).2 else [] := by
  intro w w'
  have hspoken : Spoken (fun _ _ => True) w w' :=
    checkMessageAction_spoken (fun _ _ _ => trivial) fun _ _ _ _ _ => trivial
  exact ⟨hspoken.rcons, message_calls (run_distinct env steps).nodup r⟩

/-- A guild with an instance cannot be printed: `!zbot listinfo` throws, and nobody is served. -/
example :
    let env : Env := { sampleBot with cli := fun _ => some (.listinfo (lit "1")) }
    let w := run env joinSteps World.start
    let message : Message := ⟨ownerId, false, none, sampleChannel sampleId, none, []⟩
    w.bercons = [firstRcon] ∧ served env sampleOracle message w = [] := by decide +kernel

/-! ## Broadcasts -/

/-- The command channels that can show a message, an instance after the other. -/
def World.commandChannels (w : World) (rs : List RconRef) : List Channel :=
  rs.filterMap fun r => (w.rcons r).commandChannel.filter fun c => c.type = .text

theorem record_record (w : World) (source : Option RconRef) (calls calls' : List Effect) :
    (w.record source calls).record source calls' = w.record source (calls ++ calls') := by
  simp [World.record]

theorem sendTextMessage_calls (channel : Option Channel) (text : Text) :
    sendTextMessage channel text [] =
      (.ok (), ((channel.filter fun c => c.type = .text).toList.map fun c => .send c text)) := by
  cases channel with
  | none => rfl
  | some c =>
    by_cases h : c.type = .text <;> simp [sendTextMessage, h, Prog.when, emit, Option.filter]

/-- A broadcast is sent to the command channel of every instance. -/
theorem broadcastMessage_apply (text : Text) (w : World) :
    broadcastMessage text w = (.ok (), w.record none ((w.commandChannels w.bercons).map fun c =>
      .send c (replaceFirst text (lit "!zbot broadcast ") []))) := by
  rw [broadcastMessage, Prog.read_bind]
  generalize replaceFirst text (lit "!zbot broadcast ") [] = shown
  generalize w.bercons = rs
  -- the loop reads the instances, and writes the trace only
  have hloop : ∀ (calls : List Effect), Prog.forEach rs (fun r => do
      let rcon ← Prog.read fun v : World => v.rcons r
      emitting none (sendTextMessage rcon.commandChannel shown)) (w.record none calls) =
        (.ok (), w.record none (calls ++ (w.commandChannels rs).map fun c => .send c shown)) := by
    induction rs with
    | nil => simp [Prog.forEach, World.commandChannels]
    | cons r rs ih =>
      intro calls
      have hhead : (do
          let rcon ← Prog.read fun v : World => v.rcons r
          emitting none (sendTextMessage rcon.commandChannel shown)) (w.record none calls) =
            (.ok (), w.record none (calls ++ (((w.rcons r).commandChannel.filter
              fun c => c.type = .text).toList.map fun c => .send c shown))) := by
        rw [Prog.read_bind, emitting, Prog.zoom_apply, sendTextMessage_calls, record_record]
        rfl
      rw [Prog.forEach, Prog.bind_ok hhead, ih, List.append_assoc, ← List.map_append]
      cases h : (w.rcons r).commandChannel.filter fun c => c.type = .text <;>
        simp [World.commandChannels, h]
  have hstart := hloop []
  rwa [show w.record none [] = w by simp [World.record], List.nil_append] at hstart

/-- **A broadcast reaches every instance.** Whatever the state, a broadcast of the owner makes the
bot send the text to the command channel of every instance that has one, in the order of the
instances, and the bot itself sends nothing else. -/
theorem broadcast_reaches (env : Env) (o : RconRef → Oracle) (w : World) {message : Message}
    (hbot : message.authorBot = false) (howner : message.authorId = ownerId)
    (hcli : env.cli message.content = some .broadcast) :
    ∃ rest, (step env ⟨.message message, o⟩ w).2.trace =
        w.trace ++ (w.commandChannels w.bercons).map (fun c =>
          (none, .send c (replaceFirst message.content (lit "!zbot broadcast ") []))) ++ rest ∧
      ∀ entry ∈ rest, entry.1 ≠ none := by
  change ∃ rest, (checkMessageAction env o message w).2.trace = _ ∧ _
  have hcall : checkCliMessagesAction env message w = broadcastMessage message.content w := by
    simp only [checkCliMessagesAction, hcli, runCli, howner, if_true]
  rw [broadcastMessage_apply] at hcall
  rw [checkMessageAction, hbot, Bool.not_false, Prog.when_true, Prog.bind_ok hcall]
  have hf := Traces.frame fun (source : Option RconRef) (_ : Effect) => source ≠ none
  have hloop : Prog.Within (Traces fun source _ => source ≠ none) (do
      let bercons ← Prog.read World.bercons
      Prog.forEach bercons (adminAction env o message)) := by
    refine .bind hf (.read hf _) fun bercons => .forEach hf fun r _ => ?_
    refine .bind hf (.read hf _) fun rcon => .bind hf (.read hf _) fun data => emitting_traces ?_
    have hsource : (some r : Option RconRef) ≠ none := Option.some_ne_none r
    exact checkAdminCommand_adds (fun _ _ => hsource) (fun _ _ _ => hsource) fun _ _ _ _ => hsource
  obtain ⟨rest, htrace, hrest⟩ := hloop _
  refine ⟨rest, htrace.trans ?_, hrest⟩
  simp [World.record, List.map_map, Function.comp_def]

/-- Two instances with one command channel. -/
theorem broadcast_reaches_two :
    let env : Env := { (default : Env) with cli := fun _ => some .broadcast }
    let c : Channel := ⟨lit "rcon", none, lit "rcon", .text⟩
    let rs : List RconRef := [⟨⟨GuildId.zero, 1⟩, 0⟩, ⟨⟨GuildId.zero, 1⟩, 1⟩]
    let w : World := { World.start with
      bercons := rs
      rcons := fun _ => { Rcon.blank .undefined default with commandChannel := some c } }
    let message : Message := ⟨ownerId, false, none, c, none, lit "!zbot broadcast hi"⟩
    ∃ rest, (step env ⟨.message message, fun _ => ⟨fun _ => false, fun _ => true⟩⟩ w).2.trace =
        [(none, .send c (lit "hi")), (none, .send c (lit "hi"))] ++ rest ∧
      ∀ entry ∈ rest, entry.1 ≠ none := by
  intro env c rs w message
  obtain ⟨rest, htrace, hrest⟩ := broadcast_reaches env
    (fun _ => ⟨fun _ => false, fun _ => true⟩) w
    (show message.authorBot = false from rfl) rfl rfl
  exact ⟨rest, htrace.trans (congrArg (· ++ rest) (by decide +kernel)), hrest⟩

end ZBot
