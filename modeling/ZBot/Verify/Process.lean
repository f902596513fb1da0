import ZBot.Js.Ledger
import ZBot.Model.Process
import ZBot.Verify.Handlers
import ZBot.Verify.Printers
import ZBot.Verify.Provenance

/-!
# The process survives

`zbotPrintLongMessage` throws at a text without a character that the dot matches, and `logBot` is
called in most callbacks, and in the handler of exceptions itself. Every text that the bot logs on
its own has such a character (`Origin.shown`), so carrying out the calls of a callback does not
throw (`callback_outcome`), and neither does the handler: the process runs on after every event, and
what it does to the bot is the run of the callbacks (`procRun_refines`).

What the listeners of the client log is not the bot's own text, and may throw. The exception then
goes to the log channel like every other (`exception_reported`).

All that an event does is in `Handled`: the step of the bot, the log channel, the gif searches, and
the messages that go to Discord, as a list of acts (`Tick.script`). Every search is answered at most
once, in its own channel (`procRun_gifs`); what goes to Discord is the subject of
`ZBot.Verify.Output`.
-/

namespace ZBot

open Js ProcM

/-! ## Printing the log -/

section Print

variable {text : Text}

/-- A line break is no character of a message. -/
theorem payload_dots (lines : List Text) :
    (payload lines).filter isDot = lines.flatten.filter isDot := by
  have hnl : nl.filter isDot = [] := by decide
  rw [payload, List.filter_flatMap, List.filter_flatten, List.flatMap_def]
  simp only [List.filter_append, hnl, List.append_nil]

/-- The lines of a text have its characters. -/
theorem splitLines_dots (text : Text) :
    (splitLines text).flatten.filter isDot = text.filter isDot := by
  fun_induction splitLines text with
  | case1 => rfl
  | case2 s ih => simpa [isDot] using ih
  | case3 s ih => simpa [isDot] using ih
  | case4 x s _ _ hnil ih => exact absurd hnil (splitLines_ne_nil s)
  | case5 x s _ _ line rest hsplit ih =>
    rw [hsplit, List.flatten_cons] at ih
    rw [List.flatten_cons, List.cons_append, List.filter_cons, List.filter_cons, ih]

/-- A text with a character is sent in messages that have its characters. -/
theorem zbotPrintLongMessage_sends (h : Shown text) (channel : Option Channel) :
    ∃ texts, zbotPrintLongMessage text channel = sendAll channel texts ∧
      texts.flatten.filter isDot = text.filter isDot := by
  obtain ⟨x, hx, hdot⟩ := h
  have hsome : ¬text.isEmpty = true := by
    cases text with
    | nil => cases hx
    | cons => simp
  by_cases hlong : 2000 < text.length
  · by_cases hlines : newline ∈ text
    · refine ⟨_, zbotPrintLongMessage_lines hlong hlines channel, ?_⟩
      rw [payloads_flatten]
      exact (payload_dots _).trans (splitLines_dots text)
    · have hpieces : linePieces text ≠ [] := fun hnil => by
        rw [linePieces_eq_nil_iff.1 hnil x hx] at hdot
        cases hdot
      refine ⟨payloads 2000 (linePieces text), ?_, ?_⟩
      · rw [zbotPrintLongMessage_line hlong hlines, if_neg hpieces]
      · rw [payloads_flatten]
        refine (payload_dots _).trans ?_
        rw [linePieces_flatten, List.filter_filter]
        simp
  · refine ⟨[text], ?_, by simp⟩
    rw [zbotPrintLongMessage, if_neg hsome, if_pos (Nat.not_lt.1 hlong)]
    exact (funext fun calls => Prog.forEach_singleton text calls).symm

end Print

/-! ## Acts -/

/-- What the process does in Discord. -/
inductive Act where
  /-- a message of a callback of the bot, as it is -/
  | message (e : Effect)
  /-- a line of the log, and the log channel at that time -/
  | line (channel : Option Channel) (text : Text)
  /-- a message of another listener -/
  | notice (e : Effect)

/-- The messages that are handed to Discord. -/
def Act.sent (env : Env) : Act → List Effect
  | .message e | .notice e => [e]
  | .line channel text => if env.logEnable then (zbotPrintLongMessage text channel []).2 else []

/-- The process after it has done the acts. -/
def Proc.does (env : Env) (p : Proc) (acts : List Act) : Proc :=
  { p with out := p.out ++ acts.flatMap (Act.sent env) }

theorem Proc.does_nil (env : Env) (p : Proc) : p.does env [] = p := by
  simp [Proc.does]

theorem Proc.does_does (env : Env) (p : Proc) (acts acts' : List Act) :
    (p.does env acts).does env acts' = p.does env (acts ++ acts') := by
  simp [Proc.does, List.append_assoc]

section Log

variable {env : Env}

theorem printLog_apply (env : Env) (text : Text) (p : Proc) : printLog env text p =
    if env.logEnable then emitting (zbotPrintLongMessage text p.logChannel) p else (.ok (), p) := by
  rw [printLog, Prog.read_bind, Prog.when]
  split <;> rfl

/-- A line is printed as far as it goes, also when printing it throws. -/
theorem printLog_snd (env : Env) (text : Text) (p : Proc) :
    (printLog env text p).2 = p.does env [.line p.logChannel text] := by
  rw [printLog_apply]
  split
  · rename_i henable
    simp [Proc.does, Act.sent, henable, emitting]
  · rename_i henable
    simp [Proc.does, Act.sent, henable]

/-- The lines that the bot logs on its own are printed without an exception. -/
theorem printLog_ok (env : Env) {text : Text} (h : Shown text) (p : Proc) :
    printLog env text p = (.ok (), p.does env [.line p.logChannel text]) := by
  refine Prod.ext ?_ (printLog_snd env text p)
  rw [printLog_apply]
  split
  · obtain ⟨texts, htexts, -⟩ := zbotPrintLongMessage_sends h p.logChannel
    rw [htexts]
    exact sendAll_returns p.logChannel texts []
  · rfl

theorem unhandledRejection_silent (p : Proc) : onUnhandledRejection env p = (.ok (), p) := by
  have hprint : zbotPrintLongMessage (lit "Unhandled Rejection at: Promise") none [] =
      (.ok (), []) := by decide
  rw [onUnhandledRejection, Prog.when]
  split
  · simp [emitting, hprint]
  · rfl

end Log

/-! ## Callbacks -/

/-- The searches that the calls ask for. -/
def asks (event : Event) (calls : List Effect) : List (Channel × Text) :=
  calls.filterMap fun e =>
    match e with
    | .request tags => event.channel.map fun channel => (channel, tags)
    | _ => none

/-- What a call of the bot does in Discord, with the log channel. -/
def Effect.act (channel : Option Channel) (e : Effect) : Option Act :=
  match e with
  | .send .. | .reply .. => some (.message e)
  | .log text => some (.line channel text)
  | .emitDisconnect => some (.line channel (lit "Bot disconnected"))
  | _ => none

/-- What carrying out calls does to the process. -/
structure Performs (env : Env) (event : Event) (calls : List Effect) (p p' : Proc) : Prop where
  world : p'.world = p.world
  logChannel : p'.logChannel = p.logChannel
  alive : p'.alive = p.alive
  gifs : p'.gifs = p.gifs ++ asks event calls
  out : p'.out = p.out ++ (calls.filterMap (Effect.act p.logChannel)).flatMap (Act.sent env)

section Callbacks

variable {env : Env} {event : Event}

/-- A call that is no search, and what it does in Discord. -/
theorem does_performs {e : Effect} (hasks : asks event [e] = []) (p : Proc) :
    Performs env event [e] p (p.does env (e.act p.logChannel).toList) where
  world := rfl
  logChannel := rfl
  alive := rfl
  gifs := by rw [hasks, List.append_nil]; rfl
  out := by cases h : e.act p.logChannel <;> simp [Proc.does, h]

theorem perform_spec (env : Env) (event : Event) {e : Effect}
    (he : ∀ text, e = .log text → Shown text) (p : Proc) :
    (perform env event e p).1 = .ok () ∧ Performs env event [e] p (perform env event e p).2 := by
  have hdoes : asks event [e] = [] →
      perform env event e p = (.ok (), p.does env (e.act p.logChannel).toList) →
      (perform env event e p).1 = .ok () ∧ Performs env event [e] p (perform env event e p).2 :=
    fun hasks heq => by
      rw [heq]
      exact ⟨rfl, does_performs hasks p⟩
  cases e with
  | send c text => exact hdoes rfl rfl
  | reply c text => exact hdoes rfl rfl
  | log text => exact hdoes rfl (printLog_ok env (he text rfl) p)
  | emitDisconnect =>
    exact hdoes rfl (printLog_ok env (show Shown (lit "Bot disconnected") by decide) p)
  | query host port portQuery =>
    exact ⟨rfl, rfl, rfl, rfl, (List.append_nil _).symm, (List.append_nil _).symm⟩
  | request tags =>
    cases hc : event.channel with
    | none => exact hdoes (by simp [asks, hc]) (by simp [perform, hc, Effect.act, Proc.does])
    | some c =>
      simp only [perform, hc]
      exact ⟨rfl, rfl, rfl, rfl, by simp [asks, hc, Prog.modify], (List.append_nil _).symm⟩
  | _ => exact hdoes rfl (by simp [perform, Effect.act, Proc.does])

theorem forEach_perform (env : Env) (event : Event) {calls : List Effect}
    (hcalls : ∀ text, Effect.log text ∈ calls → Shown text) (p : Proc) :
    (Prog.forEach calls (perform env event) p).1 = .ok () ∧
      Performs env event calls p (Prog.forEach calls (perform env event) p).2 := by
  induction calls generalizing p with
  | nil => exact ⟨rfl, rfl, rfl, rfl, (List.append_nil _).symm, (List.append_nil _).symm⟩
  | cons e calls ih =>
    obtain ⟨hok, hperform⟩ := perform_spec env event
      (fun text h => hcalls text (h ▸ List.mem_cons_self)) p
    rcases he : perform env event e p with ⟨_ | _, p'⟩ <;> rw [he] at hok hperform
    · cases hok
    · obtain ⟨hok', hrest⟩ := ih (fun text h => hcalls text (List.mem_cons_of_mem e h)) p'
      have hlog : p'.logChannel = p.logChannel := hperform.logChannel
      rw [Prog.forEach, Prog.bind_ok he]
      refine ⟨hok', hrest.world.trans hperform.world, hrest.logChannel.trans hlog,
        hrest.alive.trans hperform.alive, ?_, ?_⟩
      · rw [hrest.gifs, hperform.gifs, List.append_assoc]
        congr 1
        exact (List.filterMap_append ..).symm.trans rfl
      · rw [hrest.out, hlog, hperform.out, List.append_assoc, ← List.flatMap_append,
          ← List.filterMap_append]
        rfl

/-- Every line that a callback logs can be printed. -/
theorem newCalls_shown (env : Env) (s : Step) (w : World) (text : Text)
    (h : Effect.log text ∈ newCalls env s w) : Shown text := by
  obtain ⟨new, htrace, hnew⟩ := step_origin env s w
  obtain ⟨entry, hentry, hlog⟩ := List.mem_map.1 h
  rw [htrace, List.drop_left] at hentry
  have horigin := hnew entry hentry
  rw [hlog] at horigin
  exact horigin.shown

/-- What a callback does to the process: it carries out its calls, and ends like its step. -/
theorem callback_spec (env : Env) (s : Step) (p : Proc) :
    (callback env s p).1 = (step env s p.world).1 ∧
      Performs env s.event (newCalls env s p.world) { p with world := (step env s p.world).2 }
        (callback env s p).2 := by
  obtain ⟨hok, hperforms⟩ := forEach_perform env s.event (newCalls_shown env s p.world)
    { p with world := (step env s p.world).2 }
  rw [callback, Prog.read_bind, Prog.modify_bind]
  rcases he : Prog.forEach (newCalls env s p.world) (perform env s.event)
    { p with world := (step env s p.world).2 } with ⟨_ | _, p'⟩ <;> rw [he] at hok hperforms
  · cases hok
  · rw [Prog.bind_ok he]
    exact ⟨rfl, hperforms⟩

end Callbacks

/-- **A callback fails only by itself.** Whatever the state, carrying out the calls of a callback
throws nothing: the callback ends with the outcome of its step. -/
theorem callback_outcome (env : Env) (s : Step) (p : Proc) :
    (callback env s p).1 = (step env s p.world).1 := (callback_spec env s p).1

/-! ## Turns of the event loop -/

/-- The line that a listener outside of the callbacks logs. An answer to a game query counts when
one is pending. -/
def ProcEvent.line (queries : Nat) : ProcEvent → Option Text
  | .debug text =>
    if includes text (lit "heartbeat") || includes text (lit "Heartbeat") then none else some text
  | .warn text | .error text => some text
  | .disconnect => some (lit "Bot disconnected")
  | .reconnecting => some (lit "Bot disconnected from discord API. Trying to reconnect.")
  | .guildUnavailable guild =>
    some (lit "Guild became unavailable: " ++ guild.name ++ lit " ( " ++ guild.id.val ++ lit " )")
  | .queryReply state => if 0 < queries then state else none
  | _ => none

namespace Tick

variable (t : Tick)

/-- The callback of the bot, when the event is one. -/
def step? : Option Step :=
  match t.event with
  | .callback s => some s
  | _ => none

/-- The log channel after the event. -/
def binds (channel : Option Channel) : Option Channel :=
  match t.step?.map Step.event with
  | some (.ready guilds) =>
    match guilds.find? (·.name == lit "ZBot") with
    | some guild => guild.channels.find? (·.name == lit "zlog")
    | none => channel
  | _ => channel

/-- The searches that the event asks for. -/
def asked (env : Env) (w : World) : List (Channel × Text) :=
  match t.step? with
  | some s => asks s.event (newCalls env s w)
  | none => []

/-- The search that the event answers. -/
def answered (gifs : List (Channel × Text)) : List (Channel × Text) :=
  match t.event with
  | .gifReply i _ => gifs[i]?.toList
  | _ => []

/-- The searches that are still not answered after the event. -/
def unanswered (gifs : List (Channel × Text)) : List (Channel × Text) :=
  match t.event with
  | .gifReply i _ => gifs.eraseIdx i
  | _ => gifs

/-- The messages about members and the answers to searches. -/
def notices (env : Env) (gifs : List (Channel × Text)) : List Effect :=
  match t.event with
  | .guildMemberAdd guild mention => (welcomeClientAction env guild mention []).2
  | .guildMemberRemove guild nickname username =>
    (leaveClientAction env guild nickname username []).2
  | .gifReply i response =>
    gifs[i]?.toList.flatMap fun (c, tags) => (giphyReply c tags response []).2
  | _ => []

/-- The lines of `onReady`, which go to the channel of before. -/
def greeting (channel : Option Channel) : List Act :=
  match t.step?.map Step.event with
  | some (.ready guilds) => [.line channel (lit "Bot ready event"),
      .line channel (readyText t.channels guilds.length t.users)]
  | _ => []

/-- What the listener of the event does in Discord. -/
def acts (env : Env) (p : Proc) : List Act :=
  match t.event with
  | .callback s => t.greeting p.logChannel ++
      (newCalls env s p.world).filterMap (Effect.act (t.binds p.logChannel))
  | event => (event.line p.queries).toList.map (.line p.logChannel) ++
      (t.notices env p.gifs).map .notice

/-- What is done about the exception of the listener. -/
def report (env : Env) (p : Proc) : List Act :=
  match (handle env t p).1 with
  | .ok _ => []
  | .error e => if t.event.inPromise then [] else
      [.line (t.binds p.logChannel) (lit "Caught exception: " ++ t.errorText e)]

/-- All that the event does in Discord. -/
def script (env : Env) (p : Proc) : List Act := t.acts env p ++ t.report env p

end Tick

theorem Tick.event_of_step? {t : Tick} {s : Step} (h : t.step? = some s) :
    t.event = .callback s := by
  unfold Tick.step? at h
  split at h
  · rename_i s' ht
    rw [ht, Option.some.inj h]
  · cases h

theorem Tick.acts_of_step? {t : Tick} (h : t.step? = none) (env : Env) (p : Proc) :
    t.acts env p = (t.event.line p.queries).toList.map (.line p.logChannel) ++
      (t.notices env p.gifs).map .notice := by
  unfold Tick.acts
  split
  · rename_i s ht
    rw [Tick.step?, ht] at h
    cases h
  · rfl

/-- What an event does to the process. -/
structure Handled (env : Env) (t : Tick) (acts : List Act) (p p' : Proc) : Prop where
  world : p'.world = match t.step? with
    | some s => (step env s p.world).2
    | none => p.world
  logChannel : p'.logChannel = t.binds p.logChannel
  alive : p'.alive = p.alive
  gifs : p'.gifs = t.unanswered p.gifs ++ t.asked env p.world
  out : p'.out = p.out ++ acts.flatMap (Act.sent env)

section Events

variable {env : Env} {t : Tick} {p : Proc}

/-- An event that is no callback of the bot. -/
theorem does_handled (hstep : t.step? = none) (queries : Nat) (acts : List Act) :
    Handled env t acts p
      (Proc.does env { p with gifs := t.unanswered p.gifs, queries := queries } acts) where
  world := by rw [hstep]; rfl
  logChannel := by rw [Tick.binds, hstep]; rfl
  alive := rfl
  gifs := by rw [Tick.asked, hstep, List.append_nil]; rfl
  out := rfl

/-- A callback, after what its listener has done in Discord before. -/
theorem callback_handled {s : Step} (ht : t.event = .callback s) (before : List Act) :
    Handled env t
      (before ++ (newCalls env s p.world).filterMap (Effect.act (t.binds p.logChannel))) p
      (callback env s { p.does env before with logChannel := t.binds p.logChannel }).2 := by
  have hstep : t.step? = some s := by rw [Tick.step?, ht]
  have hspec := (callback_spec env s
    { p.does env before with logChannel := t.binds p.logChannel }).2
  refine ⟨by rw [hspec.world, hstep]; rfl, hspec.logChannel, hspec.alive, ?_, ?_⟩
  · rw [hspec.gifs, Tick.unanswered, ht, Tick.asked, hstep]
    rfl
  · rw [hspec.out, List.flatMap_append, ← List.append_assoc]
    rfl

/-- `onReady` prints two lines, binds the log channel and runs its callback. -/
theorem onReady_apply (env : Env) {s : Step} {guilds : List Guild} (ht : t.event = .callback s)
    (hs : s.event = .ready guilds) (p : Proc) :
    onReady env guilds t.channels t.users s p = callback env s
      { p.does env (t.greeting p.logChannel) with logChannel := t.binds p.logChannel } := by
  have hstep : t.step?.map Step.event = some (.ready guilds) := by
    rw [Tick.step?, ht, Option.map_some, hs]
  have hshown : Shown (readyText t.channels guilds.length t.users) := by
    simp only [readyText, List.append_assoc]
    exact .append_left (by decide) _
  have hset : ∀ q : Proc, q.logChannel = p.logChannel →
      setLogChannel guilds q = (.ok (), { q with logChannel := t.binds p.logChannel }) := by
    intro q hq
    cases hguild : guilds.find? (·.name == lit "ZBot") with
    | none =>
      simp only [setLogChannel, Tick.binds, hstep, hguild]
      rw [← hq]
      rfl
    | some guild =>
      simp only [setLogChannel, Tick.binds, hstep, hguild]
      rfl
  have hfirst := printLog_ok env (show Shown (lit "Bot ready event") by decide) p
  have hsecond := printLog_ok env hshown (p.does env [.line p.logChannel (lit "Bot ready event")])
  rw [onReady, Prog.bind_ok hfirst, Prog.bind_ok hsecond, Proc.does_does, Tick.greeting, hstep]
  exact Prog.bind_ok (hset (p.does env _) rfl)

/-- The listener of a callback. -/
theorem handle_callback {s : Step} (ht : t.event = .callback s) :
    handle env t p = callback env s
      { p.does env (t.greeting p.logChannel) with logChannel := t.binds p.logChannel } := by
  cases hs : s.event with
  | ready guilds =>
    simp only [handle, ht, hs]
    exact onReady_apply env ht hs p
  | _ =>
    have hstep : t.step?.map Step.event = some s.event := by rw [Tick.step?, ht]; rfl
    simp only [handle, ht, hs, Tick.greeting, Tick.binds, hstep]
    exact congrArg (callback env s) (Proc.does_nil env p).symm

/-- The other listeners. -/
theorem handle_does (env : Env) (p : Proc) (hstep : t.step? = none) :
    ∃ queries, (handle env t p).2 =
      Proc.does env { p with gifs := t.unanswered p.gifs, queries := queries } (t.acts env p) := by
  cases ht : t.event with
  | callback s => simp [Tick.step?, ht] at hstep
  | debug text =>
    refine ⟨p.queries, ?_⟩
    simp only [handle, ht, Tick.unanswered, Tick.acts, Tick.notices, ProcEvent.line, onDebug,
      Prog.when]
    cases includes text (lit "heartbeat") || includes text (lit "Heartbeat") with
    | true => exact (Proc.does_nil env p).symm
    | false => exact printLog_snd env text p
  | guildMemberAdd guild mention =>
    refine ⟨p.queries, ?_⟩
    simp only [handle, ht, Tick.unanswered, Tick.acts, Tick.notices, ProcEvent.line]
    simp [emitting, Proc.does, Act.sent, List.flatMap_map]
  | guildMemberRemove guild nickname username =>
    refine ⟨p.queries, ?_⟩
    simp only [handle, ht, Tick.unanswered, Tick.acts, Tick.notices, ProcEvent.line]
    simp [emitting, Proc.does, Act.sent, List.flatMap_map]
  | gifReply i response =>
    refine ⟨p.queries, ?_⟩
    simp only [handle, ht, Tick.unanswered, Tick.acts, Tick.notices, ProcEvent.line, Prog.read_bind]
    cases hgif : p.gifs[i]? with
    | none =>
      rw [List.eraseIdx_of_length_le (List.getElem?_eq_none_iff.1 hgif)]
      exact (Proc.does_nil env p).symm
    | some gif => simp [emitting, Proc.does, Act.sent, List.flatMap_map, Prog.modify_bind]
  | queryReply state =>
    simp only [handle, ht, Tick.unanswered, Tick.acts, Tick.notices, ProcEvent.line, Prog.read_bind,
      Prog.when]
    by_cases hqueries : 0 < p.queries
    · refine ⟨p.queries - 1, ?_⟩
      cases state with
      | none =>
        simp only [hqueries, decide_true, if_true, Prog.modify_bind]
        exact (Proc.does_nil env _).symm
      | some text =>
        simp only [hqueries, decide_true, if_true, Prog.modify_bind]
        exact printLog_snd env text _
    · refine ⟨p.queries, ?_⟩
      simp only [hqueries, decide_false, if_false]
      exact (Proc.does_nil env p).symm
  | unhandledRejection =>
    refine ⟨p.queries, ?_⟩
    simp only [handle, ht, unhandledRejection_silent, Tick.unanswered, Tick.acts, Tick.notices,
      ProcEvent.line]
    exact (Proc.does_nil env p).symm
  | _ =>
    refine ⟨p.queries, ?_⟩
    simp only [handle, ht, Tick.unanswered, Tick.acts, Tick.notices, ProcEvent.line]
    exact printLog_snd env _ p

theorem handle_handled (env : Env) (t : Tick) (p : Proc) :
    Handled env t (t.acts env p) p (handle env t p).2 := by
  cases hstep : t.step? with
  | none =>
    obtain ⟨queries, hdoes⟩ := handle_does env p hstep
    rw [hdoes]
    exact does_handled hstep queries _
  | some s =>
    have ht := Tick.event_of_step? hstep
    rw [handle_callback ht]
    have hacts : t.acts env p = t.greeting p.logChannel ++
        (newCalls env s p.world).filterMap (Effect.act (t.binds p.logChannel)) := by
      simp only [Tick.acts, ht]
    rw [hacts]
    exact callback_handled ht _

theorem onThrow_apply (env : Env) (t : Tick) (e : Error) (p : Proc) :
    onThrow env t e p = (.ok (), p.does env (if t.event.inPromise then [] else
      [.line p.logChannel (lit "Caught exception: " ++ t.errorText e)])) := by
  unfold onThrow
  split
  · rw [unhandledRejection_silent, Proc.does_nil]
  · exact printLog_ok env (.append_left (by decide) (t.errorText e)) p

/-- A turn of the loop is the listener, and the report of its exception. -/
theorem procStep_handled (env : Env) (t : Tick) {p : Proc} (hp : p.alive = true) :
    Handled env t (t.script env p) p (procStep env t p) := by
  have h := handle_handled env t p
  rw [procStep, if_pos hp, Tick.script, Tick.report]
  rcases he : handle env t p with ⟨e | _, p'⟩ <;> rw [he] at h
  · simp only [onThrow_apply]
    refine ⟨h.world, h.logChannel, h.alive, h.gifs, ?_⟩
    rw [← h.logChannel, List.flatMap_append, ← List.append_assoc, ← h.out]
    rfl
  · simpa using h

end Events

/-! ## Runs -/

theorem procRun_append (env : Env) (ticks ticks' : List Tick) (p : Proc) :
    procRun env (ticks ++ ticks') p = procRun env ticks' (procRun env ticks p) :=
  List.foldl_append

theorem procRun_alive (env : Env) (ticks : List Tick) {p : Proc} (hp : p.alive = true) :
    (procRun env ticks p).alive = true := by
  induction ticks generalizing p with
  | nil => exact hp
  | cons t ticks ih => exact ih ((procStep_handled env t hp).alive.trans hp)

/-- **The process survives, and refines the run of its callbacks.** After every sequence of events,
whatever the callbacks throw, the process has not exited, and the bot is in the state that its
callbacks lead to on their own. -/
theorem procRun_refines (env : Env) (ticks : List Tick) :
    (procRun env ticks .start).alive = true ∧
      (procRun env ticks .start).world = run env (ticks.filterMap Tick.step?) World.start := by
  refine ⟨procRun_alive env ticks rfl, ?_⟩
  have hrun : ∀ p : Proc, p.alive = true →
      (procRun env ticks p).world = run env (ticks.filterMap Tick.step?) p.world := by
    induction ticks with
    | nil => exact fun p _ => rfl
    | cons t ticks ih =>
      intro p hp
      have h := procStep_handled env t hp
      have hworld := ih (procStep env t p) (h.alive.trans hp)
      rw [h.world] at hworld
      rw [List.filterMap_cons]
      cases hs : t.step? <;> rw [hs] at hworld <;> exact hworld
  exact hrun .start rfl

/-- **Every exception is reported.** When a listener throws that is not in a promise, and the log is
on and bound to a text channel, the exception is handed to that channel, in messages that have all
its characters other than line terminators. -/
theorem exception_reported (env : Env) (t : Tick) (ht : t.event.inPromise = false) {p : Proc}
    (hp : p.alive = true) {e : Error} (he : (handle env t p).1 = .error e)
    (henable : env.logEnable = true) {c : Channel}
    (hc : (handle env t p).2.logChannel = some c) (htext : c.type = .text) :
    ∃ texts : List Text, (procStep env t p).out = (handle env t p).2.out ++ texts.map (.send c) ∧
      texts.flatten.filter isDot = (lit "Caught exception: " ++ t.errorText e).filter isDot := by
  have hshown : Shown (lit "Caught exception: " ++ t.errorText e) := .append_left (by decide) _
  obtain ⟨texts, htexts, hdots⟩ := zbotPrintLongMessage_sends hshown (some c)
  refine ⟨texts, ?_, hdots⟩
  rcases hhandle : handle env t p with ⟨e' | _, p'⟩ <;> rw [hhandle] at he hc
  · cases he
    have hlog : p'.logChannel = some c := hc
    have hcaught : onThrow env t e p' =
        (.ok (), { p' with out := p'.out ++ texts.map (.send c) }) := by
      rw [onThrow, ht, if_neg Bool.false_ne_true, onUncaughtException, printLog_apply,
        if_pos henable, hlog, htexts]
      simp [emitting, sendAll_text htext, hlog]
    rw [procStep, if_pos hp]
    simp only [hhandle, hcaught]
  · cases he

/-- A member joins a guild, and the configuration names no welcome channel. -/
theorem exception_reported_welcome :
    let env : Env := { sampleBot with logEnable := true }
    let c := sampleChannel sampleId
    let p : Proc := { Proc.start with logChannel := some c }
    let t : Tick := ⟨.guildMemberAdd (sampleGuild sampleId) [], 0, 0, fun _ => []⟩
    (handle env t p).1 = .error .typeError ∧
      ∃ texts : List Text,
        (procStep env t p).out = (handle env t p).2.out ++ texts.map (.send c) ∧
        texts.flatten.filter isDot = (lit "Caught exception: " ++ []).filter isDot := by
  intro env c p t
  have he : (handle env t p).1 = .error .typeError := by decide +kernel
  exact ⟨he, exception_reported env t rfl rfl he rfl (by decide +kernel) rfl⟩

/-! ## Gif searches -/

/-- The answer to a search whose response has the status 200. -/
def gifText (responseObj : Option Value) (tags : Text) : Text :=
  match gifId responseObj with
  | .error _ | .ok .undefined =>
    lit "Invalid tags, try again with different tags. (Used tags: " ++ tags ++ lit ")"
  | .ok id =>
    match id.toText with
    | .ok id => lit "http://media.giphy.com/media/" ++ id ++ lit "/giphy.gif (Tags: " ++ tags ++
        lit ")"
    | .error _ =>
      lit "Invalid tags, try again with different tags. (Used tags: " ++ tags ++ lit ")"

/-- The messages that a response sends: one when it has the status 200, whatever its body, and when
the search was asked for in a text channel. -/
def GifResponse.answer (c : Channel) (tags : Text) : GifResponse → List Effect
  | .failed => []
  | .body responseObj => if c.type = .text then [.send c (gifText responseObj tags)] else []

theorem giphyReply_body (c : Channel) (tags : Text) (responseObj : Option Value)
    (calls : List Effect) :
    giphyReply c tags (.body responseObj) calls =
      (.ok (), calls ++ GifResponse.answer c tags (.body responseObj)) := by
  have hsend : ∀ text, sendTextMessage (some c) text calls =
      (.ok (), calls ++ if c.type = .text then [.send c text] else []) := fun text => by
    by_cases hc : c.type = .text <;> simp [sendTextMessage, hc, Prog.when, emit]
  have hinvalid : postGiphyGif .undefined c tags calls = (.ok (), calls ++ if c.type = .text then
      [.send c (lit "Invalid tags, try again with different tags. (Used tags: " ++ tags ++ lit ")")]
      else []) := hsend _
  rw [GifResponse.answer]
  rw [giphyReply, Prog.tryCatch]
  cases hid : gifId responseObj with
  | error e =>
    rw [Prog.lift_error_bind rfl]
    simp only [Prog.raise_apply, gifText, hid]
    exact hinvalid
  | ok id =>
    rw [Prog.lift_ok_bind rfl]
    cases htext : id.toText with
    | error e =>
      have hpost : postGiphyGif id c tags calls = (.error e, calls) := by
        cases id <;> simp only [postGiphyGif, htext] <;> first | rfl | cases htext
      have hgif : gifText responseObj tags =
          lit "Invalid tags, try again with different tags. (Used tags: " ++ tags ++ lit ")" := by
        cases id <;> simp only [gifText, hid, htext]
      simp only [hpost, hgif]
      exact hinvalid
    | ok text =>
      have hpost : postGiphyGif id c tags calls = (.ok (), calls ++
          if c.type = .text then [.send c (gifText responseObj tags)] else []) := by
        cases id <;> simp only [postGiphyGif, gifText, hid, htext] <;> exact hsend _
      simp only [hpost]

theorem giphyReply_apply (c : Channel) (tags : Text) (response : GifResponse)
    (calls : List Effect) :
    giphyReply c tags response calls = (.ok (), calls ++ response.answer c tags) := by
  cases response with
  | failed => simp [giphyReply, GifResponse.answer]
  | body responseObj => exact giphyReply_body c tags responseObj calls

theorem answered_perm (t : Tick) (gifs : List (Channel × Text)) :
    gifs.Perm (t.answered gifs ++ t.unanswered gifs) := by
  unfold Tick.answered Tick.unanswered
  cases t.event with
  | gifReply i response => exact perm_eraseIdx gifs i
  | _ => exact .refl gifs

/-- The searches that are asked for in a run. -/
def askedIn (env : Env) (ticks : List Tick) : List (Channel × Text) :=
  collect (fun p t => procStep env t p) (fun p t => t.asked env p.world) ticks .start

/-- The searches that are answered in a run. -/
def answeredIn (env : Env) (ticks : List Tick) : List (Channel × Text) :=
  collect (fun p t => procStep env t p) (fun p t => t.answered p.gifs) ticks .start

theorem askedIn_perm (env : Env) (ticks : List Tick) :
    (askedIn env ticks).Perm (answeredIn env ticks ++ (procRun env ticks .start).gifs) := by
  have hstep : ∀ (p : Proc) (t : Tick), p.alive = true → (p.gifs ++ t.asked env p.world).Perm
      (t.answered p.gifs ++ (procStep env t p).gifs) := fun p t hp => by
    have h := (answered_perm t p.gifs).append_right (t.asked env p.world)
    rw [List.append_assoc] at h
    rw [(procStep_handled env t hp).gifs]
    exact h
  have hbooks := collect_balanced (I := fun p : Proc => p.alive = true)
    (fun p t hp => (procStep_handled env t hp).alive.trans hp) hstep ticks (s := .start) rfl
  exact hbooks

/-- **Every gif search is answered at most once, and in its channel.** In every run the searches
that were asked for are the answered ones and the pending ones. A response with the status 200 makes
the bot send one message, in the channel of its own search and with its own tags, when that channel
is a text channel; any other response makes it send none. -/
theorem procRun_gifs (env : Env) (ticks : List Tick) :
    (askedIn env ticks).Perm (answeredIn env ticks ++ (procRun env ticks .start).gifs) ∧
      ∀ before t after, ticks = before ++ t :: after →
        ∀ i response c tags, t.event = .gifReply i response →
          (procRun env before .start).gifs[i]? = some (c, tags) →
          (procRun env (before ++ [t]) .start).out =
            (procRun env before .start).out ++ response.answer c tags := by
  refine ⟨askedIn_perm env ticks, ?_⟩
  rintro before t after - i response c tags ht hgif
  have hp : (procRun env before .start).alive = true := procRun_alive env before rfl
  rw [procRun_append]
  change (procStep env t (procRun env before .start)).out = _
  generalize procRun env before .start = p at hgif hp
  have hhandle : handle env t p = emitting (giphyReply c tags response)
      { p with gifs := p.gifs.eraseIdx i } := by
    simp only [handle, ht, Prog.read_bind, hgif]
    rfl
  rw [procStep, if_pos hp, hhandle]
  simp [emitting, giphyReply_apply]

/-- Somebody asks for a gif in a text channel, and the search finds one. -/
theorem procRun_gifs_cat :
    let env : Env := { (default : Env) with cli := fun _ => some .gif, cliPrefix := lit "!zbot" }
    let c := sampleChannel sampleId
    let found := Value.obj [(lit "data", .obj [(lit "id", .str (lit "7"))])]
    let asking : Tick := ⟨.callback (sampleStep (.message
      ⟨[], false, none, c, none, lit "!zbot gif cat"⟩)), 0, 0, fun _ => []⟩
    let answering : Tick := ⟨.gifReply 0 (.body (some found)), 0, 0, fun _ => []⟩
    (procRun env [asking] .start).gifs = [(c, lit "cat")] ∧
      (procRun env [asking, answering] .start).gifs = [] ∧
      (procRun env [asking, answering] .start).out =
        [.send c (lit "http://media.giphy.com/media/7/giphy.gif (Tags: cat)")] := by
  intro env c found asking answering
  have hpending : (procRun env [asking] .start).gifs = [(c, lit "cat")] := by decide +kernel
  have hsent := (procRun_gifs env [asking, answering]).2 [asking] answering [] rfl 0 _ c (lit "cat")
    rfl (by rw [hpending]; rfl)
  exact ⟨hpending, by decide +kernel, hsent.trans (by decide +kernel)⟩

end ZBot
