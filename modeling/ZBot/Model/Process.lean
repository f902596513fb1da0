import ZBot.Model.System

/-!
# The process

`step` runs one callback of the bot and records its calls. This module is what is around it: the
listeners of the client that only log, the printing of the log in the log channel, the answers of
the gif search and of the game query, and the handlers of `uncaughtException` and
`unhandledRejection`, which keep the process running.

The calls of a callback are carried out after it, in their order. That is the same as carrying them
out one by one, unless one of them throws: then the source would have left the callback there.
-/

namespace ZBot

open Js

structure Proc where
  world : World
  /-- `_logChannel` -/
  logChannel : Option Channel
  /-- the searches that are not answered yet, each with the channel of its message and its tags -/
  gifs : List (Channel × Text)
  /-- how many game queries are not answered yet -/
  queries : Nat
  /-- what was sent to Discord -/
  out : List Effect
  /-- the process has not exited -/
  alive : Bool

/-- The process after the constructor of `ZBotEvents`. -/
def Proc.start : Proc := ⟨.start, none, [], 0, [], true⟩

abbrev ProcM := Prog Proc

namespace ProcM

/-- Runs code that only makes calls. -/
def emitting {α : Type} (x : Emit α) : ProcM α :=
  Prog.zoom (fun _ => []) (fun p calls => { p with out := p.out ++ calls }) x

end ProcM

open ProcM

/-! ## The log -/

/-- `logBot(message)`, down to the messages in the log channel. -/
def printLog (env : Env) (text : Text) : ProcM Unit := do
  let channel ← Prog.read Proc.logChannel
  Prog.when env.logEnable (emitting (zbotPrintLongMessage text channel))

/-- `setLogChannel`, with the guilds of the client. -/
def setLogChannel (guilds : List Guild) : ProcM Unit :=
  match guilds.find? (·.name == lit "ZBot") with
  | some guild => Prog.modify fun p =>
      { p with logChannel := guild.channels.find? (·.name == lit "zlog") }
  | none => pure ()

/-- `onDebug`. -/
def onDebug (env : Env) (debug : Text) : ProcM Unit :=
  Prog.when (!(includes debug (lit "heartbeat") || includes debug (lit "Heartbeat")))
    (printLog env debug)

/-- `onWarn`. -/
def onWarn (env : Env) (warning : Text) : ProcM Unit := printLog env warning

/-- `onError`, with the text of the error. -/
def onError (env : Env) (error : Text) : ProcM Unit := printLog env error

/-- `onDisconnect`. -/
def onDisconnect (env : Env) : ProcM Unit := printLog env (lit "Bot disconnected")

/-- `onReconnecting`. -/
def onReconnecting (env : Env) : ProcM Unit :=
  printLog env (lit "Bot disconnected from discord API. Trying to reconnect.")

/-- `onGuildUnavailable`. -/
def onGuildUnavailable (env : Env) (guild : Guild) : ProcM Unit :=
  printLog env (lit "Guild became unavailable: " ++ guild.name ++ lit " ( " ++ guild.id.val ++
    lit " )")

/-- The handler of `unhandledRejection`. It passes the promise for the channel, and a promise is no
text channel. -/
def onUnhandledRejection (env : Env) : ProcM Unit :=
  Prog.when env.logEnable (emitting (zbotPrintLongMessage (lit "Unhandled Rejection at: Promise")
    none))

/-! ## Members -/

/-- `this.cfg.specific.channels[key]`, looked up among the channels of the guild. The configuration
is the bot's, not the guild's. -/
def memberChannel (env : Env) (guild : Guild) (key : Text) : Except Error (Option Channel) := do
  let channels ← env.specific.get (lit "channels")
  guild.findChannel (← channels.get key)

/-- `welcomeClientAction`, with the mention of the member. -/
def welcomeClientAction (env : Env) (guild : Guild) (mention : Text) : Emit Unit := do
  let channel ← Prog.lift (memberChannel env guild (lit "welcome"))
  sendTextMessage channel (lit ":heart: " ++ mention ++ lit ". Welcome to " ++ guild.name ++
    lit "!")

/-- `leaveClientAction`. An empty nickname is falsy. -/
def leaveClientAction (env : Env) (guild : Guild) (nickname username : Text) : Emit Unit := do
  let channel ← Prog.lift (memberChannel env guild (lit "goodbye"))
  let name := if nickname.isEmpty then username else nickname
  sendTextMessage channel (lit ":broken_heart: **" ++ name ++ lit "** left " ++ guild.name ++
    lit "...")

/-! ## Gifs -/

/-- The response to a request of `getGiphyGif`. -/
inductive GifResponse where
  /-- an error, or a status other than 200 -/
  | failed
  /-- `JSON.parse(body)`, `none` when it throws -/
  | body (responseObj : Option Value)

/-- `postGiphyGif`. -/
def postGiphyGif (id : Value) (channel : Channel) (tags : Text) : Emit Unit :=
  match id with
  | .undefined => sendTextMessage (some channel)
      (lit "Invalid tags, try again with different tags. (Used tags: " ++ tags ++ lit ")")
  | id => do
    let id ← Prog.lift id.toText
    sendTextMessage (some channel)
      (lit "http://media.giphy.com/media/" ++ id ++ lit "/giphy.gif (Tags: " ++ tags ++ lit ")")

/-- `responseObj.data.id`. -/
def gifId (responseObj : Option Value) : Except Error Value :=
  match responseObj with
  | some v => do (← v.get (lit "data")).get (lit "id")
  | none => .error .syntaxError

/-- The callback of the request of `getGiphyGif`. -/
def giphyReply (channel : Channel) (tags : Text) : GifResponse → Emit Unit
  | .failed => pure ()
  | .body responseObj =>
    Prog.tryCatch (do postGiphyGif (← Prog.lift (gifId responseObj)) channel tags)
      (postGiphyGif .undefined channel tags)

/-! ## Callbacks -/

/-- The channel of a message that is handled. -/
def Event.channel : Event → Option Channel
  | .message m => some m.channel
  | _ => none

/-- Carries out a call of the callback of an event. -/
def perform (env : Env) (event : Event) (e : Effect) : ProcM Unit :=
  match e with
  | .send .. | .reply .. => emitting (emit e)
  | .log text => printLog env text
  | .query .. => Prog.modify fun p => { p with queries := p.queries + 1 }
  | .request tags =>
    match event.channel with
    | some channel => Prog.modify fun p => { p with gifs := p.gifs ++ [(channel, tags)] }
    | none => pure ()
  -- the listener of the client runs at once
  | .emitDisconnect => onDisconnect env
  -- what the other calls lead to are events of their own
  | _ => pure ()

/-- The calls that a callback has added to the trace. -/
def newCalls (env : Env) (s : Step) (w : World) : List Effect :=
  ((step env s w).2.trace.drop w.trace.length).map Prod.snd

/-- A callback of the bot, with its calls. -/
def callback (env : Env) (s : Step) : ProcM Unit := do
  let w ← Prog.read Proc.world
  Prog.modify fun p => { p with world := (step env s w).2 }
  Prog.forEach (newCalls env s w) (perform env s.event)
  Prog.lift (step env s w).1

/-- The line about the client in `onReady`. -/
def readyText (channels guilds users : Nat) : Text :=
  lit "Ready to serve in " ++ Value.indexText channels ++ lit " channels on " ++
    Value.indexText guilds ++ lit " servers, for a total of " ++ Value.indexText users ++
    lit " users."

/-- `onReady`. The first two lines go to the channel of before. -/
def onReady (env : Env) (guilds : List Guild) (channels users : Nat) (s : Step) : ProcM Unit := do
  printLog env (lit "Bot ready event")
  printLog env (readyText channels guilds.length users)
  setLogChannel guilds
  callback env s

/-! ## The event loop -/

/-- What the process is woken up for. -/
inductive ProcEvent where
  | callback (s : Step)
  | debug (text : Text)
  | warn (text : Text)
  | error (text : Text)
  | disconnect
  | reconnecting
  | guildUnavailable (guild : Guild)
  | guildMemberAdd (guild : Guild) (mention : Text)
  | guildMemberRemove (guild : Guild) (nickname username : Text)
  /-- the response to the `i`-th pending search -/
  | gifReply (i : Nat) (response : GifResponse)
  /-- the answer to a game query, with the text of the state when it is an error -/
  | queryReply (state : Option Text)
  | unhandledRejection

/-- An event, with the sizes of the client's collections and the texts of exceptions. -/
structure Tick where
  event : ProcEvent
  channels : Nat
  users : Nat
  /-- `${err}` -/
  errorText : Error → Text

/-- Runs the listener of an event. -/
def handle (env : Env) (t : Tick) : ProcM Unit :=
  match t.event with
  | .callback s =>
    match s.event with
    | .ready guilds => onReady env guilds t.channels t.users s
    | _ => callback env s
  | .debug text => onDebug env text
  | .warn text => onWarn env text
  | .error text => onError env text
  | .disconnect => onDisconnect env
  | .reconnecting => onReconnecting env
  | .guildUnavailable guild => onGuildUnavailable env guild
  | .guildMemberAdd guild mention => emitting (welcomeClientAction env guild mention)
  | .guildMemberRemove guild nickname username =>
    emitting (leaveClientAction env guild nickname username)
  | .gifReply i response => do
    let gifs ← Prog.read Proc.gifs
    match gifs[i]? with
    | some (channel, tags) =>
      Prog.modify fun p => { p with gifs := p.gifs.eraseIdx i }
      emitting (giphyReply channel tags response)
    | none => pure ()
  | .queryReply state => do
    let queries ← Prog.read Proc.queries
    Prog.when (0 < queries) do
      Prog.modify fun p => { p with queries := p.queries - 1 }
      match state with
      | some text => printLog env text
      | none => pure ()
  | .unhandledRejection => onUnhandledRejection env

/-- The handler of `uncaughtException`. -/
def onUncaughtException (env : Env) (err : Text) : ProcM Unit :=
  printLog env (lit "Caught exception: " ++ err)

/-- The listener is the callback of a promise. `loginAction` and the listener of `disconnected` wrap
their timers in one. -/
def ProcEvent.inPromise : ProcEvent → Bool
  | .callback ⟨.rcon _ (.timer _), _⟩ => true
  | _ => false

/-- What is done about an exception of a listener: in a promise it is a rejection. -/
def onThrow (env : Env) (t : Tick) (e : Error) : ProcM Unit :=
  if t.event.inPromise then onUnhandledRejection env
  else onUncaughtException env (t.errorText e)

/-- A turn of the event loop. An exception of the handler of exceptions ends the process. -/
def procStep (env : Env) (t : Tick) (p : Proc) : Proc :=
  if p.alive then
    match handle env t p with
    | (.ok _, p') => p'
    | (.error e, p') =>
      match onThrow env t e p' with
      | (.ok _, p'') => p''
      | (.error _, p'') => { p'' with alive := false }
  else p

/-- The process after a run. -/
def procRun (env : Env) (ticks : List Tick) (p : Proc) : Proc :=
  ticks.foldl (fun p t => procStep env t p) p

end ZBot
