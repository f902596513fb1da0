import ZBot.Js.Program

/-!
# Discord, BattlEye and the effects of the bot

The objects the bot is handed by its libraries, and the calls it makes back to them. A handler is
judged by these calls, so they are kept in order as a list of `Effect`s; `Emit` is the monad of the
code that only makes calls and changes no state of the bot.

A few effects are no calls of a library but marks of the bot's own steps that the properties count:
the call of `reInit` with what caused it, a login that was handled as a success, and the moment
`initBERcon` drops an rcon for good.
-/

namespace ZBot

open Js

/-! ## What Discord hands over -/

/-- Discord ids are decimal numbers. -/
def IsSnowflake (t : Text) : Prop := t ≠ [] ∧ ∀ c ∈ t, 48 ≤ c ∧ c ≤ 57

/-- The id of a guild. -/
abbrev GuildId := {t : Text // IsSnowflake t}

inductive ChannelType where
  | text
  | voice
  | dm
  deriving DecidableEq, Repr

structure Channel where
  id : Text
  /-- The guild of a guild channel, `none` for a direct message. -/
  guildId : Option GuildId
  name : Text
  type : ChannelType
  deriving DecidableEq

structure Role where
  name : Text
  /-- `member.toString()` of each member: its mention. -/
  members : List Text

/-- A guild as the client caches it. Its channels are its own. -/
structure Guild where
  id : GuildId
  name : Text
  channels : List Channel
  roles : List Role
  channels_own : ∀ c ∈ channels, c.guildId = some id

/-- The id `0`, for default values only. -/
def GuildId.zero : GuildId :=
  ⟨[48], by simp, by
    intro c hc
    rw [List.mem_singleton.1 hc]
    decide⟩

instance : Inhabited Guild := ⟨⟨GuildId.zero, [], [], [], by simp⟩⟩

/-- `guild.channels.find('name', v)`: names are compared with `===`, and a missing value is
refused. -/
def Guild.findChannel (guild : Guild) : Value → Except Error (Option Channel)
  | .undefined => .error .error
  | .str s => .ok (guild.channels.find? (·.name == s))
  | _ => .ok none

theorem Guild.findChannel_mem {guild : Guild} {v : Value} {c : Channel}
    (h : guild.findChannel v = .ok (some c)) : c ∈ guild.channels := by
  cases v <;> simp only [Guild.findChannel, reduceCtorEq, Except.ok.injEq] at h
  exact List.mem_of_find?_eq_some h

structure Message where
  authorId : Text
  authorBot : Bool
  /-- The names of the roles of `message.member`, `none` when there is no member. -/
  member : Option (List Text)
  channel : Channel
  guild : Option Guild
  content : Text

/-! ## Effects -/

/-- What is done with the game server's answer to a command. -/
inductive Callback where
  | none
  | text
  | long
  | playerList
  deriving DecidableEq, Repr

/-- Why a reconnect timer was armed. -/
inductive Cause where
  | loginError
  | disconnected
  deriving DecidableEq, Repr

inductive Effect where
  /-- `channel.send(text)` -/
  | send (channel : Channel) (text : Text)
  /-- `message.reply(text)` in the message's channel -/
  | reply (channel : Channel) (text : Text)
  /-- `zbot.logBot(text)` -/
  | log (text : Text)
  /-- `new BattleNode(cfg)`, the `n`-th of its rcon -/
  | newNode (n : Nat)
  /-- `bnode.login()` -/
  | login (n : Nat)
  /-- `bnode.sendCommand(s, callback)` -/
  | command (n : Nat) (s : Text) (callback : Callback)
  /-- `bnode.socket.close()` -/
  | closeSocket (n : Nat)
  /-- `Gamedig.query` with its host and ports as texts -/
  | query (host port portQuery : Text)
  /-- `request` to the gif search -/
  | request (tags : Text)
  /-- `bot.emit('disconnect')` -/
  | emitDisconnect
  /-- `this.reInit()` is called -/
  | reInit (cause : Cause)
  /-- `loginAction` handles a success -/
  | loggedIn
  /-- `initBERcon` has cleared the rcon's `bnode` and removes it from `_bercons` -/
  | stopped
  deriving DecidableEq

/-- Code that only makes calls. -/
abbrev Emit := Prog (List Effect)

def emit (e : Effect) : Emit Unit := Prog.modify (· ++ [e])

/-- A call of a BattleNode, which `throws` may make fail. -/
def call (throws : Effect → Bool) (e : Effect) : Emit Unit := do
  emit e
  Prog.when (throws e) (Prog.raise .error)

/-- `sendTextMessage` (the same in both classes). -/
def sendTextMessage (channel : Option Channel) (text : Text) : Emit Unit :=
  match channel with
  | some channel => Prog.when (channel.type = .text) (emit (.send channel text))
  | none => pure ()

/-- The text of the message that `channel.send(content)` asks for. The items of an array are lines,
and any other object holds the options of a message without a text. What cannot be converted gives
no text: the promise of `send` is rejected then, and nothing is thrown. -/
def contentText : Value → Text
  | .arr items _ =>
    match items.mapM fun item => if item.defined then item.toText else .ok [] with
    | .ok lines => (lines.intersperse (lit "\n")).flatten
    | .error _ => []
  | .obj _ => []
  | .undefined => []
  | content => content.toText.toOption.getD []

/-! ## Parameters -/

/-- A sentence that the command line interface recognised. -/
inductive CliCall where
  /-- the interface answers itself: help, an unknown command, a wrong argument -/
  | answer (text : Text)
  | about
  | awesome (name : Text)
  | broadcast
  | disconnect
  | gif
  | listinfo (guildId : Text)
  | liststats (extended : Text)
  | maker
  | reload

/-- The configuration file, and what the bot takes from its libraries. -/
structure Env where
  /-- `cfg.useRedis` -/
  useRedis : Bool
  /-- `cfg.log.enable` -/
  logEnable : Bool
  /-- `cfg.specific` -/
  specific : Value
  /-- the text of `cfg.rconReconnect / 1000` -/
  reconnectSec : Text
  /-- `defaultConfig.showChannels` -/
  showChannels : Value
  /-- `JSON.parse`, `none` when it throws -/
  parse : Text → Option Value
  /-- `clapp.isCliSentence` and `clapp.parseInput` -/
  cli : Text → Option CliCall
  /-- `cfg.prefix` -/
  cliPrefix : Text
  /-- the country `geoip.lookup` gives, in lower case -/
  country : Text → Option Text
  /-- the command tables of the help text as `cli-table2` renders them -/
  commandTable : Text
  serverCommandTable : Text
  /-- the line of `listStats` about the client, and the guilds of `listExtraStats` -/
  servingText : Text
  guildsText : Text
  /-- `JSON.stringify` of a data object without rcons, with the given guild and `config.specific` -/
  infoText : Guild → Value → Text
  deriving Inhabited

/-- `logBot`. The log channel is one channel for all guilds. -/
def logBot (env : Env) (text : Text) : Emit Unit :=
  Prog.when env.logEnable (emit (.log text))

end ZBot
