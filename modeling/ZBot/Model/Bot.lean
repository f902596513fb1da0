import ZBot.Model.Chat

/-!
# The bot

`World` is the state of `ZBot`: the guild data `_data`, the list `_bercons` of all rcons, and the
requests sent to Redis and not answered yet. Objects that several places refer to are on a heap. A
guild's data object is named by the guild and a generation, since joining a guild replaces the
object while the rcons built on the old one keep it; an rcon is named by the data object it was
built on and a number. So the guild of an object is part of its name.

The `_cfg` of an rcon is the server object of the configuration it was built from. `shared` says
which rcons hold an object of the current configuration, and `World.fill` is a write in place, which
they see.

`_data` is an object whose keys are guild ids, listed in the order of insertion (ids are far above
the range of array indices). `_data[id]` is the newest data object of a listed guild.
-/

namespace ZBot

open Js

/-- A data object: the `gen`-th one made for the guild. -/
structure DataRef where
  guild : GuildId
  gen : Nat
  deriving DecidableEq

/-- An rcon object: the `num`-th one built on its data object. -/
structure RconRef where
  data : DataRef
  num : Nat
  deriving DecidableEq

/-- The guild of an rcon. -/
def RconRef.guild (r : RconRef) : GuildId := r.data.guild

/-- An entry of `_data`. Of `config` only `specific` ever changes. -/
structure GuildData where
  guild : Guild
  /-- `config.specific` -/
  specific : Value
  beRcons : List RconRef
  /-- how many rcons were built on this object -/
  built : Nat
  /-- the position in `specific.bercon.servers` of the object that an rcon has as `_cfg`, as long as
  it is there -/
  shared : Nat → Option Nat

instance : Inhabited GuildData := ⟨⟨default, .undefined, [], 0, fun _ => none⟩⟩

/-- A request to Redis whose answer is pending. -/
inductive Request where
  /-- `KEYS guild:*` -/
  | keys
  /-- `MGET` of the keys -/
  | mget (keys : List Text)
  /-- `GET guild:<id>` of `reloadSpecificConfig(guild, channel)` -/
  | get (guild : Guild) (channel : Option Channel)

structure World where
  running : Bool
  /-- `Object.keys(_data)` -/
  guildIds : List GuildId
  /-- how many data objects were made for a guild -/
  gens : GuildId → Nat
  objs : DataRef → GuildData
  bercons : List RconRef
  rcons : RconRef → Rcon
  redis : List Request
  /-- the effects so far, each with the rcon that made it (`none` for the bot itself) -/
  trace : List (Option RconRef × Effect)

/-- The state after the constructor of `ZBot`. -/
def World.start : World where
  running := false
  guildIds := []
  gens := fun _ => 0
  objs := fun _ => default
  bercons := []
  rcons := fun _ => default
  redis := []
  trace := []

namespace World

variable (w : World)

/-- `_data[id]` of a listed guild. -/
def dataRef (g : GuildId) : DataRef := ⟨g, w.gens g⟩

def data (g : GuildId) : GuildData := w.objs (w.dataRef g)

def setObj (d : DataRef) (f : GuildData → GuildData) : World :=
  { w with objs := Function.update w.objs d (f (w.objs d)) }

def setRcon (r : RconRef) (rcon : Rcon) : World :=
  { w with rcons := Function.update w.rcons r rcon }

@[simp] theorem setObj_self (d : DataRef) (f : GuildData → GuildData) :
    (w.setObj d f).objs d = f (w.objs d) := Function.update_self ..

@[simp] theorem setObj_of_ne {d d' : DataRef} (f : GuildData → GuildData) (h : d' ≠ d) :
    (w.setObj d f).objs d' = w.objs d' := Function.update_of_ne h ..

@[simp] theorem setRcon_self (r : RconRef) (rcon : Rcon) : (w.setRcon r rcon).rcons r = rcon :=
  Function.update_self ..

@[simp] theorem setRcon_of_ne {r r' : RconRef} (rcon : Rcon) (h : r' ≠ r) :
    (w.setRcon r rcon).rcons r' = w.rcons r' := Function.update_of_ne h ..

/-- Adds effects to the trace. -/
def record (source : Option RconRef) (calls : List Effect) : World :=
  { w with trace := w.trace ++ calls.map fun e => (source, e) }

end World

abbrev BotM := Prog World

namespace BotM

/-- Runs code that only makes calls. -/
def emitting {α : Type} (source : Option RconRef) (x : Emit α) : BotM α :=
  Prog.zoom (fun _ => []) (fun w calls => w.record source calls) x

/-- Runs a method of an rcon. -/
def onRcon {α : Type} (r : RconRef) (x : RconM α) : BotM α :=
  Prog.zoom (fun w => ⟨w.rcons r, []⟩) (fun w s => (w.setRcon r s.rcon).record (some r) s.calls) x

end BotM

open BotM

/-! ## Configurations -/

/-- `bercon.enabled && ((bercon.enabled == true && typeof bercon.enabled === "boolean") ||
bercon.enabled == 'on')`. -/
def enabledTest (enabled : Value) : Except Error Bool :=
  match enabled with
  | .bool b => .ok b
  | v => if v.truthy then v.looseEqText (lit "on") else .ok false

/-- The test on `config.specific` in `initBERcon`. -/
def berconEnabled (specific : Value) : Except Error Bool := do
  let bercon ← specific.get (lit "bercon")
  let enabled ← bercon.get (lit "enabled")
  enabledTest enabled

/-- `config.specific.bercon.servers`, with the method `forEach`. -/
def serverList (specific : Value) : Except Error (List Value) := do
  let bercon ← specific.get (lit "bercon")
  let servers ← bercon.get (lit "servers")
  servers.items

/-- Gives a server its `showChannels`: the defaults under its own. -/
def normaliseServer (showChannels server : Value) : Except Error Value := do
  if ← server.hasOwnProperty (lit "showChannels") then
    let own ← server.get (lit "showChannels")
    server.set (lit "showChannels") (showChannels.assign own)
  else
    server.set (lit "showChannels") showChannels

/-- The `forEach` that normalises the servers in place: the servers after it, and whether it
threw. -/
def normaliseServers (showChannels : Value) : List Value → Except Error Unit × List Value
  | [] => (.ok (), [])
  | server :: rest =>
    match normaliseServer showChannels server with
    | .error e => (.error e, server :: rest)
    | .ok server' =>
      let (result, rest') := normaliseServers showChannels rest
      (result, server' :: rest')

/-- Writes `specific.bercon.servers`, which is an array. -/
def setServers (specific : Value) (servers : List Value) : Value :=
  let bercon := (Value.lookup specific.fields (lit "bercon")).getD .undefined
  let fields := ((Value.lookup bercon.fields (lit "servers")).getD .undefined).fields
  match bercon.set (lit "servers") (.arr servers fields) with
  | .ok bercon' =>
    match specific.set (lit "bercon") bercon' with
    | .ok specific' => specific'
    | .error _ => specific
  | .error _ => specific

/-- `config.specific.bercon.servers.forEach(…)` of `applyConfig` and `applyConfigs`, in place. -/
def normalise (showChannels specific : Value) : Except Error Unit × Value :=
  match serverList specific with
  | .error e => (.error e, specific)
  | .ok servers =>
    let (result, servers') := normaliseServers showChannels servers
    (result, setServers specific servers')

/-- `JSON.parse(text)`; `null` is read as the text `null`, and a missing result as `undefined`,
which is no JSON. -/
def jsonParse (env : Env) : Option (Option Text) → Except Error Value
  | none => .error .syntaxError
  | some none => .ok .null
  | some (some text) =>
    match env.parse text with
    | some v => .ok v
    | none => .error .syntaxError

/-- `guildData.config.specific = specific`, a new object. -/
def setSpecific (d : DataRef) (specific : Value) : BotM Unit :=
  Prog.modify fun w => w.setObj d fun data =>
    { data with specific := specific, shared := fun _ => none }

/-- An rcon after the servers were written, when its `_cfg` is the one at the position. -/
def Rcon.reread (this : Rcon) (servers : List Value) (position : Option Nat) : Rcon :=
  match position.bind fun i => servers[i]? with
  | some server => { this with cfg := server }
  | none => this

/-- The configuration object is written in place. -/
def World.fill (w : World) (d : DataRef) (specific : Value) : World :=
  { w.setObj d fun data => { data with specific := specific } with
    rcons := fun r =>
      if r.data = d then
        (w.rcons r).reread ((serverList specific).toOption.getD []) ((w.objs d).shared r.num)
      else w.rcons r }

/-- The loop over the servers of the guild's current configuration. -/
def normaliseData (env : Env) (d : DataRef) : BotM Unit := do
  let specific ← Prog.read fun w : World => (w.objs d).specific
  let (result, specific') := normalise env.showChannels specific
  Prog.modify fun w => w.fill d specific'
  Prog.lift result

/-- `applyConfig`. -/
def applyConfig (env : Env) (g : GuildId) (specificConfig : Text) : BotM Unit := do
  let known ← Prog.read fun w : World => w.guildIds.contains g
  let d ← Prog.read fun w : World => w.dataRef g
  Prog.when known do
    let specific ← Prog.lift (jsonParse env (some (some specificConfig)))
    Prog.when specific.truthy (setSpecific d specific)
    normaliseData env d

/-- The key of a guild's configuration in Redis. -/
def guildKey (g : GuildId) : Text := lit "guild:" ++ g.val

/-- The body of the `forEach` of `applyConfigs`. -/
def applyStored (env : Env) (key : Text) (stored : Option (Option Text)) : BotM Unit := do
  let guildId := replaceFirst key (lit "guild:") []
  let known ← Prog.read fun w : World => w.guildIds.find? fun g => g.val == guildId
  match known with
  | none => pure ()
  | some g =>
    let specific ← Prog.lift (jsonParse env stored)
    let d ← Prog.read fun w : World => w.dataRef g
    Prog.when specific.truthy do
      setSpecific d specific
      normaliseData env d

/-- `applyConfigs`. -/
def applyConfigs (env : Env) (keys : List Text) (specificConfigs : List (Option Text)) :
    BotM Unit :=
  Prog.forEach keys.zipIdx fun key => applyStored env key.1 specificConfigs[key.2]?

/-! ## The registry of rcons -/

/-- The fresh entry of `_data` that `findAllActiveGuilds` and `addActiveGuild` make. -/
def newGuildData (env : Env) (guild : Guild) : GuildData :=
  ⟨guild, env.specific, [], 0, fun _ => none⟩

/-- `this._data[String(guild.id)] = {…}`. -/
def World.addData (env : Env) (guild : Guild) (w : World) : World :=
  { w with
    guildIds := if guild.id ∈ w.guildIds then w.guildIds else w.guildIds ++ [guild.id]
    gens := Function.update w.gens guild.id (w.gens guild.id + 1)
    objs := Function.update w.objs ⟨guild.id, w.gens guild.id + 1⟩ (newGuildData env guild) }

/-- `findAllActiveGuilds`, with the guilds of the client. -/
def findAllActiveGuilds (env : Env) (guilds : List Guild) : BotM Unit :=
  Prog.forEach guilds fun guild => do
    emitting none (logBot env (guild.id.val ++ lit " " ++ guild.name))
    Prog.modify (World.addData env guild)

/-- `addActiveGuild`. The test asks for a guild of the name `key`. -/
def addActiveGuild (env : Env) (guild : Guild) : BotM Unit := do
  let known ← Prog.read fun w : World => w.guildIds.any fun g => g.val == lit "key"
  Prog.when (!known) do
    emitting none (logBot env (lit "New Guild: " ++ guild.id.val ++ lit " " ++ guild.name))
    Prog.modify (World.addData env guild)

/-- `updateGuildData`. -/
def updateGuildData (oldGuild newGuild : Guild) : BotM Unit := do
  let known ← Prog.read fun w : World => w.guildIds.contains oldGuild.id
  Prog.when known (Prog.modify fun w =>
    w.setObj (w.dataRef oldGuild.id) fun data => { data with guild := newGuild })

/-- The loop body of `initBERcon` on an old rcon: nothing is done when it has no BattleNode. -/
def closeRcon (env : Env) (o : RconRef → Oracle) (r : RconRef) : BotM Unit := do
  let rcon ← Prog.read fun w : World => w.rcons r
  match rcon.bnode with
  | some n =>
    onRcon r (close env (o r) n)
    -- lodash.remove(this._bercons, (n) => n === rcon)
    Prog.modify fun w => { w with bercons := w.bercons.filter (· != r) }
  | none => pure ()

/-- `new this._bercon(this._data[id], beRconData, …)` on the server at the position, and the two
pushes. -/
def buildRcon (env : Env) (o : RconRef → Oracle) (d : DataRef) (server : Value) (position : Nat) :
    BotM Unit := do
  let data ← Prog.read fun w : World => w.objs d
  let r : RconRef := ⟨d, data.built⟩
  Prog.modify fun w =>
    (w.setObj d fun data => { data with
      built := data.built + 1
      shared := Function.update data.shared r.num (some position) }).setRcon r
      (.blank server data.guild)
  onRcon r (construct env (o r) data.specific)
  Prog.modify fun w => w.setObj d fun data => { data with beRcons := data.beRcons ++ [r] }
  Prog.modify fun w => { w with bercons := w.bercons ++ [r] }

/-- The second half of both branches of `initBERcon`: the rcons of one guild are built. -/
def buildRcons (env : Env) (o : RconRef → Oracle) (d : DataRef) : BotM Unit := do
  let specific ← Prog.read fun w : World => (w.objs d).specific
  let enabled ← Prog.lift (berconEnabled specific)
  Prog.when enabled do
    let servers ← Prog.lift (serverList specific)
    Prog.forEach servers.zipIdx fun server => buildRcon env o d server.1 server.2

/-- `initBERcon(guild)`. -/
def initBERconGuild (env : Env) (o : RconRef → Oracle) (g : GuildId) : BotM Unit := do
  let known ← Prog.read fun w : World => w.guildIds.contains g
  if known then
    let d ← Prog.read fun w : World => w.dataRef g
    let beRcons ← Prog.read fun w : World => (w.objs d).beRcons
    Prog.forEach beRcons (closeRcon env o)
    Prog.modify fun w => w.setObj d fun data => { data with beRcons := [] }
    buildRcons env o d
  else Prog.raise .typeError

/-- `initBERcon(null)`. -/
def initBERconAll (env : Env) (o : RconRef → Oracle) : BotM Unit := do
  let guildIds ← Prog.read World.guildIds
  Prog.forEach guildIds fun g => do
    let d ← Prog.read fun w : World => w.dataRef g
    buildRcons env o d

/-! ## Redis -/

/-- Sends a request. -/
def request (req : Request) : BotM Unit :=
  Prog.modify fun w => { w with redis := w.redis ++ [req] }

/-- `reloadSpecificConfig`. -/
def reloadSpecificConfig (guild : Guild) (channel : Option Channel) : BotM Unit :=
  request (.get guild channel)

/-- The callback of `reloadSpecificConfig`. An empty string is falsy. -/
def reloadReply (env : Env) (o : RconRef → Oracle) (guild : Guild) (channel : Option Channel)
    (result : Option Text) : BotM Unit :=
  let name := guild.name ++ lit " (" ++ guild.id.val ++ lit ")"
  match result with
  | some (c :: text) => do
    emitting none (sendTextMessage channel (lit "Reloaded config."))
    emitting none (logBot env (lit "Reloaded config for: " ++ name))
    applyConfig env guild.id (c :: text)
    initBERconGuild env o guild.id
  | _ => do
    emitting none (sendTextMessage channel (lit "No config found for " ++ name))
    emitting none (logBot env (lit "No config found for: " ++ name))

/-- `getAllSpecificConfigs`. -/
def getAllSpecificConfigs : BotM Unit := request .keys

/-- The callback of the `MGET` of `getAllSpecificConfigs`. -/
def mgetReply (env : Env) (o : RconRef → Oracle) (keys : List Text)
    (results : List (Option Text)) : BotM Unit := do
  applyConfigs env keys results
  initBERconAll env o

/-! ## Discord events -/

/-- The rcons of all guilds are built, from the stored configurations when Redis is used. -/
def initRcons (env : Env) (o : RconRef → Oracle) : BotM Unit :=
  if env.useRedis then getAllSpecificConfigs else initBERconAll env o

/-- `initAfterReady`, with the guilds of the client. -/
def initAfterReady (env : Env) (o : RconRef → Oracle) (guilds : List Guild) : BotM Unit := do
  let running ← Prog.read World.running
  Prog.when (!running) do
    findAllActiveGuilds env guilds
    initRcons env o
    Prog.modify fun w => { w with running := true }

/-- `newGuildAction`. -/
def newGuildAction (env : Env) (o : RconRef → Oracle) (guild : Guild) : BotM Unit := do
  addActiveGuild env guild
  if env.useRedis then reloadSpecificConfig guild none else initBERconAll env o

/-- `onGuildCreate`. -/
def onGuildCreate (env : Env) (o : RconRef → Oracle) (guild : Guild) : BotM Unit := do
  newGuildAction env o guild
  emitting none (logBot env (lit "New guild: " ++ guild.name))

/-- The owner of the bot, who alone may run some commands. -/
def ownerId : Text := lit "111897789654421504"

/-- `broadcastMessage`. -/
def broadcastMessage (text : Text) : BotM Unit := do
  let bercons ← Prog.read World.bercons
  Prog.forEach bercons fun r => do
    let rcon ← Prog.read fun w : World => w.rcons r
    emitting none (sendTextMessage rcon.commandChannel
      (replaceFirst text (lit "!zbot broadcast ") []))

/-- `listStats`. -/
def listStats (env : Env) (channel : Option Channel) : BotM Unit := do
  emitting none (sendTextMessage channel env.servingText)
  let bercons ← Prog.read World.bercons
  emitting none (sendTextMessage channel (lit "This includes a total of " ++
    Value.indexText bercons.length ++ lit " RCON instances."))

/-- The line of `listExtraStats` about one rcon. -/
def rconLine (rcon : Rcon) : Except Error Text := do
  let name ← rcon.cfg.get (lit "name")
  return lit "Guild: " ++ rcon.guild.name ++ lit " -> RCON: " ++ (← name.toText) ++ lit " - \n"

/-- `listExtraStats`. -/
def listExtraStats (env : Env) (channel : Option Channel) : BotM Unit := do
  let rcons ← Prog.read fun w : World => w.bercons.map w.rcons
  let lines ← Prog.lift (rcons.mapM rconLine)
  emitting none
    (zbotPrintLongMessage (env.guildsText ++ lit "\nRCONs:\n\n" ++ lines.flatten) channel)

/-- `listInfo`. The rcons in a data object refer back to it by `_data`, so `JSON.stringify` throws
when there are any. It gives nothing to print for an unknown guild; only the name `__proto__` finds
an object there, the empty one. -/
def listInfo (env : Env) (guildId : Text) (channel : Option Channel) : BotM Unit := do
  let known ← Prog.read fun w : World => w.guildIds.find? fun g => g.val == guildId
  match known with
  | some g =>
    let data ← Prog.read fun w : World => w.data g
    if data.beRcons.isEmpty then
      emitting none (zbotPrintLongMessage (env.infoText data.guild data.specific) channel)
    else Prog.raise .typeError
  | none =>
    Prog.when (guildId = lit "__proto__")
      (emitting none (zbotPrintLongMessage (lit "\x7b\x7d") channel))

/-- The answer to anyone but the owner. -/
def ownerOnly (message : Message) : BotM Unit :=
  emitting none
    (zbotPrintLongMessage (lit "Only Zupa can use this command.") (some message.channel))

/-- The commands of `lib/commands`, and the answers of the interface itself. -/
def runCli (env : Env) (message : Message) : CliCall → BotM Unit
  | .answer text => emitting none (emit (.reply message.channel (nl ++ text)))
  | .about => emitting none (emit (.reply message.channel (nl ++
      lit ("Hi, I am the Zupa Bot! I'll try and make the server a better place one step at the " ++
        "time. I'm currently still in development but together we are going to automate this " ++
        "server for a better and faster friendly experience!"))))
  | .awesome name => emitting none (emit (.reply message.channel (nl ++
      if name = lit "Zupa" then lit "Damn! " ++ name ++ lit " is fucking awesome!"
      else lit "Wow! " ++ name ++ lit " sucks big time...")))
  | .maker =>
    emitting none (emit (.reply message.channel (nl ++ lit "All this love comes from Zupa!")))
  | .broadcast =>
    if message.authorId = ownerId then broadcastMessage message.content else ownerOnly message
  | .disconnect =>
    Prog.when (message.authorId = ownerId) (emitting none (emit .emitDisconnect))
  | .gif => emitting none
      (emit (.request (replaceFirst message.content (env.cliPrefix ++ lit " gif ") [])))
  | .listinfo guildId =>
    if message.authorId = ownerId then listInfo env guildId (some message.channel)
    else ownerOnly message
  | .liststats extended =>
    if message.authorId = ownerId then do
      listStats env (some message.channel)
      Prog.when (extended = lit "true") (listExtraStats env (some message.channel))
    else ownerOnly message
  | .reload =>
    match message.guild with
    | some guild => reloadSpecificConfig guild (some message.channel)
    | none => Prog.raise .typeError

/-- `checkCliMessagesAction`. -/
def checkCliMessagesAction (env : Env) (message : Message) : BotM Unit :=
  match env.cli message.content with
  | some c => runCli env message c
  | none => pure ()

/-- The call of `checkAdminCommand` on one rcon. -/
def adminAction (env : Env) (o : RconRef → Oracle) (message : Message) (r : RconRef) :
    BotM Unit := do
  let rcon ← Prog.read fun w : World => w.rcons r
  let specific ← Prog.read fun w : World => (w.objs r.data).specific
  emitting (some r) (checkAdminCommand env rcon specific (o r).throws message)

/-- `checkMessageAction`. The welcome and the icon check have no effect. -/
def checkMessageAction (env : Env) (o : RconRef → Oracle) (message : Message) : BotM Unit :=
  Prog.when (!message.authorBot) do
    checkCliMessagesAction env message
    let bercons ← Prog.read World.bercons
    Prog.forEach bercons (adminAction env o message)

end ZBot
