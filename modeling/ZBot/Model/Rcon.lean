import ZBot.Model.Printer

/-!
# An rcon instance

`ZBotBERcon` owns one BattleNode at a time, listens to its events, and replaces it when the
connection is lost. `Rcon` holds the fields of the class, and beside them the part of the outside
world that belongs to the instance: every BattleNode it ever created, its pending reconnect timers
and its live cron jobs. `RconSt` adds the calls made so far.

The functions here are the constructor, the event handlers of `initEvents`, the cron jobs and the
body of the loop in `initBERcon` that closes an instance. `Oracle` says which calls of a BattleNode
throw and which cron specs `schedule.scheduleJob` accepts.
-/

namespace ZBot

open Js

/-- A BattleNode as the outside sees it. -/
structure Node where
  /-- `initEvents` has put its listeners on it -/
  listening : Bool
  /-- `login()` was called -/
  login : Bool
  /-- a login error or a `disconnected` event was delivered to the listeners -/
  ended : Bool
  /-- `initBERcon` has closed its socket -/
  closed : Bool
  deriving DecidableEq, Repr

/-- A BattleNode that may still lose its connection: logged in, and no end of it handled. -/
def Node.live (n : Node) : Bool := n.login && !n.ended

/-- A live job of `node-schedule`, with the text it says when it fires. -/
structure CronJob where
  id : Nat
  text : Value

structure Rcon where
  cfg : Value
  guild : Guild
  bnode : Option Nat
  commandChannel : Option Channel
  sideChannel : Option Channel
  groupChannel : Option Channel
  directChannel : Option Channel
  adminChannel : Option Channel
  connectChannel : Option Channel
  vehicleChannel : Option Channel
  defaultChannel : Option Channel
  globalChannel : Option Channel
  continue_ : Bool
  /-- `_cronJobs`: the handles `scheduleJob` returned, `none` for `null` -/
  cronJobs : List (Option Nat)
  loginAttempts : Nat
  actions : List Value
  /-- every BattleNode asked for so far, also one whose constructor threw; `bnode` is an index into
  it -/
  nodes : List Node
  /-- the reconnect timers that have not fired yet -/
  timers : List Cause
  /-- the jobs that are scheduled and not cancelled -/
  liveJobs : List CronJob
  /-- how many jobs were scheduled so far -/
  jobCount : Nat

/-- An instance before its constructor has run. -/
def Rcon.blank (cfg : Value) (guild : Guild) : Rcon where
  cfg := cfg
  guild := guild
  bnode := none
  commandChannel := none
  sideChannel := none
  groupChannel := none
  directChannel := none
  adminChannel := none
  connectChannel := none
  vehicleChannel := none
  defaultChannel := none
  globalChannel := none
  continue_ := false
  cronJobs := []
  loginAttempts := 0
  actions := []
  nodes := []
  timers := []
  liveJobs := []
  jobCount := 0

instance : Inhabited Rcon := ⟨.blank .undefined default⟩

/-- The channels an instance is bound to. -/
def Rcon.channels (this : Rcon) : List Channel :=
  [this.commandChannel, this.sideChannel, this.groupChannel, this.directChannel, this.adminChannel,
    this.connectChannel, this.vehicleChannel, this.defaultChannel, this.globalChannel].reduceOption

/-- What the libraries decide while a step runs. -/
structure Oracle where
  /-- the calls of the instance's BattleNodes that throw -/
  throws : Effect → Bool
  /-- the specs `schedule.scheduleJob` accepts -/
  accepts : Value → Bool

structure RconSt where
  rcon : Rcon
  calls : List Effect

abbrev RconM := Prog RconSt

namespace RconM

/-- Runs code that only makes calls. -/
def emitting {α : Type} (x : Emit α) : RconM α :=
  Prog.zoom (fun _ => []) (fun s calls => { s with calls := s.calls ++ calls }) x

def this : RconM Rcon := Prog.read RconSt.rcon

def update (f : Rcon → Rcon) : RconM Unit := Prog.modify fun s => { s with rcon := f s.rcon }

end RconM

open RconM

/-! ## Talking to the BattleNode -/

/-- `this._bnode.sendCommand(s, callback)`. -/
def sendCommand (this : Rcon) (throws : Effect → Bool) (s : Text) (callback : Callback) :
    Emit Unit :=
  match this.bnode with
  | some n => call throws (.command n s callback)
  | none => Prog.raise .typeError

/-- `cmdSayGlobalMessage`. -/
def cmdSayGlobalMessage (this : Rcon) (throws : Effect → Bool) (text : Value) : Emit Unit := do
  let text ← Prog.lift text.toText
  sendCommand this throws (lit "say -1 " ++ text) .none

/-- `cmdDisconnect`. -/
def cmdDisconnect (this : Rcon) (throws : Effect → Bool) : Emit Unit := do
  sendTextMessage this.commandChannel (lit "Sending disconnect command.")
  sendCommand this throws (lit "disconnect") .text

/-- `cmdExit`. -/
def cmdExit (this : Rcon) (throws : Effect → Bool) : Emit Unit := do
  sendTextMessage this.commandChannel (lit "Sending exit command.")
  sendCommand this throws (lit "exit") .text

/-! ## Cron jobs -/

/-- `job.cancel()` on a handle of `_cronJobs`. -/
def cancelJob (job : Option Nat) : RconM Unit :=
  match job with
  | some id => update fun this => { this with liveJobs := this.liveJobs.filter (·.id != id) }
  | none => Prog.raise .typeError

/-- `cancelCronJobs`. -/
def cancelCronJobs : RconM Unit := do
  let this ← this
  Prog.forEach this.cronJobs cancelJob
  update fun this => { this with cronJobs := [] }

/-- `schedule.scheduleJob(time, …)`: the handle of a live job, or `null`. -/
def scheduleJob (o : Oracle) (time text : Value) : RconM (Option Nat) := do
  if o.accepts time then
    let this ← this
    update fun this => { this with
      liveJobs := this.liveJobs ++ [⟨this.jobCount, text⟩], jobCount := this.jobCount + 1 }
    return some this.jobCount
  else return none

/-- The `forEach` of `initCronJobs`, with the handles pushed so far. -/
def scheduleJobs (o : Oracle) : List Value → List (Option Nat) → RconM (List (Option Nat))
  | [], jobs => pure jobs
  | job :: rest, jobs => do
    let time ← Prog.lift (job.get (lit "time"))
    if time.truthy then
      let text ← Prog.lift (job.get (lit "text"))
      if text.truthy then
        let cronjob ← scheduleJob o time text
        scheduleJobs o rest (jobs ++ [cronjob])
      else scheduleJobs o rest jobs
    else scheduleJobs o rest jobs

/-- `initCronJobs`. -/
def initCronJobs (o : Oracle) : RconM Unit := do
  cancelCronJobs
  let this ← this
  let cfgJobs ← Prog.lift (this.cfg.get (lit "jobs"))
  let cfgJobs ← Prog.lift cfgJobs.items
  let jobs ← scheduleJobs o cfgJobs []
  update fun this => { this with cronJobs := jobs }
  emitting (sendTextMessage this.commandChannel (lit "Cron Jobs initiated."))

/-- The function a cron job runs. -/
def cronAction (o : Oracle) (text : Value) : RconM Unit := do
  let this ← this
  emitting (cmdSayGlobalMessage this o.throws text)

/-! ## Connecting -/

/-- `this._bnode = new BattleNode(this._cfg)`. When the constructor throws, `_bnode` stays as it
is. -/
def newBattleNode (o : Oracle) : RconM Nat := do
  let this ← this
  let n := this.nodes.length
  update fun this => { this with nodes := this.nodes ++ [⟨false, false, false, false⟩] }
  emitting (call o.throws (.newNode n))
  update fun this => { this with bnode := some n }
  return n

/-- Writes the `n`-th node. -/
def Rcon.setNode (this : Rcon) (n : Nat) (f : Node → Node) : Rcon :=
  { this with nodes := this.nodes.modify n f }

/-- The log line of `init` and `reInit`. -/
def logLogin (env : Env) : RconM Unit := do
  let this ← this
  match this.defaultChannel with
  | some channel =>
    emitting (logBot env (lit "Login " ++ this.guild.name ++ lit " : " ++ channel.name))
  | none => Prog.raise .typeError

/-- `initEvents`: the listeners are put on the current BattleNode. -/
def initEvents (n : Nat) : RconM Unit :=
  update fun this => this.setNode n fun node => { node with listening := true }

/-- `this._bnode.login()`. A call that throws may have sent its packet. -/
def login (o : Oracle) (n : Nat) : RconM Unit := do
  update fun this => this.setNode n fun node => { node with login := true }
  emitting (call o.throws (.login n))

/-- `this._guild.channels.find('name', this.cfg.channels[key])`. -/
def findChannel (this : Rcon) (key : String) : Except Error (Option Channel) := do
  let channels ← this.cfg.get (lit "channels")
  let name ← channels.get (lit key)
  this.guild.findChannel name

/-- `bindChannels`. -/
def bindChannels : RconM Unit := do
  let this ← this
  let command ← Prog.lift (findChannel this "commands")
  update fun this => { this with commandChannel := command }
  let side ← Prog.lift (findChannel this "side")
  update fun this => { this with sideChannel := side }
  let group ← Prog.lift (findChannel this "group")
  update fun this => { this with groupChannel := group }
  let direct ← Prog.lift (findChannel this "direct")
  update fun this => { this with directChannel := direct }
  let admin ← Prog.lift (findChannel this "admin")
  update fun this => { this with adminChannel := admin }
  let joins ← Prog.lift (findChannel this "joins")
  update fun this => { this with connectChannel := joins }
  let vehicle ← Prog.lift (findChannel this "vehicle")
  update fun this => { this with vehicleChannel := vehicle }
  let default ← Prog.lift (findChannel this "default")
  update fun this => { this with defaultChannel := default }
  let global ← Prog.lift (findChannel this "global")
  update fun this => { this with globalChannel := global }
  Prog.when (default.any (·.type = .text)) (update fun this => { this with continue_ := true })

/-- `init`. -/
def init (env : Env) (o : Oracle) : RconM Unit := do
  let n ← newBattleNode o
  bindChannels
  let this ← this
  Prog.when this.continue_ do
    logLogin env
    initEvents n
    login o n

/-- `reInit`. -/
def reInit (env : Env) (o : Oracle) : RconM Unit := do
  let n ← newBattleNode o
  logLogin env
  initEvents n
  login o n

/-- The constructor, on the configuration of the guild and of the server. -/
def construct (env : Env) (o : Oracle) (specific : Value) : RconM Unit := do
  let this ← this
  let actions ← Prog.lift (this.cfg.get (lit "actions"))
  let bercon ← Prog.lift (specific.get (lit "bercon"))
  let sharedActions ← Prog.lift (bercon.get (lit "sharedActions"))
  update fun this => { this with actions := actions.values ++ sharedActions.values }
  init env o

/-! ## Losing the connection -/

/-- `setTimeout` of a reconnect. -/
def armTimer (cause : Cause) : RconM Unit :=
  update fun this => { this with timers := this.timers ++ [cause] }

/-- The listener of `disconnected`. -/
def disconnectedAction (env : Env) (extra : Option Text) : RconM Unit := do
  cancelCronJobs
  let this ← this
  if extra = some (lit "stop") then
    emitting (logBot env (lit "RCON stopped on purpose. ZBot reload for " ++ this.guild.name))
    emitting (sendTextMessage this.commandChannel
      (lit "RCON server disconnected on purpose. ZBot reload"))
  else
    emitting (logBot env (lit "RCON server disconnected. Trying to reconnect in " ++
      env.reconnectSec ++ lit " sec for " ++ this.guild.name))
    emitting (sendTextMessage this.commandChannel
      (lit "RCON server disconnected. Trying to reconnect in " ++ env.reconnectSec ++ lit " sec."))
    armTimer .disconnected

/-- `loginAction`. -/
def loginAction (env : Env) (o : Oracle) (err : Bool) (success : Option Bool) : RconM Unit := do
  let this ← this
  if err then
    emitting (logBot env (lit "Unable to connect to server for " ++ this.guild.name))
    emitting (sendTextMessage this.commandChannel
      (lit "Unable to connect to server. Trying to reconnect in " ++ env.reconnectSec ++
        lit " sec."))
    emitting (logBot env (lit "LoginAttempts " ++ Value.indexText this.loginAttempts))
    if this.loginAttempts < 60 then
      armTimer .loginError
    else
      emitting (sendTextMessage this.commandChannel
        (lit "Failed " ++ Value.indexText this.loginAttempts ++
          lit (" times to connect to the gameserver, please check if the server is online. " ++
            "@admin @administrator @rcon-admin")))
      emitting (logBot env (lit "Failed " ++ Value.indexText this.loginAttempts ++
        lit " times to connect to the gameserver of " ++ this.guild.name))
  else if success = some true then
    emitting (logBot env (lit "Logged in RCON successfully for " ++ this.guild.name))
    emitting (sendTextMessage this.commandChannel (lit "Logged in RCON successfully"))
    update fun this => { this with loginAttempts := 0 }
    emitting (emit .loggedIn)
    initCronJobs o
  else if success = some false then
    emitting (logBot env
      (lit "RCON login failed! (password may be incorrect) for " ++ this.guild.name))
    emitting (sendTextMessage this.commandChannel
      (lit "RCON login failed! Check your authentications and zbot reload."))
  else pure ()

/-- The first line of a reconnect: after a login error it is counted, after a lost connection it is
logged. -/
def noteReconnect (env : Env) : Cause → RconM Unit
  | .loginError => update fun this => { this with loginAttempts := this.loginAttempts + 1 }
  | .disconnected => do
    let this ← this
    emitting (logBot env (lit "Creating new rcon for " ++ this.guild.name))

/-- What a reconnect timer does when it fires. -/
def reconnect (env : Env) (o : Oracle) (cause : Cause) : RconM Unit := do
  noteReconnect env cause
  update fun this => { this with bnode := none }
  emitting (emit (.reInit cause))
  reInit env o

/-! ## Closing -/

/-- `bnode.socket.close()`. -/
def closeSocket (o : Oracle) (n : Nat) : RconM Unit := do
  emitting (call o.throws (.closeSocket n))
  update fun this => this.setNode n fun node => { node with closed := true }

/-- `bnode.emit('disconnected', extra)`: the end of the node reaches its listeners. -/
def emitDisconnected (env : Env) (n : Nat) (extra : Option Text) : RconM Unit := do
  let this ← this
  match this.nodes[n]? with
  | some node =>
    Prog.when node.listening do
      update fun this => this.setNode n fun node => { node with ended := true }
      disconnectedAction env extra
  | none => pure ()

/-- The body of the loop in `initBERcon` that closes an instance with the BattleNode `n`. -/
def close (env : Env) (o : Oracle) (n : Nat) : RconM Unit := do
  let this ← this
  emitting (cmdDisconnect this o.throws)
  emitting (cmdExit this o.throws)
  closeSocket o n
  emitDisconnected env n (some (lit "stop"))
  update fun this => { this with bnode := none }
  emitting (emit .stopped)

end ZBot
