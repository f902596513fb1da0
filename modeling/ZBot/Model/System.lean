import ZBot.Model.Bot

/-!
# Runs of the bot

Everything the bot does happens in a callback: of the Discord client, of a Redis request, of a
BattleNode, of a timer or of a cron job. An `Event` is one such callback, and `step` runs it to its
end or to its first exception, which the process survives. A run is a list of steps.

An event that cannot happen changes nothing: an answer to a request that is not pending, an event of
a BattleNode that was never logged in or whose socket the bot has closed, a timer that is not armed.
-/

namespace ZBot

open Js RconM BotM

/-- The callbacks that belong to one rcon. -/
inductive RconEvent where
  /-- the BattleNode `n` emits `login` -/
  | login (n : Nat) (err : Bool) (success : Option Bool)
  /-- the BattleNode `n` emits `message` -/
  | chat (n : Nat) (now message : Text)
  /-- the BattleNode `n` emits `disconnected` -/
  | disconnected (n : Nat) (extra : Option Text)
  /-- the game server answers a command sent through the BattleNode `n` -/
  | answer (n : Nat) (callback : Callback) (text : Text)
  /-- the `i`-th pending reconnect timer fires -/
  | timer (i : Nat)
  /-- a cron job fires -/
  | cron (id : Nat)

/-- The BattleNode can emit an event: it was logged in, and the bot has not closed its socket. -/
def Rcon.open (this : Rcon) (n : Nat) : Bool :=
  match this.nodes[n]? with
  | some node => node.listening && node.login && !node.closed
  | none => false

/-- Runs the callback of an event of the BattleNode `n`, when it can emit one. -/
def fromNode (n : Nat) (x : RconM Unit) : RconM Unit := do
  let this ← this
  Prog.when (this.open n) x

/-- The listener of `login`. A login error ends the node. -/
def loginEvent (env : Env) (o : Oracle) (n : Nat) (err : Bool) (success : Option Bool) :
    RconM Unit := do
  Prog.when err (update fun this => this.setNode n fun node => { node with ended := true })
  loginAction env o err success

/-- The listener of `message`. -/
def chatEvent (o : Oracle) (now message : Text) : RconM Unit := do
  let this ← this
  emitting (chatMessagesAction this o.throws now message)

def rconStep (env : Env) (o : Oracle) : RconEvent → RconM Unit
  | .login n err success => fromNode n (loginEvent env o n err success)
  | .chat n now message => fromNode n (chatEvent o now message)
  | .disconnected n extra => fromNode n (emitDisconnected env n extra)
  | .answer n callback text => fromNode n do
    let this ← this
    emitting (replyAction env this callback text)
  | .timer i => do
    let this ← this
    match this.timers[i]? with
    | some cause =>
      update fun this => { this with timers := this.timers.eraseIdx i }
      reconnect env o cause
    | none => pure ()
  | .cron id => do
    let this ← this
    match this.liveJobs.find? (·.id == id) with
    | some job => cronAction o job.text
    | none => pure ()

inductive Event where
  | ready (guilds : List Guild)
  | guildCreate (guild : Guild)
  | guildDelete (guild : Guild)
  | guildUpdate (oldGuild newGuild : Guild) (same : newGuild.id = oldGuild.id)
  | message (message : Message)
  | keysReply (keys : List Text)
  | mgetReply (results : List (Option Text))
  | getReply (guild : GuildId) (result : Option Text)
  | rcon (r : RconRef) (event : RconEvent)

/-- The callback of an instance, when the event is one. -/
def Event.own : Event → Option (RconRef × RconEvent)
  | .rcon r e => some (r, e)
  | _ => none

/-- The pending request an event answers. -/
def Event.answers : Event → Request → Bool
  | .keysReply _, .keys => true
  | .mgetReply _, .mget _ => true
  | .getReply g _, .get guild _ => guild.id == g
  | _, _ => false

/-- The callback of a request, on the answer that the event brings. -/
def answerRequest (env : Env) (o : RconRef → Oracle) : Event → Request → BotM Unit
  | .keysReply keys, .keys => request (.mget keys)
  | .mgetReply results, .mget keys => ZBot.mgetReply env o keys results
  | .getReply _ result, .get guild channel => reloadReply env o guild channel result
  | _, _ => pure ()

/-- An answer of Redis to the oldest request it fits. -/
def redisAnswer (env : Env) (o : RconRef → Oracle) (event : Event) : BotM Unit := do
  let pending ← Prog.read fun w : World => w.redis.find? event.answers
  match pending with
  | some req =>
    Prog.modify fun w => { w with redis := w.redis.eraseP event.answers }
    answerRequest env o event req
  | none => pure ()

theorem redisAnswer_some {env : Env} {o : RconRef → Oracle} {event : Event} {w : World}
    {req : Request} (h : w.redis.find? event.answers = some req) :
    redisAnswer env o event w =
      answerRequest env o event req { w with redis := w.redis.eraseP event.answers } := by
  rw [redisAnswer, Prog.read_bind, h]
  rfl

theorem redisAnswer_none {env : Env} {o : RconRef → Oracle} {event : Event} {w : World}
    (h : w.redis.find? event.answers = none) : redisAnswer env o event w = (.ok (), w) := by
  rw [redisAnswer, Prog.read_bind, h]
  rfl

/-- An event, with what the libraries decide while it is handled. -/
structure Step where
  event : Event
  oracle : RconRef → Oracle

/-- Runs the callback of an event. -/
def step (env : Env) (s : Step) : BotM Unit :=
  match s.event with
  | .ready guilds => initAfterReady env s.oracle guilds
  | .guildCreate guild => onGuildCreate env s.oracle guild
  | .guildDelete _ => pure ()
  | .guildUpdate oldGuild newGuild _ => updateGuildData oldGuild newGuild
  | .message message => checkMessageAction env s.oracle message
  | .rcon r event => onRcon r (rconStep env (s.oracle r) event)
  | event => redisAnswer env s.oracle event

/-- The state after a run. -/
def run (env : Env) (steps : List Step) (w : World) : World :=
  steps.foldl (fun w s => (step env s w).2) w

/-- Every step of a run has the property in the state it is taken in. -/
def Along (env : Env) (P : World → Step → Prop) : List Step → World → Prop
  | [], _ => True
  | s :: steps, w => P w s ∧ Along env P steps (step env s w).2

instance Along.decidable {env : Env} {P : World → Step → Prop} [∀ w s, Decidable (P w s)] :
    ∀ (steps : List Step) (w : World), Decidable (Along env P steps w)
  | [], _ => isTrue trivial
  | s :: steps, w =>
    have : Decidable (Along env P steps (step env s w).2) := Along.decidable steps _
    inferInstanceAs (Decidable (P w s ∧ Along env P steps (step env s w).2))

/-- The last step of a run. -/
theorem Along.last {env : Env} {P : World → Step → Prop} {steps : List Step} {s : Step} {w : World}
    (h : Along env P (steps ++ [s]) w) : P (run env steps w) s := by
  induction steps generalizing w with
  | nil => exact h.1
  | cons s' steps ih => exact ih h.2

/-- What the steps of a run keep holds at its end. -/
theorem Along.run_inv {env : Env} {P : World → Step → Prop} {I : World → Prop}
    (hstep : ∀ w s, I w → P w s → I (step env s w).2) {steps : List Step} {w : World} (hw : I w)
    (h : Along env P steps w) : I (run env steps w) := by
  induction steps generalizing w with
  | nil => exact hw
  | cons s steps ih => exact ih (hstep w s hw h.1) h.2

/-- What holds of a step in a state with the invariant holds of every step of a run. -/
theorem Along.imp {env : Env} {P Q : World → Step → Prop} {I : World → Prop}
    (hstep : ∀ w s, I w → P w s → I (step env s w).2) (hQ : ∀ w s, I w → P w s → Q w s)
    {steps : List Step} {w : World} (hw : I w) (h : Along env P steps w) :
    Along env Q steps w := by
  induction steps generalizing w with
  | nil => trivial
  | cons s steps ih => exact ⟨hQ w s hw h.1, ih (hstep w s hw h.1) h.2⟩

end ZBot
