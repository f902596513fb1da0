import ZBot.Verify.Effects

/-!
# What the methods of an instance do

A method writes some fields of its instance and makes some calls. `Keeps E P s x` bounds both from
the state `s` on: the code leaves alone what `E` reads of the instance, and the calls it adds have
the property `P`, whether it returns or throws. There is one lemma for each method, for any `E` and
`P`. Its hypotheses are the fields the method writes, as things that `E` does not read
(`IgnoresJobs`, `IgnoresTimers`, `IgnoresLink`, …), and the calls it makes. What the other modules
say of all methods is an instance of these: that the connection is left alone, that jobs are kept,
that messages stay in the channels of the instance, that calls have an origin, that BattleNodes are
used in order.

`rconStep_held`, `close_held` and `construct_held` are the same for a callback, a reload and the
constructor. Where more than a bound is needed of the last two, `close_triple` and
`construct_triple` take them apart into their steps, with a condition between each two of them.
-/

namespace ZBot

open Js RconM

/-- A text with a character on some line, which the printers can show. -/
def Shown (text : Text) : Prop := ∃ c ∈ text, isDot c = true

instance (text : Text) : Decidable (Shown text) :=
  inferInstanceAs (Decidable (∃ c ∈ text, isDot c = true))

theorem Shown.append_left {a : Text} (h : Shown a) (b : Text) : Shown (a ++ b) := by
  obtain ⟨c, hc, hdot⟩ := h
  exact ⟨c, List.mem_append_left b hc, hdot⟩

theorem Shown.append_right (a : Text) {b : Text} (h : Shown b) : Shown (a ++ b) := by
  obtain ⟨c, hc, hdot⟩ := h
  exact ⟨c, List.mem_append_right a hc, hdot⟩

/-! ## Keeping part of an instance -/

variable {κ : Type}

/-- The instance is as in `s` for what `E` reads, and the calls since then have the property. -/
structure Held (E : Rcon → κ) (P : Effect → Prop) (s t : RconSt) : Prop where
  rcon : E t.rcon = E s.rcon
  calls : Adds P s.calls t.calls

theorem Held.frame (E : Rcon → κ) (P : Effect → Prop) : Prog.Frame (Held E P) :=
  ⟨fun s => ⟨rfl, (Adds.frame P).refl s.calls⟩, fun h h' =>
    ⟨h'.rcon.trans h.rcon, (Adds.frame P).trans h.calls h'.calls⟩⟩

/-- Run on from `s`, the code leaves alone what `E` reads, and its calls have the property. -/
abbrev Keeps {α : Type} (E : Rcon → κ) (P : Effect → Prop) (s : RconSt) (x : RconM α) : Prop :=
  Prog.Triple (Held E P s) x (fun _ => Held E P s) (Held E P s)

section Rules

variable {α : Type} {E : Rcon → κ} {P : Effect → Prop} {s : RconSt}

theorem keeps_held {x : RconM α} (hx : Keeps E P s x) : Held E P s (x s).2 :=
  hx.snd ((Held.frame E P).refl s)

theorem keeps_within {x : RconM α} (hx : ∀ s, Keeps E P s x) : Prog.Within (Held E P) x :=
  fun s => keeps_held (hx s)

theorem keeps_pure (a : α) : Keeps E P s (pure a : RconM α) := .pure fun _ ht => ht

theorem keeps_raise (e : Error) : Keeps E P s (Prog.raise e : RconM α) := .raise fun _ ht => ht

theorem keeps_lift (x : Except Error α) : Keeps E P s (Prog.lift x : RconM α) :=
  .of_snd fun _ ht => ht

theorem keeps_update {f : Rcon → Rcon} (h : ∀ this, E (f this) = E this) :
    Keeps E P s (update f) :=
  .modify fun t ht => ⟨(h t.rcon).trans ht.rcon, ht.calls⟩

theorem keeps_this {f : Rcon → RconM α}
    (h : ∀ this : Rcon, E this = E s.rcon → Keeps E P s (f this)) : Keeps E P s (this >>= f) :=
  .read_bind fun t ht => h t.rcon ht.rcon

theorem keeps_when {c : Bool} {x : RconM Unit} (hx : c = true → Keeps E P s x) :
    Keeps E P s (Prog.when c x) :=
  .when hx fun _ _ ht => ht

theorem keeps_ite {c : Prop} [Decidable c] {x y : RconM α} (hx : c → Keeps E P s x)
    (hy : ¬c → Keeps E P s y) : Keeps E P s (if c then x else y) := by
  split
  · exact hx ‹c›
  · exact hy ‹¬c›

theorem keeps_emitting {x : Emit α} (hx : Prog.Within (Adds P) x) : Keeps E P s (emitting x) := by
  refine .of_snd fun t ht => ⟨ht.rcon, ?_⟩
  exact (Adds.frame P).trans ht.calls ⟨(x []).2, rfl, (hx []).forall⟩

theorem keeps_emit {e : Effect} (h : P e) : Keeps E P s (emitting (emit e)) :=
  keeps_emitting (emit_adds h)

theorem keeps_call {throws : Effect → Bool} {e : Effect} (h : P e) :
    Keeps E P s (emitting (call throws e)) :=
  keeps_emitting (call_adds h)

/-- A call of a BattleNode is recorded whether it returns or throws. -/
theorem emitting_call (throws : Effect → Bool) (e : Effect) (s : RconSt) :
    emitting (call throws e) s =
      (if throws e = true then .error .error else .ok (), { s with calls := s.calls ++ [e] }) := by
  cases h : throws e <;> simp [emitting, call, emit, h, Prog.bind_apply]

/-- Code that writes no field. -/
theorem emitting_held {x : Emit α} (hx : Prog.Within (Adds P) x) (s : RconSt) :
    Held E P s (emitting x s).2 :=
  keeps_held (keeps_emitting hx)

end Rules

/-! ## What a method writes -/

/-- The cron jobs are not read. -/
def IgnoresJobs (E : Rcon → κ) : Prop :=
  ∀ this cronJobs liveJobs jobCount,
    E { this with cronJobs := cronJobs, liveJobs := liveJobs, jobCount := jobCount } = E this

/-- The timers and the count of failed logins are not read. -/
def IgnoresTimers (E : Rcon → κ) : Prop :=
  ∀ this timers loginAttempts,
    E { this with timers := timers, loginAttempts := loginAttempts } = E this

/-- Whether a BattleNode has ended is not read. -/
def IgnoresEnds (E : Rcon → κ) : Prop :=
  ∀ (this : Rcon) n, E (this.setNode n fun node => { node with ended := true }) = E this

/-- Nothing of the connection is read. -/
def IgnoresLink (E : Rcon → κ) : Prop :=
  ∀ this bnode nodes timers loginAttempts,
    E { this with
      bnode := bnode, nodes := nodes, timers := timers, loginAttempts := loginAttempts } = E this

/-- The instance with the channels of another one. -/
def Rcon.rebound (this that : Rcon) : Rcon :=
  { this with
    commandChannel := that.commandChannel, sideChannel := that.sideChannel
    groupChannel := that.groupChannel, directChannel := that.directChannel
    adminChannel := that.adminChannel, connectChannel := that.connectChannel
    vehicleChannel := that.vehicleChannel, defaultChannel := that.defaultChannel
    globalChannel := that.globalChannel, continue_ := that.continue_ }

/-- The channels are not read. -/
def IgnoresChannels (E : Rcon → κ) : Prop := ∀ this that : Rcon, E (this.rebound that) = E this

/-- The actions are not read. -/
def IgnoresActions (E : Rcon → κ) : Prop :=
  ∀ this actions, E { this with actions := actions } = E this

theorem IgnoresLink.timers {E : Rcon → κ} (h : IgnoresLink E) : IgnoresTimers E :=
  fun this timers loginAttempts => h this this.bnode this.nodes timers loginAttempts

theorem IgnoresLink.nodes {E : Rcon → κ} (h : IgnoresLink E) (this : Rcon) (n : Nat)
    (f : Node → Node) : E (this.setNode n f) = E this :=
  h this this.bnode (this.nodes.modify n f) this.timers this.loginAttempts

theorem IgnoresLink.ends {E : Rcon → κ} (h : IgnoresLink E) : IgnoresEnds E :=
  fun this n => h.nodes this n _

/-- The instance writes in its command channel and in the log. -/
structure Voices (E : Rcon → κ) (P : Effect → Prop) (s : RconSt) : Prop where
  send : ∀ this : Rcon, E this = E s.rcon → ∀ c text, this.commandChannel = some c →
    P (.send c text)
  log : ∀ text, Shown text → P (.log text)

theorem Voices.trivial (E : Rcon → κ) (s : RconSt) : Voices E (fun _ => True) s :=
  ⟨fun _ _ _ _ _ => True.intro, fun _ _ => True.intro⟩

/-! ## The constructor and the closing in steps -/

section Steps

variable {env : Env} {o : Oracle} {before after bad : RconSt → Prop}

/-- The constructor reads the configuration, creates the BattleNode, binds the channels, and
connects when it goes on. -/
theorem construct_triple {created bound : Nat → RconSt → Prop} (specific : Value)
    (hactions : ∀ s actions, before s →
      before { s with rcon := { s.rcon with actions := actions } })
    (hnode : Prog.Triple before (newBattleNode o) created bad)
    (hbind : ∀ n, Prog.Triple (created n) bindChannels (fun _ => bound n) bad)
    (hconnect : ∀ n, Prog.Triple (bound n) (do logLogin env; initEvents n; login o n)
      (fun _ => after) bad)
    (hidle : ∀ n s, bound n s → after s) (hbad : ∀ s, before s → bad s) :
    Prog.Triple before (construct env o specific) (fun _ => after) bad := by
  have hinit : Prog.Triple before (init env o) (fun _ => after) bad := by
    refine .bind hnode fun n => .bind (hbind n) fun _ => .read_bind fun this _ => ?_
    exact .when (fun _ => hconnect n) fun _ => hidle n
  refine .read_bind fun this _ => ?_
  refine .lift_bind (fun actions _ => ?_) hbad
  refine .lift_bind (fun bercon _ => ?_) hbad
  refine .lift_bind (fun sharedActions _ => ?_) hbad
  exact .bind (.modify fun s hs => hactions s _ hs) fun _ => hinit

/-- The closing sends two commands, closes the socket, delivers the end of the connection and gives
up the BattleNode. -/
theorem close_triple {said told shut ended : RconSt → Prop} {n : Nat}
    (hdisconnect : ∀ s, before s →
      Prog.Triple before (emitting (cmdDisconnect s.rcon o.throws)) (fun _ => said) bad)
    (hexit : ∀ s, before s →
      Prog.Triple said (emitting (cmdExit s.rcon o.throws)) (fun _ => told) bad)
    (hsocket : Prog.Triple told (closeSocket o n) (fun _ => shut) bad)
    (hend : Prog.Triple shut (emitDisconnected env n (some (lit "stop"))) (fun _ => ended) bad)
    (hstopped : ∀ s, ended s → after ⟨{ s.rcon with bnode := none }, s.calls ++ [.stopped]⟩) :
    Prog.Triple before (close env o n) (fun _ => after) bad := by
  refine .read_bind fun s hs => .bind (hdisconnect s hs) fun _ => ?_
  refine .bind (hexit s hs) fun _ => .bind hsocket fun _ => .bind hend fun _ => ?_
  exact .bind (R := fun _ s => after { s with calls := s.calls ++ [.stopped] })
    (.modify hstopped) fun _ => .modify fun _ hs => hs

end Steps

/-! ## Methods -/

section Methods

variable {E : Rcon → κ} {P : Effect → Prop} {s : RconSt} {env : Env} {o : Oracle}

theorem Voices.keeps_send (hP : Voices E P s) {this : Rcon} (hthis : E this = E s.rcon)
    (text : Text) : Keeps E P s (emitting (sendTextMessage this.commandChannel text)) :=
  keeps_emitting (sendTextMessage_adds fun c hc => hP.send this hthis c text hc)

theorem keeps_log (hlog : ∀ text, Shown text → P (.log text)) {text : Text} (h : Shown text) :
    Keeps E P s (emitting (logBot env text)) :=
  keeps_emitting (logBot_adds (hlog text h))

/-! ### Cron jobs -/

theorem cancelCronJobs_keeps (hjobs : IgnoresJobs E) : Keeps E P s cancelCronJobs := by
  refine keeps_this fun this _ => .bind (.forEach fun job _ => ?_) fun _ =>
    keeps_update fun this => hjobs this [] this.liveJobs this.jobCount
  cases job with
  | none => exact keeps_raise _
  | some id =>
    exact keeps_update fun this =>
      hjobs this this.cronJobs (this.liveJobs.filter (·.id != id)) this.jobCount

theorem scheduleJob_keeps (hjobs : IgnoresJobs E) (time text : Value) :
    Keeps E P s (scheduleJob o time text) := by
  refine keeps_ite (fun _ => ?_) fun _ => keeps_pure _
  exact keeps_this fun this _ => .bind (keeps_update fun this => hjobs this this.cronJobs _ _)
    fun _ => keeps_pure _

theorem scheduleJobs_keeps (hjobs : IgnoresJobs E) (cfgJobs : List Value)
    (jobs : List (Option Nat)) : Keeps E P s (scheduleJobs o cfgJobs jobs) := by
  induction cfgJobs generalizing jobs with
  | nil => exact keeps_pure jobs
  | cons job rest ih =>
    refine .bind (keeps_lift _) fun time => keeps_ite (fun _ => ?_) fun _ => ih jobs
    refine .bind (keeps_lift _) fun text => keeps_ite (fun _ => ?_) fun _ => ih jobs
    exact .bind (scheduleJob_keeps hjobs time text) fun cronjob => ih _

theorem initCronJobs_keeps (hjobs : IgnoresJobs E) (hP : Voices E P s) :
    Keeps E P s (initCronJobs o) := by
  refine .bind (cancelCronJobs_keeps hjobs) fun _ => keeps_this fun this hthis => ?_
  refine .bind (keeps_lift _) fun _ => .bind (keeps_lift _) fun cfgJobs => ?_
  refine .bind (scheduleJobs_keeps hjobs cfgJobs []) fun jobs => ?_
  exact .bind (keeps_update fun this => hjobs this jobs this.liveJobs this.jobCount) fun _ =>
    hP.keeps_send hthis _

/-! ### Listeners -/

theorem disconnectedAction_keeps (hjobs : IgnoresJobs E) (htimers : IgnoresTimers E)
    (hP : Voices E P s) (extra : Option Text) : Keeps E P s (disconnectedAction env extra) := by
  refine .bind (cancelCronJobs_keeps hjobs) fun _ => keeps_this fun this hthis => ?_
  refine keeps_ite (fun _ => ?_) fun _ => ?_
  · exact .bind (keeps_log hP.log (.append_left (by decide) _)) fun _ => hP.keeps_send hthis _
  · have hshown : ∀ sec name : Text,
        Shown (lit "RCON server disconnected. Trying to reconnect in " ++ sec ++ lit " sec for " ++
          name) := fun sec name => .append_left (.append_left (.append_left (by decide) _) _) _
    refine .bind (keeps_log hP.log (hshown _ _)) fun _ => .bind (hP.keeps_send hthis _) fun _ => ?_
    exact keeps_update fun this => htimers this _ this.loginAttempts

theorem emitDisconnected_keeps (hjobs : IgnoresJobs E) (htimers : IgnoresTimers E)
    (hends : IgnoresEnds E) (hP : Voices E P s) (n : Nat) (extra : Option Text) :
    Keeps E P s (emitDisconnected env n extra) := by
  refine keeps_this fun this _ => ?_
  split
  · exact keeps_when fun _ => .bind (keeps_update fun this => hends this n) fun _ =>
      disconnectedAction_keeps hjobs htimers hP extra
  · exact keeps_pure _

/-- Only a login that succeeds touches the jobs. -/
theorem loginAction_keeps {err : Bool} {success : Option Bool}
    (hjobs : err = false → success = some true → IgnoresJobs E) (htimers : IgnoresTimers E)
    (hP : Voices E P s) (hmark : P .loggedIn) : Keeps E P s (loginAction env o err success) := by
  refine keeps_this fun this hthis => keeps_ite (fun _ => ?_) fun herr => ?_
  · have hshown : ∀ times name : Text, Shown (lit "Failed " ++ times ++
        lit " times to connect to the gameserver of " ++ name) := fun times name =>
      .append_left (.append_left (.append_left (by decide) _) _) _
    refine .bind (keeps_log hP.log (.append_left (by decide) _)) fun _ =>
      .bind (hP.keeps_send hthis _) fun _ =>
      .bind (keeps_log hP.log (.append_left (by decide) _)) fun _ => ?_
    refine keeps_ite (fun _ => keeps_update fun this => htimers this _ this.loginAttempts)
      fun _ => ?_
    exact .bind (hP.keeps_send hthis _) fun _ => keeps_log hP.log (hshown _ _)
  refine keeps_ite (fun hsuccess => ?_) fun _ => keeps_ite (fun _ => ?_) fun _ => keeps_pure _
  · refine .bind (keeps_log hP.log (.append_left (by decide) _)) fun _ =>
      .bind (hP.keeps_send hthis _) fun _ =>
      .bind (keeps_update fun this => htimers this this.timers 0) fun _ =>
      .bind (keeps_emit hmark) fun _ => ?_
    exact initCronJobs_keeps (hjobs (Bool.eq_false_iff.2 herr) hsuccess) hP
  · exact .bind (keeps_log hP.log (.append_left (by decide) _)) fun _ => hP.keeps_send hthis _

theorem loginEvent_keeps {err : Bool} {success : Option Bool}
    (hjobs : err = false → success = some true → IgnoresJobs E) (htimers : IgnoresTimers E)
    (hends : IgnoresEnds E) (hP : Voices E P s) (hmark : P .loggedIn) (n : Nat) :
    Keeps E P s (loginEvent env o n err success) :=
  .bind (keeps_when fun _ => keeps_update fun this => hends this n) fun _ =>
    loginAction_keeps hjobs htimers hP hmark

/-! ### Connecting -/

theorem logLogin_keeps (hlog : ∀ text, Shown text → P (.log text)) :
    Keeps E P s (logLogin env) := by
  refine keeps_this fun this _ => ?_
  split
  · exact keeps_log hlog (.append_left (.append_left (.append_left (by decide) _) _) _)
  · exact keeps_raise _

theorem newBattleNode_keeps (hlink : IgnoresLink E) (hnew : ∀ n, P (.newNode n)) :
    Keeps E P s (newBattleNode o) := by
  refine keeps_this fun this _ => .bind (keeps_update fun this => ?_) fun _ =>
    .bind (keeps_call (hnew _)) fun _ => .bind (keeps_update fun this => ?_) fun _ => keeps_pure _
  · exact hlink this this.bnode _ this.timers this.loginAttempts
  · exact hlink this _ this.nodes this.timers this.loginAttempts

/-- The end of `init` and of `reInit`. -/
theorem connect_keeps (hlink : IgnoresLink E) (hlog : ∀ text, Shown text → P (.log text))
    (hlogin : ∀ n, P (.login n)) (n : Nat) :
    Keeps E P s (do logLogin env; initEvents n; login o n) :=
  .bind (logLogin_keeps hlog) fun _ => .bind (keeps_update fun this => hlink.nodes this n _)
    fun _ => .bind (keeps_update fun this => hlink.nodes this n _) fun _ => keeps_call (hlogin n)

theorem reconnect_keeps (hlink : IgnoresLink E) (hlog : ∀ text, Shown text → P (.log text))
    (hnew : ∀ n, P (.newNode n)) (hlogin : ∀ n, P (.login n)) {cause : Cause}
    (hreInit : P (.reInit cause)) : Keeps E P s (reconnect env o cause) := by
  refine .bind (R := fun _ => Held E P s) ?_ fun _ => .bind (keeps_update fun this => ?_) fun _ =>
    .bind (keeps_emit hreInit) fun _ => .bind (newBattleNode_keeps hlink hnew) fun n =>
    connect_keeps hlink hlog hlogin n
  · cases cause with
    | loginError =>
      exact keeps_update fun this => hlink.timers this this.timers (this.loginAttempts + 1)
    | disconnected => exact keeps_this fun _ _ => keeps_log hlog (.append_left (by decide) _)
  · exact hlink this none this.nodes this.timers this.loginAttempts

theorem bindChannels_keeps (hchannels : IgnoresChannels E) : Keeps E P s bindChannels := by
  have hset : ∀ f : Rcon → Rcon, (∀ this, f this = this.rebound (f this)) →
      Keeps E P s (update f) := fun f hf => keeps_update fun this => by
    rw [hf this]
    exact hchannels this (f this)
  have hfind : ∀ x : Except Error (Option Channel), Keeps E P s (Prog.lift x : RconM _) :=
    fun x => keeps_lift x
  refine keeps_this fun this _ => ?_
  iterate 9 refine .bind (hfind _) fun _ => .bind (hset _ fun _ => rfl) fun _ => ?_
  exact keeps_when fun _ => hset _ fun _ => rfl

/-- **The constructor** keeps what depends on neither the connection, the channels nor the
actions. -/
theorem construct_held (hlink : IgnoresLink E) (hchannels : IgnoresChannels E)
    (hactions : IgnoresActions E) (hlog : ∀ text, Shown text → P (.log text))
    (hnew : ∀ n, P (.newNode n)) (hlogin : ∀ n, P (.login n)) (specific : Value) :
    Held E P s (construct env o specific s).2 := by
  refine keeps_held (construct_triple specific (fun t actions ht => ?_)
    (newBattleNode_keeps hlink hnew) (fun _ => bindChannels_keeps hchannels)
    (fun n => connect_keeps hlink hlog hlogin n) (fun _ _ ht => ht) fun _ ht => ht)
  exact ⟨(hactions t.rcon actions).trans ht.rcon, ht.calls⟩

/-- **A reload** sends the two commands through the current BattleNode, closes its socket and
delivers its end. -/
theorem close_held (hjobs : IgnoresJobs E) (hlink : IgnoresLink E) (hP : Voices E P s) {n : Nat}
    (hdisconnect : ∀ m, s.rcon.bnode = some m → P (.command m (lit "disconnect") .text))
    (hexit : ∀ m, s.rcon.bnode = some m → P (.command m (lit "exit") .text))
    (hsocket : P (.closeSocket n)) (hstopped : P .stopped) :
    Held E P s (close env o n s).2 := by
  -- the commands change nothing in the instance
  have hread : ∀ t, Held id P s t → Held E P s t := fun t ht => ⟨congrArg E ht.rcon, ht.calls⟩
  have hcommand : ∀ x : Rcon → Emit Unit, Prog.Within (Adds P) (x s.rcon) →
      ∀ t, Held id P s t →
        Prog.Triple (Held id P s) (emitting (x t.rcon)) (fun _ => Held id P s) (Held E P s) := by
    intro x hx t ht
    rw [show t.rcon = s.rcon from ht.rcon]
    exact (keeps_emitting hx).post (fun _ _ ht => ht) hread
  have hsend := hP.send s.rcon rfl
  have hsocket : Keeps E P s (closeSocket o n) :=
    .bind (keeps_call hsocket) fun _ => keeps_update fun this => hlink.nodes this n _
  have hend : Keeps E P s (emitDisconnected env n (some (lit "stop"))) :=
    emitDisconnected_keeps hjobs hlink.timers hlink.ends hP n _
  have hdisconnect := hcommand (cmdDisconnect · o.throws) (cmdDisconnect_adds hsend hdisconnect)
  have hexit := hcommand (cmdExit · o.throws) (cmdExit_adds hsend hexit)
  refine (close_triple hdisconnect hexit (hsocket.pre hread) hend fun t ht => ?_).snd
    ((Held.frame id P).refl s)
  have hclear := hlink t.rcon none t.rcon.nodes t.rcon.timers t.rcon.loginAttempts
  exact ⟨hclear.trans ht.rcon, (Adds.frame P).trans ht.calls ⟨[.stopped], rfl, by simpa⟩⟩

end Methods

/-! ## Callbacks -/

/-- The callbacks that schedule or cancel the jobs. -/
def RconEvent.reschedules : RconEvent → Bool
  | .login _ false (some true) | .disconnected _ _ => true
  | _ => false

/-- The commands that the callbacks of an instance send. -/
inductive Spontaneous (this : Rcon) : RconEvent → Text → Prop
  | reply {n : Nat} {now message text : Text} (hopen : this.open n = true)
      (hecho : isEcho message = false) (h : IsReply this message text) :
      Spontaneous this (.chat n now message) (lit "say -1 " ++ text)
  | job {id : Nat} {job : CronJob} {text : Text}
      (hjob : this.liveJobs.find? (·.id == id) = some job) (h : job.text.toText = .ok text) :
      Spontaneous this (.cron id) (lit "say -1 " ++ text)

/-- What a callback of an instance may call: it writes in the channels of the instance and in the
log, connects, and sends the commands it has a reason for. -/
structure Permits (E : Rcon → κ) (P : Effect → Prop) (s : RconSt) (e : RconEvent) : Prop where
  send : ∀ this : Rcon, E this = E s.rcon → ∀ c text, c ∈ this.channels → P (.send c text)
  log : ∀ text, Shown text → P (.log text)
  newNode : ∀ n, P (.newNode n)
  login : ∀ n, P (.login n)
  reInit : ∀ cause, P (.reInit cause)
  loggedIn : P .loggedIn
  command : ∀ n text, s.rcon.bnode = some n → Spontaneous s.rcon e text →
    P (.command n text .none)

theorem Permits.voices {E : Rcon → κ} {P : Effect → Prop} {s : RconSt} {e : RconEvent}
    (h : Permits E P s e) : Voices E P s where
  send this hthis c text hc := h.send this hthis c text (Rcon.commandChannel_mem hc)
  log := h.log

theorem Permits.trivial (E : Rcon → κ) (s : RconSt) (e : RconEvent) :
    Permits E (fun _ => True) s e := by
  constructor <;> intros <;> exact True.intro

theorem fromNode_apply (n : Nat) (x : RconM Unit) (s : RconSt) :
    fromNode n x s = if s.rcon.open n = true then x s else (.ok (), s) := by
  cases h : s.rcon.open n <;> simp only [fromNode, this, Prog.read_bind, h] <;> rfl

/-- A timer that is pending connects again. -/
theorem timer_some (env : Env) (o : Oracle) {i : Nat} {s : RconSt} {cause : Cause}
    (h : s.rcon.timers[i]? = some cause) :
    rconStep env o (.timer i) s = reconnect env o cause
      { s with rcon := { s.rcon with timers := s.rcon.timers.eraseIdx i } } := by
  simp only [rconStep, this, Prog.read_bind, h]
  rfl

theorem timer_none (env : Env) (o : Oracle) {i : Nat} {s : RconSt}
    (h : s.rcon.timers[i]? = none) : rconStep env o (.timer i) s = (.ok (), s) := by
  simp only [rconStep, this, Prog.read_bind, h]
  rfl

/-- **A callback** keeps what depends on neither the connection nor, when it touches them, the
jobs. -/
theorem rconStep_held {E : Rcon → κ} {P : Effect → Prop} {s : RconSt} {e : RconEvent} {env : Env}
    {o : Oracle} (hjobs : e.reschedules = true → IgnoresJobs E) (hlink : IgnoresLink E)
    (hP : Permits E P s e) :
    Held E P s (rconStep env o e s).2 := by
  have hrefl := (Held.frame E P).refl s
  have hsend := hP.send s.rcon rfl
  have hnode : ∀ n {x : RconM Unit}, (s.rcon.open n = true → Held E P s (x s).2) →
      Held E P s (fromNode n x s).2 := by
    intro n x hx
    rw [fromNode_apply]
    split
    · exact hx ‹_›
    · exact hrefl
  cases e with
  | login n err success =>
    refine hnode n fun _ => keeps_held
      (loginEvent_keeps (fun herr hsuccess => hjobs ?_) hlink.timers hlink.ends hP.voices
        hP.loggedIn n)
    rw [herr, hsuccess]
    rfl
  | chat n now message =>
    refine hnode n fun hopen => emitting_held (chatMessagesAction_adds hsend ?_) s
    exact fun m t hm hecho ht => hP.command m _ hm (.reply hopen hecho ht)
  | disconnected n extra =>
    exact hnode n fun _ => keeps_held
      (emitDisconnected_keeps (hjobs rfl) hlink.timers hlink.ends hP.voices n extra)
  | answer n callback text =>
    exact hnode n fun _ => emitting_held (replyAction_adds (hP.voices.send s.rcon rfl)) s
  | timer i =>
    refine keeps_held (keeps_this fun this _ => ?_)
    split
    · refine .bind (keeps_update fun this => hlink.timers this _ this.loginAttempts) fun _ => ?_
      exact reconnect_keeps hlink hP.log hP.newNode hP.login (hP.reInit _)
    · exact keeps_pure _
  | cron id =>
    cases hjob : s.rcon.liveJobs.find? (·.id == id) with
    | none =>
      simp only [rconStep, this, Prog.read_bind, hjob]
      exact hrefl
    | some job =>
      simp only [rconStep, this, Prog.read_bind, hjob, cronAction]
      refine emitting_held (cmdSayGlobalMessage_adds fun n t hn ht => ?_) s
      exact hP.command n _ hn (.job hjob ht)

end ZBot
