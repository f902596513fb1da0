import ZBot.Verify.Methods

/-!
# The connection of an instance

Whether an instance connects again depends on four of its fields: the current BattleNode, the
BattleNodes created so far, the pending reconnect timers and the count of failed logins. `Link` is
that part of an `Rcon`, and `LinkStep` the automaton on it: what a callback of the instance can do
to the connection, with the effects of the connection's own (`Effect.isMark`) it adds. `CloseStep`
and `BuildStep` say the same of the two things `initBERcon` does to an instance.

The code refines the automaton: `rconStep_link`, `close_link` and `construct_link`. Everything else
an instance does (printing, cron jobs, commands) leaves the connection as it is (`Still`).
-/

namespace ZBot

open Js RconM

structure Link where
  bnode : Option Nat
  nodes : List Node
  timers : List Cause
  loginAttempts : Nat

def Rcon.link (this : Rcon) : Link := ⟨this.bnode, this.nodes, this.timers, this.loginAttempts⟩

/-- The effects that mark the life of a connection. -/
def Effect.isMark : Effect → Bool
  | .newNode _ | .login _ | .reInit _ | .loggedIn | .stopped => true
  | _ => false

def marks (calls : List Effect) : List Effect := calls.filter Effect.isMark

@[simp] theorem marks_append (calls calls' : List Effect) :
    marks (calls ++ calls') = marks calls ++ marks calls' := List.filter_append ..

/-! ## The automaton -/

/-- `Rcon.open` of the connection. -/
def Link.open (l : Link) (n : Nat) : Bool :=
  match l.nodes[n]? with
  | some node => node.listening && node.login && !node.closed
  | none => false

namespace Link

variable (l : Link)

/-- The end of the BattleNode `n` was delivered. -/
def ended (n : Nat) : Link :=
  { l with nodes := l.nodes.modify n fun node => { node with ended := true } }

def arm (cause : Cause) : Link := { l with timers := l.timers ++ [cause] }

/-- After `reInit`: there is a new BattleNode, which is `up` when it was told to log in. -/
def renewed (up : Bool) : Link :=
  { l with bnode := some l.nodes.length, nodes := l.nodes ++ [⟨up, up, false, false⟩] }

/-- After a `reInit` that found no BattleNode and whose `new BattleNode` threw. -/
def lapsed : Link := { l.renewed false with bnode := none }

/-- A reconnect after a login error is counted. -/
def counted (cause : Cause) : Link :=
  { l with loginAttempts :=
      if cause = .loginError then l.loginAttempts + 1 else l.loginAttempts }

/-- The timer `i` is gone. -/
def fired (i : Nat) : Link := { l with timers := l.timers.eraseIdx i }

/-- The socket of the BattleNode `n` was closed. -/
def closed (n : Nat) : Link :=
  { l with nodes := l.nodes.modify n fun node => { node with closed := true } }

/-- The BattleNode `n` has listeners. -/
def hears (n : Nat) : Bool := l.nodes[n]?.any (·.listening)

/-- The socket of the BattleNode `n` was closed, and its end delivered to the listeners it has. -/
def shut (n : Nat) : Link := if l.hears n then (l.closed n).ended n else l.closed n

end Link

/-- The marks of a `reInit` that creates the BattleNode `n`. -/
def renewal (n : Nat) (up : Bool) : List Effect :=
  .newNode n :: if up then [.login n] else []

/-- What a callback of an instance can do to its connection. -/
inductive LinkStep : RconEvent → Link → List Effect → Link → Prop
  | stay (event : RconEvent) (l : Link) : LinkStep event l [] l
  | retry {l : Link} {n : Nat} {success : Option Bool} (hopen : l.open n = true)
      (hless : l.loginAttempts < 60) :
      LinkStep (.login n true success) l [] ((l.ended n).arm .loginError)
  | giveUp {l : Link} {n : Nat} {success : Option Bool} (hopen : l.open n = true)
      (hless : ¬l.loginAttempts < 60) : LinkStep (.login n true success) l [] (l.ended n)
  | loggedIn {l : Link} {n : Nat} (hopen : l.open n = true) :
      LinkStep (.login n false (some true)) l [.loggedIn] { l with loginAttempts := 0 }
  | lost {l : Link} {n : Nat} {extra : Option Text} (hopen : l.open n = true) :
      LinkStep (.disconnected n extra) l [] ((l.ended n).arm .disconnected)
  /-- the listener ended without a new timer: it was told to stop, or it threw -/
  | ended {l : Link} {n : Nat} {extra : Option Text} (hopen : l.open n = true) :
      LinkStep (.disconnected n extra) l [] (l.ended n)
  | reconnect {l : Link} {i : Nat} {cause : Cause} (htimer : l.timers[i]? = some cause)
      (up : Bool) :
      LinkStep (.timer i) l (.reInit cause :: renewal l.nodes.length up)
        (((l.fired i).counted cause).renewed up)
  /-- `new BattleNode` threw -/
  | lapse {l : Link} {i : Nat} {cause : Cause} (htimer : l.timers[i]? = some cause) :
      LinkStep (.timer i) l (.reInit cause :: renewal l.nodes.length false)
        ((l.fired i).counted cause).lapsed

/-- What the loop body of `initBERcon` can do to the connection it closes. -/
inductive CloseStep (n : Nat) : Link → List Effect → Link → Prop
  /-- a command or the closing of the socket threw -/
  | refused (l : Link) : CloseStep n l [] l
  /-- the listener of `disconnected` threw -/
  | stuck (l : Link) : CloseStep n l [] (l.shut n)
  | stopped (l : Link) : CloseStep n l [.stopped] { l.shut n with bnode := none }

/-- The connection before the constructor runs. -/
def Link.blank : Link := ⟨none, [], [], 0⟩

/-- What the constructor can do, with whether it returned. -/
inductive BuildStep : Bool → List Effect → Link → Prop
  | refused : BuildStep false [] .blank
  /-- `new BattleNode` threw -/
  | lapsed : BuildStep false (renewal 0 false) Link.blank.lapsed
  /-- a channel could not be looked up, or the default channel is no text channel -/
  | idle (returned : Bool) : BuildStep returned (renewal 0 false) (Link.blank.renewed false)
  /-- the instance was told to log in, and `login()` returned or threw -/
  | up (returned : Bool) : BuildStep returned (renewal 0 true) (Link.blank.renewed true)

/-! ## What leaves the connection alone -/

/-- The connection is the same and no mark was added. -/
def Still (s s' : RconSt) : Prop :=
  s'.rcon.link = s.rcon.link ∧ marks s'.calls = marks s.calls

theorem Still.frame : Prog.Frame Still :=
  (Prog.Frame.eq fun s : RconSt => s.rcon.link).and (Prog.Frame.eq fun s : RconSt => marks s.calls)

/-- A mark is something other than what the handlers do. -/
def Effect.plain (e : Effect) : Prop := e.isMark = false

theorem Held.still {s s' : RconSt} (h : Held Rcon.link Effect.plain s s') : Still s s' := by
  obtain ⟨new, hcalls, hnew⟩ := h.calls
  have hmarks : marks new = [] := List.filter_eq_nil_iff.2 fun e he => by
    rw [hnew e he]
    exact Bool.false_ne_true
  refine ⟨h.rcon, ?_⟩
  rw [hcalls, marks_append, hmarks, List.append_nil]

theorem keeps_still {α : Type} {x : RconM α} (hx : ∀ s, Keeps Rcon.link Effect.plain s x) :
    Prog.Within Still x := fun s => (keeps_held (hx s)).still

theorem emitting_still {α : Type} {x : Emit α} (hx : Prog.Within (Adds Effect.plain) x) :
    Prog.Within Still (emitting x) := keeps_still fun _ => keeps_emitting hx

theorem voices_plain {κ : Type} (E : Rcon → κ) (s : RconSt) : Voices E Effect.plain s :=
  ⟨fun _ _ _ _ _ => rfl, fun _ _ => rfl⟩

/-- The state of the connection, and the marks so far. -/
def At (l : Link) (ms : List Effect) (s : RconSt) : Prop := s.rcon.link = l ∧ marks s.calls = ms

/-- A call that cannot throw and leaves the connection alone. -/
def Quiet (x : RconM Unit) : Prop :=
  Prog.Within Still x ∧ ∀ s, (x s).1 = .ok ()

theorem logBot_quiet (env : Env) (text : Text) : Quiet (emitting (logBot env text)) := by
  refine ⟨emitting_still (logBot_adds rfl), fun s => ?_⟩
  cases h : env.logEnable <;> simp [emitting, logBot, h, Prog.when, emit]

theorem sendTextMessage_quiet (channel : Option Channel) (text : Text) :
    Quiet (emitting (sendTextMessage channel text)) := by
  refine ⟨emitting_still (sendTextMessage_adds fun _ _ => rfl), fun s => ?_⟩
  cases channel with
  | none => rfl
  | some c => by_cases h : c.type = .text <;> simp [emitting, sendTextMessage, h, Prog.when, emit]

section Rules

variable {α β : Type} {l : Link} {ms : List Effect} {Q : β → RconSt → Prop} {E : RconSt → Prop}

theorem Still.at {s s' : RconSt} (h : Still s s') (hs : At l ms s) : At l ms s' :=
  ⟨h.1.trans hs.1, h.2.trans hs.2⟩

theorem Quiet.triple {x : RconM Unit} (hx : Quiet x) :
    Prog.Triple (At l ms) x (fun _ => At l ms) E := by
  intro s hs
  have hstill := hx.1 s
  have hok := hx.2 s
  rcases e : x s with ⟨_ | a, s'⟩ <;> rw [e] at hstill hok
  · cases hok
  · exact hstill.at hs

theorem Quiet.bind {x : RconM Unit} {f : Unit → RconM β} (hx : Quiet x)
    (hf : Prog.Triple (At l ms) (f ()) Q E) : Prog.Triple (At l ms) (x >>= f) Q E :=
  .bind hx.triple fun _ => hf

theorem still_bind {x : RconM α} {f : α → RconM β} (hx : Prog.Within Still x)
    (hE : ∀ s, At l ms s → E s) (hf : ∀ a, Prog.Triple (At l ms) (f a) Q E) :
    Prog.Triple (At l ms) (x >>= f) Q E :=
  .bind ((Prog.Triple.of_within hx fun _ _ hs h => h.at hs).post (fun _ _ h => h) hE) hf

/-- What does not depend on the state is known from the precondition. -/
theorem fact_triple {p : Prop} {P : RconSt → Prop} {x : RconM β} (h : p → Prog.Triple P x Q E) :
    Prog.Triple (fun s => p ∧ P s) x Q E := fun s hs => h hs.1 s hs.2

/-- An instance that reads itself sees the connection. -/
theorem this_bind {f : Rcon → RconM β}
    (hf : ∀ this, this.link = l → Prog.Triple (At l ms) (f this) Q E) :
    Prog.Triple (At l ms) (this >>= f) Q E :=
  .read_bind fun s hs => hf s.rcon hs.1

end Rules

theorem cancelCronJobs_still : Prog.Within Still cancelCronJobs :=
  keeps_still fun _ => cancelCronJobs_keeps fun _ _ _ _ => rfl

theorem initCronJobs_still (o : Oracle) : Prog.Within Still (initCronJobs o) :=
  keeps_still fun s => initCronJobs_keeps (fun _ _ _ _ => rfl) (voices_plain _ s)

theorem bindChannels_still : Prog.Within Still bindChannels :=
  keeps_still fun _ => bindChannels_keeps fun _ _ => rfl

theorem chatMessagesAction_still (this : Rcon) (throws : Effect → Bool) (now message : Text) :
    Prog.Within Still (emitting (chatMessagesAction this throws now message)) :=
  emitting_still (chatMessagesAction_adds (fun _ _ _ => rfl) fun _ _ _ _ _ => rfl)

theorem replyAction_still (env : Env) (this : Rcon) (callback : Callback) (text : Text) :
    Prog.Within Still (emitting (replyAction env this callback text)) :=
  emitting_still (replyAction_adds fun _ _ _ => rfl)

theorem cronAction_still (o : Oracle) (text : Value) : Prog.Within Still (cronAction o text) :=
  .bind Still.frame (.read Still.frame _) fun _ =>
    emitting_still (cmdSayGlobalMessage_adds fun _ _ _ _ => rfl)

theorem checkAdminCommand_still (env : Env) (this : Rcon) (specific : Value)
    (throws : Effect → Bool) (message : Message) :
    Prog.Within Still (emitting (checkAdminCommand env this specific throws message)) :=
  emitting_still (checkAdminCommand_adds (fun _ _ => rfl) (fun _ _ _ => rfl) fun _ _ _ _ => rfl)

theorem cmdDisconnect_still (this : Rcon) (throws : Effect → Bool) :
    Prog.Within Still (emitting (cmdDisconnect this throws)) :=
  emitting_still (cmdDisconnect_adds (fun _ _ _ => rfl) fun _ _ => rfl)

theorem cmdExit_still (this : Rcon) (throws : Effect → Bool) :
    Prog.Within Still (emitting (cmdExit this throws)) :=
  emitting_still (cmdExit_adds (fun _ _ _ => rfl) fun _ _ => rfl)

/-! ## What an event does -/

section Events

variable {env : Env} {o : Oracle} {l : Link} {ms : List Effect}

theorem armTimer_link (cause : Cause) {E : RconSt → Prop} :
    Prog.Triple (At l ms) (armTimer cause) (fun _ => At (l.arm cause) ms) E :=
  .modify fun s hs => ⟨by rw [← hs.1]; rfl, hs.2⟩

theorem loginAction_error (success : Option Bool) {E : RconSt → Prop} :
    Prog.Triple (At l ms) (loginAction env o true success)
      (fun _ => At (if l.loginAttempts < 60 then l.arm .loginError else l) ms) E := by
  refine this_bind fun this hthis => ?_
  have hl : l.loginAttempts = this.loginAttempts := by rw [← hthis]; rfl
  rw [hl]
  refine (logBot_quiet _ _).bind ((sendTextMessage_quiet _ _).bind ((logBot_quiet _ _).bind ?_))
  by_cases h : this.loginAttempts < 60
  · rw [if_pos h, if_pos h]
    exact armTimer_link _
  · rw [if_neg h, if_neg h]
    exact (sendTextMessage_quiet _ _).bind (logBot_quiet _ _).triple

/-- A mark is added. -/
theorem emit_mark {e : Effect} (he : e.isMark = true) {E : RconSt → Prop} :
    Prog.Triple (At l ms) (emitting (emit e)) (fun _ => At l (ms ++ [e])) E := by
  refine .modify fun s hs => ⟨hs.1, ?_⟩
  have hm : marks [e] = [e] := by simp [marks, he]
  exact (marks_append s.calls [e]).trans (by rw [hs.2, hm])

theorem update_bind {β : Type} {Q : β → RconSt → Prop} {E : RconSt → Prop} {f : Rcon → Rcon}
    {g : Unit → RconM β} (F : Link → Link) (hF : ∀ this, (f this).link = F this.link)
    (hg : Prog.Triple (At (F l) ms) (g ()) Q E) : Prog.Triple (At l ms) (update f >>= g) Q E :=
  .bind (R := fun _ => At (F l) ms) (.modify fun s hs => ⟨by rw [hF, hs.1], hs.2⟩) fun _ => hg

theorem loginAction_success :
    Prog.Triple (At l ms) (loginAction env o false (some true))
      (fun _ => At { l with loginAttempts := 0 } (ms ++ [.loggedIn]))
      (At { l with loginAttempts := 0 } (ms ++ [.loggedIn])) := by
  refine this_bind fun this _ => (logBot_quiet _ _).bind ((sendTextMessage_quiet _ _).bind ?_)
  refine update_bind (fun l => { l with loginAttempts := 0 }) (fun _ => rfl) ?_
  refine .bind (emit_mark rfl) fun _ => ?_
  exact .of_within (initCronJobs_still o) fun _ _ hs h => h.at hs

theorem loginAction_failed {success : Option Bool} (h : success ≠ some true) :
    Prog.Within Still (loginAction env o false success) := by
  refine .bind Still.frame (.read Still.frame _) fun this => ?_
  rw [if_neg Bool.false_ne_true, if_neg h]
  refine .ite (fun _ => ?_) fun _ => .pure Still.frame _
  exact .bind Still.frame (logBot_quiet _ _).1 fun _ => (sendTextMessage_quiet _ _).1

/-- The listener of `disconnected` arms a timer, or it throws, or it was told to stop. -/
theorem disconnectedAction_link (extra : Option Text) :
    Prog.Triple (At l ms) (disconnectedAction env extra)
      (fun _ => At (if extra = some (lit "stop") then l else l.arm .disconnected) ms)
      (At l ms) := by
  refine still_bind cancelCronJobs_still (fun _ h => h) fun _ => this_bind fun this _ => ?_
  by_cases h : extra = some (lit "stop")
  · rw [if_pos h, if_pos h]
    exact (logBot_quiet _ _).bind (sendTextMessage_quiet _ _).triple
  · rw [if_neg h, if_neg h]
    exact (logBot_quiet _ _).bind ((sendTextMessage_quiet _ _).bind (armTimer_link _))

/-- A call that leaves a mark, returned or thrown. -/
theorem call_mark {throws : Effect → Bool} {e : Effect} (he : e.isMark = true) :
    Prog.Triple (At l ms) (emitting (call throws e))
      (fun _ s => throws e = false ∧ At l (ms ++ [e]) s)
      fun s => throws e = true ∧ At l (ms ++ [e]) s := by
  have hm : ∀ calls, marks calls = ms → marks (calls ++ [e]) = ms ++ [e] := fun calls h => by
    rw [marks_append, h, marks, List.filter_cons_of_pos he, List.filter_nil]
  intro s hs
  rw [emitting_call]
  cases h : throws e with
  | false => exact ⟨rfl, hs.1, hm _ hs.2⟩
  | true => exact ⟨rfl, hs.1, hm _ hs.2⟩

/-- The BattleNode is there when its constructor returns, and nothing but its record when it
throws. -/
theorem newBattleNode_link (hnone : l.bnode = none) :
    Prog.Triple (At l ms) (newBattleNode o)
      (fun n s => n = l.nodes.length ∧ o.throws (.newNode l.nodes.length) = false ∧
        At (l.renewed false) (ms ++ renewal l.nodes.length false) s)
      (fun s => o.throws (.newNode l.nodes.length) = true ∧
        At l.lapsed (ms ++ renewal l.nodes.length false) s) := by
  have hlapsed : l.lapsed = { l with nodes := l.nodes ++ [⟨false, false, false, false⟩] } := by
    simp only [Link.lapsed, Link.renewed, hnone]
  refine this_bind fun this hthis => ?_
  have hn : this.nodes.length = l.nodes.length := by rw [← hthis]; rfl
  rw [hn]
  refine update_bind (fun k => { k with nodes := k.nodes ++ [⟨false, false, false, false⟩] })
    (fun _ => rfl) ?_
  refine .bind ((call_mark rfl).post (fun _ _ h => h) fun s hs => ⟨hs.1, hlapsed ▸ hs.2⟩)
    fun _ => fact_triple fun hreturns => ?_
  refine update_bind (fun k => { k with bnode := some l.nodes.length }) (fun _ => rfl) ?_
  exact .pure fun s hs => ⟨rfl, hreturns, hs⟩

/-- The log line of `init` and `reInit` needs a default channel. -/
theorem logLogin_bind {β : Type} {Q : β → RconSt → Prop} {E : RconSt → Prop}
    {f : Unit → RconM β} (hE : ∀ s, s.rcon.defaultChannel = none → At l ms s → E s)
    (hf : Prog.Triple (At l ms) (f ()) Q E) :
    Prog.Triple (At l ms) (logLogin env >>= f) Q E := by
  refine .bind (R := fun _ => At l ms) (fun s hs => ?_) fun _ => hf
  cases hdefault : s.rcon.defaultChannel with
  | none =>
    simp only [logLogin, this, Prog.read_bind, hdefault]
    exact hE s hdefault hs
  | some c =>
    simp only [logLogin, this, Prog.read_bind, hdefault]
    exact (logBot_quiet env _).triple s hs

/-- The end of `init` and of `reInit`. -/
theorem initEvents_login :
    Prog.Triple (At (l.renewed false) ms)
      (do initEvents l.nodes.length; login o l.nodes.length)
      (fun _ s => o.throws (.login l.nodes.length) = false ∧
        At (l.renewed true) (ms ++ [.login l.nodes.length]) s)
      (fun s => o.throws (.login l.nodes.length) = true ∧
        At (l.renewed true) (ms ++ [.login l.nodes.length]) s) := by
  have hmodify : ∀ f : Node → Node, ∀ node, (l.nodes ++ [node]).modify l.nodes.length f =
      l.nodes ++ [f node] := fun f node => by
    rw [List.modify_eq_take_cons_drop (by simp)]
    simp
  refine update_bind (fun k => { k with nodes := k.nodes.modify l.nodes.length fun node =>
    { node with listening := true } }) (fun _ => rfl) ?_
  refine update_bind (fun k => { k with nodes := k.nodes.modify l.nodes.length fun node =>
    { node with login := true } }) (fun _ => rfl) ?_
  refine (call_mark rfl).post (fun _ s hs => ⟨hs.1, ?_⟩) fun s hs => ⟨hs.1, ?_⟩
  · simpa only [Link.renewed, hmodify] using hs.2
  · simpa only [Link.renewed, hmodify] using hs.2

/-- What a `reInit` that returns leaves. -/
structure Renewed (o : Oracle) (l : Link) (ms : List Effect) (s : RconSt) : Prop where
  built : o.throws (.newNode l.nodes.length) = false
  asked : o.throws (.login l.nodes.length) = false
  link : At (l.renewed true) (ms ++ renewal l.nodes.length true) s

/-- What a `reInit` that throws leaves. -/
inductive Broken (o : Oracle) (l : Link) (ms : List Effect) (s : RconSt) : Prop
  /-- `new BattleNode` threw -/
  | lapsed (hthrows : o.throws (.newNode l.nodes.length) = true)
      (h : At l.lapsed (ms ++ renewal l.nodes.length false) s) : Broken o l ms s
  /-- there is no channel whose name the log line shows -/
  | unnamed (hdefault : s.rcon.defaultChannel = none)
      (h : At (l.renewed false) (ms ++ renewal l.nodes.length false) s) : Broken o l ms s
  /-- `login()` threw -/
  | unasked (hthrows : o.throws (.login l.nodes.length) = true)
      (h : At (l.renewed true) (ms ++ renewal l.nodes.length true) s) : Broken o l ms s

theorem reInit_link (env : Env) (o : Oracle) (hnone : l.bnode = none) :
    Prog.Triple (At l ms) (reInit env o) (fun _ => Renewed o l ms) (Broken o l ms) := by
  have hup : ∀ s, At (l.renewed true)
      (ms ++ renewal l.nodes.length false ++ [.login l.nodes.length]) s →
        At (l.renewed true) (ms ++ renewal l.nodes.length true) s := fun s hs => by
    rwa [List.append_assoc] at hs
  refine .bind ((newBattleNode_link hnone).post (fun _ _ h => h) fun s hs => .lapsed hs.1 hs.2)
    fun n => fact_triple fun hn => fact_triple fun hbuilt => ?_
  subst hn
  refine logLogin_bind (fun s hdefault hs => .unnamed hdefault hs) ?_
  exact initEvents_login.post (fun _ s hs => ⟨hbuilt, hs.1, hup s hs.2⟩) fun s hs =>
    .unasked hs.1 (hup s hs.2)

theorem reconnect_link (env : Env) (o : Oracle) (cause : Cause) :
    Prog.Triple (At l ms) (reconnect env o cause)
      (fun _ => Renewed o (l.counted cause) (ms ++ [.reInit cause]))
      (Broken o (l.counted cause) (ms ++ [.reInit cause])) := by
  have hnote : Prog.Triple (At l ms) (noteReconnect env cause) (fun _ => At (l.counted cause) ms)
      fun _ => False := by
    cases cause with
    | loginError => exact .modify fun s hs => ⟨by rw [← hs.1]; rfl, hs.2⟩
    | disconnected => exact this_bind fun this _ => (logBot_quiet _ _).triple
  refine .bind (hnote.post (fun _ _ h => h) fun _ h => h.elim) fun _ => ?_
  refine update_bind (fun k => { k with bnode := none }) (fun _ => rfl) ?_
  refine .bind (emit_mark rfl) fun _ =>
    (reInit_link env o rfl).post (fun _ s hs => ⟨hs.built, hs.asked, hs.link⟩) fun s hs => ?_
  cases hs with
  | lapsed hthrows h => exact .lapsed hthrows h
  | unnamed hdefault h => exact .unnamed hdefault h
  | unasked hthrows h => exact .unasked hthrows h

theorem open_of_link {this : Rcon} (h : this.link = l) (n : Nat) : this.open n = l.open n := by
  rw [← h]
  rfl

/-- The marks and the connection after a step of the relation `T`. -/
def After (T : Link → List Effect → Link → Prop) (l : Link) (ms : List Effect)
    (s : RconSt) : Prop :=
  ∃ new l', T l new l' ∧ At l' (ms ++ new) s

theorem After.of_at {T : Link → List Effect → Link → Prop} {l' : Link} {s : RconSt}
    (hT : T l [] l') (h : At l' ms s) : After T l ms s :=
  ⟨[], l', hT, by rwa [List.append_nil]⟩

/-- A callback of a BattleNode that can emit no event does nothing. -/
theorem fromNode_link {n : Nat} {event : RconEvent} {x : RconM Unit}
    (hx : l.open n = true → Prog.Triple (At l ms) x (fun _ => After (LinkStep event) l ms)
      (After (LinkStep event) l ms)) :
    Prog.Triple (At l ms) (fromNode n x) (fun _ => After (LinkStep event) l ms)
      (After (LinkStep event) l ms) := by
  refine this_bind fun this hthis => .when (fun h => hx ?_) fun _ s hs => .of_at (.stay _ _) hs
  rwa [open_of_link hthis] at h

theorem still_step {event : RconEvent} {x : RconM Unit} (hx : Prog.Within Still x) :
    Prog.Triple (At l ms) x (fun _ => After (LinkStep event) l ms) (After (LinkStep event) l ms) :=
  .of_within hx fun _ _ hs h => .of_at (.stay _ _) (h.at hs)

theorem loginEvent_link {n : Nat} (hopen : l.open n = true) (err : Bool) (success : Option Bool) :
    Prog.Triple (At l ms) (loginEvent env o n err success)
      (fun _ => After (LinkStep (.login n err success)) l ms)
      (After (LinkStep (.login n err success)) l ms) := by
  cases err with
  | true =>
    rw [loginEvent, Prog.when_true]
    refine update_bind (fun k => k.ended n) (fun _ => rfl) ?_
    refine (loginAction_error success).post (fun _ s hs => ?_) fun _ h => h
    by_cases h : l.loginAttempts < 60
    · exact .of_at (.retry hopen h) (by rwa [Link.ended, if_pos h] at hs)
    · exact .of_at (.giveUp hopen h) (by rwa [Link.ended, if_neg h] at hs)
  | false =>
    refine .bind (R := fun _ => At l ms) (.pure fun _ hs => hs) fun _ => ?_
    by_cases h : success = some true
    · subst h
      exact loginAction_success.post (fun _ s hs => ⟨_, _, .loggedIn hopen, hs⟩)
        fun s hs => ⟨_, _, .loggedIn hopen, hs⟩
    · exact still_step (loginAction_failed h)

/-- A BattleNode without listeners emits `disconnected` to nobody. -/
theorem emitDisconnected_link (n : Nat) (extra : Option Text) :
    Prog.Triple (At l ms) (emitDisconnected env n extra)
      (fun _ => At (if l.hears n then
        if extra = some (lit "stop") then l.ended n else (l.ended n).arm .disconnected else l) ms)
      fun s => l.hears n = true ∧ At (l.ended n) ms s := by
  refine this_bind fun this hthis => ?_
  have hears : l.hears n = this.nodes[n]?.any (·.listening) := by rw [← hthis]; rfl
  rw [hears]
  split
  · rename_i node hnode
    rw [hnode, Option.any_some]
    refine .when (fun h => ?_) fun h s hs => by rwa [h]
    rw [if_pos h]
    refine update_bind (fun k => k.ended n) (fun _ => rfl) ?_
    exact (disconnectedAction_link extra).post (fun _ _ hs => hs) fun s hs => ⟨h, hs⟩
  · rename_i hnone
    rw [hnone]
    exact .pure fun s hs => hs

theorem node_of_open {n : Nat} (h : l.open n = true) :
    ∃ node, l.nodes[n]? = some node ∧ node.listening = true ∧ node.login = true ∧
      node.closed = false := by
  unfold Link.open at h
  split at h
  · rename_i node hnode
    simp only [Bool.and_eq_true, Bool.not_eq_true'] at h
    exact ⟨node, hnode, h.1.1, h.1.2, h.2⟩
  · cases h

theorem hears_of_open {n : Nat} (h : l.open n = true) : l.hears n = true := by
  obtain ⟨node, hnode, hlistening, -, -⟩ := node_of_open h
  simp [Link.hears, hnode, hlistening]

/-- **A callback of an instance is a step of the automaton.** -/
theorem rconStep_link (event : RconEvent) :
    Prog.Triple (At l ms) (rconStep env o event) (fun _ => After (LinkStep event) l ms)
      (After (LinkStep event) l ms) := by
  have hf := Still.frame
  cases event with
  | login n err success => exact fromNode_link fun hopen => loginEvent_link hopen err success
  | chat n now message =>
    exact fromNode_link fun _ => still_step (.bind hf (.read hf _) fun this =>
      chatMessagesAction_still this o.throws now message)
  | disconnected n extra =>
    refine fromNode_link fun hopen => ?_
    refine (emitDisconnected_link n extra).post (fun _ s hs => ?_) fun s hs =>
      .of_at (.ended hopen) hs.2
    rw [if_pos (hears_of_open hopen)] at hs
    split at hs
    · exact .of_at (.ended hopen) hs
    · exact .of_at (.lost hopen) hs
  | answer n callback text =>
    exact fromNode_link fun _ => still_step (.bind hf (.read hf _) fun this =>
      replyAction_still env this callback text)
  | timer i =>
    refine this_bind fun this hthis => ?_
    split
    · rename_i cause hcause
      refine update_bind (fun k => { k with timers := k.timers.eraseIdx i }) (fun _ => rfl) ?_
      have htimer : l.timers[i]? = some cause := by rw [← hthis]; exact hcause
      have hmarks : ∀ {k : Link} {up : Bool} {s : RconSt},
          At k (ms ++ [.reInit cause] ++ renewal l.nodes.length up) s →
          At k (ms ++ .reInit cause :: renewal l.nodes.length up) s := fun h => by
        rwa [List.append_assoc] at h
      refine (reconnect_link env o cause).post
        (fun _ s hs => ⟨_, _, .reconnect htimer true, hmarks hs.link⟩) fun s hs => ?_
      cases hs with
      | lapsed _ h => exact ⟨_, _, .lapse htimer, hmarks h⟩
      | unnamed _ h => exact ⟨_, _, .reconnect htimer false, hmarks h⟩
      | unasked _ h => exact ⟨_, _, .reconnect htimer true, hmarks h⟩
    · exact .pure fun s hs => .of_at (.stay _ _) hs
  | cron id =>
    refine still_step (.bind hf (.read hf _) fun this => ?_)
    split
    · exact cronAction_still o _
    · exact .pure hf _

/-! ## Closing and building -/

theorem closeSocket_link (n : Nat) :
    Prog.Triple (At l ms) (closeSocket o n) (fun _ => At (l.closed n) ms) (At l ms) :=
  still_bind (emitting_still (call_adds rfl)) (fun _ h => h) fun _ =>
    .modify fun s hs => ⟨by rw [← hs.1]; rfl, hs.2⟩

theorem Link.closed_hears (l : Link) (n : Nat) : (l.closed n).hears n = l.hears n := by
  simp only [Link.hears, Link.closed, List.getElem?_modify_eq]
  cases l.nodes[n]? <;> rfl

/-- An instance that is closed has no BattleNode, and one whose closing throws keeps it. -/
theorem close_stops (n : Nat) :
    Prog.Triple (At l ms) (close env o n)
      (fun _ => At { l.shut n with bnode := none } (ms ++ [.stopped]))
      (fun s => At l ms s ∨ At (l.shut n) ms s) := by
  have hcommand : ∀ {x : Emit Unit}, Prog.Within Still (emitting x) →
      Prog.Triple (At l ms) (emitting x) (fun _ => At l ms)
        fun s => At l ms s ∨ At (l.shut n) ms s := fun hx =>
    (Prog.Triple.of_within hx fun _ _ hs h => h.at hs).post (fun _ _ h => h) fun _ => .inl
  have hsocket : Prog.Triple (At l ms) (closeSocket o n) (fun _ => At (l.closed n) ms)
      fun s => At l ms s ∨ At (l.shut n) ms s :=
    (closeSocket_link n).post (fun _ _ h => h) fun _ => .inl
  refine close_triple (fun s _ => hcommand (cmdDisconnect_still s.rcon o.throws))
    (fun s _ => hcommand (cmdExit_still s.rcon o.throws)) hsocket
    ((emitDisconnected_link n (some (lit "stop"))).post (fun _ _ h => h) fun s hs => ?_)
    fun s hs => ?_
  · rw [Link.closed_hears] at hs
    exact .inr (by rw [Link.shut, if_pos hs.1]; exact hs.2)
  · rw [Link.closed_hears, if_pos rfl] at hs
    refine ⟨congrArg (fun k : Link => { k with bnode := none }) hs.1, ?_⟩
    rw [marks_append, hs.2]
    rfl

/-- **Closing an instance.** The synthetic `disconnected` arms no timer. -/
theorem close_link (n : Nat) :
    Prog.Triple (At l ms) (close env o n) (fun _ => After (CloseStep n) l ms)
      (After (CloseStep n) l ms) := by
  refine (close_stops n).post (fun _ s hs => ⟨_, _, .stopped l, hs⟩) fun s hs => ?_
  rcases hs with hs | hs
  · exact .of_at (.refused l) hs
  · exact .of_at (.stuck l) hs

/-- **Building an instance.** -/
theorem construct_link (env : Env) (o : Oracle) (specific : Value) :
    Prog.Triple (At .blank []) (construct env o specific)
      (fun _ s => ∃ new l', BuildStep true new l' ∧ At l' new s)
      (fun s => ∃ new l', BuildStep false new l' ∧ At l' new s) := by
  -- the BattleNode that is created is the first one
  let created : Nat → RconSt → Prop := fun n s =>
    n = 0 ∧ At (Link.blank.renewed false) (renewal 0 false) s
  let failed : RconSt → Prop := fun s => ∃ new l', BuildStep false new l' ∧ At l' new s
  have hidle : ∀ s, At (Link.blank.renewed false) (renewal 0 false) s → failed s :=
    fun s hs => ⟨_, _, .idle false, hs⟩
  have hnode : Prog.Triple (At .blank []) (newBattleNode o) created failed :=
    (newBattleNode_link rfl).post (fun n s hs => ⟨hs.1, hs.2.2⟩) fun s hs => ⟨_, _, .lapsed, hs.2⟩
  have hbind : ∀ n, Prog.Triple (created n) bindChannels (fun _ => created n) failed := fun n =>
    fact_triple fun hn => (Prog.Triple.of_within bindChannels_still fun _ _ hs h => h.at hs).post
      (fun _ s hs => ⟨hn, hs⟩) hidle
  refine construct_triple specific (fun _ _ hs => hs) hnode hbind (fun n => ?_)
    (fun n s hs => ⟨_, _, .idle true, hs.2⟩) fun s hs => ⟨_, _, .refused, hs⟩
  refine fact_triple fun hn => ?_
  subst hn
  refine logLogin_bind (fun s _ => hidle s) ?_
  exact initEvents_login.post (fun _ s hs => ⟨_, _, .up true, hs.2⟩) fun s hs =>
    ⟨_, _, .up false, hs.2⟩

end Events

end ZBot
