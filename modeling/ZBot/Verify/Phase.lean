import ZBot.Verify.Reconnect
import ZBot.Verify.Speech

/-!
# The phases of a connection

Seen from outside an instance is idle, connecting, online, waiting for a reconnect timer, or down.
`Phase` is that abstract machine, and `Phase.next` its transition function on the signals an
instance gets: a login that failed or succeeded, a lost connection, a timer that fired, a reload.

The code refines it in two steps. `event_turn` and `close_turn` say exactly what a callback and a
reload do to the concrete connection, `Link.turn`; the automaton of `ZBot.Verify.Link` only bounds
it, since a listener may throw there. What rules the exceptions out is the invariant of an instance,
`Steady`: its cron jobs are in order, so that the listener of `disconnected` returns, and it has a
default channel when it has ever logged in, so that `reInit` can log its name. What is left are the
two calls of `battle-node` in a `reInit`, and they decide alone whether the callback of a timer
returns (`timer_returns_iff`). `Link.Steady.turn` then relates the connection to its phase.

A BattleNode has to keep to its protocol for this (`RconEvent.Fits`): it is silent after its end, a
login does not fail after it has succeeded, and only the bot says `stop`; and `new BattleNode` has
to return when a timer fires. `event_steady` and `touch_steady` are what a step does to an instance
in order; the runs are in `ZBot.Verify.Life`.
-/

namespace ZBot

open Js RconM

/-! ## The abstract machine -/

inductive Phase where
  /-- no BattleNode was told to log in -/
  | idle
  /-- a BattleNode was told to log in, after the given number of failed logins -/
  | connecting (attempts : Nat)
  | online
  /-- a reconnect timer is pending -/
  | waiting (cause : Cause) (attempts : Nat)
  /-- there is neither a BattleNode that may answer nor a timer -/
  | down
  deriving DecidableEq

/-- What an instance is told, with the BattleNode or the timer that tells it. -/
inductive Signal where
  | failed (n : Nat)
  | succeeded (n : Nat)
  | lost (n : Nat)
  | fired (i : Nat) (cause : Cause)
  /-- a reload closes the instance -/
  | closed (n : Nat)
  | other

def Phase.next : Phase → Signal → Phase
  | .connecting k, .failed _ => if k < 60 then .waiting .loginError k else .down
  | .connecting _, .succeeded _ => .online
  | .connecting k, .lost _ => .waiting .disconnected k
  | .online, .lost _ => .waiting .disconnected 0
  | .waiting .loginError k, .fired _ _ => .connecting (k + 1)
  | .waiting .disconnected k, .fired _ _ => .connecting k
  | .connecting _, .closed _ => .down
  | .online, .closed _ => .down
  -- a reload does not clear the timer
  | p, _ => p

/-- What an effect says about whether the last BattleNode has logged in. -/
def Effect.switch (up : Bool) : Effect → Bool
  | .newNode _ => false
  | .loggedIn => true
  | _ => up

/-- The last BattleNode has logged in. -/
def online (calls : List Effect) : Bool := calls.foldl Effect.switch false

/-- The phase of a connection, with the effects so far. -/
def Link.phase (l : Link) (calls : List Effect) : Phase :=
  match l.timers with
  | cause :: _ => .waiting cause l.loginAttempts
  | [] =>
    if 0 < l.live then if online calls then .online else .connecting l.loginAttempts
    else if l.nodes.any (·.login) then .down else .idle

def RconSt.phase (t : RconSt) : Phase := t.rcon.link.phase t.calls

/-! ## Turns of the connection -/

/-- What a signal does to the connection, with the marks it leaves. -/
def Link.turn (l : Link) : Signal → List Effect × Link
  | .failed n =>
    ([], if l.loginAttempts < 60 then (l.ended n).arm .loginError else l.ended n)
  | .succeeded _ => ([.loggedIn], { l with loginAttempts := 0 })
  | .lost n => ([], (l.ended n).arm .disconnected)
  | .fired i cause => (.reInit cause :: renewal l.nodes.length true,
      ((l.fired i).counted cause).renewed true)
  | .closed n => ([.stopped], { l.shut n with bnode := none })
  | .other => ([], l)

/-- What the event tells the instance. -/
def RconEvent.signal (this : Rcon) : RconEvent → Signal
  | .login n true _ => if this.open n then .failed n else .other
  | .login n false (some true) => if this.open n then .succeeded n else .other
  | .disconnected n _ => if this.open n then .lost n else .other
  | .timer i => match this.timers[i]? with
    | some cause => .fired i cause
    | none => .other
  | _ => .other

theorem RconEvent.signal_login {this : Rcon} {n : Nat} {success : Option Bool}
    (h : success ≠ some true) : signal this (.login n false success) = .other := by
  cases success with
  | none => rfl
  | some b => cases b with
    | false => rfl
    | true => exact absurd rfl h

/-- The connection took the turn. -/
def Turned (t : RconSt) (signal : Signal) (t' : RconSt) : Prop :=
  t'.rcon.link = (t.rcon.link.turn signal).2 ∧
    marks t'.calls = marks t.calls ++ (t.rcon.link.turn signal).1

theorem Turned.of_at {t : RconSt} {signal : Signal} {x : RconM Unit}
    (h : At (t.rcon.link.turn signal).2 (t.rcon.link.turn signal).1 (x ⟨t.rcon, []⟩).2) :
    Turned t signal (t.after x) :=
  ⟨h.1, by rw [RconSt.after, marks_append, h.2]⟩

/-- A method that leaves the connection alone takes no turn. -/
theorem Turned.of_still {t : RconSt} {x : RconM Unit} (hx : Prog.Within Still x) :
    Turned t .other (t.after x) :=
  .of_at ((hx ⟨t.rcon, []⟩).at ⟨rfl, rfl⟩)

section Turns

variable {env : Env} {o : Oracle} {t : RconSt}

/-- A call keeps what is said of the fields. -/
theorem emitting_fields {α : Type} (x : Emit α) {P : Rcon → Prop} :
    Prog.Triple (fun s => P s.rcon) (emitting x) (fun _ s => P s.rcon) fun s => P s.rcon :=
  .of_snd fun _ hs => hs

theorem loginEvent_failed {n : Nat} (success : Option Bool) :
    Turned t (.failed n) (t.after (loginEvent env o n true success)) := by
  refine .of_at (Prog.Triple.snd (P := At t.rcon.link []) ?_ ⟨rfl, rfl⟩)
  rw [loginEvent, Prog.when_true]
  exact update_bind (fun k => k.ended n) (fun _ => rfl) (loginAction_error success)

theorem loginEvent_succeeded {n : Nat} :
    Turned t (.succeeded n) (t.after (loginEvent env o n false (some true))) :=
  .of_at (Prog.Triple.snd (P := At t.rcon.link [])
    (.bind (R := fun _ => At t.rcon.link []) (.pure fun _ hs => hs) fun _ => loginAction_success)
    ⟨rfl, rfl⟩)

theorem loginEvent_still {n : Nat} {success : Option Bool} (h : success ≠ some true) :
    Prog.Within Still (loginEvent env o n false success) :=
  .bind Still.frame (.pure Still.frame ()) fun _ => loginAction_failed h

theorem emitDisconnected_lost {n : Nat} {extra : Option Text} (ht : t.rcon.Clean)
    (hopen : t.rcon.open n = true) (hextra : extra ≠ some (lit "stop")) :
    Turned t (.lost n) (t.after (emitDisconnected env n extra)) := by
  have hears : t.rcon.link.hears n = true := hears_of_open hopen
  have hok := (emitDisconnected_clean env extra (s := ⟨t.rcon, []⟩) hears ht).1
  have hlink := (emitDisconnected_link n extra).of_ok (s := ⟨t.rcon, []⟩) ⟨rfl, rfl⟩ hok
  rw [if_pos hears, if_neg hextra] at hlink
  exact .of_at hlink

theorem timer_default (env : Env) (o : Oracle) {i : Nat} {cause : Cause} {s : RconSt}
    (htimer : s.rcon.timers[i]? = some cause) :
    (reconnect env o cause { s with rcon := { s.rcon with
      timers := s.rcon.timers.eraseIdx i } }).2.rcon.defaultChannel = s.rcon.defaultChannel := by
  have hbound := (rconStep_speaks env o (.timer i) s).rcon
  rw [timer_some env o htimer] at hbound
  exact Rcon.defaultChannel_of_bound hbound

/-- **The callback of a timer** of an instance with a default channel returns exactly when the two
calls of `battle-node` do. -/
theorem timer_returns_iff {i : Nat} {cause : Cause} {s : RconSt}
    (htimer : s.rcon.timers[i]? = some cause) (hdefault : s.rcon.defaultChannel ≠ none) :
    (rconStep env o (.timer i) s).1 = .ok () ↔
      o.throws (.newNode s.rcon.nodes.length) = false ∧
        o.throws (.login s.rcon.nodes.length) = false := by
  have hchannel := timer_default env o htimer
  rw [timer_some env o htimer]
  let s₁ : RconSt := { s with rcon := { s.rcon with timers := s.rcon.timers.eraseIdx i } }
  have hlink := reconnect_link env o cause s₁ ⟨rfl, rfl⟩
  change (reconnect env o cause s₁).2.rcon.defaultChannel = _ at hchannel
  change (reconnect env o cause s₁).1 = _ ↔ _
  rcases hrun : reconnect env o cause s₁ with ⟨_ | _, s'⟩ <;> rw [hrun] at hlink hchannel
  · refine iff_of_false nofun fun ⟨hbuilt, hasked⟩ => ?_
    cases hlink with
    | lapsed hthrows _ => cases hbuilt.symm.trans hthrows
    | unnamed hnone _ => exact hdefault (hchannel.symm.trans hnone)
    | unasked hthrows _ => cases hasked.symm.trans hthrows
  · exact iff_of_true rfl ⟨hlink.built, hlink.asked⟩

/-- The timer fires and `new BattleNode` returns. Whether `login()` does makes no difference to the
connection. -/
theorem timer_fired {i : Nat} {cause : Cause} (htimer : t.rcon.timers[i]? = some cause)
    (ht : t.rcon.defaultChannel ≠ none)
    (hbuilt : o.throws (.newNode t.rcon.nodes.length) = false) :
    Turned t (.fired i cause) (t.after (rconStep env o (.timer i))) := by
  have hchannel := timer_default env o (s := ⟨t.rcon, []⟩) htimer
  let s₁ : RconSt := ⟨{ t.rcon with timers := t.rcon.timers.eraseIdx i }, []⟩
  have hlink := reconnect_link env o cause s₁ ⟨rfl, rfl⟩
  change (reconnect env o cause s₁).2.rcon.defaultChannel = _ at hchannel
  refine .of_at ?_
  rw [timer_some env o (s := ⟨t.rcon, []⟩) htimer]
  change At _ _ (reconnect env o cause s₁).2
  rcases hrun : reconnect env o cause s₁ with ⟨_ | _, s'⟩ <;> rw [hrun] at hlink hchannel
  · cases hlink with
    | lapsed hthrows _ => cases hbuilt.symm.trans hthrows
    | unnamed hnone _ => exact absurd (hchannel.symm.trans hnone) ht
    | unasked _ h => exact h
  · exact hlink.link

/-- **A callback of an instance in order takes exactly the turn of its signal.** -/
theorem event_turn (e : RconEvent) (hclean : t.rcon.Clean)
    (hdefault : t.rcon.timers ≠ [] → t.rcon.defaultChannel ≠ none)
    (hextra : ∀ n, e ≠ .disconnected n (some (lit "stop")))
    (hbuilt : ∀ i, e = .timer i → o.throws (.newNode t.rcon.nodes.length) = false) :
    Turned t (e.signal t.rcon) (t.after (rconStep env o e)) := by
  have hf := Still.frame
  -- an event of a BattleNode that cannot emit one does nothing
  have hnode : ∀ {n x} {signal : Signal}, (t.rcon.open n = true → Turned t signal (t.after x)) →
      Turned t (if t.rcon.open n then signal else .other) (t.after (fromNode n x)) := by
    intro n x signal hx
    rw [RconSt.after, fromNode_apply]
    split
    · exact hx ‹_›
    · exact .of_still (x := pure ()) (.pure hf ())
  have hquiet : ∀ {n x}, Prog.Within Still x → Turned t .other (t.after (fromNode n x)) := by
    intro n x hx
    have h : Turned t (if t.rcon.open n then .other else .other) (t.after (fromNode n x)) :=
      hnode fun _ => Turned.of_still hx
    rwa [ite_self] at h
  cases e with
  | login n err success =>
    cases err with
    | true => exact hnode fun _ => loginEvent_failed success
    | false =>
      by_cases h : success = some true
      · subst h
        exact hnode fun _ => loginEvent_succeeded
      · rw [RconEvent.signal_login h]
        exact hquiet (loginEvent_still h)
  | chat n now message =>
    exact hquiet (.bind hf (.read hf _) fun this =>
      chatMessagesAction_still this o.throws now message)
  | disconnected n extra =>
    exact hnode fun hopen =>
      emitDisconnected_lost hclean hopen fun h => hextra n (by rw [h])
  | answer n callback text =>
    exact hquiet (.bind hf (.read hf _) fun this => replyAction_still env this callback text)
  | timer i =>
    cases htimer : t.rcon.timers[i]? with
    | none =>
      have hstep := timer_none env o (s := ⟨t.rcon, []⟩) htimer
      simp only [RconEvent.signal, htimer]
      exact .of_at (by rw [hstep]; exact ⟨rfl, rfl⟩)
    | some cause =>
      simp only [RconEvent.signal, htimer]
      refine timer_fired htimer (hdefault fun h => ?_) (hbuilt i rfl)
      rw [h] at htimer
      cases htimer
  | cron id =>
    refine .of_still (.bind hf (.read hf _) fun this => ?_)
    split
    · exact cronAction_still o _
    · exact .pure hf _

/-- **A reload closes an instance in order, or it throws before it has done anything to it.** The
listeners of the BattleNode, when it has any, cancel the cron jobs. -/
theorem close_turn (env : Env) (o : Oracle) (n : Nat) (hclean : t.rcon.Clean) :
    let t' := t.after (close env o n)
    (Turned t (.closed n) t' ∧
      t'.rcon.liveJobs = if t.rcon.link.hears n then [] else t.rcon.liveJobs) ∨
    (Turned t .other t' ∧ t'.rcon.liveJobs = t.rcon.liveJobs) := by
  let l := t.rcon.link
  let jobs := if l.hears n then [] else t.rcon.liveJobs
  let P : Link → RconSt → Prop := fun k s =>
    At k [] s ∧ s.rcon.Clean ∧ s.rcon.liveJobs = t.rcon.liveJobs
  let E : RconSt → Prop := fun s =>
    (At { l.shut n with bnode := none } [.stopped] s ∧ s.rcon.liveJobs = jobs) ∨
      (At l [] s ∧ s.rcon.liveJobs = t.rcon.liveJobs)
  have hcalls : ∀ {x : Emit Unit}, Prog.Within Still (emitting x) →
      Prog.Triple (P l) (emitting x) (fun _ => P l) E := fun {x} hx s hs => by
    have hstill := (hx s).at hs.1
    have hkept := emitting_kept x s
    rcases e : emitting x s with ⟨_ | _, s'⟩ <;> rw [e] at hstill hkept
    · exact .inr ⟨hstill, hkept.2.1.trans hs.2.2⟩
    · exact ⟨hstill, hkept.clean hs.2.1, hkept.2.1.trans hs.2.2⟩
  have hsocket : Prog.Triple (P l) (closeSocket o n) (fun _ => P (l.closed n)) E := fun s hs => by
    have hlink := closeSocket_link (o := o) n s hs.1
    have hkept := closeSocket_kept o n s
    rcases e : closeSocket o n s with ⟨_ | _, s'⟩ <;> rw [e] at hlink hkept
    · exact .inr ⟨hlink, hkept.2.1.trans hs.2.2⟩
    · exact ⟨hlink, hkept.clean hs.2.1, hkept.2.1.trans hs.2.2⟩
  -- the listener returns, since the jobs are in order
  have hend : Prog.Triple (P (l.closed n)) (emitDisconnected env n (some (lit "stop")))
      (fun _ s => At (l.shut n) [] s ∧ s.rcon.liveJobs = jobs) E := fun s hs => by
    have hears : s.rcon.link.hears n = l.hears n := by rw [hs.1.1, Link.closed_hears]
    have htriple : Prog.Triple (At (l.closed n) [])
        (emitDisconnected env n (some (lit "stop"))) _ _ := emitDisconnected_link n _
    have hlink := htriple s hs.1
    rw [Link.closed_hears, if_pos rfl] at hlink
    cases h : l.hears n with
    | false =>
      rw [emitDisconnected_deaf env _ (hears.trans h)] at hlink ⊢
      exact ⟨hlink, by rw [hs.2.2]; simp [jobs, h]⟩
    | true =>
      have hidle := emitDisconnected_clean env (some (lit "stop")) (hears.trans h) hs.2.1
      rcases e : emitDisconnected env n (some (lit "stop")) s with ⟨_ | _, s'⟩ <;>
        rw [e] at hlink hidle
      · cases hidle.1
      · exact ⟨hlink, by rw [hidle.2.2]; simp [jobs, h]⟩
  have hclose : Prog.Triple (P l) (close env o n) (fun _ => E) E := by
    refine close_triple (fun s _ => hcalls (cmdDisconnect_still s.rcon o.throws))
      (fun s _ => hcalls (cmdExit_still s.rcon o.throws)) hsocket hend fun s hs => ?_
    refine .inl ⟨⟨congrArg (fun k : Link => { k with bnode := none }) hs.1.1, ?_⟩, hs.2⟩
    rw [marks_append, hs.1.2]
    rfl
  rcases hclose.snd (s := ⟨t.rcon, []⟩) ⟨⟨rfl, rfl⟩, hclean, rfl⟩ with h | h
  · exact .inl ⟨.of_at h.1, h.2⟩
  · exact .inr ⟨.of_at h.1, h.2⟩

/-- A new instance is told to log in only when it has a default channel. -/
theorem construct_default (env : Env) (o : Oracle) (specific server : Value) (guild : Guild) :
    let t' := RconSt.after ⟨.blank server guild, []⟩ (construct env o specific)
    t'.rcon.nodes.any (·.login) = true → t'.rcon.defaultChannel ≠ none := by
  -- before `login()` no BattleNode was told to log in, and from then on there is the channel
  let D : RconSt → Prop := fun s => s.rcon.nodes.any (·.login) = true →
    s.rcon.defaultChannel ≠ none
  let N : RconSt → Prop := fun s => s.rcon.nodes.any (·.login) = false
  let F : RconSt → Prop := fun s => s.rcon.defaultChannel ≠ none
  have hND : ∀ s, N s → D s := fun s hs h => absurd (h.symm.trans hs) (by decide)
  have hFD : ∀ s, F s → D s := fun _ hs _ => hs
  have hupdate : ∀ {f : Rcon → Rcon}, (∀ this, (f this).defaultChannel = this.defaultChannel) →
      Prog.Triple F (update f) (fun _ => F) D := fun h => .modify fun s hs => by
    change _ ≠ _
    rw [h]
    exact hs
  have hbind : Prog.Triple N bindChannels (fun _ => N) D := by
    refine (Prog.Triple.of_within bindChannels_still fun s s' hs h => ?_).post (fun _ _ h => h) hND
    have hnodes : s'.rcon.nodes = s.rcon.nodes := congrArg Link.nodes h.1
    change s'.rcon.nodes.any _ = false
    rw [hnodes]
    exact hs
  have hlog : Prog.Triple N (logLogin env) (fun _ => F) D := by
    intro s hs
    cases hdefault : s.rcon.defaultChannel with
    | none =>
      simp only [logLogin, this, Prog.read_bind, hdefault]
      exact hND s hs
    | some c =>
      simp only [logLogin, this, Prog.read_bind, hdefault]
      exact ((emitting_fields (logBot env _) (P := fun this => this.defaultChannel ≠ none)).post
        (fun _ _ h => h) hFD) s fun h => Option.some_ne_none c (hdefault.symm.trans h)
  have hnode : Prog.Triple (fun s : RconSt => s.rcon.nodes = []) (newBattleNode o)
      (fun _ => N) D := by
    refine .read_bind fun _ _ => .bind (R := fun _ => N) (.modify fun s hs => ?_) fun _ =>
      .bind (R := fun _ => N) ?_ fun _ => .bind (R := fun _ => N) (.modify fun _ hs => hs)
        fun _ => .pure fun _ hs => hs
    · change (s.rcon.nodes ++ [(⟨false, false, false, false⟩ : Node)]).any (·.login) = false
      rw [hs]
      rfl
    · exact (emitting_fields (call o.throws _) (P := fun this => this.nodes.any (·.login) = false)
        ).post (fun _ _ h => h) hND
  have hlogin : ∀ n, Prog.Triple F (login o n) (fun _ => D) D := fun n =>
    .bind (hupdate fun _ => rfl) fun _ =>
      (emitting_fields (call o.throws _) (P := fun this => this.defaultChannel ≠ none)).post
        (fun _ => hFD) hFD
  have hconnect : ∀ n, Prog.Triple N (do logLogin env; initEvents n; login o n) (fun _ => D) D :=
    fun n => .bind hlog fun _ => .bind (hupdate fun _ => rfl) fun _ => hlogin n
  have hD : ∀ s : RconSt, s.rcon.nodes = [] → D s := fun s hs => hND s (by simp [N, hs])
  exact (construct_triple specific (fun _ _ hs => hs) hnode (fun _ => hbind) hconnect
    (fun _ => hND) hD).snd rfl

end Turns

/-! ## The connection and its phase -/

theorem online_append (calls new : List Effect) :
    online (calls ++ new) = new.foldl Effect.switch (online calls) := List.foldl_append ..

theorem online_marks (calls : List Effect) : online (marks calls) = online calls := by
  induction calls using List.reverseRecOn with
  | nil => rfl
  | append_singleton calls e ih =>
    rw [marks_append, online_append, online_append, ih]
    cases e <;> rfl

/-- What a connection keeps between two signals. -/
structure Link.Steady (l : Link) (calls : List Effect) : Prop where
  single : l.Single
  /-- a live BattleNode is the current one, and its socket is open -/
  current : ∀ n node, l.nodes[n]? = some node → node.live = true →
    l.bnode = some n ∧ node.closed = false
  listening : ∀ node ∈ l.nodes, node.login = true → node.listening = true
  started : l.timers ≠ [] → l.nodes.any (·.login) = true
  counted : online calls = true → 0 < l.live → l.loginAttempts = 0
  /-- an instance ends by a reload, or when it has failed too often -/
  ends : l.phase calls = .down → .stopped ∈ calls ∨ 60 ≤ l.loginAttempts

/-- The signal comes from where signals come from: a BattleNode that has not ended, a pending timer,
the current BattleNode. -/
def Link.Expects (l : Link) (calls : List Effect) : Signal → Prop
  | .failed n => l.open n = true ∧ (∀ node ∈ l.nodes[n]?, node.ended = false) ∧
      online calls = false
  | .succeeded n => l.open n = true ∧ ∀ node ∈ l.nodes[n]?, node.ended = false
  | .lost n => l.open n = true ∧ ∀ node ∈ l.nodes[n]?, node.ended = false
  | .fired i cause => l.timers[i]? = some cause
  | .closed n => l.bnode = some n
  | .other => True

namespace Link

variable {l : Link} {calls : List Effect}

/-- A change of one BattleNode that hides it at most. -/
structure Hides (f : Node → Node) : Prop where
  login : ∀ node, (f node).login = node.login
  listening : ∀ node, (f node).listening = node.listening
  live : ∀ node, (f node).live = true → node.live = true

theorem hides_ended : Hides fun node => { node with ended := true } :=
  ⟨fun _ => rfl, fun _ => rfl, fun node h => by simp [Node.live] at h⟩

theorem hides_closed : Hides fun node => { node with closed := true } :=
  ⟨fun _ => rfl, fun _ => rfl, fun _ h => h⟩

theorem Hides.any_login {f : Node → Node} (hf : Hides f) (ns : List Node) (n : Nat) :
    (ns.modify n f).any (·.login) = ns.any (·.login) := by
  induction ns generalizing n with
  | nil => cases n <;> rfl
  | cons node ns ih =>
    cases n with
    | zero => rw [List.modify_zero_cons, List.any_cons, List.any_cons, hf.login]
    | succ n => rw [List.modify_succ_cons, List.any_cons, List.any_cons, ih]

theorem Hides.getElem? {f : Node → Node} (hf : Hides f) {ns : List Node} {n m : Nat} {node : Node}
    (h : (ns.modify n f)[m]? = some node) :
    ∃ old, ns[m]? = some old ∧ node.login = old.login ∧ node.listening = old.listening ∧
      (node.live = true → old.live = true) := by
  rw [List.getElem?_modify] at h
  cases hold : ns[m]? with
  | none =>
    rw [hold] at h
    cases h
  | some old =>
    rw [hold] at h
    cases h
    refine ⟨old, rfl, ?_⟩
    split
    · exact ⟨hf.login old, hf.listening old, hf.live old⟩
    · exact ⟨rfl, rfl, fun h => h⟩

theorem Hides.listen {f : Node → Node} (hf : Hides f) {ns : List Node} (n : Nat)
    (h : ∀ node ∈ ns, node.login = true → node.listening = true) :
    ∀ node ∈ ns.modify n f, node.login = true → node.listening = true := by
  intro node hmem hlogin
  obtain ⟨m, hm⟩ := List.mem_iff_getElem?.1 hmem
  obtain ⟨old, hold, holdlogin, holdlistening, -⟩ := hf.getElem? hm
  rw [holdlistening]
  exact h old (List.mem_of_getElem? hold) (holdlogin ▸ hlogin)

/-- A BattleNode that can emit an event and has not ended is the only live one, and no timer is
pending. -/
theorem Steady.up (hl : l.Steady calls) {n : Nat} (hopen : l.open n = true)
    (hended : ∀ node ∈ l.nodes[n]?, node.ended = false) :
    l.timers = [] ∧ l.live = 1 ∧ (l.ended n).live = 0 ∧ l.nodes.any (·.login) = true := by
  have hlive := live_ended hopen hended
  have hsingle : l.timers.length + l.live ≤ 1 := hl.single
  obtain ⟨node, hnode, -, hlogin, -⟩ := node_of_open hopen
  refine ⟨List.length_eq_zero_iff.1 (by omega), by omega, by omega, ?_⟩
  exact List.any_eq_true.2 ⟨node, List.mem_of_getElem? hnode, hlogin⟩

/-- A connection without a live BattleNode. -/
theorem current_of_dead (hlive : l.live = 0) (n : Nat) (node : Node)
    (hn : l.nodes[n]? = some node) (hnode : node.live = true) :
    l.bnode = some n ∧ node.closed = false :=
  absurd hnode (List.countP_eq_zero.1 hlive node (List.mem_of_getElem? hn))

/-- The phase of a connection with a live BattleNode. -/
theorem phase_up (htimers : l.timers = []) (hlive : 0 < l.live) :
    l.phase calls = if online calls then .online else .connecting l.loginAttempts := by
  rw [phase, htimers]
  exact if_pos hlive

theorem phase_off (htimers : l.timers = []) (hlive : l.live = 0) :
    l.phase calls = if l.nodes.any (·.login) then .down else .idle := by
  rw [phase, htimers]
  exact if_neg (by omega)

theorem phase_waiting {cause : Cause} (htimers : l.timers = [cause]) :
    l.phase calls = .waiting cause l.loginAttempts := by
  rw [phase, htimers]

/-- The turn of a signal keeps the invariant, and the phase follows it: a login error. -/
theorem Steady.failed (hl : l.Steady calls) {n : Nat} (h : l.Expects calls (.failed n)) :
    (l.turn (.failed n)).2.Steady calls ∧
      (l.turn (.failed n)).2.phase calls = (l.phase calls).next (.failed n) := by
  obtain ⟨hopen, hended, hoff⟩ := h
  obtain ⟨htimers, hlive, hgone, hlogin⟩ := hl.up hopen hended
  have hlistening := hides_ended.listen n hl.listening
  have hlogin' : (l.ended n).nodes.any (·.login) = true :=
    (hides_ended.any_login l.nodes n).trans hlogin
  have hphase : l.phase calls = .connecting l.loginAttempts := by
    rw [phase_up htimers (by omega), hoff]
    rfl
  rw [hphase]
  by_cases hless : l.loginAttempts < 60
  · simp only [turn, if_pos hless, Phase.next]
    have hwaiting : ((l.ended n).arm .loginError).phase calls =
        .waiting .loginError l.loginAttempts := phase_waiting (by simp [htimers])
    refine ⟨⟨?_, current_of_dead hgone, hlistening, fun _ => hlogin', fun _ hpos => ?_,
      fun hdown => ?_⟩, hwaiting⟩
    · simp [Single, htimers, hgone]
    · exact absurd hgone (Nat.ne_of_gt hpos)
    · rw [hwaiting] at hdown
      cases hdown
  · simp only [turn, if_neg hless, Phase.next]
    refine ⟨⟨?_, current_of_dead hgone, hlistening, fun _ => hlogin', fun _ hpos => ?_,
      fun _ => .inr (Nat.not_lt.1 hless)⟩, ?_⟩
    · simp [Single, htimers, hgone]
    · exact absurd hgone (Nat.ne_of_gt hpos)
    · rw [phase_off (l := l.ended n) htimers hgone, if_pos hlogin']

theorem Steady.lost (hl : l.Steady calls) {n : Nat} (h : l.Expects calls (.lost n)) :
    (l.turn (.lost n)).2.Steady calls ∧
      (l.turn (.lost n)).2.phase calls = (l.phase calls).next (.lost n) := by
  obtain ⟨htimers, hlive, hgone, hlogin⟩ := hl.up h.1 h.2
  have hwaiting : (l.turn (.lost n)).2.phase calls = .waiting .disconnected l.loginAttempts :=
    phase_waiting (by simp [turn, htimers])
  refine ⟨⟨?_, current_of_dead hgone, hides_ended.listen n hl.listening, fun _ => ?_,
    fun _ hpos => ?_, fun hdown => ?_⟩, ?_⟩
  · simp [Single, turn, htimers, hgone]
  · exact (hides_ended.any_login l.nodes n).trans hlogin
  · exact absurd hgone (Nat.ne_of_gt hpos)
  · rw [hwaiting] at hdown
    cases hdown
  · rw [hwaiting, phase_up htimers (by omega)]
    split
    · -- a login has set the count to 0
      rename_i hup
      rw [hl.counted hup (by omega)]
      rfl
    · rfl

theorem Steady.succeeded (hl : l.Steady calls) {n : Nat} (h : l.Expects calls (.succeeded n)) :
    (l.turn (.succeeded n)).2.Steady (calls ++ [.loggedIn]) ∧
      (l.turn (.succeeded n)).2.phase (calls ++ [.loggedIn]) =
        (l.phase calls).next (.succeeded n) := by
  obtain ⟨htimers, hlive, -, -⟩ := hl.up h.1 h.2
  have hpos : 0 < l.live := by omega
  have hup : online (calls ++ [.loggedIn]) = true := by
    rw [online_append]
    rfl
  have honline : (l.turn (.succeeded n)).2.phase (calls ++ [.loggedIn]) = .online := by
    rw [phase_up (l := (l.turn (.succeeded n)).2) htimers hpos, if_pos hup]
  refine ⟨⟨hl.single, hl.current, hl.listening, hl.started, fun _ _ => rfl, fun hdown => ?_⟩, ?_⟩
  · rw [honline] at hdown
    cases hdown
  · rw [honline, phase_up htimers hpos]
    split <;> rfl

theorem Steady.fired (hl : l.Steady calls) {i : Nat} {cause : Cause}
    (h : l.Expects calls (.fired i cause)) :
    (l.turn (.fired i cause)).2.Steady (calls ++ (l.turn (.fired i cause)).1) ∧
      (l.turn (.fired i cause)).2.phase (calls ++ (l.turn (.fired i cause)).1) =
        (l.phase calls).next (.fired i cause) := by
  obtain ⟨htimers, rfl⟩ := hl.single.timers_eq h
  have hsingle : l.timers.length + l.live ≤ 1 := hl.single
  have hlive : l.live = 0 := by
    rw [htimers] at hsingle
    exact Nat.le_zero.1 (Nat.le_of_add_le_add_left hsingle)
  have hdead : ∀ node ∈ l.nodes, ¬node.live = true := List.countP_eq_zero.1 hlive
  -- the new BattleNode is the only live one
  have hlive' : (l.turn (.fired 0 cause)).2.live = 1 := by
    change (l.nodes ++ [(⟨true, true, false, false⟩ : Node)]).countP Node.live = 1
    rw [List.countP_append, show l.nodes.countP Node.live = 0 from hlive]
    rfl
  have htimers' : (l.turn (.fired 0 cause)).2.timers = [] := by
    simp [turn, htimers]
  have hoff : online (calls ++ (l.turn (.fired 0 cause)).1) = false := by
    rw [online_append]
    rfl
  have hconnecting : (l.turn (.fired 0 cause)).2.phase (calls ++ (l.turn (.fired 0 cause)).1) =
      .connecting (l.turn (.fired 0 cause)).2.loginAttempts := by
    rw [phase_up htimers' (by omega), hoff]
    rfl
  refine ⟨⟨?_, fun n node hn hnode => ?_, fun node hnode _ => ?_, fun hne => ?_, fun hup => ?_,
    fun hdown => ?_⟩, ?_⟩
  · rw [Single, htimers', hlive']
    exact Nat.le_refl 1
  · have hn' : (l.nodes ++ [⟨true, true, false, false⟩])[n]? = some node := hn
    rw [List.getElem?_append] at hn'
    split at hn'
    · exact absurd hnode (hdead node (List.mem_of_getElem? hn'))
    · have hzero : n - l.nodes.length = 0 := by
        by_contra hne
        rw [List.getElem?_eq_none (by simp; omega)] at hn'
        cases hn'
      rw [hzero] at hn'
      cases hn'
      have hlength : l.nodes.length = n := by omega
      exact ⟨congrArg some hlength, rfl⟩
  · have hmem : node ∈ l.nodes ++ [⟨true, true, false, false⟩] := hnode
    rcases List.mem_append.1 hmem with hold | hnew
    · exact hl.listening node hold ‹_›
    · rw [List.mem_singleton.1 hnew]
  · exact absurd htimers' hne
  · rw [hoff] at hup
    cases hup
  · rw [hconnecting] at hdown
    cases hdown
  · rw [hconnecting, phase_waiting htimers]
    cases cause <;> rfl

/-- After a reload no BattleNode of the instance is live. -/
theorem Steady.shut_dead (hl : l.Steady calls) {n : Nat} (hn : l.bnode = some n) :
    ∀ node ∈ (l.shut n).nodes, ¬node.live = true := by
  intro node hmem hlive
  obtain ⟨m, hm⟩ := List.mem_iff_getElem?.1 hmem
  -- a live BattleNode would be the current one
  have hcurrent : ∀ {old : Node}, l.nodes[m]? = some old → old.live = true → m = n :=
    fun hold holdlive => Option.some.inj ((hl.current m _ hold holdlive).1.symm.trans hn)
  cases hears : l.hears n with
  | true =>
    have hm' : ((l.closed n).nodes.modify n fun node => { node with ended := true })[m]? =
        some node := by
      rw [shut, if_pos hears] at hm
      exact hm
    obtain ⟨mid, hmid, -, -, hmidlive⟩ := hides_ended.getElem? hm'
    obtain ⟨old, hold, -, -, holdlive⟩ := hides_closed.getElem? hmid
    have hmn := hcurrent hold (holdlive (hmidlive hlive))
    subst hmn
    rw [List.getElem?_modify_eq, hmid] at hm'
    cases hm'
    simp [Node.live] at hlive
  | false =>
    have hm' : (l.nodes.modify n fun node => { node with closed := true })[m]? = some node := by
      rw [shut, hears] at hm
      exact hm
    obtain ⟨old, hold, -, -, holdlive⟩ := hides_closed.getElem? hm'
    have hmn := hcurrent hold (holdlive hlive)
    subst hmn
    have hlogin : old.login = true := (Bool.and_eq_true _ _ ▸ holdlive hlive).1
    rw [Link.hears, hold, Option.any_some,
      hl.listening old (List.mem_of_getElem? hold) hlogin] at hears
    cases hears

theorem any_login_shut (l : Link) (n : Nat) :
    (l.shut n).nodes.any (·.login) = l.nodes.any (·.login) := by
  have hclosed : (l.closed n).nodes.any (·.login) = l.nodes.any (·.login) :=
    hides_closed.any_login l.nodes n
  unfold shut
  split
  · exact (hides_ended.any_login (l.closed n).nodes n).trans hclosed
  · exact hclosed

theorem Steady.closed (hl : l.Steady calls) {n : Nat} (h : l.Expects calls (.closed n)) :
    (l.turn (.closed n)).2.Steady (calls ++ [.stopped]) ∧
      (l.turn (.closed n)).2.phase (calls ++ [.stopped]) = (l.phase calls).next (.closed n) := by
  have hdead := hl.shut_dead h
  have hlive : (l.turn (.closed n)).2.live = 0 := List.countP_eq_zero.2 hdead
  have hlogin : (l.turn (.closed n)).2.nodes.any (·.login) = l.nodes.any (·.login) :=
    any_login_shut l n
  have htimers : (l.turn (.closed n)).2.timers = l.timers := timers_shut l n
  have hsingle : l.timers.length + l.live ≤ 1 := hl.single
  have hlistening : ∀ node ∈ (l.shut n).nodes, node.login = true → node.listening = true := by
    have hclosed := hides_closed.listen n hl.listening
    unfold shut
    split
    · exact hides_ended.listen n hclosed
    · exact hclosed
  refine ⟨⟨?_, current_of_dead hlive, hlistening, fun hne => ?_, fun _ hpos => ?_,
    fun _ => .inl (by simp)⟩, ?_⟩
  · rw [Single, htimers, hlive]
    omega
  · rw [hlogin]
    exact hl.started (htimers ▸ hne)
  · exact absurd hlive (Nat.ne_of_gt hpos)
  · cases hcauses : l.timers with
    | nil =>
      rw [phase_off (htimers.trans hcauses) hlive, hlogin]
      by_cases hpos : 0 < l.live
      · obtain ⟨node, hnode, hnodelive⟩ := List.countP_pos_iff.1 hpos
        have hany : l.nodes.any (·.login) = true :=
          List.any_eq_true.2 ⟨node, hnode, (Bool.and_eq_true _ _ ▸ hnodelive).1⟩
        rw [phase_up hcauses hpos, if_pos hany]
        split <;> rfl
      · rw [phase_off hcauses (by omega)]
        split <;> rfl
    | cons cause rest =>
      -- the timer is still there
      rw [phase, htimers, phase, hcauses]
      have hattempts : (l.turn (.closed n)).2.loginAttempts = l.loginAttempts := by
        change (l.shut n).loginAttempts = _
        unfold shut
        split <;> rfl
      rw [hattempts]
      cases cause <;> rfl

/-- **The connection follows its phase.** -/
theorem Steady.turn (hl : l.Steady calls) {signal : Signal} (h : l.Expects calls signal) :
    (l.turn signal).2.Steady (calls ++ (l.turn signal).1) ∧
      (l.turn signal).2.phase (calls ++ (l.turn signal).1) = (l.phase calls).next signal := by
  cases signal with
  | failed n => simpa only [Link.turn, List.append_nil] using hl.failed h
  | succeeded n => exact hl.succeeded h
  | lost n => simpa only [Link.turn, List.append_nil] using hl.lost h
  | fired i cause => exact hl.fired h
  | closed n => exact hl.closed h
  | other =>
    simp only [Link.turn, List.append_nil]
    refine ⟨hl, ?_⟩
    cases l.phase calls with
    | waiting cause k => cases cause <;> rfl
    | _ => rfl

end Link

/-! ## Instances -/

/-- What an instance keeps between two steps. -/
structure RconSt.Steady (t : RconSt) : Prop where
  link : t.rcon.link.Steady t.calls
  clean : t.rcon.Clean
  default : t.rcon.nodes.any (·.login) = true → t.rcon.defaultChannel ≠ none
  jobs : t.rcon.liveJobs ≠ [] → t.phase = .online
  unused : t.calls = [] → t.rcon.nodes = []

/-- A BattleNode keeps to its protocol: it is silent after its end, its login does not fail after it
has succeeded, and `stop` is what the bot says. -/
def RconEvent.Fits (t : RconSt) : RconEvent → Prop
  | .login n err _ => (∀ node ∈ t.rcon.nodes[n]?, node.ended = false) ∧
      (err = true → online t.calls = false)
  | .disconnected n extra => (∀ node ∈ t.rcon.nodes[n]?, node.ended = false) ∧
      extra ≠ some (lit "stop")
  | _ => True

instance (t : RconSt) (e : RconEvent) : Decidable (e.Fits t) := by
  cases e <;> unfold RconEvent.Fits <;> infer_instance

theorem RconEvent.Fits.expects {t : RconSt} {e : RconEvent} (h : e.Fits t) :
    t.rcon.link.Expects t.calls (e.signal t.rcon) := by
  cases e with
  | login n err success =>
    cases err with
    | true =>
      simp only [RconEvent.signal]
      split
      · exact ⟨‹_›, h.1, h.2 rfl⟩
      · trivial
    | false =>
      by_cases hsuccess : success = some true
      · subst hsuccess
        simp only [RconEvent.signal]
        split
        · exact ⟨‹_›, h.1⟩
        · trivial
      · rw [RconEvent.signal_login hsuccess]
        trivial
  | disconnected n extra =>
    simp only [RconEvent.signal]
    split
    · exact ⟨‹_›, h.1⟩
    · trivial
  | timer i =>
    simp only [RconEvent.signal]
    split
    · rename_i htimer
      exact htimer
    · trivial
  | chat n now message => trivial
  | answer n callback text => trivial
  | cron id => trivial

section Instances

variable {env : Env} {o : Oracle} {t t' : RconSt} {signal : Signal}

theorem Link.marks_turn (l : Link) (signal : Signal) :
    marks (l.turn signal).1 = (l.turn signal).1 := by
  cases signal <;> rfl

theorem Link.nodes_failed (l : Link) (n : Nat) :
    (l.turn (.failed n)).2.nodes = (l.ended n).nodes := by
  simp only [Link.turn]
  split <;> rfl

theorem Link.phase_marks {calls calls' : List Effect} (h : marks calls = marks calls') (l : Link) :
    l.phase calls = l.phase calls' := by
  have hup : online calls = online calls' := by rw [← online_marks, h, online_marks]
  unfold Link.phase
  rw [hup]

theorem Link.Steady.marks {l : Link} {calls calls' : List Effect} (hl : l.Steady calls)
    (h : marks calls = marks calls') : l.Steady calls' := by
  have hup : online calls' = online calls := by rw [← online_marks, ← h, online_marks]
  refine ⟨hl.single, hl.current, hl.listening, hl.started, fun hon => ?_, fun hdown => ?_⟩
  · exact hl.counted (hup ▸ hon)
  · refine (hl.ends ((Link.phase_marks h l).trans hdown)).imp_left fun hmem => ?_
    have hmark : Effect.stopped ∈ ZBot.marks calls' := h ▸ List.mem_filter.2 ⟨hmem, rfl⟩
    exact List.mem_of_mem_filter hmark

/-- A turn of the connection is a step of its phase. -/
theorem Turned.phase (h : Turned t signal t') (hl : t.rcon.link.Steady t.calls)
    (hexpects : t.rcon.link.Expects t.calls signal) :
    t'.rcon.link.Steady t'.calls ∧ t'.phase = t.phase.next signal := by
  obtain ⟨hsteady, hphase⟩ := hl.turn hexpects
  have hmarks : marks (t.calls ++ (t.rcon.link.turn signal).1) = marks t'.calls := by
    rw [marks_append, Link.marks_turn, h.2]
  rw [RconSt.phase, h.1]
  exact ⟨hsteady.marks hmarks, (Link.phase_marks hmarks _).symm.trans hphase⟩

/-- A connection with a BattleNode that logged in has a default channel, so a new one has. -/
theorem Turned.login (h : Turned t signal t') (hl : t.rcon.link.Steady t.calls)
    (hexpects : t.rcon.link.Expects t.calls signal)
    (hlogin : t'.rcon.nodes.any (·.login) = true) : t.rcon.nodes.any (·.login) = true := by
  have hnodes : t'.rcon.nodes = (t.rcon.link.turn signal).2.nodes := congrArg Link.nodes h.1
  rw [hnodes] at hlogin
  have hended : ∀ n, (t.rcon.link.ended n).nodes.any (·.login) = t.rcon.nodes.any (·.login) :=
    fun n => Link.hides_ended.any_login _ n
  cases signal with
  | failed n =>
    rw [Link.nodes_failed] at hlogin
    exact (hended n).symm.trans hlogin
  | succeeded n => exact hlogin
  | lost n => exact (hended n).symm.trans hlogin
  | fired i cause =>
    refine hl.started fun h => ?_
    have htimer : t.rcon.link.timers[i]? = some cause := hexpects
    rw [h] at htimer
    cases htimer
  | closed n => exact (Link.any_login_shut t.rcon.link n).symm.trans hlogin
  | other => exact hlogin

/-- An instance that has made no call has no BattleNode. -/
theorem Turned.unused (h : Turned t signal t') (ht : t.calls = [] → t.rcon.nodes = [])
    (hcalls : t'.calls = []) (hgrow : t.calls <+: t'.calls) : t'.rcon.nodes = [] := by
  rw [hcalls] at hgrow
  have hold : t.rcon.link.nodes = [] := ht (List.prefix_nil.1 hgrow)
  have hnodes : t'.rcon.nodes = (t.rcon.link.turn signal).2.nodes := congrArg Link.nodes h.1
  have hnew : (t.rcon.link.turn signal).1 = [] := by
    have hm := h.2
    rw [hcalls] at hm
    exact (List.append_eq_nil_iff.1 hm.symm).2
  rw [hnodes]
  cases signal with
  | failed n =>
    rw [Link.nodes_failed]
    simp [Link.ended, hold]
  | succeeded n => cases hnew
  | lost n => simp [Link.turn, Link.arm, Link.ended, hold]
  | fired i cause => cases hnew
  | closed n => cases hnew
  | other => exact hold

theorem after_grows {α : Type} (t : RconSt) (x : RconM α) : t.calls <+: (t.after x).calls :=
  List.prefix_append ..

/-- Only a lost connection and a reload end the phase. -/
theorem Phase.next_online (hlost : ∀ n, signal ≠ .lost n) (hclosed : ∀ n, signal ≠ .closed n) :
    Phase.online.next signal = .online := by
  cases signal with
  | lost n => exact absurd rfl (hlost n)
  | closed n => exact absurd rfl (hclosed n)
  | _ => rfl

theorem RconEvent.signal_lost {this : Rcon} {e : RconEvent} {n : Nat}
    (h : e.signal this = .lost n) : ∃ extra, e = .disconnected n extra ∧ this.open n = true := by
  unfold RconEvent.signal at h
  split at h <;> try split at h
  all_goals cases h
  exact ⟨_, rfl, ‹_›⟩

theorem RconEvent.signal_ne_closed (this : Rcon) (e : RconEvent) (n : Nat) :
    e.signal this ≠ .closed n := by
  intro h
  unfold RconEvent.signal at h
  split at h <;> first | cases h | (split at h <;> cases h)

/-- An event cancels the jobs, or it is a login, or it leaves them alone. -/
theorem event_jobs (env : Env) (o : Oracle) (hclean : t.rcon.Clean) (e : RconEvent) :
    (t.after (rconStep env o e)).rcon.liveJobs = [] ∨ (∃ n, e.signal t.rcon = .succeeded n) ∨
      ((t.after (rconStep env o e)).rcon.liveJobs = t.rcon.liveJobs ∧
        ∀ n, e.signal t.rcon ≠ .lost n) := by
  have hdeaf : ∀ {n x}, t.rcon.open n = false →
      (t.after (fromNode n x)).rcon.liveJobs = t.rcon.liveJobs := fun hopen => by
    rw [RconSt.after, fromNode_apply, if_neg (by rw [hopen]; decide)]
  cases hre : e.reschedules with
  | false =>
    refine .inr (.inr ⟨(rconStep_kept env o hre ⟨t.rcon, []⟩).2.1, fun n h => ?_⟩)
    obtain ⟨extra, rfl, -⟩ := RconEvent.signal_lost h
    cases hre
  | true =>
    unfold RconEvent.reschedules at hre
    split at hre
    · rename_i n
      cases hopen : t.rcon.open n with
      | true => exact .inr (.inl ⟨n, by simp only [RconEvent.signal, hopen, if_true]⟩)
      | false =>
        refine .inr (.inr ⟨hdeaf hopen, fun m h => ?_⟩)
        obtain ⟨extra, h, -⟩ := RconEvent.signal_lost h
        cases h
    · rename_i n extra
      cases hopen : t.rcon.open n with
      | true =>
        left
        rw [RconSt.after, rconStep, fromNode_apply, if_pos hopen]
        exact (emitDisconnected_clean env extra (s := ⟨t.rcon, []⟩) (hears_of_open hopen)
          hclean).2.2
      | false =>
        refine .inr (.inr ⟨hdeaf hopen, fun m h => ?_⟩)
        simp only [RconEvent.signal, hopen] at h
        cases h
    · cases hre

/-- The phase has a live BattleNode. -/
def Phase.linked : Phase → Bool
  | .connecting _ | .online => true
  | _ => false

theorem Link.live_of_linked {l : Link} {calls : List Effect}
    (h : (l.phase calls).linked = true) : l.timers = [] ∧ 0 < l.live := by
  unfold Link.phase at h
  split at h
  · cases h
  · refine ⟨‹_›, ?_⟩
    split at h
    · assumption
    · split at h <;> cases h

theorem Link.online_of_phase {l : Link} {calls : List Effect} (h : l.phase calls = .online) :
    online calls = true := by
  obtain ⟨htimers, hlive⟩ := Link.live_of_linked (by rw [h]; rfl)
  rw [Link.phase_up htimers hlive] at h
  by_contra hoff
  rw [if_neg hoff] at h
  cases h

/-- An instance that is connecting or online has an open BattleNode, which has not ended. -/
theorem Link.Steady.linked {l : Link} {calls : List Effect} (hl : l.Steady calls)
    (h : (l.phase calls).linked = true) :
    ∃ n, l.bnode = some n ∧ l.open n = true ∧ ∀ node ∈ l.nodes[n]?, node.ended = false := by
  obtain ⟨node, hmem, hlive⟩ := List.countP_pos_iff.1 (Link.live_of_linked h).2
  obtain ⟨n, hn⟩ := List.mem_iff_getElem?.1 hmem
  obtain ⟨hbnode, hclosed⟩ := hl.current n node hn hlive
  simp only [Node.live, Bool.and_eq_true, Bool.not_eq_true'] at hlive
  refine ⟨n, hbnode, ?_, fun node' hnode' => ?_⟩
  · rw [Link.open, hn]
    simp only [hl.listening node hmem hlive.1, hlive.1, hclosed]
    rfl
  · rw [hn] at hnode'
    cases hnode'
    exact hlive.2

theorem Link.Steady.attempts_online {l : Link} {calls : List Effect} (hl : l.Steady calls)
    (h : l.phase calls = .online) : l.loginAttempts = 0 :=
  hl.counted (Link.online_of_phase h) (Link.live_of_linked (by rw [h]; rfl)).2

/-- A connection that is down expects nothing but a reload, and makes no BattleNode. -/
theorem Link.Steady.down {l : Link} {calls : List Effect} (hl : l.Steady calls)
    (hdown : l.phase calls = .down) (h : l.Expects calls signal) :
    (l.turn signal).2.nodes.length = l.nodes.length := by
  have hup : ∀ {n}, l.open n = true → (∀ node ∈ l.nodes[n]?, node.ended = false) → False := by
    intro n hopen hended
    obtain ⟨htimers, hlive, -, -⟩ := hl.up hopen hended
    rw [Link.phase_up htimers (by omega)] at hdown
    split at hdown <;> cases hdown
  cases signal with
  | failed n => exact (hup h.1 h.2.1).elim
  | succeeded n => exact (hup h.1 h.2).elim
  | lost n => exact (hup h.1 h.2).elim
  | fired i cause =>
    rw [Link.phase_waiting (hl.single.timers_eq h).1] at hdown
    cases hdown
  | closed n =>
    change (l.shut n).nodes.length = _
    unfold Link.shut
    split <;> simp [Link.ended, Link.closed]
  | other => rfl

/-- After a login the phase is online. -/
theorem Link.Steady.next_succeeded {l : Link} {calls : List Effect} {n : Nat}
    (hl : l.Steady calls) (h : l.Expects calls (.succeeded n)) :
    (l.phase calls).next (.succeeded n) = .online := by
  obtain ⟨htimers, hlive, -, -⟩ := hl.up h.1 h.2
  rw [Link.phase_up htimers (by omega)]
  split <;> rfl

/-- `new BattleNode` returns when a timer fires. -/
def RconEvent.Builds (o : Oracle) (t : RconSt) : RconEvent → Prop
  | .timer _ => o.throws (.newNode t.rcon.nodes.length) = false
  | _ => True

instance (o : Oracle) (t : RconSt) (e : RconEvent) : Decidable (e.Builds o t) := by
  cases e <;> unfold RconEvent.Builds <;> infer_instance

theorem RconSt.Steady.turned (env : Env) {o : Oracle} (ht : t.Steady) {e : RconEvent}
    (he : e.Fits t) (hbuilds : e.Builds o t) :
    Turned t (e.signal t.rcon) (t.after (rconStep env o e)) := by
  refine event_turn e ht.clean (fun hne => ht.default (ht.link.started hne)) (fun n h => ?_)
    fun i h => ?_
  · subst h
    exact he.2 rfl
  · subst h
    exact hbuilds

/-- **An event of an instance in order leaves it in order, and its phase follows.** -/
theorem event_steady (ht : t.Steady) {e : RconEvent} (he : e.Fits t) (hbuilds : e.Builds o t)
    (haccepted : ∀ n, e = .login n false (some true) → t.rcon.open n = true →
      schedulable o t.rcon.cfg = true) :
    (t.after (rconStep env o e)).Steady ∧
      (t.after (rconStep env o e)).phase = t.phase.next (e.signal t.rcon) := by
  have hturn : Turned t (e.signal t.rcon) (t.after (rconStep env o e)) :=
    ht.turned env he hbuilds
  have hexpects := he.expects
  obtain ⟨hlink, hphase⟩ := hturn.phase ht.link hexpects
  have hchannel : (t.after (rconStep env o e)).rcon.defaultChannel = t.rcon.defaultChannel :=
    Rcon.defaultChannel_of_bound (rconStep_speaks env o e ⟨t.rcon, []⟩).rcon
  refine ⟨⟨hlink, ?_, fun hlogin => ?_, fun hjobs => ?_, fun hcalls => ?_⟩, hphase⟩
  · exact rconStep_clean (t := ⟨t.rcon, []⟩) ht.clean haccepted
  · rw [hchannel]
    exact ht.default (hturn.login ht.link hexpects hlogin)
  · rw [hphase]
    rcases event_jobs env o ht.clean e with h | ⟨n, h⟩ | ⟨h, hlost⟩
    · exact absurd h hjobs
    · rw [h] at hexpects ⊢
      exact ht.link.next_succeeded hexpects
    · rw [ht.jobs (h ▸ hjobs)]
      exact Phase.next_online hlost (e.signal_ne_closed t.rcon)
  · exact hturn.unused ht.unused hcalls (after_grows t _)

/-- The phase of an instance that is built or closed. -/
inductive Phase.Managed : Phase → Phase → Prop
  | built : Managed .idle (.connecting 0)
  | closed (p : Phase) (n : Nat) : Managed p (p.next (.closed n))

theorem close_steady (ht : t.Steady) {n : Nat} (hn : t.rcon.bnode = some n) :
    (t.after (close env o n)).Steady ∧
      Relation.ReflTransGen Phase.Managed t.phase (t.after (close env o n)).phase := by
  have hclean : (t.after (close env o n)).rcon.Clean :=
    close_clean env o n ⟨t.rcon, []⟩ ht.clean
  have hchannel : (t.after (close env o n)).rcon.defaultChannel = t.rcon.defaultChannel :=
    Rcon.defaultChannel_of_bound (close_speaks env o n ⟨t.rcon, []⟩).rcon
  rcases close_turn env o n ht.clean with ⟨hturn, hjobs⟩ | ⟨hturn, hjobs⟩
  · obtain ⟨hlink, hphase⟩ := hturn.phase ht.link hn
    refine ⟨⟨hlink, hclean, fun hlogin => ?_, fun hne => ?_, fun hcalls => ?_⟩, ?_⟩
    · rw [hchannel]
      exact ht.default (hturn.login ht.link hn hlogin)
    · -- a BattleNode without listeners has never logged in, so no job is live
      rw [hjobs] at hne
      split at hne
      · exact absurd rfl hne
      · rename_i hdeaf
        have honline : t.rcon.link.phase t.calls = .online := ht.jobs hne
        obtain ⟨m, hm, hopen, -⟩ := ht.link.linked (by rw [honline]; rfl)
        cases hm.symm.trans hn
        exact absurd (hears_of_open hopen) hdeaf
    · exact hturn.unused ht.unused hcalls (after_grows t _)
    · rw [hphase]
      exact .single (.closed _ n)
  · obtain ⟨hlink, hphase⟩ := hturn.phase ht.link trivial
    have hsame : t.phase.next .other = t.phase := by
      cases t.phase with
      | waiting cause k => cases cause <;> rfl
      | _ => rfl
    rw [hsame] at hphase
    refine ⟨⟨hlink, hclean, fun hlogin => ?_, fun hne => ?_, fun hcalls => ?_⟩, ?_⟩
    · rw [hchannel]
      exact ht.default (hturn.login ht.link trivial hlogin)
    · rw [hphase]
      exact ht.jobs (hjobs ▸ hne)
    · exact hturn.unused ht.unused hcalls (after_grows t _)
    · rw [hphase]

/-- The handlers of a Discord message change nothing of an instance but its calls. -/
theorem admin_steady (env : Env) (o : Oracle) (ht : t.Steady) (specific : Value)
    (message : Message) :
    let t' := t.after (emitting (checkAdminCommand env t.rcon specific o.throws message))
    t'.Steady ∧ t'.phase = t.phase := by
  intro t'
  obtain ⟨-, hmarks⟩ := admin_link env o t specific message
  have hphase : t'.phase = t.phase := Link.phase_marks hmarks t.rcon.link
  refine ⟨⟨ht.link.marks hmarks.symm, ht.clean, ht.default, fun hne => ?_, fun hcalls => ?_⟩,
    hphase⟩
  · rw [hphase]
    exact ht.jobs hne
  · exact ht.unused (List.append_eq_nil_iff.1 hcalls).1

/-- An instance without a BattleNode is idle. -/
theorem Link.Steady.idle {l : Link} {calls : List Effect} (hl : l.Steady calls)
    (h : l.nodes = []) : l.phase calls = .idle := by
  have htimers : l.timers = [] := by
    by_contra hne
    have := hl.started hne
    rw [h] at this
    cases this
  have hlive : l.live = 0 := by
    rw [Link.live, h]
    rfl
  rw [Link.phase_off htimers hlive, h]
  rfl

/-- The connection with one BattleNode. -/
theorem Link.renewed_steady (up : Bool) :
    (Link.blank.renewed up).Steady (renewal 0 up) ∧
      (Link.blank.renewed up).phase (renewal 0 up) = if up then .connecting 0 else .idle := by
  refine ⟨⟨?_, fun n node hn _ => ?_, fun node hnode hlogin => ?_, fun hne => absurd rfl hne,
    fun hup => ?_, fun hdown => ?_⟩, ?_⟩
  · cases up with
    | false => exact (BuildStep.idle true).single
    | true => exact (BuildStep.up true).single
  · cases n with
    | zero =>
      cases hn
      exact ⟨rfl, rfl⟩
    | succ n => cases hn
  · rw [List.mem_singleton.1 hnode] at hlogin ⊢
    exact hlogin
  · cases up <;> cases hup
  · cases up <;> cases hdown
  · cases up <;> rfl

theorem BuildStep.steady {returned : Bool} {new : List Effect} {l : Link}
    (h : BuildStep returned new l) :
    l.Steady new ∧ (l.phase new = .idle ∨ l.phase new = .connecting 0) ∧
      (new = [] → l.nodes = []) := by
  cases h with
  | refused =>
    refine ⟨⟨BuildStep.refused.single, fun n node hn _ => ?_, fun node hnode _ => ?_,
      fun hne => absurd rfl hne, fun hup => ?_, fun hdown => ?_⟩, .inl rfl, fun _ => rfl⟩
    · cases hn
    · cases hnode
    · cases hup
    · cases hdown
  | lapsed =>
    refine ⟨⟨BuildStep.lapsed.single, Link.current_of_dead rfl, fun node hnode hlogin => ?_,
      fun hne => absurd rfl hne, fun hup => ?_, fun hdown => ?_⟩, .inl rfl, fun h => by cases h⟩
    · rw [List.mem_singleton.1 hnode] at hlogin
      cases hlogin
    · cases hup
    · cases hdown
  | idle =>
    obtain ⟨hsteady, hphase⟩ := Link.renewed_steady false
    exact ⟨hsteady, .inl hphase, fun h => by cases h⟩
  | up =>
    obtain ⟨hsteady, hphase⟩ := Link.renewed_steady true
    exact ⟨hsteady, .inr hphase, fun h => by cases h⟩

theorem build_steady (env : Env) (o : Oracle) (server specific : Value) (guild : Guild) :
    let t' := RconSt.after ⟨.blank server guild, []⟩ (construct env o specific)
    t'.Steady ∧ (t'.phase = .idle ∨ t'.phase = .connecting 0) := by
  intro t'
  obtain ⟨returned, hbuild⟩ := build_link env o server specific guild
  have hkept := construct_kept env o specific ⟨.blank server guild, []⟩
  have hjobs : t'.rcon.liveJobs = [] := hkept.2.1
  obtain ⟨hsteady, hphase, hunused⟩ := hbuild.steady
  have hmarks : marks (marks t'.calls) = marks t'.calls := by simp [marks, List.filter_filter]
  refine ⟨⟨hsteady.marks hmarks, hkept.clean (clean_empty rfl rfl), ?_, fun hne => ?_, fun h => ?_⟩,
    ?_⟩
  · exact construct_default env o specific server guild
  · exact absurd hjobs hne
  · exact hunused (by rw [h]; rfl)
  · rw [RconSt.phase, ← Link.phase_marks hmarks]
    exact hphase

/-- Nothing about an instance in order depends on its configuration. -/
theorem RconSt.Steady.fill (ht : t.Steady) (cfg : Value) :
    RconSt.Steady { t with rcon := { t.rcon with cfg := cfg } } :=
  ⟨ht.link, ⟨ht.clean.handles, ht.clean.live⟩, ht.default, ht.jobs, ht.unused⟩

/-- An instance that is down. -/
structure Ended (length : Nat) (t : RconSt) : Prop where
  steady : t.Steady
  phase : t.phase = .down
  nodes : t.rcon.nodes.length = length

theorem Phase.next_down (signal : Signal) : Phase.down.next signal = .down := by
  cases signal <;> rfl

theorem Turned.ended {length : Nat} (h : Turned t signal t') (ht : Ended length t)
    (hexpects : t.rcon.link.Expects t.calls signal) (hsteady : t'.Steady) : Ended length t' := by
  refine ⟨hsteady, ?_, ?_⟩
  · rw [(h.phase ht.steady.link hexpects).2, ht.phase, Phase.next_down]
  · have hnodes : t'.rcon.nodes = (t.rcon.link.turn signal).2.nodes := congrArg Link.nodes h.1
    rw [hnodes, ht.steady.link.down ht.phase hexpects]
    exact ht.nodes

theorem touch_steady {closing : Prop} (h : Touch env o closing t t') (ht : t.Steady) :
    t'.Steady ∧ Relation.ReflTransGen Phase.Managed t.phase t'.phase := by
  rcases h with ⟨-, hn⟩ | ⟨specific, message⟩ | ⟨hnew, server, specific, guild⟩ | hcfg
  · exact close_steady ht hn
  · obtain ⟨hsteady, hphase⟩ := admin_steady env o ht specific message
    exact ⟨hsteady, by rw [hphase]⟩
  · obtain ⟨hsteady, hphase⟩ := build_steady env o server specific guild
    have hidle : t.phase = .idle := ht.link.idle (ht.unused hnew)
    rw [hidle]
    refine ⟨hsteady, ?_⟩
    rcases hphase with h | h <;> rw [h]
    exact .single .built
  · exact ⟨ht.fill _, .refl⟩

theorem touch_ended {closing : Prop} {length : Nat} (h : Touch env o closing t t')
    (ht : Ended length t) : Ended length t' := by
  have hsteady := (touch_steady h ht.steady).1
  rcases h with ⟨-, hn⟩ | ⟨specific, message⟩ | ⟨hnew, server, specific, guild⟩ | hcfg
  · rcases close_turn env o _ ht.steady.clean with ⟨hturn, -⟩ | ⟨hturn, -⟩
    · exact hturn.ended ht hn hsteady
    · exact hturn.ended ht trivial hsteady
  · exact ⟨hsteady, (admin_steady env o ht.steady specific message).2.trans ht.phase, ht.nodes⟩
  · have hidle : t.phase = .idle := ht.steady.link.idle (ht.steady.unused hnew)
    cases hidle.symm.trans ht.phase
  · exact ⟨hsteady, ht.phase, ht.nodes⟩

end Instances

end ZBot
