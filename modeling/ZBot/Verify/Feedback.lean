import ZBot.Verify.Instances

/-!
# No feedback through the game chat

A line of the game chat can trigger actions, and an action's reply is said in the game, where it is
heard by every instance again. The reply comes back as a line that begins with `RCon admin`, and on
such a line `checkMessageForCommand` does nothing (`echo_sends_nothing`). So the replies that are
said in a run are at most the ones that the other lines ask for (`run_no_feedback`), whatever the
replies contain and however often they are heard.

An action asks for a reply when its command is not empty and occurs in the line, and its reply is
not empty (`answers`). Each of them is said once, as long as no exception ends the listener half
way: the instance is connected, and what is configured can be read (`Attentive`). Otherwise replies
get lost. A server of the bot's own configuration has no `showChannels` unless it was written there,
and then no line of the side channel is ever answered (`unanswered_line`).
-/

namespace ZBot

open Js RconM BotM

/-! ## Replies -/

/-- A reply in the game, which everyone hears. -/
def Effect.isSay : Effect → Bool
  | .command _ s _ => startsWith s (lit "say -1 ")
  | _ => false

def Effect.isCommand : Effect → Bool
  | .command .. => true
  | _ => false

/-- The loop gets past the action: it is an object, and what is converted for it can be. -/
structure Readable (guild : Guild) (action : Value) : Prop where
  defined : action.defined = true
  texts : ∀ key ∈ [lit "command", lit "reply"], ∀ v, action.get key = .ok v →
    ∃ text, v.toText = .ok text
  /-- a mention is added to the text of the reply -/
  mention : ∀ role v, action.get (lit "role") = .ok role → role.truthy = true →
    roleMembers guild role ≠ [] → action.get (lit "discordReply") = .ok v →
    ∃ text, v.toText = .ok text

/-- The instance is connected, it is known whether the line is shown, and the loop gets past every
action. -/
structure Attentive (o : Oracle) (this : Rcon) (message : Text) : Prop where
  bnode : this.bnode ≠ none
  throws : ∀ n s callback, o.throws (.command n s callback) = false
  showChannels : (category message).flag ≠ none →
    ∃ v, this.cfg.get (lit "showChannels") = .ok v ∧ v.defined = true
  actions : ∀ action ∈ this.actions, Readable this.guild action

/-! ## Counting replies -/

/-- The code returns, and makes `k` replies. -/
def Says (k : Nat) (x : Emit Unit) : Prop :=
  ∀ calls, (x calls).1 = .ok () ∧
    (x calls).2.countP Effect.isSay = calls.countP Effect.isSay + k

namespace Says

theorem pure : Says 0 (Pure.pure ()) := fun _ => ⟨rfl, rfl⟩

theorem bind {k l : Nat} {x : Emit Unit} {f : Unit → Emit Unit} (hx : Says k x)
    (hf : Says l (f ())) : Says (k + l) (x >>= f) := by
  intro calls
  obtain ⟨hreturns, hcount⟩ := hx calls
  rcases e : x calls with ⟨_ | _, calls'⟩ <;> rw [e] at hreturns hcount
  · cases hreturns
  · rw [Prog.bind_ok e]
    obtain ⟨hreturns', hcount'⟩ := hf calls'
    exact ⟨hreturns', by rw [hcount', hcount, Nat.add_assoc]⟩

/-- Code without a reply in front. -/
theorem quiet_bind {k : Nat} {x : Emit Unit} {f : Unit → Emit Unit} (hx : Says 0 x)
    (hf : Says k (f ())) : Says k (x >>= f) := by
  have h := bind hx hf
  rwa [Nat.zero_add] at h

theorem when {c : Bool} {k : Nat} {x : Emit Unit} (hx : Says k x) :
    Says (if c then k else 0) (Prog.when c x) := by
  cases c with
  | true => exact hx
  | false => exact pure

theorem forEach {ι : Type} {p : ι → Bool} {f : ι → Emit Unit} {xs : List ι}
    (hf : ∀ i ∈ xs, Says (if p i then 1 else 0) (f i)) :
    Says (xs.countP p) (Prog.forEach xs f) := by
  induction xs with
  | nil => exact pure
  | cons i xs ih =>
    rw [List.countP_cons, Nat.add_comm]
    exact bind (hf i List.mem_cons_self) (ih fun j hj => hf j (List.mem_cons_of_mem i hj))

theorem sendTextMessage (channel : Option Channel) (text : Text) :
    Says 0 (ZBot.sendTextMessage channel text) := by
  cases channel with
  | none => exact pure
  | some channel =>
    rw [ZBot.sendTextMessage]
    cases decide (channel.type = .text) with
    | false => exact pure
    | true => exact fun calls => ⟨rfl, by simp [emit, Effect.isSay]⟩

end Says

/-- The code makes at most `k` replies, whether it returns or throws. -/
def SaysUpTo (k : Nat) (x : Emit Unit) : Prop :=
  ∀ calls, (x calls).2.countP Effect.isSay ≤ calls.countP Effect.isSay + k

theorem Says.upTo {k : Nat} {x : Emit Unit} (h : Says k x) : SaysUpTo k x :=
  fun calls => (h calls).2.le

namespace SaysUpTo

theorem raise {k : Nat} (e : Error) : SaysUpTo k (Prog.raise e) := fun _ => Nat.le_add_right ..

/-- A value that cannot be read ends the code before its replies. -/
theorem lift_bind {α : Type} {k : Nat} {x : Except Error α} {f : α → Emit Unit}
    (hf : ∀ a, x = .ok a → SaysUpTo k (f a)) : SaysUpTo k (Prog.lift x >>= f) := by
  cases x with
  | error e => exact raise e
  | ok a => exact hf a rfl

theorem bind {k l : Nat} {x : Emit Unit} {f : Unit → Emit Unit} (hx : SaysUpTo k x)
    (hf : SaysUpTo l (f ())) : SaysUpTo (k + l) (x >>= f) := by
  intro calls
  have hcount := hx calls
  rcases e : x calls with ⟨_ | _, calls'⟩ <;> rw [e] at hcount
  · rw [Prog.bind_error e]
    exact hcount.trans (Nat.add_le_add_left (Nat.le_add_right k l) _)
  · rw [Prog.bind_ok e]
    calc (f () calls').2.countP Effect.isSay
        ≤ calls'.countP Effect.isSay + l := hf calls'
      _ ≤ calls.countP Effect.isSay + k + l := Nat.add_le_add_right hcount l
      _ = calls.countP Effect.isSay + (k + l) := Nat.add_assoc ..

theorem quiet_bind {k : Nat} {x : Emit Unit} {f : Unit → Emit Unit} (hx : Says 0 x)
    (hf : SaysUpTo k (f ())) : SaysUpTo k (x >>= f) := by
  have h := bind hx.upTo hf
  rwa [Nat.zero_add] at h

theorem forEach {ι : Type} {p : ι → Bool} {f : ι → Emit Unit} {xs : List ι}
    (hf : ∀ i ∈ xs, SaysUpTo (if p i then 1 else 0) (f i)) :
    SaysUpTo (xs.countP p) (Prog.forEach xs f) := by
  induction xs with
  | nil => exact Says.pure.upTo
  | cons i xs ih =>
    rw [List.countP_cons, Nat.add_comm]
    exact bind (hf i List.mem_cons_self) (ih fun j hj => hf j (List.mem_cons_of_mem i hj))

end SaysUpTo

theorem postMessage_speech (this : Rcon) (c : Category) (styled : Text) :
    Says 0 (postMessage this c styled) := by
  unfold postMessage
  split
  · exact .sendTextMessage _ _
  · exact .quiet_bind (.sendTextMessage _ _) (.sendTextMessage _ _)

section Any

variable (this : Rcon) (throws : Effect → Bool)

theorem cmdSayGlobalMessage_upTo (reply : Value) :
    SaysUpTo 1 (cmdSayGlobalMessage this throws reply) := by
  refine .lift_bind fun text _ => ?_
  rw [sendCommand]
  cases this.bnode with
  | none => exact .raise _
  | some n =>
    intro calls
    have hcount : (calls ++ [Effect.command n (lit "say -1 " ++ text) .none]).countP Effect.isSay ≤
        calls.countP Effect.isSay + 1 := by
      rw [List.countP_append]
      exact Nat.add_le_add_left List.countP_le_length _
    -- the call is made, also when it throws
    cases hthrows : throws (.command n (lit "say -1 " ++ text) .none) <;>
      simpa [call, emit, Prog.modify_bind, hthrows] using hcount

/-- An action makes no reply that it does not ask for. -/
theorem runAction_upTo (message styled : Text) (action : Value) :
    SaysUpTo (if answers message action then 1 else 0)
      (runAction this throws message styled action) := by
  refine .lift_bind fun command hcommand => ?_
  cases htruthy : command.truthy with
  | false => exact fun _ => Nat.le_add_right ..
  | true =>
    refine .lift_bind fun text htext => ?_
    cases hincludes : includes message text with
    | false => exact fun _ => Nat.le_add_right ..
    | true =>
      refine .lift_bind fun reply hreply => ?_
      have hanswers : answers message action = reply.truthy := by
        simp only [answers, hcommand, hreply, htext, htruthy, hincludes, Bool.true_and]
      rw [hanswers]
      refine .bind (l := 0) ?_ (.lift_bind fun discordReply _ => ?_)
      · cases reply.truthy with
        | false => exact Says.pure.upTo
        | true => exact cmdSayGlobalMessage_upTo this throws reply
      · cases discordReply.truthy with
        | false => exact Says.pure.upTo
        | true =>
          refine .quiet_bind (.sendTextMessage _ _) (.lift_bind fun role _ => ?_)
          exact .lift_bind fun discordText _ => (Says.sendTextMessage _ _).upTo

theorem chatMessagesAction_upTo (now : Text) {message : Text} (hecho : isEcho message = false) :
    SaysUpTo (this.actions.countP (answers message))
      (chatMessagesAction this throws now message) := by
  refine .lift_bind fun hide _ => ?_
  have hpost := Says.when (c := !hide) (postMessage_speech this (category message)
    ((category message).opening ++ (now ++ lit ": " ++ message) ++ (category message).closing))
  rw [ite_self] at hpost
  have hcheck : (!startsWith message (lit "RCon admin")) = true := by rw [← isEcho, hecho]; rfl
  refine .quiet_bind hpost ?_
  rw [checkMessageForCommand, hcheck]
  exact .forEach fun action _ => runAction_upTo this throws message _ action

end Any

section Attentive

variable {o : Oracle} {this : Rcon} {message : Text} (h : Attentive o this message)

include h

theorem cmdSayGlobalMessage_speech {reply : Value} {text : Text}
    (hreply : reply.toText = .ok text) : Says 1 (cmdSayGlobalMessage this o.throws reply) := by
  obtain ⟨n, hn⟩ := Option.ne_none_iff_exists'.1 h.bnode
  have hsay : startsWith (lit "say -1 " ++ text) (lit "say -1 ") = true :=
    startsWith_iff.2 (List.prefix_append _ _)
  rw [cmdSayGlobalMessage, Prog.lift_ok_bind hreply, sendCommand, hn]
  intro calls
  simp only [call, h.throws, Prog.when_false, emit, Prog.modify_bind]
  exact ⟨rfl, by simp [Effect.isSay, hsay]⟩

/-- An action makes one reply when it asks for it, and returns. -/
theorem runAction_speech {action : Value} (haction : Readable this.guild action)
    (styled : Text) :
    Says (if answers message action then 1 else 0)
      (runAction this o.throws message styled action) := by
  have hget : ∀ k, ∃ v, action.get k = .ok v := fun k =>
    ⟨_, by rw [Value.get, if_pos haction.defined]⟩
  obtain ⟨command, hcommand⟩ := hget (lit "command")
  obtain ⟨reply, hreply⟩ := hget (lit "reply")
  obtain ⟨discordReply, hdiscord⟩ := hget (lit "discordReply")
  obtain ⟨role, hrole⟩ := hget (lit "role")
  obtain ⟨text, htext⟩ := haction.texts _ (by simp) command hcommand
  obtain ⟨replyText, hreplyText⟩ := haction.texts _ (by simp) reply hreply
  have hmention : ∃ v, addMentions discordReply
      (if role.truthy then roleMembers this.guild role else []) = .ok v := by
    cases htruthy : role.truthy with
    | false => exact ⟨_, rfl⟩
    | true =>
      cases hmembers : roleMembers this.guild role with
      | nil => exact ⟨_, rfl⟩
      | cons member members =>
        have hne : roleMembers this.guild role ≠ [] := hmembers ▸ List.cons_ne_nil _ _
        obtain ⟨text, htext⟩ := haction.mention role discordReply hrole htruthy hne hdiscord
        simp only [if_true, addMentions, htext]
        exact ⟨_, rfl⟩
  obtain ⟨discordMessage, hdiscordMessage⟩ := hmention
  have hanswers : answers message action =
      (command.truthy && includes message text && reply.truthy) := by
    rw [answers, hcommand, hreply]
    simp only [htext]
  rw [hanswers, runAction, Prog.lift_ok_bind hcommand]
  cases command.truthy with
  | false => exact .pure
  | true =>
    rw [Prog.when_true, Prog.lift_ok_bind htext]
    cases includes message text with
    | false => exact .pure
    | true =>
      rw [Prog.when_true, Prog.lift_ok_bind hreply, Bool.and_self, Bool.true_and]
      refine .bind (l := 0) (.when (cmdSayGlobalMessage_speech h hreplyText)) ?_
      -- the message to the admin channel is no reply
      rw [Prog.lift_ok_bind hdiscord]
      cases discordReply.truthy with
      | false => exact .pure
      | true =>
        rw [Prog.when_true]
        refine .quiet_bind (.sendTextMessage _ _) ?_
        rw [Prog.lift_ok_bind hrole, Prog.lift_ok_bind hdiscordMessage]
        exact .sendTextMessage _ _

theorem chatMessagesAction_speech (now : Text) (hecho : isEcho message = false) :
    Says (this.actions.countP (answers message))
      (chatMessagesAction this o.throws now message) := by
  have hshow : ∃ hide, disableShow this (category message) = .ok hide := by
    unfold disableShow
    cases hflag : (category message).flag with
    | none => exact ⟨_, rfl⟩
    | some flag =>
      obtain ⟨v, hv, hdefined⟩ := h.showChannels (by rw [hflag]; exact Option.some_ne_none flag)
      have hshown : v.get flag = .ok ((Value.lookup v.fields flag).getD .undefined) := by
        rw [Value.get, if_pos hdefined]
      rw [hv]
      change ∃ hide, (v.get flag >>= _) = _
      rw [hshown]
      exact ⟨_, rfl⟩
  obtain ⟨hide, hhide⟩ := hshow
  rw [chatMessagesAction, Prog.lift_ok_bind hhide]
  have hpost := Says.when (c := !hide) (postMessage_speech this (category message)
    ((category message).opening ++ (now ++ lit ": " ++ message) ++ (category message).closing))
  have hloop := Says.forEach fun action haction => runAction_speech h (h.actions action haction)
    ((category message).opening ++ (now ++ lit ": " ++ message) ++
      (category message).closing)
  have hcheck : (!startsWith message (lit "RCon admin")) = true := by rw [← isEcho, hecho]; rfl
  rw [ite_self] at hpost
  refine .quiet_bind hpost ?_
  rw [checkMessageForCommand, hcheck]
  exact hloop

end Attentive

/-- On an echo nothing is sent to the game, thrown or returned. -/
theorem chatMessagesAction_echo (this : Rcon) (throws : Effect → Bool) (now : Text) {message : Text}
    (hecho : isEcho message = true) :
    Prog.Within (Adds fun e => e.isCommand = false)
      (chatMessagesAction this throws now message) := by
  have hP := Adds.frame fun e => e.isCommand = false
  have hsend : ∀ channel text, Prog.Within (Adds fun e => e.isCommand = false)
      (sendTextMessage channel text) := fun _ _ => sendTextMessage_adds fun _ _ => rfl
  refine .bind hP (.lift hP _) fun hide => .bind hP (.when hP fun _ => ?_) fun _ => ?_
  · unfold postMessage
    split
    · exact hsend _ _
    · exact .bind hP (hsend _ _) fun _ => hsend _ _
  · rw [checkMessageForCommand, ← isEcho, hecho]
    exact .pure hP ()

/-! ## Runs -/

/-- What a step adds to the trace. -/
def added (env : Env) (w : World) (s : Step) : List Effect :=
  ((step env s w).2.trace.drop w.trace.length).map Prod.snd

/-- The replies that a step makes when it delivers a line of the chat. -/
def chatSays (env : Env) (w : World) (s : Step) : Nat :=
  match s.event with
  | .rcon _ (.chat ..) => (added env w s).countP Effect.isSay
  | _ => 0

/-- The replies that the line asks for: none when it is not delivered, and none when it is an
echo. -/
def requested (w : World) (s : Step) : Nat :=
  match s.event with
  | .rcon r (.chat n _ message) =>
    if (w.rcons r).open n && !isEcho message then (w.rcons r).actions.countP (answers message)
    else 0
  | _ => 0

/-- The sum of a quantity over the steps of a run. -/
def total (env : Env) (f : World → Step → Nat) : List Step → World → Nat
  | [], _ => 0
  | s :: steps, w => f w s + total env f steps (step env s w).2

/-- A line that is delivered, and no echo, is delivered to an instance that attends to it. -/
def Attended (w : World) (s : Step) : Prop :=
  match s.event with
  | .rcon r (.chat n _ message) =>
    (w.rcons r).open n = true → isEcho message = false →
      Attentive (s.oracle r) (w.rcons r) message
  | _ => True

theorem added_chat (env : Env) (w : World) (o : RconRef → Oracle) (r : RconRef) (n : Nat)
    (now message : Text) :
    added env w ⟨.rcon r (.chat n now message), o⟩ =
      if (w.rcons r).open n then
        (chatMessagesAction (w.rcons r) (o r).throws now message []).2
      else [] := by
  change ((w.trace ++ ((fromNode n (chatEvent (o r) now message)) ⟨w.rcons r, []⟩).2.calls.map
    fun e => (some r, e)).drop w.trace.length).map Prod.snd = _
  rw [List.drop_left, List.map_map]
  change (List.map id _) = _
  rw [List.map_id]
  simp only [fromNode, this, Prog.read_bind]
  cases (w.rcons r).open n with
  | false => rfl
  | true => exact List.nil_append _

/-- **An echo sends nothing to the game.** -/
theorem echo_sends_nothing (env : Env) (w : World) (o : RconRef → Oracle) (r : RconRef) (n : Nat)
    (now : Text) {message : Text} (hecho : isEcho message = true) :
    ∀ e ∈ added env w ⟨.rcon r (.chat n now message), o⟩, e.isCommand = false := by
  rw [added_chat]
  split
  · exact (chatMessagesAction_echo _ _ now hecho []).forall
  · exact nofun

theorem chatSays_chat (env : Env) (w : World) (o : RconRef → Oracle) (r : RconRef) (n : Nat)
    (now message : Text) :
    chatSays env w ⟨.rcon r (.chat n now message), o⟩ =
      if (w.rcons r).open n && !isEcho message then
        (chatMessagesAction (w.rcons r) (o r).throws now message []).2.countP Effect.isSay
      else 0 := by
  change (added env w _).countP Effect.isSay = _
  cases hecho : isEcho message with
  | true =>
    have hnone := echo_sends_nothing env w o r n now hecho
    rw [Bool.not_true, Bool.and_false, if_neg Bool.false_ne_true, List.countP_eq_zero]
    intro e he
    cases e with
    | command n s callback => cases hnone _ he
    | _ => exact Bool.false_ne_true
  | false =>
    rw [added_chat, Bool.not_false, Bool.and_true]
    cases (w.rcons r).open n <;> rfl

theorem requested_chat (w : World) (o : RconRef → Oracle) (r : RconRef) (n : Nat)
    (now message : Text) :
    requested w ⟨.rcon r (.chat n now message), o⟩ =
      if (w.rcons r).open n && !isEcho message then (w.rcons r).actions.countP (answers message)
      else 0 := rfl

/-- A step makes no reply that no line asks for. -/
theorem step_upTo (env : Env) (w : World) (s : Step) : chatSays env w s ≤ requested w s := by
  obtain ⟨event, o⟩ := s
  cases event with
  | rcon r e =>
    cases e with
    | chat n now message =>
      rw [chatSays_chat, requested_chat]
      cases hdelivered : (w.rcons r).open n && !isEcho message with
      | false => exact le_rfl
      | true =>
        have hecho : isEcho message = false := by
          simpa using (Bool.and_eq_true_iff.1 hdelivered).2
        have hcount := chatMessagesAction_upTo (w.rcons r) (o r).throws now hecho []
        rw [if_pos rfl, if_pos rfl]
        rwa [List.countP_nil, Nat.zero_add] at hcount
    | _ => exact le_rfl
  | _ => exact le_rfl

theorem step_speech (env : Env) {w : World} {s : Step} (h : Attended w s) :
    chatSays env w s = requested w s := by
  obtain ⟨event, o⟩ := s
  cases event with
  | rcon r e =>
    cases e with
    | chat n now message =>
      rw [chatSays_chat, requested_chat]
      cases hdelivered : (w.rcons r).open n && !isEcho message with
      | false => rfl
      | true =>
        obtain ⟨hopen, hline⟩ := Bool.and_eq_true_iff.1 hdelivered
        have hecho : isEcho message = false := by simpa using hline
        have hcount := (chatMessagesAction_speech (h hopen hecho) now hecho []).2
        rw [if_pos rfl, if_pos rfl]
        rwa [List.countP_nil, Nat.zero_add] at hcount
    | _ => rfl
  | _ => rfl

/-- **No feedback.** In every run the replies are at most those that the lines of the chat which are
no echoes ask for, and they are exactly those when the lines are attended to. An echo causes no
command at all. -/
theorem run_no_feedback (env : Env) (steps : List Step) (w : World) :
    total env (chatSays env) steps w ≤ total env requested steps w ∧
      (Along env Attended steps w →
        total env (chatSays env) steps w = total env requested steps w) ∧
      ∀ v o r n now message, isEcho message = true →
        ∀ e ∈ added env v ⟨.rcon r (.chat n now message), o⟩, e.isCommand = false := by
  refine ⟨?_, ?_, fun v o r n now message hecho => echo_sends_nothing env v o r n now hecho⟩
  · induction steps generalizing w with
    | nil => exact le_rfl
    | cons s steps ih => exact Nat.add_le_add (step_upTo env w s) (ih _)
  · intro h
    induction steps generalizing w with
    | nil => rfl
    | cons s steps ih => rw [total, total, step_speech env h.1, ih _ h.2]

/-! ## An action that repeats itself -/

/-- An object of texts. -/
def texts (fields : List (Text × Text)) : Value := .obj (fields.map fun f => (f.1, .str f.2))

theorem readable_texts (guild : Guild) (fields : List (Text × Text)) :
    Readable guild (texts fields) := by
  have hconvert : ∀ key v, (texts fields).get key = .ok v → ∃ text, v.toText = .ok text := by
    intro key v hv
    change Except.ok ((Value.lookup (fields.map fun f => (f.1, Value.str f.2)) key).getD
      .undefined) = _ at hv
    cases hv
    rw [Value.lookup, List.find?_map, Option.map_map]
    cases fields.find? ((fun f => f.1 == key) ∘ fun f => (f.1, Value.str f.2)) with
    | none => exact ⟨_, rfl⟩
    | some f => exact ⟨f.2, rfl⟩
  exact ⟨rfl, fun key _ => hconvert key, fun _ v _ _ _ => hconvert _ v⟩

/-- An instance whose action answers with its own command. -/
def parrot : Rcon :=
  { Rcon.blank (.obj [(lit "showChannels", .obj [])]) default with
    bnode := some 0, nodes := [⟨true, true, false, false⟩]
    actions := [texts [(lit "command", lit "!hi"), (lit "reply", lit "say !hi")]] }

/-- Its reply is heard by two instances, and by one of them twice. -/
theorem run_no_feedback_parrot :
    let w := { World.start with rcons := fun _ => parrot }
    let line (k : Nat) (message : Text) : Step :=
      ⟨.rcon ⟨⟨GuildId.zero, 1⟩, k⟩ (.chat 0 [] message), sampleOracle⟩
    let echo := lit "RCon admin #0: (Global) say !hi"
    let steps := [line 0 (lit "(Side) Bob: !hi"), line 0 echo, line 1 echo, line 1 echo]
    Along default Attended steps w ∧ total default (chatSays default) steps w = 1 := by
  intro w line echo steps
  have hattentive : ∀ message, Attentive (sampleOracle ⟨⟨GuildId.zero, 1⟩, 0⟩) parrot message :=
    fun _ => ⟨nofun, fun _ _ _ => rfl, fun _ => ⟨_, rfl, rfl⟩,
      List.forall_mem_singleton.2 (readable_texts _ _)⟩
  have hecho : isEcho echo ≠ false := by decide +kernel
  have h : Along default Attended steps w :=
    ⟨fun _ _ => hattentive _, fun _ he => absurd he hecho, fun _ he => absurd he hecho,
      fun _ he => absurd he hecho, trivial⟩
  refine ⟨h, ?_⟩
  rw [(run_no_feedback default steps w).2.1 h]
  decide +kernel

/-- The sample server with an action that answers `!hi`, in the configuration of a bot that does not
use Redis. Nothing fills in `showChannels` then. -/
def hailBot : Env :=
  { sampleEnv .null with
    useRedis := false
    specific := sampleConfig [.obj (sampleServer.fields ++ [(lit "actions",
      .obj [(lit "hi", texts [(lit "command", lit "!hi"), (lit "reply", lit "Hello!")])])])] }

/-- The bot starts and logs in, and a player says `!hi`. -/
def hailSteps : List Step :=
  [.ready [sampleGuild sampleId], .rcon firstRcon (.login 0 false (some true)),
    .rcon firstRcon (.chat 0 [] (lit "(Side) Bob: !hi"))].map sampleStep

/-- The line asks for a reply, and none is made: the listener throws on the missing
`showChannels`. -/
theorem unanswered_line :
    total hailBot (chatSays hailBot) hailSteps World.start = 0 ∧
      total hailBot requested hailSteps World.start = 1 := by
  decide +kernel

end ZBot
