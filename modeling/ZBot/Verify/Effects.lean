import Mathlib.Data.List.ReduceOption
import ZBot.Model.System

/-!
# What the handlers emit

The code in `Emit` changes no state, so all there is to know about it is which effects it adds.
`Adds P` says that only effects with the property `P` are added, thrown or returned. There is one
lemma for each primitive and each handler of an instance, for any `P`: its hypotheses are the
effects the code can add, with what is known where it adds them. A message goes to a channel of the
instance, a command through its current BattleNode, and the replies to a line of the game chat are
those of the actions that answer it (`IsReply`).
-/

namespace ZBot

open Js

/-- The calls grow by effects with the property. -/
def Adds (P : Effect → Prop) (calls calls' : List Effect) : Prop :=
  ∃ new, calls' = calls ++ new ∧ ∀ e ∈ new, P e

theorem Adds.frame (P : Effect → Prop) : Prog.Frame (Adds P) := by
  refine ⟨fun _ => ⟨[], by simp, by simp⟩, ?_⟩
  rintro calls _ _ ⟨new, rfl, hnew⟩ ⟨new', rfl, hnew'⟩
  refine ⟨new ++ new', List.append_assoc .., fun e he => ?_⟩
  rcases List.mem_append.1 he with he | he
  · exact hnew e he
  · exact hnew' e he

theorem Adds.mono {P Q : Effect → Prop} (h : ∀ e, P e → Q e) {calls calls' : List Effect} :
    Adds P calls calls' → Adds Q calls calls'
  | ⟨new, he, hnew⟩ => ⟨new, he, fun e hm => h e (hnew e hm)⟩

/-- Every effect of a program that starts with no calls has the property. -/
theorem Adds.forall {P : Effect → Prop} {calls : List Effect} (h : Adds P [] calls) :
    ∀ e ∈ calls, P e := by
  obtain ⟨new, rfl, hnew⟩ := h
  simpa using hnew

/-! ## Primitives -/

section Primitives

variable {P : Effect → Prop}

theorem emit_adds {e : Effect} (h : P e) : Prog.Within (Adds P) (emit e) :=
  fun _ => ⟨[e], rfl, by simpa using h⟩

theorem call_adds {throws : Effect → Bool} {e : Effect} (h : P e) :
    Prog.Within (Adds P) (call throws e) :=
  .bind (Adds.frame P) (emit_adds h) fun _ => .when (Adds.frame P) fun _ => .raise (Adds.frame P) _

theorem sendTextMessage_adds {channel : Option Channel} {text : Text}
    (h : ∀ c, channel = some c → P (.send c text)) :
    Prog.Within (Adds P) (sendTextMessage channel text) := by
  cases channel with
  | none => exact .pure (Adds.frame P) ()
  | some channel => exact .when (Adds.frame P) fun _ => emit_adds (h channel rfl)

theorem sendAll_adds {channel : Option Channel} {texts : List Text}
    (h : ∀ c text, channel = some c → P (.send c text)) :
    Prog.Within (Adds P) (sendAll channel texts) :=
  .forEach (Adds.frame P) fun text _ => sendTextMessage_adds fun c => h c text

theorem printFenced_adds {opening text : Text} {channel : Option Channel}
    (h : ∀ c text, channel = some c → P (.send c text)) :
    Prog.Within (Adds P) (printFenced opening text channel) :=
  .ite (fun _ => sendTextMessage_adds fun c => h c _) fun _ => sendAll_adds h

theorem printLongMessage_adds {text : Text} {channel : Option Channel}
    (h : ∀ c text, channel = some c → P (.send c text)) :
    Prog.Within (Adds P) (printLongMessage text channel) :=
  .ite (fun _ => sendTextMessage_adds fun c => h c _) fun _ => sendAll_adds h

theorem zbotPrintLongMessage_adds {text : Text} {channel : Option Channel}
    (h : ∀ c text, channel = some c → P (.send c text)) :
    Prog.Within (Adds P) (zbotPrintLongMessage text channel) := by
  have hP := Adds.frame P
  refine .ite (fun _ => .pure hP _) fun _ => .ite (fun _ => ?_) fun _ =>
    .ite (fun _ => ?_) fun _ => ?_
  · exact sendTextMessage_adds fun c => h c _
  · exact .ite (fun _ => .raise hP _) fun _ => sendAll_adds h
  · exact sendAll_adds h

theorem logBot_adds {env : Env} {text : Text} (h : P (.log text)) :
    Prog.Within (Adds P) (logBot env text) :=
  .when (Adds.frame P) fun _ => emit_adds h

/-- A command goes through the current BattleNode. -/
theorem sendCommand_adds {this : Rcon} {throws : Effect → Bool} {s : Text} {callback : Callback}
    (h : ∀ n, this.bnode = some n → P (.command n s callback)) :
    Prog.Within (Adds P) (sendCommand this throws s callback) := by
  unfold sendCommand
  cases hn : this.bnode with
  | none => exact .raise (Adds.frame P) _
  | some n => exact call_adds (h n hn)

theorem cmdSayGlobalMessage_adds {this : Rcon} {throws : Effect → Bool} {text : Value}
    (h : ∀ n t, this.bnode = some n → text.toText = .ok t →
      P (.command n (lit "say -1 " ++ t) .none)) :
    Prog.Within (Adds P) (cmdSayGlobalMessage this throws text) :=
  .lift_bind (Adds.frame P) fun t ht => sendCommand_adds fun n hn => h n t hn ht

theorem listCommands_adds {env : Env} {this : Rcon}
    (h : ∀ c text, this.commandChannel = some c → P (.send c text)) :
    Prog.Within (Adds P) (listCommands env this) :=
  .bind (Adds.frame P) (printFenced_adds h) fun _ => sendTextMessage_adds fun c => h c _

theorem cmdSteamTestPrintData_adds {message : Text}
    (h : ∀ host port portQuery, P (.query host port portQuery)) :
    Prog.Within (Adds P) (cmdSteamTestPrintData message) := by
  unfold cmdSteamTestPrintData
  split
  · exact emit_adds (h _ _ _)
  · exact .raise (Adds.frame P) _

theorem hasCorrectRole_adds {specific : Value} {message : Message} {key : Text}
    (h : ∀ text, P (.send message.channel text)) :
    Prog.Within (Adds P) (hasCorrectRole specific message key) := by
  have hP := Adds.frame P
  have hsend : ∀ text, Prog.Within (Adds P) (sendTextMessage (some message.channel) text) :=
    fun text => sendTextMessage_adds fun c hc => Option.some.inj hc ▸ h text
  refine .bind hP (.lift hP _) fun role => .ite (fun _ => ?_) fun _ => ?_
  · refine .bind hP (.lift hP _) fun answer => .bind hP ?_ fun _ => .pure hP _
    exact .when hP fun _ => .bind hP (.lift hP _) fun _ => hsend _
  · exact .bind hP (hsend _) fun _ => .pure hP _

theorem AdminCase.allowed_adds {c : AdminCase} {specific : Value} {message : Message}
    (h : ∀ text, P (.send message.channel text)) :
    Prog.Within (Adds P) (c.allowed specific message) := by
  unfold AdminCase.allowed
  cases c.key with
  | none => exact .pure (Adds.frame P) true
  | some key => exact hasCorrectRole_adds h

end Primitives

/-! ## The handlers of an instance -/

theorem Rcon.mem_channels {this : Rcon} {c : Channel} : c ∈ this.channels ↔
    this.commandChannel = some c ∨ this.sideChannel = some c ∨ this.groupChannel = some c ∨
      this.directChannel = some c ∨ this.adminChannel = some c ∨ this.connectChannel = some c ∨
      this.vehicleChannel = some c ∨ this.defaultChannel = some c ∨
      this.globalChannel = some c := by
  simp only [Rcon.channels, List.reduceOption_mem_iff, List.mem_cons, List.not_mem_nil, or_false,
    eq_comm (a := some c)]

theorem Rcon.commandChannel_mem {this : Rcon} {c : Channel} (h : this.commandChannel = some c) :
    c ∈ this.channels := Rcon.mem_channels.2 (.inl h)

/-- The way a reply comes back. -/
def isEcho (message : Text) : Bool := startsWith message (lit "RCon admin")

/-- The action asks for a reply to the message. -/
def answers (message : Text) (action : Value) : Bool :=
  match action.get (lit "command"), action.get (lit "reply") with
  | .ok command, .ok reply =>
    match command.toText with
    | .ok text => command.truthy && includes message text && reply.truthy
    | .error _ => false
  | _, _ => false

/-- The text is a reply that one of the instance's actions gives to the message. -/
def IsReply (this : Rcon) (message text : Text) : Prop :=
  ∃ action ∈ this.actions, answers message action = true ∧
    ∃ reply, action.get (lit "reply") = .ok reply ∧ reply.toText = .ok text

section Handlers

variable {env : Env} {this : Rcon} {throws : Effect → Bool} {P : Effect → Prop}

/-- The channel of a category is one of the instance's channels. -/
theorem category_channel {message : Text} {c : Channel}
    (h : (category message).channel this = some c) : c ∈ this.channels := by
  unfold category at h
  rw [Rcon.mem_channels]
  repeat' split at h
  · exact .inr (.inl h)
  · exact .inr (.inr (.inl h))
  · exact .inr (.inr (.inr (.inl h)))
  · exact .inr (.inr (.inr (.inr (.inr (.inr (.inl h))))))
  · exact .inr (.inr (.inr (.inr (.inr (.inr (.inr (.inr h)))))))
  · exact .inr (.inr (.inr (.inr (.inl h))))
  · exact .inr (.inr (.inr (.inr (.inr (.inl h)))))
  · exact .inr (.inr (.inr (.inr (.inr (.inr (.inr (.inl h)))))))

theorem runAction_adds {message styledMessage : Text} {action : Value}
    (hsend : ∀ c text, this.adminChannel = some c → P (.send c text))
    (hsay : ∀ n reply t, this.bnode = some n → answers message action = true →
      action.get (lit "reply") = .ok reply → reply.toText = .ok t →
      P (.command n (lit "say -1 " ++ t) .none)) :
    Prog.Within (Adds P) (runAction this throws message styledMessage action) := by
  have hP := Adds.frame P
  have hadmin : ∀ text, Prog.Within (Adds P) (sendTextMessage this.adminChannel text) :=
    fun text => sendTextMessage_adds fun c hc => hsend c text hc
  refine .lift_bind hP fun command hcommand => .when hP fun htruthy => ?_
  refine .lift_bind hP fun text htext => .when hP fun hincludes => ?_
  refine .lift_bind hP fun reply hreply => .bind hP (.when hP fun hgiven => ?_) fun _ => ?_
  · have hanswers : answers message action = true := by
      simp only [answers, hcommand, hreply, htext, htruthy, hincludes, hgiven, Bool.and_self]
    exact cmdSayGlobalMessage_adds fun n t hn ht => hsay n reply t hn hanswers hreply ht
  · refine .bind hP (.lift hP _) fun discordReply => .when hP fun _ => ?_
    refine .bind hP (hadmin _) fun _ => .bind hP (.lift hP _) fun role => ?_
    exact .bind hP (.lift hP _) fun discordMessage => hadmin _

theorem chatMessagesAction_adds {now message : Text}
    (hsend : ∀ c text, c ∈ this.channels → P (.send c text))
    (hsay : ∀ n t, this.bnode = some n → isEcho message = false → IsReply this message t →
      P (.command n (lit "say -1 " ++ t) .none)) :
    Prog.Within (Adds P) (chatMessagesAction this throws now message) := by
  have hP := Adds.frame P
  have hdefault : ∀ text, Prog.Within (Adds P) (sendTextMessage this.defaultChannel text) :=
    fun text => sendTextMessage_adds fun c hc =>
      hsend c text (Rcon.mem_channels.2 (.inr (.inr (.inr (.inr (.inr (.inr (.inr (.inl hc)))))))))
  have hadmin : ∀ c text, this.adminChannel = some c → P (.send c text) := fun c text hc =>
    hsend c text (Rcon.mem_channels.2 (.inr (.inr (.inr (.inr (.inl hc))))))
  refine .bind hP (.lift hP _) fun hide => .bind hP (.when hP fun _ => ?_) fun _ =>
    .when hP fun hline => .forEach hP fun action haction => ?_
  · unfold postMessage
    split
    · rename_i channel hc
      exact sendTextMessage_adds fun c e => hsend c _ (Option.some.inj e ▸ category_channel hc)
    · exact .bind hP (hdefault _) fun _ => hdefault _
  · have hecho : isEcho message = false := by simpa [isEcho] using hline
    exact runAction_adds hadmin fun n reply t hn hanswers hreply ht =>
      hsay n t hn hecho ⟨action, haction, hanswers, reply, hreply, ht⟩

theorem replyAction_adds {callback : Callback} {text : Text}
    (hsend : ∀ c text, this.commandChannel = some c → P (.send c text)) :
    Prog.Within (Adds P) (replyAction env this callback text) := by
  have hP := Adds.frame P
  cases callback with
  | none => exact .pure hP ()
  | text => exact .when hP fun _ => sendTextMessage_adds fun c hc => hsend c _ hc
  | long => exact printLongMessage_adds hsend
  | playerList => exact printLongMessage_adds hsend

theorem cmdDisconnect_adds (hsend : ∀ c text, this.commandChannel = some c → P (.send c text))
    (hcommand : ∀ n, this.bnode = some n → P (.command n (lit "disconnect") .text)) :
    Prog.Within (Adds P) (cmdDisconnect this throws) :=
  .bind (Adds.frame P) (sendTextMessage_adds fun c hc => hsend c _ hc) fun _ =>
    sendCommand_adds hcommand

theorem cmdExit_adds (hsend : ∀ c text, this.commandChannel = some c → P (.send c text))
    (hcommand : ∀ n, this.bnode = some n → P (.command n (lit "exit") .text)) :
    Prog.Within (Adds P) (cmdExit this throws) :=
  .bind (Adds.frame P) (sendTextMessage_adds fun c hc => hsend c _ hc) fun _ =>
    sendCommand_adds hcommand

theorem AdminHandler.run_adds {h : AdminHandler} {argument : Text}
    (hsend : ∀ c text, this.commandChannel = some c → P (.send c text))
    (hquery : ∀ host port portQuery, P (.query host port portQuery))
    (hcommand : ∀ n s callback, this.bnode = some n → P (.command n s callback)) :
    Prog.Within (Adds P) (h.run env this throws argument) := by
  cases h
  case steamTestPrintData => exact cmdSteamTestPrintData_adds hquery
  case steamtPrintData => exact .raise (Adds.frame _) _
  case sayGlobalMessage => exact cmdSayGlobalMessage_adds fun n t hn _ => hcommand n _ _ hn
  case disconnect => exact cmdDisconnect_adds hsend fun n => hcommand n _ _
  case exit => exact cmdExit_adds hsend fun n => hcommand n _ _
  case listCommands => exact listCommands_adds hsend
  all_goals exact sendCommand_adds fun n => hcommand n _ _

/-- What a message makes an instance do. The gate has compared its channel with the command
channel, so there is one channel to answer in. -/
theorem checkAdminCommand_adds {specific : Value} {message : Message}
    (hsend : ∀ text, this.commandChannel = some message.channel → P (.send message.channel text))
    (hquery : ∀ host port portQuery, P (.query host port portQuery))
    (hcommand : ∀ n s callback, this.bnode = some n → P (.command n s callback)) :
    Prog.Within (Adds P) (checkAdminCommand env this specific throws message) := by
  have hP := Adds.frame P
  refine .ite (fun hch => ?_) fun _ => .pure hP ()
  have hanswer : ∀ c text, this.commandChannel = some c → P (.send c text) := fun c text hc => by
    rw [← Option.some.inj (hch.trans hc)]
    exact hsend text hch.symm
  split
  · exact .pure hP ()
  · refine .bind hP (AdminCase.allowed_adds fun text => hsend text hch.symm) fun _ => ?_
    exact .when hP fun _ => AdminHandler.run_adds hanswer hquery hcommand

end Handlers

end ZBot
