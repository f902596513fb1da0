import ZBot.Js.Split
import ZBot.Verify.Config
import ZBot.Verify.Speech

/-!
# Where a chat message goes

`chatMessagesAction` posts the styled message in the channel of its category, and in the default
channel when the category has none. The actions may post it once more in the admin channel.
`Delivers t r D x` says of a program both whether it returns and to which channels it hands `t`;
there is one rule per construct.

A channel that is bound but is no text channel is neither posted to nor replaced by the default one.
So a message reaches the one channel it is meant for only under a condition on the bound channels
(`chatMessagesAction_delivered_iff`, `lost_message`).
-/

namespace ZBot

open Js RconM

/-! ## Instances that went online -/

section Online

/-- The constructor has returned and found a text channel for the default: the instance logs in. -/
def WentOnline (this : Rcon) : Prop :=
  ∃ env o specific server guild,
    let built := construct env o specific ⟨.blank server guild, []⟩
    built.1 = .ok () ∧ built.2.rcon.continue_ = true ∧ this.bound = built.2.rcon.bound

/-- The default channel is a text channel, if the instance goes on. -/
def Prepared (s : RconSt) : Prop :=
  s.rcon.continue_ = true → ∃ c, s.rcon.defaultChannel = some c ∧ c.type = .text

theorem bindChannels_prepared :
    Prog.Triple (fun s => s.rcon.continue_ = false) bindChannels (fun _ => Prepared)
      fun _ => True := by
  intro s hs
  rcases e : bindChannels s with ⟨_ | _, s'⟩
  · trivial
  · intro hcontinue
    have hbindable := (bindChannels_ok_iff s).1 (by rw [e])
    have hdefault := bindChannels_default hs hbindable
    rw [e] at hdefault
    exact hdefault hcontinue

theorem Prepared.of_bound {s s' : RconSt} (hs : Prepared s) (h : s'.rcon.bound = s.rcon.bound) :
    Prepared s' := by
  change s'.rcon.bound.continue_ = true → ∃ c, s'.rcon.bound.defaultChannel = some c ∧ _
  rw [h]
  exact hs

/-- Code that keeps the channels. -/
theorem prepared_keeps {α : Type} {x : RconM α}
    (hx : ∀ s, Keeps Rcon.bound (fun _ => True) s x) :
    Prog.Triple Prepared x (fun _ => Prepared) fun _ => True :=
  (Prog.Triple.of_within (keeps_within hx) fun _ _ hs h => hs.of_bound h.rcon).post
    (fun _ _ h => h) fun _ _ => trivial

theorem construct_prepared (env : Env) (o : Oracle) (specific : Value) :
    Prog.Triple (fun s => s.rcon.continue_ = false) (construct env o specific) (fun _ => Prepared)
      fun _ => True := by
  have hlink : IgnoresLink Rcon.bound := fun _ _ _ _ _ => rfl
  have hnode : Prog.Triple (fun s => s.rcon.continue_ = false) (newBattleNode o)
      (fun _ s => s.rcon.continue_ = false) fun _ => True := by
    refine (Prog.Triple.of_within (keeps_within (E := Rcon.continue_) (P := fun _ => True)
      fun s => newBattleNode_keeps (fun _ _ _ _ _ => rfl) fun _ => trivial)
      fun s s' hs h => ?_).post (fun _ _ h => h) fun _ _ => trivial
    exact h.rcon.trans hs
  have hconnect : ∀ n, Prog.Triple Prepared (do logLogin env; initEvents n; login o n)
      (fun _ => Prepared) fun _ => True := fun n =>
    prepared_keeps fun _ => connect_keeps hlink (fun _ _ => trivial) (fun _ => trivial) n
  exact construct_triple specific (fun _ _ hs => hs) hnode (fun _ => bindChannels_prepared)
    hconnect (fun _ _ hs => hs) fun _ _ => trivial

/-- An instance that went online has a text channel for its default. -/
theorem WentOnline.default {this : Rcon} (h : WentOnline this) :
    ∃ c, this.defaultChannel = some c ∧ c.type = .text := by
  obtain ⟨env, o, specific, server, guild, hok, hcontinue, hbound⟩ := h
  have hdefault := (construct_prepared env o specific).of_ok rfl hok hcontinue
  change ∃ c, this.bound.defaultChannel = some c ∧ c.type = .text
  rw [hbound]
  exact hdefault

end Online

/-! ## Programs that hand over a text -/

section Delivers

variable {t : Text} {r r' : Bool} {D D' : Channel → Prop} {x : Emit Unit} {f : Unit → Emit Unit}

/-- Whatever was called before, the program returns when `r` is true, and hands the text to the
channels in `D`. -/
def Delivers (t : Text) (r : Bool) (D : Channel → Prop) (x : Emit Unit) : Prop :=
  ∀ calls, ((x calls).1 = .ok () ↔ r = true) ∧
    ∀ c, .send c t ∈ (x calls).2 ↔ .send c t ∈ calls ∨ D c

/-- No channel. -/
def Nowhere (_ : Channel) : Prop := False

/-- The channel, when it is a text channel. -/
def TextOf (channel : Option Channel) (c : Channel) : Prop := channel = some c ∧ c.type = .text

namespace Delivers

theorem pure : Delivers t true Nowhere (Pure.pure ()) := fun calls => by
  simp [Nowhere]

theorem raise (e : Error) : Delivers t false Nowhere (Prog.raise e) := fun calls => by
  simp [Nowhere]

theorem congr (h : Delivers t r D x) (hr : r = r') (hD : ∀ c, D c ↔ D' c) :
    Delivers t r' D' x := by
  subst hr
  intro calls
  refine ⟨(h calls).1, fun c => ?_⟩
  rw [(h calls).2, hD]

theorem bind (hx : Delivers t r D x) (hf : r = true → Delivers t r' D' (f ())) :
    Delivers t (r && r') (fun c => D c ∨ (r = true ∧ D' c)) (x >>= f) := by
  intro calls
  obtain ⟨hreturns, hsends⟩ := hx calls
  rcases e : x calls with ⟨_ | _, calls'⟩ <;> rw [e] at hreturns hsends
  · have hr : r = false := by simpa using hreturns
    rw [Prog.bind_error e, hr]
    refine ⟨by simp, fun c => ?_⟩
    rw [hsends]
    simp
  · have hr : r = true := hreturns.1 rfl
    obtain ⟨hreturns', hsends'⟩ := hf hr calls'
    rw [Prog.bind_ok e, hr, Bool.true_and]
    refine ⟨hreturns', fun c => ?_⟩
    rw [hsends', hsends, or_assoc]
    simp only [true_and]

theorem when {c : Bool} (hx : c = true → Delivers t r D x) :
    Delivers t (!c || r) (fun ch => c = true ∧ D ch) (Prog.when c x) := by
  cases c with
  | false => exact pure.congr rfl fun _ => by simp [Nowhere]
  | true => exact (hx rfl).congr rfl fun _ => by simp

theorem sendTextMessage (t : Text) (channel : Option Channel) (text : Text) :
    Delivers t true (fun c => t = text ∧ TextOf channel c) (sendTextMessage channel text) := by
  intro calls
  cases channel with
  | none => simp [ZBot.sendTextMessage, TextOf]
  | some channel =>
    by_cases htype : channel.type = .text
    · simp only [ZBot.sendTextMessage, htype, decide_true, Prog.when_true, emit,
        Prog.modify_apply, List.mem_append, List.mem_singleton, Effect.send.injEq, TextOf,
        Option.some.injEq]
      grind
    · simp only [ZBot.sendTextMessage, htype, decide_false, Prog.when_false, Prog.pure_apply,
        TextOf, Option.some.injEq]
      grind

end Delivers

end Delivers

/-! ## The actions -/

section Actions

variable {this : Rcon} {throws : Effect → Bool} {message t : Text} {action : Value}

/-- A member of an action, `undefined` when it is not there. -/
def memberOf (action : Value) (key : String) : Value :=
  (Value.lookup action.fields (lit key)).getD .undefined

/-- `cmdSayGlobalMessage` returns. -/
def sayable (this : Rcon) (throws : Effect → Bool) (text : Value) : Bool :=
  match text.toText, this.bnode with
  | .ok text, some n => !throws (.command n (lit "say -1 " ++ text) .none)
  | _, _ => false

/-- Whether the command of the action occurs in the message, `none` when it cannot be read. -/
def addressed (message : Text) (action : Value) : Option Bool :=
  if !action.defined then none
  else if !(memberOf action "command").truthy then some false
  else
    match (memberOf action "command").toText with
    | .ok command => some (includes message command)
    | .error _ => none

/-- The reply in the game, if there is one, is sent. -/
def replied (this : Rcon) (throws : Effect → Bool) (action : Value) : Bool :=
  !(memberOf action "reply").truthy || sayable this throws (memberOf action "reply")

/-- The action posts the message in the admin channel. -/
def copies (this : Rcon) (throws : Effect → Bool) (message : Text) (action : Value) : Bool :=
  addressed message action == some true && replied this throws action &&
    (memberOf action "discordReply").truthy

/-- The members of the role, if one is given, can be mentioned in the reply on Discord. -/
def mentionable (this : Rcon) (action : Value) : Bool :=
  (addMentions (memberOf action "discordReply") (if (memberOf action "role").truthy
    then roleMembers this.guild (memberOf action "role") else [])).isOk

/-- The action returns, and the next one has its turn. -/
def finishes (this : Rcon) (throws : Effect → Bool) (message : Text) (action : Value) : Bool :=
  match addressed message action with
  | none => false
  | some false => true
  | some true => replied this throws action &&
    (!(memberOf action "discordReply").truthy || mentionable this action)

/-- One of the actions that have their turn posts the message in the admin channel. -/
def copiesAny (this : Rcon) (throws : Effect → Bool) (message : Text) : List Value → Bool
  | [] => false
  | action :: rest => copies this throws message action ||
    (finishes this throws message action && copiesAny this throws message rest)

theorem get_memberOf (h : action.defined = true) (key : String) :
    action.get (lit key) = .ok (memberOf action key) := by
  rw [Value.get, if_pos h]
  rfl

theorem cmdSayGlobalMessage_delivers (this : Rcon) (throws : Effect → Bool) (text : Value) :
    Delivers t (sayable this throws text) Nowhere (cmdSayGlobalMessage this throws text) := by
  intro calls
  unfold cmdSayGlobalMessage sayable
  cases text.toText with
  | error e => simp [Prog.lift_error_bind, Nowhere]
  | ok text =>
    rw [Prog.lift_ok_bind rfl, sendCommand]
    cases this.bnode with
    | none => simp [Nowhere]
    | some n =>
      cases hthrows : throws (.command n (lit "say -1 " ++ text) .none) with
      | true => simp [call, emit, hthrows, Nowhere, Prog.modify_bind]
      | false => simp [call, emit, hthrows, Nowhere, Prog.modify_bind]

/-- The part of an action that is about Discord: the message is posted before the role is read. -/
theorem discordReply_delivers (hdefined : action.defined = true) :
    Delivers t (!(memberOf action "discordReply").truthy || mentionable this action)
      (fun c => (memberOf action "discordReply").truthy = true ∧ TextOf this.adminChannel c)
      (Prog.when (memberOf action "discordReply").truthy do
        sendTextMessage this.adminChannel t
        let role ← Prog.lift (action.get (lit "role"))
        let discordMessage ← Prog.lift (addMentions (memberOf action "discordReply")
          (if role.truthy then roleMembers this.guild role else []))
        sendTextMessage this.adminChannel (contentText discordMessage)) := by
  refine .when fun _ => ?_
  have hpost := Delivers.sendTextMessage t this.adminChannel t
  rw [Prog.lift_ok_bind (get_memberOf hdefined "role"), mentionable]
  cases addMentions (memberOf action "discordReply") (if (memberOf action "role").truthy
    then roleMembers this.guild (memberOf action "role") else []) with
  | error e =>
    rw [Prog.lift_error_bind rfl]
    exact (hpost.bind fun _ => .raise e).congr rfl fun c => by simp [Nowhere]
  | ok discordMessage =>
    -- what is sent next goes to the same channel, whatever it is
    rw [Prog.lift_ok_bind rfl]
    exact (hpost.bind fun _ => .sendTextMessage t this.adminChannel _).congr rfl fun c => by
      simp only [true_and]
      tauto

/-- An action whose command cannot be read throws before anything is sent. -/
theorem raise_delivers (h : addressed message action = none) (e : Error) :
    Delivers t (finishes this throws message action)
      (fun c => copies this throws message action = true ∧ TextOf this.adminChannel c)
      (Prog.raise e) :=
  (Delivers.raise e).congr (by rw [finishes, h]) fun c => by simp [copies, h, Nowhere]

/-- An action whose command is not in the message does nothing. -/
theorem pure_delivers (h : addressed message action = some false) :
    Delivers t (finishes this throws message action)
      (fun c => copies this throws message action = true ∧ TextOf this.adminChannel c)
      (Pure.pure ()) :=
  Delivers.pure.congr (by rw [finishes, h]) fun c => by simp [copies, h, Nowhere]

theorem runAction_delivers (this : Rcon) (throws : Effect → Bool) (message t : Text)
    (action : Value) :
    Delivers t (finishes this throws message action)
      (fun c => copies this throws message action = true ∧ TextOf this.adminChannel c)
      (runAction this throws message t action) := by
  by_cases hdefined : action.defined = true
  swap
  · have hget : action.get (lit "command") = .error .typeError := by
      rw [Value.get, if_neg hdefined]
    rw [runAction, Prog.lift_error_bind hget]
    exact raise_delivers (by simp [addressed, hdefined]) _
  rw [runAction, Prog.lift_ok_bind (get_memberOf hdefined "command")]
  cases htruthy : (memberOf action "command").truthy with
  | false => exact pure_delivers (by simp [addressed, hdefined, htruthy])
  | true =>
    rw [Prog.when_true]
    cases hcommand : (memberOf action "command").toText with
    | error e =>
      rw [Prog.lift_error_bind rfl]
      exact raise_delivers (by simp [addressed, hdefined, htruthy, hcommand]) e
    | ok command =>
      have haddressed : addressed message action = some (includes message command) := by
        simp [addressed, hdefined, htruthy, hcommand]
      rw [Prog.lift_ok_bind rfl]
      cases hincludes : includes message command with
      | false => exact pure_delivers (by rw [haddressed, hincludes])
      | true =>
        rw [hincludes] at haddressed
        have hreply : Delivers t (replied this throws action) Nowhere
            (Prog.when (memberOf action "reply").truthy
              (cmdSayGlobalMessage this throws (memberOf action "reply"))) :=
          (Delivers.when fun _ => cmdSayGlobalMessage_delivers this throws _).congr rfl
            fun c => by simp [Nowhere]
        rw [Prog.when_true, Prog.lift_ok_bind (get_memberOf hdefined "reply"),
          Prog.lift_ok_bind (get_memberOf hdefined "discordReply")]
        refine (hreply.bind fun _ => discordReply_delivers hdefined).congr ?_ fun c => ?_
        · rw [finishes, haddressed]
        · simp [copies, haddressed, Nowhere, and_assoc]

theorem actions_deliver (this : Rcon) (throws : Effect → Bool) (message t : Text)
    (actions : List Value) :
    ∃ r, Delivers t r
      (fun c => copiesAny this throws message actions = true ∧ TextOf this.adminChannel c)
      (Prog.forEach actions (runAction this throws message t)) := by
  induction actions with
  | nil => exact ⟨true, Delivers.pure.congr rfl fun c => by simp [copiesAny, Nowhere]⟩
  | cons action rest ih =>
    obtain ⟨r, hrest⟩ := ih
    refine ⟨_, ((runAction_delivers this throws message t action).bind fun _ => hrest).congr rfl
      fun c => ?_⟩
    simp only [copiesAny, Bool.or_eq_true, Bool.and_eq_true]
    tauto

end Actions

/-! ## The message -/

section Message

variable {this : Rcon} {throws : Effect → Bool} {now message : Text}

/-- The message as it is posted. -/
def styled (now message : Text) : Text :=
  (category message).opening ++ (now ++ lit ": " ++ message) ++ (category message).closing

/-- The channel bound to the category of the message. -/
def boundTo (this : Rcon) (message : Text) : Option Channel := (category message).channel this

/-- The channel the message is meant for: the bound one if that is a text channel, otherwise the
default one. -/
def meantFor (this : Rcon) (message : Text) : Option Channel :=
  if (boundTo this message).any (·.type = .text) then boundTo this message else this.defaultChannel

/-- The text channel in which an action posts the message as well. -/
def copiedTo (this : Rcon) (throws : Effect → Bool) (message : Text) : Option Channel :=
  if !startsWith message (lit "RCon admin") && copiesAny this throws message this.actions &&
    this.adminChannel.any (·.type = .text) then this.adminChannel else none

/-- The styled message is sent to the text channel it is meant for, and to no other one. -/
def Delivered (this : Rcon) (throws : Effect → Bool) (now message : Text) : Prop :=
  ∃ c, meantFor this message = some c ∧ c.type = .text ∧
    ∀ c', .send c' (styled now message) ∈ (chatMessagesAction this throws now message []).2 ↔
      c' = c

theorem postMessage_delivers (this : Rcon) (category : Category) (t : Text) :
    Delivers t true (TextOf ((category.channel this).or this.defaultChannel))
      (postMessage this category t) := by
  unfold postMessage
  cases category.channel this with
  | some channel => exact (Delivers.sendTextMessage t _ t).congr rfl fun c => by simp
  | none =>
    refine ((Delivers.sendTextMessage t this.defaultChannel _).bind fun _ =>
      .sendTextMessage t this.defaultChannel t).congr rfl fun c => ?_
    simp only [true_and, Option.none_or]
    tauto

theorem copiedTo_eq_some_iff {c : Channel} : copiedTo this throws message = some c ↔
    startsWith message (lit "RCon admin") = false ∧
      copiesAny this throws message this.actions = true ∧ TextOf this.adminChannel c := by
  unfold copiedTo TextOf
  cases startsWith message (lit "RCon admin") with
  | true => simp
  | false =>
    cases copiesAny this throws message this.actions with
    | false => simp
    | true =>
      cases this.adminChannel with
      | none => simp
      | some channel =>
        by_cases htype : channel.type = .text
        · simp only [Bool.not_false, Bool.and_self, Option.any_some, htype, decide_true, if_true,
            true_and, Option.some.injEq]
          exact ⟨fun h => ⟨h, h ▸ htype⟩, fun h => h.1⟩
        · simp only [Bool.not_false, Bool.and_self, Bool.true_and, Option.any_some, htype,
            decide_false, Bool.false_eq_true, if_false, true_and, Option.some.injEq]
          exact ⟨fun h => (by cases h), fun h => absurd (h.1 ▸ h.2) htype⟩

/-- The channels that get the message. -/
theorem chatMessagesAction_sends (throws : Effect → Bool) (now : Text)
    (hshow : disableShow this (category message) = .ok false) (c : Channel) :
    .send c (styled now message) ∈ (chatMessagesAction this throws now message []).2 ↔
      TextOf ((boundTo this message).or this.defaultChannel) c ∨
        copiedTo this throws message = some c := by
  obtain ⟨r, hactions⟩ :=
    actions_deliver this throws message (styled now message) this.actions
  have hcheck : Delivers (styled now message) (startsWith message (lit "RCon admin") || r)
      (fun c => copiedTo this throws message = some c)
      (checkMessageForCommand this throws message (styled now message)) := by
    refine (Delivers.when fun _ => hactions).congr (by rw [Bool.not_not]) fun c => ?_
    rw [copiedTo_eq_some_iff, Bool.not_eq_true']
  have hposted := (postMessage_delivers this (category message) (styled now message)).bind
    (f := fun _ => checkMessageForCommand this throws message (styled now message)) fun _ => hcheck
  rw [chatMessagesAction, Prog.lift_ok_bind hshow]
  have hsends := (hposted []).2 c
  simp only [List.not_mem_nil, false_or, true_and] at hsends
  exact hsends

/-- The message is posted in the channel it is meant for, unless the bound one is no text
channel. -/
theorem posted_iff (message : Text) {d : Channel} (hdefault : this.defaultChannel = some d)
    (hd : d.type = .text) :
    ∃ c, meantFor this message = some c ∧ c.type = .text ∧
      ((boundTo this message).all (·.type = .text) = true ∨ this.defaultChannel = some c) ∧
      ∀ c', TextOf ((boundTo this message).or this.defaultChannel) c' ↔
        c' = c ∧ (boundTo this message).all (·.type = .text) = true := by
  unfold meantFor
  cases boundTo this message with
  | none =>
    refine ⟨d, by simp [hdefault], hd, .inr hdefault, fun c' => ?_⟩
    simp only [Option.none_or, hdefault, TextOf, Option.some.injEq, Option.all_none, and_true]
    exact ⟨fun h => h.1.symm, fun h => ⟨h.symm, h ▸ hd⟩⟩
  | some channel =>
    by_cases htype : channel.type = .text
    · refine ⟨channel, by simp [htype], htype, .inl (by simp [htype]), fun c' => ?_⟩
      simp only [Option.some_or, TextOf, Option.some.injEq, Option.all_some, htype, decide_true,
        and_true]
      exact ⟨fun h => h.1.symm, fun h => ⟨h.symm, h ▸ htype⟩⟩
    · refine ⟨d, by simp [htype, hdefault], hd, .inr hdefault, fun c' => ?_⟩
      simp only [Option.some_or, TextOf, Option.some.injEq, Option.all_some, htype, decide_false,
        Bool.false_eq_true, and_false, iff_false]
      exact fun h => htype (h.1 ▸ h.2)

/-- **No enabled message is lost**, for an instance that went online and a message whose category is
shown, when the bound channel is a text channel or missing, and no action posts the message in
another channel. -/
theorem chatMessagesAction_delivered_iff (throws : Effect → Bool) (now : Text)
    (honline : WentOnline this) (hshow : disableShow this (category message) = .ok false) :
    Delivered this throws now message ↔
      ((boundTo this message).all (·.type = .text) = true ∨
          copiedTo this throws message = this.defaultChannel) ∧
        ∀ c, copiedTo this throws message = some c → meantFor this message = some c := by
  obtain ⟨d, hdefault, hd⟩ := honline.default
  simp only [Delivered, chatMessagesAction_sends throws now hshow]
  obtain ⟨c, hmeant, htext, hfallback, hposted⟩ := posted_iff message hdefault hd
  simp only [hposted, hmeant, Option.some.injEq]
  constructor
  · rintro ⟨_, rfl, -, hsends⟩
    refine ⟨?_, fun c' hc' => ((hsends c').1 (.inr hc')).symm⟩
    rcases (hsends c).2 rfl with ⟨-, hall⟩ | hcopied
    · exact .inl hall
    · exact hfallback.imp_right fun hc => hcopied.trans hc.symm
  · rintro ⟨hbound, hcopied⟩
    refine ⟨c, rfl, htext, fun c' => ⟨?_, ?_⟩⟩
    · rintro (⟨rfl, -⟩ | hc')
      · rfl
      · exact (hcopied c' hc').symm
    · rintro rfl
      rcases hfallback with hall | hc
      · exact .inl ⟨rfl, hall⟩
      · exact hbound.imp (fun hall => ⟨rfl, hall⟩) fun hcopy => hcopy.trans hc

end Message

/-! ## A voice channel of the same name -/

/-- A guild in which a voice channel and a text channel are called `side`. -/
def mixedGuild : Guild :=
  ⟨sampleId, lit "mixed", [⟨lit "1", some sampleId, lit "side", .voice⟩,
    ⟨lit "2", some sampleId, lit "side", .text⟩, sampleChannel sampleId], [],
    by simp [sampleChannel]⟩

/-- A server that uses `side` for the side chat, and shows everything. -/
def mixedServer : Value :=
  .obj [(lit "channels", .obj ((lit "side", .str (lit "side")) ::
      ["commands", "group", "direct", "admin", "joins", "vehicle", "default", "global"].map
        fun key => (lit key, .str (lit "rcon")))),
    (lit "showChannels", .obj (["side", "group", "direct", "admin", "joins", "vehicle", "default",
      "global"].map fun key => (lit key, .bool true)))]

def mixedRcon : Rcon :=
  (construct default (sampleOracle firstRcon) (sampleConfig [])
    ⟨.blank mixedServer mixedGuild, []⟩).2.rcon

theorem mixedRcon_online : WentOnline mixedRcon :=
  ⟨default, sampleOracle firstRcon, sampleConfig [], mixedServer, mixedGuild, by decide +kernel,
    by decide +kernel, rfl⟩

theorem chatMessagesAction_delivered_global :
    Delivered mixedRcon (fun _ => false) (lit "12:00") (lit "(Global) Bob: hi") := by
  have hshow : disableShow mixedRcon (category (lit "(Global) Bob: hi")) = .ok false := by
    decide +kernel
  have hcopied : copiedTo mixedRcon (fun _ => false) (lit "(Global) Bob: hi") = none := by
    decide +kernel
  refine (chatMessagesAction_delivered_iff _ _ mixedRcon_online hshow).2
    ⟨.inl (by decide +kernel), fun c hc => ?_⟩
  rw [hcopied] at hc
  cases hc

/-- The voice channel comes first: a message of the side chat is sent nowhere. -/
theorem lost_message :
    let message := lit "(Side) Bob: hi"
    WentOnline mixedRcon ∧ disableShow mixedRcon (category message) = .ok false ∧
      ¬Delivered mixedRcon (fun _ => false) (lit "12:00") message := by
  refine ⟨mixedRcon_online, by decide +kernel, ?_⟩
  rintro ⟨c, -, -, hsends⟩
  have hnone : (chatMessagesAction mixedRcon (fun _ => false) (lit "12:00")
      (lit "(Side) Bob: hi") []).2 = [] := by decide +kernel
  have hsent := (hsends c).2 rfl
  rw [hnone] at hsent
  cases hsent

end ZBot
