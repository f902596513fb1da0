import ZBot.Verify.Effects

/-!
# The permission gate of the Discord commands

`checkAdminCommand` asks for the role of one permission key and then sends one command. The gate is
sound for a message (`Authorised`) when the role that was asked for is the role of the command that
is sent: the key of the first word of the text handed to `sendCommand`.

Every case but one builds its command from a constant word, so the key is fixed with the case
(`run_command`). The exception is the case of the server commands: it deletes the first `!rcon ` of
the message, wherever it stands, and sends the rest. `authorised_iff` says for which messages this
is sound whatever the permissions are: the text that is left must still begin with `#`.
-/

namespace ZBot

open Js

/-! ## The key of a command -/

def hash : UInt16 := 35

/-- The commands that have a permission key of their own name. -/
def commandNames : List Text := [
  lit "players", lit "admins", lit "bans", lit "loadScripts", lit "loadEvents", lit "say",
  lit "missions", lit "version", lit "update", lit "loadBans", lit "writeBans", lit "removeBan",
  lit "ban", lit "addBan", lit "MaxPing", lit "kick", lit "disconnect", lit "exit"]

/-- The permission key of a command's first word. -/
def commandKey (word : Text) : Option Text :=
  if word.head? = some hash then some (lit "serverCommands")
  else if word ∈ commandNames then some word
  else none

/-- The author of the message holds the role that the permission map assigns to the key. -/
def HoldsRole (specific : Value) (message : Message) (key : Text) : Prop :=
  ∃ role names, permission specific key = .ok (.str role) ∧ message.member = some names ∧
    role ∈ names

/-- Every command the message makes the bot send is one whose role the author holds. -/
def Authorised (env : Env) (this : Rcon) (specific : Value) (throws : Effect → Bool)
    (message : Message) : Prop :=
  ∀ n s callback,
    Effect.command n s callback ∈ (checkAdminCommand env this specific throws message []).2 →
    ∃ key, commandKey (firstWord s) = some key ∧ HoldsRole specific message key

/-- An effect that is no command, or a command with the property. -/
def Sends (P : Text → Prop) (e : Effect) : Prop := ∀ n s callback, e = .command n s callback → P s

theorem Sends.command (P : Text → Prop) {s : Text} (h : P s) (n : Nat) (callback : Callback) :
    Sends P (.command n s callback) := by
  intro n' s' callback' he
  cases he
  exact h

theorem Sends.send (P : Text → Prop) (c : Channel) (text : Text) : Sends P (.send c text) := by
  intro n s callback he
  cases he

theorem Sends.query (P : Text → Prop) (host port portQuery : Text) :
    Sends P (.query host port portQuery) := by
  intro n s callback he
  cases he

/-! ## The gate -/

theorem holdsRole_of_roleExists {specific : Value} {message : Message} {key : Text} {role : Value}
    (hp : permission specific key = .ok role) (h : roleExists message role = .ok true) :
    HoldsRole specific message key := by
  cases hm : message.member with
  | none => simp [roleExists, hm] at h
  | some names =>
    cases role <;> simp [roleExists, hm] at h
    exact ⟨_, names, hp, hm, h⟩

/-- The gate lets a message through only for a role the author holds. -/
theorem holdsRole_of_hasCorrectRole {specific : Value} {message : Message} {key : Text}
    {calls calls' : List Effect}
    (h : hasCorrectRole specific message key calls = (.ok true, calls')) :
    HoldsRole specific message key := by
  unfold hasCorrectRole at h
  cases hp : permission specific key with
  | error e =>
    rw [Prog.lift_error_bind hp] at h
    exact absurd (congrArg Prod.fst h) (by simp)
  | ok role =>
    rw [Prog.lift_ok_bind hp] at h
    by_cases ht : role.truthy = true
    · rw [if_pos ht] at h
      cases hr : roleExists message role with
      | error e =>
        rw [Prog.lift_error_bind hr] at h
        exact absurd (congrArg Prod.fst h) (by simp)
      | ok answer =>
        rw [Prog.lift_ok_bind hr, Prog.bind_apply] at h
        -- the value returned is the answer, whatever was sent before
        split at h
        · have ha : answer = true := by simpa using congrArg Prod.fst h
          exact holdsRole_of_roleExists hp (by rw [hr, ha])
        · exact absurd (congrArg Prod.fst h) (by simp)
    · rw [if_neg ht, Prog.bind_apply] at h
      split at h <;> exact absurd (congrArg Prod.fst h) (by simp)

/-- The gate of a case: a key that is asked for is one whose role the author holds. -/
theorem AdminCase.holdsRole_of_allowed {c : AdminCase} {specific : Value} {message : Message}
    {key : Text} {calls calls' : List Effect} (hk : c.key = some key)
    (h : c.allowed specific message calls = (.ok true, calls')) :
    HoldsRole specific message key := by
  simp only [AdminCase.allowed, hk] at h
  exact holdsRole_of_hasCorrectRole h

/-! ## The command of a case -/

/-- The first word of the command a handler sends, where the handler fixes it. -/
def AdminHandler.word : AdminHandler → Option Text
  | .steamTestPrintData => none
  | .steamtPrintData => none
  | .printAllExtendedPlayers => some (lit "players")
  | .printAllPlayers => some (lit "players")
  | .printAllAdmins => some (lit "admins")
  | .printAllBans => some (lit "bans")
  | .reloadScripts => some (lit "loadScripts")
  | .reloadEvents => some (lit "loadEvents")
  | .sayGlobalMessage => some (lit "say")
  | .sayPlayerMessage => some (lit "say")
  | .getMissions => some (lit "missions")
  | .getVersion => some (lit "version")
  | .getUpdate => some (lit "update")
  | .loadBans => some (lit "loadBans")
  | .writeBans => some (lit "writeBans")
  | .removeBan => some (lit "removeBan")
  | .ban => some (lit "ban")
  | .addBan => some (lit "addBan")
  | .setMaxPing => some (lit "MaxPing")
  | .kickPlayer => some (lit "kick")
  | .disconnect => some (lit "disconnect")
  | .exit => some (lit "exit")
  | .serverCommand => none
  | .listCommands => none

/-- The key a case asks for is the key of the word its handler fixes. -/
theorem key_of_word : ∀ c ∈ adminCases, ∀ w, c.handler.word = some w →
    c.key = some w ∧ commandKey w = some w := by
  have h : ∀ c ∈ adminCases, c.handler.word.all
      (fun w => c.key = some w ∧ commandKey w = some w) = true := by decide
  intro c hc w hw
  have := h c hc
  rw [hw] at this
  simpa using this

/-- A handler that fixes its word sends commands with that first word. -/
theorem AdminHandler.run_sends {h : AdminHandler} {w : Text} (hw : h.word = some w) (env : Env)
    (this : Rcon) (throws : Effect → Bool) (argument : Text) :
    Prog.Within (Adds (Sends fun s => firstWord s = w)) (h.run env this throws argument) := by
  have hP := Adds.frame (Sends fun s => firstWord s = w)
  -- `v` is the constant part of the command, in front of an argument
  have hword : ∀ v t : Text, w ≠ [] ∧ space ∉ w ∧ (w ++ [space] <+: v) → firstWord (v ++ t) = w :=
    fun v t ⟨hne, hs, hv⟩ => firstWord_of_prefix hne hs hv t
  have hconst : w ≠ [] ∧ space ∉ w → firstWord w = w := fun ⟨hne, hs⟩ => firstWord_self hne hs
  have hsay : ∀ {channel text}, Prog.Within (Adds (Sends fun s => firstWord s = w))
      (sendTextMessage channel text) := sendTextMessage_adds fun c _ => .send _ c _
  have hcmd : ∀ {s callback}, firstWord s = w → Prog.Within (Adds (Sends fun s => firstWord s = w))
      (sendCommand this throws s callback) := fun hs =>
    sendCommand_adds fun n _ => .command (fun s => firstWord s = w) hs n _
  cases h <;> simp only [AdminHandler.word, Option.some.injEq, reduceCtorEq] at hw <;> subst hw
  case disconnect => exact .bind hP hsay fun _ => hcmd (hconst (by decide))
  case exit => exact .bind hP hsay fun _ => hcmd (hconst (by decide))
  case sayGlobalMessage => exact .bind hP (.lift hP _) fun _ => hcmd (hword _ _ (by decide))
  case sayPlayerMessage | removeBan | ban | addBan | setMaxPing | kickPlayer =>
    exact hcmd (hword _ _ (by decide))
  all_goals exact hcmd (hconst (by decide))

/-- The handlers that fix no word send nothing, the one for server commands excepted. -/
theorem AdminHandler.run_quiet {h : AdminHandler} (hw : h.word = none) (hs : h ≠ .serverCommand)
    (env : Env) (this : Rcon) (throws : Effect → Bool) (argument : Text) :
    Prog.Within (Adds (Sends fun _ => False)) (h.run env this throws argument) := by
  cases h <;> simp only [AdminHandler.word, reduceCtorEq, ne_eq, not_true_eq_false] at hw hs
  case steamTestPrintData => exact cmdSteamTestPrintData_adds fun _ _ _ => .query _ _ _ _
  case steamtPrintData => exact .raise (Adds.frame _) _
  case listCommands => exact listCommands_adds fun c _ _ => .send _ c _

/-- The case of the server commands. -/
def serverCase : AdminCase :=
  ⟨lit "!rcon #", some (lit "serverCommands"), .serverCommand, lit "!rcon "⟩

theorem eq_serverCase : ∀ c ∈ adminCases, c.handler = .serverCommand → c = serverCase := by
  decide

/-- What stands behind a command that is sent: the case the message selects, the role of its key,
and either the word of the handler or the rest of the message. -/
theorem checkAdminCommand_command {env : Env} {this : Rcon} {specific : Value}
    {throws : Effect → Bool} {message : Message} {n : Nat} {s : Text} {callback : Callback}
    (h : Effect.command n s callback ∈ (checkAdminCommand env this specific throws message []).2) :
    ∃ c ∈ adminCases, ∃ calls, adminCase message.content = some c ∧
      c.allowed specific message [] = (.ok true, calls) ∧
      (c.handler.word = some (firstWord s) ∨
        c = serverCase ∧ s = replaceFirst message.content (lit "!rcon ") []) := by
  unfold checkAdminCommand at h
  by_cases hch : some message.channel = this.commandChannel
  · rw [if_pos hch] at h
    cases hcase : adminCase message.content with
    | none => simp [hcase] at h
    | some c =>
      have hc : c ∈ adminCases := List.mem_of_find?_eq_some hcase
      simp only [hcase] at h
      rw [Prog.bind_apply] at h
      -- the gate itself sends no command
      have hgate : Prog.Within (Adds (Sends fun _ => False)) (c.allowed specific message) :=
        AdminCase.allowed_adds fun _ => .send _ _ _
      have hq := (hgate []).forall
      have hnew : ∀ {P : Text → Prop} {calls calls' : List Effect},
          (∀ e ∈ calls, Sends (fun _ => False) e) → Adds (Sends P) calls calls' →
          Effect.command n s callback ∈ calls' → P s := by
        rintro P calls _ hc ⟨new, rfl, hP⟩ hm
        rcases List.mem_append.1 hm with hm | hm
        · exact (hc _ hm n s callback rfl).elim
        · exact hP _ hm n s callback rfl
      rcases hrun : c.allowed specific message [] with ⟨_ | allowed, calls⟩ <;> rw [hrun] at h hq
      · exact (hq _ h n s callback rfl).elim
      · cases allowed with
        | false => exact (hq _ h n s callback rfl).elim
        | true =>
          refine ⟨c, hc, calls, rfl, hrun, ?_⟩
          by_cases hsrv : c.handler = .serverCommand
          · right
            obtain rfl := eq_serverCase c hc hsrv
            have hsend : Prog.Within
                (Adds (Sends fun t => t = replaceFirst message.content (lit "!rcon ") []))
                (cmdServerCommand this throws (replaceFirst message.content (lit "!rcon ") [])) :=
              sendCommand_adds fun n _ =>
                .command (fun t => t = replaceFirst message.content (lit "!rcon ") []) rfl n _
            exact ⟨rfl, hnew hq (hsend calls) h⟩
          · left
            cases hw : c.handler.word with
            | none =>
              exact (hnew hq (AdminHandler.run_quiet hw hsrv env this throws _ calls) h).elim
            | some w => rw [hnew hq (AdminHandler.run_sends hw env this throws _ calls) h]
  · rw [if_neg hch] at h
    simp at h

/-! ## When the gate is sound -/

/-- The message selects the case of the server commands. -/
def selectsServerCommand (content : Text) : Prop := adminCase content = some serverCase

/-- After leading spaces the message begins with `#`, or with `!rcon `, spaces and `#`. -/
def opensWithHash (content : Text) : Bool :=
  let t := content.dropWhile (· == space)
  t.head? == some hash ||
    startsWith t (lit "!rcon ") && ((t.drop 6).dropWhile (· == space)).head? == some hash

theorem commandKey_eq_serverCommands {w : Text} :
    commandKey w = some (lit "serverCommands") ↔ w.head? = some hash := by
  unfold commandKey
  constructor
  · intro h
    by_contra hne
    rw [if_neg hne] at h
    split at h
    · rename_i hmem
      rw [Option.some.inj h] at hmem
      exact absurd hmem (by decide)
    · cases h
  · intro h
    rw [if_pos h]

/-- Deleting the first `!rcon ` leaves a server command exactly when the message opens with `#`. -/
theorem head_firstWord_cut {content : Text} (h : lit "!rcon " <:+: content) :
    (firstWord (replaceFirst content (lit "!rcon ") [])).head? = some hash ↔
      opensWithHash content = true := by
  obtain ⟨pre, post, rfl, hcut, hmin⟩ := replaceFirst_spec [] h
  rw [hcut, head_firstWord, List.nil_append]
  have hsplit : pre = pre.takeWhile (· == space) ++ pre.dropWhile (· == space) :=
    List.takeWhile_append_dropWhile.symm
  unfold opensWithHash
  simp only [List.dropWhile_append, Bool.or_eq_true, Bool.and_eq_true, beq_iff_eq, startsWith_iff]
  cases hq : pre.dropWhile (· == space) with
  | nil =>
    -- only spaces stand before the pattern, which is then what the message begins with
    have hhead : (lit "!rcon " ++ post).head? ≠ some hash := by
      show some (33 : UInt16) ≠ some hash
      decide
    simp only [List.isEmpty_nil, if_true]
    constructor
    · intro hp
      exact .inr ⟨List.prefix_append _ _, hp⟩
    · rintro (hp | ⟨-, hp⟩)
      · exact absurd hp hhead
      · exact hp
  | cons x q =>
    -- a pattern at the beginning would be an occurrence before the first one
    have hno : ¬ lit "!rcon " <+: x :: q ++ (lit "!rcon " ++ post) := by
      rintro ⟨u, hu⟩
      have hle := hmin (pre.takeWhile (· == space)) u (by
        rw [hu, ← hq, ← List.append_assoc (pre.takeWhile _), ← hsplit])
      have hlen := congrArg List.length hsplit
      rw [List.length_append, hq, List.length_cons] at hlen
      omega
    simp only [List.isEmpty_cons, Bool.false_eq_true, if_false, hno, false_and, or_false]
    simp

/-- A command of a case other than the server commands has the key the case asked for. -/
theorem commandKey_of_word {c : AdminCase} (hc : c ∈ adminCases) {s : Text}
    (hw : c.handler.word = some (firstWord s)) :
    ∃ key, c.key = some key ∧ commandKey (firstWord s) = some key := by
  obtain ⟨hkey, hcmd⟩ := key_of_word c hc _ hw
  exact ⟨_, hkey, hcmd⟩

theorem infix_of_selectsServerCommand {content : Text} (h : selectsServerCommand content) :
    lit "!rcon " <:+: content := by
  have hp := List.find?_some h
  exact includes_iff.1 (includes_of_isInfix (p := lit "!rcon #") hp (by decide))

/-- A permission map that knows the server commands only. -/
def serverOnly (role : Text) : Value :=
  .obj [(lit "bercon", .obj [(lit "permissions", .obj [(lit "serverCommands", .str role)])])]

theorem serverOnly_holdsRole {role key : Text} {message : Message}
    (h : HoldsRole (serverOnly role) message key) : key = lit "serverCommands" := by
  obtain ⟨r, names, hp, -, -⟩ := h
  by_contra hne
  have : permission (serverOnly role) key = .ok .undefined := by
    have hk : (lit "serverCommands" == key) = false := by simpa using fun e => hne e.symm
    show Value.get (.obj [(lit "serverCommands", .str role)]) key = _
    simp [Value.get, Value.defined, Value.fields, Value.lookup, List.find?, hk]
  rw [this] at hp
  cases hp

section Probe

variable (env : Env) (throws : Effect → Bool) (content : Text)

/-- The channel, the instance and the message of an author who may use the server commands only. -/
def probeChannel : Channel := ⟨[], none, [], .text⟩

def probeRcon : Rcon :=
  { Rcon.blank .undefined default with commandChannel := some probeChannel, bnode := some 0 }

def probeMessage : Message := ⟨[], false, some [lit "mod"], probeChannel, none, content⟩

/-- Such a message, once it selects the server commands, is sent on with its first `!rcon `
deleted. -/
theorem probe_command (h : selectsServerCommand content) :
    Effect.command 0 (replaceFirst content (lit "!rcon ") []) .text ∈
      (checkAdminCommand env probeRcon (serverOnly (lit "mod")) throws (probeMessage content)
        []).2 := by
  have hallowed : serverCase.allowed (serverOnly (lit "mod")) (probeMessage content) [] =
      (.ok true, []) := rfl
  have hch : some (probeMessage content).channel = probeRcon.commandChannel := rfl
  have hcase : adminCase (probeMessage content).content = some serverCase := h
  unfold checkAdminCommand
  rw [if_pos hch]
  simp only [hcase]
  rw [Prog.bind_ok hallowed]
  show _ ∈ (call throws _ []).2
  unfold call emit
  rw [Prog.modify_bind, Prog.when]
  split <;> exact List.mem_singleton_self _

end Probe

/-- **When the gate is sound.** A message is handled soundly, for every instance, permission map and
author, exactly when the text it sends as a server command (if it selects one) opens with `#`. -/
theorem authorised_iff (env : Env) (content : Text) :
    (∀ this specific throws message, message.content = content →
      Authorised env this specific throws message) ↔
      (selectsServerCommand content → opensWithHash content = true) := by
  constructor
  · intro h hsel
    have hp := h probeRcon (serverOnly (lit "mod")) (fun _ => false) (probeMessage content) rfl
    obtain ⟨key, hkey, hrole⟩ := hp _ _ _ (probe_command env (fun _ => false) content hsel)
    rw [serverOnly_holdsRole hrole, commandKey_eq_serverCommands] at hkey
    exact (head_firstWord_cut (infix_of_selectsServerCommand hsel)).1 hkey
  · rintro h this specific throws message rfl n s callback hm
    obtain ⟨c, hc, calls, hcase, hallowed, hw | ⟨rfl, rfl⟩⟩ := checkAdminCommand_command hm
    · obtain ⟨key, hkey, hcmd⟩ := commandKey_of_word hc hw
      exact ⟨key, hcmd, AdminCase.holdsRole_of_allowed hkey hallowed⟩
    · refine ⟨lit "serverCommands", ?_, AdminCase.holdsRole_of_allowed rfl hallowed⟩
      rw [commandKey_eq_serverCommands]
      exact (head_firstWord_cut (infix_of_selectsServerCommand hcase)).2 (h hcase)

/-- A permission map with one role for the server commands and another one for kicking. -/
def modsAndAdmins : Value :=
  .obj [(lit "bercon", .obj [(lit "permissions",
    .obj [(lit "serverCommands", .str (lit "mod")), (lit "kick", .str (lit "admin"))])])]

/-- With the role of the server commands alone, the message `kick 3 !rcon #` sends `kick 3 #`. -/
theorem not_authorised_kick :
    Effect.command 0 (lit "kick 3 #") .text ∈
      (checkAdminCommand default probeRcon modsAndAdmins (fun _ => false)
        (probeMessage (lit "kick 3 !rcon #")) []).2 ∧
    commandKey (firstWord (lit "kick 3 #")) = some (lit "kick") ∧
    ¬ HoldsRole modsAndAdmins (probeMessage (lit "kick 3 !rcon #")) (lit "kick") ∧
    ¬ Authorised default probeRcon modsAndAdmins (fun _ => false)
        (probeMessage (lit "kick 3 !rcon #")) := by
  have hsent : Effect.command 0 (lit "kick 3 #") .text ∈
      (checkAdminCommand default probeRcon modsAndAdmins (fun _ => false)
        (probeMessage (lit "kick 3 !rcon #")) []).2 := by decide +kernel
  have hkey : commandKey (firstWord (lit "kick 3 #")) = some (lit "kick") := by decide
  have hrole : ¬ HoldsRole modsAndAdmins (probeMessage (lit "kick 3 !rcon #")) (lit "kick") := by
    rintro ⟨role, names, hp, hm, hr⟩
    have hp' : permission modsAndAdmins (lit "kick") = .ok (.str (lit "admin")) := rfl
    rw [hp', Except.ok.injEq, Value.str.injEq] at hp
    obtain rfl := Option.some.inj hm
    rw [← hp] at hr
    exact absurd hr (by decide)
  refine ⟨hsent, hkey, hrole, fun h => ?_⟩
  obtain ⟨key, hk, hr⟩ := h _ _ _ hsent
  rw [hkey, Option.some.injEq] at hk
  exact hrole (hk ▸ hr)

end ZBot
