import ZBot.Js.Split
import ZBot.Verify.Dispatch

/-!
# Commands that throw

`checkAdminCommand` returns or throws depending on the message, the roles of its author and the
permission map, once the libraries do not throw (`checkAdminCommand_returns_iff`). Three things
throw:

* `!rcon teststeam ` with fewer than two colons, whose parts are read without a test;
* `!rcon steam` of an author who may use it, since the class has no method of the name that is
  called;
* a command that is refused for a role whose name cannot be read.
-/

namespace ZBot

open Js

/-! ## Sending -/

section Sending

theorem sendTextMessage_returns (channel : Option Channel) (text : Text) (calls : List Effect) :
    (sendTextMessage channel text calls).1 = .ok () := by
  cases channel with
  | none => rfl
  | some channel =>
    rw [sendTextMessage]
    cases decide (channel.type = .text) <;> rfl

theorem sendAll_returns (channel : Option Channel) (texts : List Text) (calls : List Effect) :
    (sendAll channel texts calls).1 = .ok () := by
  induction texts generalizing calls with
  | nil => rfl
  | cons text texts ih =>
    rw [sendAll, Prog.forEach, Prog.seq_ok_iff]
    exact ⟨sendTextMessage_returns channel text calls, ih _⟩

theorem printFenced_returns (opening text : Text) (channel : Option Channel)
    (calls : List Effect) : (printFenced opening text channel calls).1 = .ok () := by
  unfold printFenced
  split
  · exact sendTextMessage_returns channel _ calls
  · exact sendAll_returns channel _ calls

end Sending

/-! ## The gate -/

section Gate

variable {specific : Value} {message : Message} {key : Text} {names : List Text}

/-- The role that the permission map asks for, `undefined` when there is none. -/
def roleOf (specific : Value) (key : Text) : Value :=
  match permission specific key with
  | .ok role => role
  | .error _ => .undefined

/-- The author has the role. -/
def holdsRole (names : List Text) : Value → Bool
  | .str role => !role.isEmpty && names.contains role
  | _ => false

/-- The name of the role can be read, when the command is refused for it. -/
def refusable (names : List Text) (role : Value) : Bool :=
  !role.truthy || holdsRole names role || role.toText.isOk

/-- The permission map can be read. -/
def HasPermissions (specific : Value) : Prop :=
  ∃ bercon permissions, specific.get (lit "bercon") = .ok bercon ∧
    bercon.get (lit "permissions") = .ok permissions ∧ permissions.defined = true

theorem permission_roleOf (h : HasPermissions specific) (key : Text) :
    permission specific key = .ok (roleOf specific key) := by
  obtain ⟨bercon, permissions, hbercon, hpermissions, hdefined⟩ := h
  have hread : permission specific key =
      .ok ((Value.lookup permissions.fields key).getD .undefined) := by
    rw [permission, hbercon]
    change (bercon.get (lit "permissions") >>= fun permissions => permissions.get key) = _
    rw [hpermissions]
    change permissions.get key = _
    rw [Value.get, if_pos hdefined]
  rw [roleOf, hread]

theorem roleExists_eq (hmember : message.member = some names) {role : Value}
    (h : role.truthy = true) : roleExists message role = .ok (holdsRole names role) := by
  rw [roleExists, hmember]
  cases role with
  | undefined => cases h
  | str s =>
    have hs : (!s.isEmpty) = true := h
    simp only [holdsRole, hs, Bool.true_and]
  | _ => rfl

theorem holdsRole_of_falsy {role : Value} (h : role.truthy = false) :
    holdsRole names role = false := by
  cases role with
  | str s =>
    have hs : (!s.isEmpty) = false := h
    rw [holdsRole, hs, Bool.false_and]
  | _ => rfl

/-- The gate returns when it can name the role, and answers whether the author has it. -/
theorem hasCorrectRole_apply (h : HasPermissions specific) (hmember : message.member = some names)
    (key : Text) (calls : List Effect) :
    if refusable names (roleOf specific key) then
      (hasCorrectRole specific message key calls).1 = .ok (holdsRole names (roleOf specific key))
    else ∃ e, (hasCorrectRole specific message key calls).1 = .error e := by
  rw [hasCorrectRole, Prog.lift_ok_bind (permission_roleOf h key), refusable]
  generalize roleOf specific key = role
  cases htruthy : role.truthy with
  | false =>
    rw [if_neg Bool.false_ne_true, holdsRole_of_falsy htruthy]
    exact Prog.seq_ok_iff.2 ⟨sendTextMessage_returns _ _ calls, rfl⟩
  | true =>
    rw [if_pos rfl, Prog.lift_ok_bind (roleExists_eq hmember htruthy)]
    cases holdsRole names role with
    | true => rfl
    | false =>
      rw [Bool.not_false, Prog.when_true]
      cases role.toText with
      | error e =>
        rw [Prog.lift_error_bind rfl]
        exact ⟨e, rfl⟩
      | ok name =>
        rw [Prog.lift_ok_bind rfl]
        exact Prog.seq_ok_iff.2 ⟨sendTextMessage_returns _ _ calls, rfl⟩

end Gate

/-! ## The handlers -/

section Handlers

variable {env : Env} {this : Rcon} {throws : Effect → Bool}

/-- The handler returns: the class has it, and it can read its argument. -/
def AdminHandler.returns (argument : Text) : AdminHandler → Bool
  | .steamTestPrintData => 2 ≤ argument.count 58
  | h => h.implemented

theorem cmdSteamTestPrintData_ok_iff (argument : Text) (calls : List Effect) :
    (cmdSteamTestPrintData argument calls).1 = .ok () ↔ 2 ≤ argument.count 58 := by
  have hlength := splitOn_length 58 argument
  rw [cmdSteamTestPrintData]
  rcases hparts : splitOn 58 argument with _ | ⟨host, _ | ⟨port, _ | ⟨portQuery, rest⟩⟩⟩ <;>
    rw [hparts] at hlength <;> simp only [List.length_cons, List.length_nil] at hlength
  · exact iff_of_false (by intro h; cases h) (by omega)
  · exact iff_of_false (by intro h; cases h) (by omega)
  · exact iff_of_false (by intro h; cases h) (by omega)
  · exact iff_of_true rfl (by omega)

theorem AdminHandler.run_ok_iff (h : AdminHandler) (env : Env) (hbnode : this.bnode ≠ none)
    (hthrows : ∀ e, throws e = false) (argument : Text) (calls : List Effect) :
    (h.run env this throws argument calls).1 = .ok () ↔ h.returns argument = true := by
  obtain ⟨n, hn⟩ := Option.ne_none_iff_exists'.1 hbnode
  have hsend : ∀ s callback calls, (sendCommand this throws s callback calls).1 = .ok () := by
    intro s callback calls
    rw [sendCommand, hn]
    simp only [call, hthrows, Prog.when_false, emit, Prog.modify_bind]
    rfl
  have hseq : ∀ text s, ((do
      sendTextMessage this.commandChannel text
      sendCommand this throws s .text : Emit Unit) calls).1 = .ok () := fun text s =>
    Prog.seq_ok_iff.2 ⟨sendTextMessage_returns _ _ calls, hsend s .text _⟩
  cases h
  case steamTestPrintData =>
    exact (cmdSteamTestPrintData_ok_iff argument calls).trans decide_eq_true_iff.symm
  case steamtPrintData => exact iff_of_false (by intro h; cases h) (by intro h; cases h)
  case disconnect => exact iff_of_true (hseq _ _) rfl
  case exit => exact iff_of_true (hseq _ _) rfl
  case listCommands =>
    exact iff_of_true (Prog.seq_ok_iff.2
      ⟨printFenced_returns _ _ _ calls, sendTextMessage_returns _ _ _⟩) rfl
  all_goals exact iff_of_true (hsend _ _ calls) rfl

end Handlers

/-! ## The command -/

section Command

variable {this : Rcon} {specific : Value} {throws : Effect → Bool} {message : Message}
  {names : List Text} {content : Text}

/-- Nothing in the case of a command throws. -/
structure Tolerated (specific : Value) (names : List Text) (content : Text) (c : AdminCase) :
    Prop where
  /-- the role of the command can be named, if the author does not have it -/
  gate : ∀ key, c.key = some key → refusable names (roleOf specific key) = true
  /-- the argument of `!rcon teststeam ` has three parts -/
  argument : c.handler = .steamTestPrintData → 2 ≤ content.count 58
  /-- `!rcon steam` is refused -/
  method : c.handler = .steamtPrintData → holdsRole names (roleOf specific (lit "steam")) = false

/-- The gates of the two handlers that may throw. -/
theorem gate_spec : ∀ c ∈ adminCases, (c.key = none → c.handler.implemented = true) ∧
    (c.handler = .steamTestPrintData → c.key = none) ∧
    (c.handler.implemented = false →
      c.handler = .steamtPrintData ∧ c.key = some (lit "steam")) := by
  decide +kernel

/-- Deleting the pattern of `!rcon teststeam ` deletes no colon. -/
theorem count_argument {c : AdminCase} (hcase : adminCase content = some c)
    (hhandler : c.handler = .steamTestPrintData) :
    (replaceFirst content c.cut []).count 58 = content.count 58 := by
  have htable : ∀ c ∈ adminCases, c.handler = .steamTestPrintData →
      c.cut = c.pattern ∧ c.cut.count 58 = 0 := by decide +kernel
  obtain ⟨hcut, hcount⟩ := htable c (List.mem_of_find?_eq_some hcase) hhandler
  have hincludes : includes content c.pattern = true :=
    List.find?_some (p := fun c : AdminCase => includes content c.pattern) hcase
  rw [← hcut, includes_iff] at hincludes
  obtain ⟨pre, post, hcontent, hreplace, -⟩ := replaceFirst_spec [] hincludes
  rw [hreplace, hcontent, List.count_append, List.count_append, List.count_append,
    List.count_append, hcount]
  rfl

/-- A case that asks for no role throws only on its argument. -/
theorem tolerated_open {c : AdminCase} (hc : c ∈ adminCases) (hkey : c.key = none) :
    Tolerated specific names content c ↔
      (c.handler = .steamTestPrintData → 2 ≤ content.count 58) := by
  refine ⟨fun h => h.argument, fun h => ⟨fun key hk => ?_, h, fun hhandler => ?_⟩⟩
  · rw [hkey] at hk
    cases hk
  · have hopen := (gate_spec c hc).1 hkey
    rw [hhandler] at hopen
    cases hopen

/-- A case that asks for a role throws when its refusal cannot name the role, or when the author
passes and the class has no such method. -/
theorem tolerated_gated {c : AdminCase} (hc : c ∈ adminCases) {key : Text}
    (hkey : c.key = some key) :
    Tolerated specific names content c ↔ refusable names (roleOf specific key) = true ∧
      (holdsRole names (roleOf specific key) = true → c.handler.implemented = true) := by
  obtain ⟨-, htest, hmethod⟩ := gate_spec c hc
  constructor
  · intro h
    refine ⟨h.gate key hkey, fun hholds => ?_⟩
    by_contra himplemented
    obtain ⟨hhandler, hsteam⟩ := hmethod (Bool.eq_false_iff.2 himplemented)
    rw [hkey, Option.some.injEq] at hsteam
    rw [hsteam, h.method hhandler] at hholds
    cases hholds
  · rintro ⟨hrefusable, himplemented⟩
    refine ⟨fun key' hk => ?_, fun hhandler => ?_, fun hhandler => ?_⟩
    · rw [hkey] at hk
      cases hk
      exact hrefusable
    · rw [htest hhandler] at hkey
      cases hkey
    · have hmissing : c.handler.implemented = false := by rw [hhandler]; rfl
      have hsteam := (hmethod hmissing).2
      rw [hkey, Option.some.injEq] at hsteam
      rw [hmissing, hsteam] at himplemented
      exact Bool.eq_false_iff.2 fun hholds => Bool.false_ne_true (himplemented hholds)

/-- The handler of a case returns when the class has it and it can read its argument. -/
theorem run_case_iff (env : Env) {c : AdminCase} (hcase : adminCase content = some c)
    (hbnode : this.bnode ≠ none) (hthrows : ∀ e, throws e = false) (calls : List Effect) :
    (c.handler.run env this throws (replaceFirst content c.cut []) calls).1 = .ok () ↔
      c.handler.implemented = true ∧
        (c.handler = .steamTestPrintData → 2 ≤ content.count 58) := by
  rw [c.handler.run_ok_iff env hbnode hthrows]
  by_cases hhandler : c.handler = .steamTestPrintData
  · have hcount := count_argument hcase hhandler
    rw [hhandler, AdminHandler.returns, hcount, decide_eq_true_iff]
    simp [AdminHandler.implemented]
  · have hreturns : c.handler.returns (replaceFirst content c.cut []) = c.handler.implemented := by
      generalize c.handler = h at hhandler
      cases h <;> first | rfl | exact absurd rfl hhandler
    rw [hreturns]
    simp [hhandler]

/-- A case behind the gate returns when the gate does and, if the author passes, the class has the
handler. -/
theorem gated_returns_iff (env : Env) {c : AdminCase} (hcase : adminCase content = some c)
    {key : Text} (hkey : c.key = some key) (hbnode : this.bnode ≠ none)
    (hthrows : ∀ e, throws e = false) (hmember : message.member = some names)
    (hpermissions : HasPermissions specific) :
    ((do Prog.when (← hasCorrectRole specific message key)
          (c.handler.run env this throws (replaceFirst content c.cut [])) : Emit Unit) []).1 =
        .ok () ↔
      refusable names (roleOf specific key) = true ∧
        (holdsRole names (roleOf specific key) = true → c.handler.implemented = true) := by
  have htest : c.handler ≠ .steamTestPrintData := by
    intro hhandler
    rw [(gate_spec c (List.mem_of_find?_eq_some hcase)).2.1 hhandler] at hkey
    cases hkey
  have hgate := hasCorrectRole_apply hpermissions hmember key []
  rw [Prog.bind_ok_iff]
  cases hrefusable : refusable names (roleOf specific key) with
  | false =>
    rw [hrefusable, if_neg Bool.false_ne_true] at hgate
    obtain ⟨e, he⟩ := hgate
    simp [he]
  | true =>
    rw [hrefusable, if_pos rfl] at hgate
    rw [hgate]
    cases holdsRole names (roleOf specific key) with
    | false => simp
    | true => simp [run_case_iff env hcase hbnode hthrows, htest]

/-- **A command returns**, when the libraries do not throw, exactly if nothing in its case
throws. -/
theorem checkAdminCommand_returns_iff (env : Env)
    (hchannel : some message.channel = this.commandChannel) (hbnode : this.bnode ≠ none)
    (hthrows : ∀ e, throws e = false) (hmember : message.member = some names)
    (hpermissions : HasPermissions specific) :
    (checkAdminCommand env this specific throws message []).1 = .ok () ↔
      ∀ c, adminCase message.content = some c → Tolerated specific names message.content c := by
  unfold checkAdminCommand
  rw [if_pos hchannel]
  cases hcase : adminCase message.content with
  | none => exact iff_of_true rfl fun c hc => by cases hc
  | some c =>
    have hc : c ∈ adminCases := List.mem_of_find?_eq_some hcase
    simp only [Option.some.injEq, forall_eq']
    cases hkey : c.key with
    | none =>
      have hallowed : c.allowed specific message [] = (.ok true, []) := by
        rw [AdminCase.allowed, hkey]
        rfl
      rw [Prog.bind_ok hallowed, Prog.when_true, run_case_iff env hcase hbnode hthrows,
        tolerated_open hc hkey, and_iff_right ((gate_spec c hc).1 hkey)]
    | some key =>
      have hallowed : c.allowed specific message = hasCorrectRole specific message key := by
        rw [AdminCase.allowed, hkey]
      rw [hallowed, tolerated_gated hc hkey]
      exact gated_returns_iff env hcase hkey hbnode hthrows hmember hpermissions

end Command

/-! ## Commands of one author -/

theorem oneRole_hasPermissions (role : Text) : HasPermissions (oneRole role) :=
  ⟨_, _, rfl, rfl, rfl⟩

theorem probeRcon_bnode : probeRcon.bnode ≠ none := Option.some_ne_none 0

theorem checkAdminCommand_returns_kick :
    (checkAdminCommand default probeRcon (oneRole (lit "mod")) (fun _ => false)
      (probeMessage (lit "!rcon kick 5 afk")) []).1 = .ok () := by
  refine (checkAdminCommand_returns_iff default rfl probeRcon_bnode (fun _ => rfl) rfl
    (oneRole_hasPermissions _)).2 fun c hcase => ?_
  have hc : (adminCase (lit "!rcon kick 5 afk")).map AdminCase.handler = some .kickPlayer ∧
      (adminCase (lit "!rcon kick 5 afk")).map AdminCase.key = some (some (lit "kick")) := by
    decide +kernel
  have hcase' : adminCase (lit "!rcon kick 5 afk") = some c := hcase
  rw [hcase', Option.map_some, Option.map_some, Option.some.injEq, Option.some.injEq] at hc
  refine (tolerated_gated (List.mem_of_find?_eq_some hcase) hc.2).2 ⟨by decide +kernel, fun _ => ?_⟩
  rw [hc.1]
  rfl

/-- An address without ports throws, and so does the command whose handler the class lacks. -/
theorem throwing_commands :
    let run (content : Text) := (checkAdminCommand default probeRcon (oneRole (lit "mod"))
      (fun _ => false) (probeMessage content) []).1
    probeRcon.bnode ≠ none ∧ HasPermissions (oneRole (lit "mod")) ∧
    (∀ content, some (probeMessage content).channel = probeRcon.commandChannel ∧
      (probeMessage content).member = some [lit "mod"]) ∧
    (∃ e, run (lit "!rcon teststeam 127.0.0.1") = .error e) ∧
    (∃ e, run (lit "!rcon steam") = .error e) :=
  ⟨probeRcon_bnode, oneRole_hasPermissions _, fun _ => ⟨rfl, rfl⟩, ⟨.typeError, by decide +kernel⟩,
    ⟨.typeError, by decide +kernel⟩⟩

end ZBot
