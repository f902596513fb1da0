import Mathlib.Data.List.Nodup
import ZBot.Js.Table
import ZBot.Verify.Gate

/-!
# The command language

A command is meant to be read by its beginning: the longest pattern the message begins with says
which handler is called, and the rest of the message is its argument (`Parses`). The `switch` of
`checkAdminCommand` searches for the patterns anywhere in the message. Its cases are ordered so that
this makes no difference for a message that holds a pattern only at its beginning, but a pattern in
an argument is found too: `!rcon kick 5 !rcon players` lists the players (`not_parsed_kick`).

The two readings agree exactly when no case that stands ahead of the right one occurs in the message
(`checkAdminCommand_parses_iff`), `!rcon steam` apart, whose handler the class does not have.
-/

namespace ZBot

open Js

/-! ## The call a message makes -/

/-- A call of a handler, with its argument where it takes one. -/
structure AdminCall where
  handler : AdminHandler
  argument : Option Text
  deriving DecidableEq

def AdminCall.run (env : Env) (this : Rcon) (throws : Effect → Bool) (call : AdminCall) :
    Emit Unit :=
  call.handler.run env this throws (call.argument.getD [])

/-- The call of a case, when what stands behind the deleted pattern is `argument`. -/
def AdminCase.call (c : AdminCase) (argument : Text) : AdminCall :=
  ⟨c.handler, if c.cut = [] then none else some argument⟩

/-- The call that the `switch` makes. -/
def adminCall (content : Text) : Option AdminCall :=
  (adminCase content).map fun c => c.call (replaceFirst content c.cut [])

/-- The class has the method that is called. -/
def AdminHandler.implemented : AdminHandler → Bool
  | .steamtPrintData => false
  | _ => true

/-- The author holds the role of every command. -/
def FullyAuthorised (specific : Value) (message : Message) : Prop :=
  ∀ c ∈ adminCases, ∀ key, c.key = some key → ∃ role names,
    permission specific key = .ok (.str role) ∧ role ≠ [] ∧ message.member = some names ∧
      role ∈ names

/-- A handler without an argument does not read it. -/
theorem run_call {c : AdminCase} (hc : c ∈ adminCases) (env : Env) (this : Rcon)
    (throws : Effect → Bool) (argument : Text) :
    (c.call argument).run env this throws = c.handler.run env this throws argument := by
  have htable : ∀ c ∈ adminCases, c.cut = [] → c.handler ∉ [.steamTestPrintData,
      .sayGlobalMessage, .sayPlayerMessage, .removeBan, .ban, .addBan, .setMaxPing, .kickPlayer,
      .serverCommand] := by decide +kernel
  by_cases hcut : c.cut = []
  · have hnone := htable c hc hcut
    rw [AdminCall.run, AdminCase.call, if_pos hcut]
    generalize c.handler = h at hnone
    cases h <;> first | rfl | exact absurd (by simp) hnone
  · rw [AdminCall.run, AdminCase.call, if_neg hcut]
    rfl

theorem allowed_of_fullyAuthorised {specific : Value} {message : Message}
    (h : FullyAuthorised specific message) {c : AdminCase} (hc : c ∈ adminCases)
    (calls : List Effect) : c.allowed specific message calls = (.ok true, calls) := by
  unfold AdminCase.allowed
  cases hkey : c.key with
  | none => rfl
  | some key =>
    obtain ⟨role, names, hpermission, hrole, hmember, hmem⟩ := h c hc key hkey
    have htruthy : (Value.str role).truthy = true := by simpa [Value.truthy] using hrole
    have hexists : roleExists message (.str role) = .ok true := by
      simp [roleExists, hmember, hmem]
    change hasCorrectRole specific message key calls = _
    rw [hasCorrectRole, Prog.lift_ok_bind hpermission, if_pos htruthy, Prog.lift_ok_bind hexists]
    rfl

/-- What a message of such an author does is its call. -/
theorem checkAdminCommand_authorised (env : Env) {this : Rcon} {specific : Value}
    (throws : Effect → Bool) {message : Message}
    (hchannel : some message.channel = this.commandChannel)
    (hauthor : FullyAuthorised specific message) :
    checkAdminCommand env this specific throws message =
      match adminCall message.content with
      | none => pure ()
      | some call => call.run env this throws := by
  unfold checkAdminCommand adminCall
  rw [if_pos hchannel]
  cases hcase : adminCase message.content with
  | none => rfl
  | some c =>
    have hc : c ∈ adminCases := List.mem_of_find?_eq_some hcase
    funext calls
    change (c.allowed specific message >>= _) calls = (c.call _).run env this throws calls
    rw [Prog.bind_ok (allowed_of_fullyAuthorised hauthor hc calls), run_call hc]
    rfl

/-! ## Reading by prefix -/

/-- The message is read by its beginning. -/
structure Parses (content : Text) : Prop where
  command : ∀ c ∈ adminCases, c.pattern <+: content →
    (∀ c' ∈ adminCases, c'.pattern <+: content → c'.pattern.length ≤ c.pattern.length) →
    c.handler.implemented = true ∧
      adminCall content = some (c.call (content.drop c.cut.length))
  other : ¬lit "!rcon" <+: content → adminCall content = none

/-- No pattern begins a later one. -/
theorem adminCases_ordered :
    adminCases.Pairwise fun c c' => ¬c.pattern <+: c'.pattern := by decide +kernel

theorem handlers_nodup : (adminCases.map AdminCase.handler).Nodup := by decide +kernel

/-- The text that is deleted begins the pattern, and every pattern begins with `!rcon`. -/
theorem pattern_spec : ∀ c ∈ adminCases, c.cut <+: c.pattern ∧ lit "!rcon" <+: c.pattern := by
  decide +kernel

theorem steam_iff : ∀ c ∈ adminCases,
    c.handler.implemented = false ↔ lit "!rcon steam" <+: c.pattern := by decide +kernel

/-- The case with the longest pattern that the message begins with. -/
def prefixCase (content : Text) : Option AdminCase :=
  adminCases.find? fun c => startsWith content c.pattern

theorem prefixCase_none {content : Text} (h : prefixCase content = none) :
    ¬lit "!rcon" <+: content := by
  have hlast : ⟨lit "!rcon", none, .listCommands, []⟩ ∈ adminCases := by simp [adminCases]
  have hnone := List.find?_eq_none.1 h _ hlast
  rwa [startsWith_iff] at hnone

theorem prefixCase_mem {content : Text} {c : AdminCase} (h : prefixCase content = some c) :
    c ∈ adminCases ∧ c.pattern <+: content := by
  obtain ⟨hc, hstart, -⟩ := (find_startsWith_iff adminCases_ordered).1 h
  exact ⟨hc, hstart⟩

/-- The message calls a method that is missing when it begins with `!rcon steam`. -/
theorem prefixCase_implemented {content : Text} {c : AdminCase} (h : prefixCase content = some c) :
    c.handler.implemented = true ↔ startsWith content (lit "!rcon steam") = false := by
  obtain ⟨hc, hprefix⟩ := prefixCase_mem h
  rw [← Bool.not_eq_false, steam_iff c hc, ← Bool.not_eq_true, startsWith_iff, not_iff_not]
  refine ⟨fun hs => hs.trans hprefix, fun hs => ?_⟩
  -- the case of `!rcon steam` is not longer than the one that was found
  obtain ⟨-, -, hlongest⟩ := (find_startsWith_iff adminCases_ordered).1 h
  have hmem : ⟨lit "!rcon steam", some (lit "steam"), .steamtPrintData, []⟩ ∈ adminCases := by
    simp [adminCases]
  have hle := hlongest _ hmem hs
  exact List.prefix_of_prefix_length_le hs hprefix hle

theorem argument_of_prefix {content : Text} {c : AdminCase} (h : prefixCase content = some c) :
    replaceFirst content c.cut [] = content.drop c.cut.length := by
  obtain ⟨hc, hprefix⟩ := prefixCase_mem h
  obtain ⟨rest, rfl⟩ := (pattern_spec c hc).1.trans hprefix
  rw [replaceFirst_append, List.drop_left, List.nil_append]

/-- The two readings of a message agree when the `switch` takes the case with the longest pattern
that the message begins with, and this is so when no pattern of a case ahead of it occurs. -/
theorem parses_iff (content : Text) :
    Parses content ↔ startsWith content (lit "!rcon steam") = false ∧
      ∀ c ∈ adminCases.takeWhile fun c => !startsWith content c.pattern,
        includes content c.pattern = false := by
  have hsame : adminCase content = prefixCase content ↔
      ∀ c ∈ adminCases.takeWhile fun c => !startsWith content c.pattern,
        includes content c.pattern = false :=
    find_eq_find_iff (fun c hc => includes_iff.2 (startsWith_iff.1 hc).isInfix) adminCases
  rw [← hsame]
  constructor
  · rintro ⟨hcommand, hother⟩
    cases hprefix : prefixCase content with
    | none =>
      have hrcon := prefixCase_none hprefix
      refine ⟨?_, Option.map_eq_none_iff.1 (hother hrcon)⟩
      rw [← Bool.not_eq_true, startsWith_iff]
      exact fun hs => hrcon ((by decide +kernel : lit "!rcon" <+: lit "!rcon steam").trans hs)
    | some c =>
      obtain ⟨hc, hstart, hlongest⟩ := (find_startsWith_iff adminCases_ordered).1 hprefix
      obtain ⟨himplemented, hcall⟩ := hcommand c hc hstart hlongest
      obtain ⟨c', hcase, hcall⟩ := Option.map_eq_some_iff.1 hcall
      have heq : c' = c := List.inj_on_of_nodup_map handlers_nodup
        (List.mem_of_find?_eq_some hcase) hc (congrArg AdminCall.handler hcall)
      exact ⟨(prefixCase_implemented hprefix).1 himplemented, heq ▸ hcase⟩
  · rintro ⟨hsteam, hcase⟩
    constructor
    · intro c hc hstart hlongest
      have hprefix : prefixCase content = some c :=
        (find_startsWith_iff adminCases_ordered).2 ⟨hc, hstart, hlongest⟩
      refine ⟨(prefixCase_implemented hprefix).2 hsteam, ?_⟩
      rw [adminCall, hcase, hprefix, Option.map_some, argument_of_prefix hprefix]
    · intro hrcon
      rw [adminCall, hcase, Option.map_eq_none_iff]
      refine List.find?_eq_none.2 fun c hc => ?_
      rw [startsWith_iff]
      exact fun hs => hrcon ((pattern_spec c hc).2.trans hs)

/-- **When a command is read by its beginning.** A message of a fully authorised author is its call,
and the call is the right one when the message does not begin with `!rcon steam` and holds no
pattern of a case that stands ahead of the first one it begins with. -/
theorem checkAdminCommand_parses_iff (env : Env) {this : Rcon} {specific : Value}
    (throws : Effect → Bool) {message : Message}
    (hchannel : some message.channel = this.commandChannel)
    (hauthor : FullyAuthorised specific message) :
    (checkAdminCommand env this specific throws message =
      match adminCall message.content with
      | none => pure ()
      | some call => call.run env this throws) ∧
    (Parses message.content ↔ startsWith message.content (lit "!rcon steam") = false ∧
      ∀ c ∈ adminCases.takeWhile fun c => !startsWith message.content c.pattern,
        includes message.content c.pattern = false) :=
  ⟨checkAdminCommand_authorised env throws hchannel hauthor, parses_iff message.content⟩

/-! ## A command in an argument -/

/-- A permission map with one role for every command. -/
def oneRole (role : Text) : Value :=
  .obj [(lit "bercon", .obj [(lit "permissions",
    .obj ((adminCases.filterMap AdminCase.key).map fun key => (key, .str role)))])]

theorem lookup_const {keys : List Text} {key : Text} (hkey : key ∈ keys) (v : Value) :
    Value.lookup (keys.map fun key => (key, v)) key = some v := by
  induction keys with
  | nil => cases hkey
  | cons k keys ih =>
    by_cases heq : k = key
    · simp [Value.lookup, heq]
    · have hrest := ih ((List.mem_cons.1 hkey).resolve_left (Ne.symm heq))
      simpa [Value.lookup, heq] using hrest

theorem probe_fullyAuthorised (content : Text) :
    FullyAuthorised (oneRole (lit "mod")) (probeMessage content) := by
  intro c hc key hkey
  have hmem : key ∈ adminCases.filterMap AdminCase.key := List.mem_filterMap.2 ⟨c, hc, hkey⟩
  refine ⟨lit "mod", [lit "mod"], ?_, by decide, rfl, List.mem_singleton_self _⟩
  change Except.ok ((Value.lookup ((adminCases.filterMap AdminCase.key).map fun key =>
    (key, Value.str (lit "mod"))) key).getD .undefined) = _
  rw [lookup_const hmem, Option.getD_some]

/-- A reason that holds no pattern is no obstacle. -/
theorem checkAdminCommand_parses_kick :
    let message := probeMessage (lit "!rcon kick 5 afk")
    (some message.channel = probeRcon.commandChannel ∧
      FullyAuthorised (oneRole (lit "mod")) message) ∧
    Parses message.content ∧
    (checkAdminCommand default probeRcon (oneRole (lit "mod")) (fun _ => false) message []).2 =
      [.command 0 (lit "kick 5 afk") .text] := by
  intro message
  have hauthor := probe_fullyAuthorised (lit "!rcon kick 5 afk")
  have hparses := (@checkAdminCommand_parses_iff default probeRcon _ (fun _ => false) message rfl
    hauthor).2
  exact ⟨⟨rfl, hauthor⟩, hparses.2 (by decide +kernel), by decide +kernel⟩

/-- A kick whose reason mentions another command lists the players instead. -/
theorem not_parsed_kick :
    let message := probeMessage (lit "!rcon kick 5 !rcon players")
    FullyAuthorised (oneRole (lit "mod")) message ∧
    (checkAdminCommand default probeRcon (oneRole (lit "mod")) (fun _ => false) message []).2 =
      [.command 0 (lit "players") .long] ∧
    ¬Parses message.content := by
  intro message
  refine ⟨probe_fullyAuthorised _, by decide +kernel, fun h => ?_⟩
  have hkick : ⟨lit "!rcon kick ", some (lit "kick"), .kickPlayer, lit "!rcon kick "⟩ ∈
      adminCases := by simp [adminCases]
  have hcall := (h.command _ hkick (by decide +kernel) (by decide +kernel)).2
  have hplayers : adminCall message.content = some ⟨.printAllPlayers, none⟩ := by decide +kernel
  rw [hplayers] at hcall
  exact absurd (congrArg AdminCall.handler (Option.some.inj hcall)) (by decide)

end ZBot
