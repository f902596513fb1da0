import Mathlib.Data.List.Forall2
import ZBot.Js.Split
import ZBot.Verify.Gate
import ZBot.Verify.Printers

/-!
# The answers of the game server

Sixteen handlers post the answer of the game server in the command channel. Each sends one command,
and the callback it gives with the command decides how the answer is posted
(`AdminHandler.run_command`): three use the printer that bundles lines, the others hand the answer
to `channel.send` as it is.

A message of more than 2000 code units is refused by Discord. So an answer is posted in messages
that Discord takes when it is bundled or short (`answer_postable_iff`), but a long list of missions
is not (`long_missions`).
-/

namespace ZBot

open Js

/-! ## Which answers are posted how -/

section Callbacks

namespace AdminHandler

/-- The handlers that post the answer. -/
def answering : List AdminHandler :=
  [.printAllPlayers, .printAllAdmins, .printAllBans, .getMissions, .getVersion, .getUpdate,
    .loadBans, .writeBans, .removeBan, .ban, .addBan, .setMaxPing, .kickPlayer, .disconnect, .exit,
    .serverCommand]

/-- The handlers that use the printer. -/
def bundles : AdminHandler → Bool
  | .printAllPlayers | .printAllAdmins | .printAllBans => true
  | _ => false

/-- The callback of a handler that posts the answer. -/
def callback (h : AdminHandler) : Callback := if h.bundles then .long else .text

end AdminHandler

variable {env : Env} {this : Rcon} {throws : Effect → Bool} {n : Nat}

theorem sendCommand_calls (hn : this.bnode = some n) (s : Text) (callback : Callback)
    (calls : List Effect) :
    (sendCommand this throws s callback calls).2 = calls ++ [.command n s callback] := by
  rw [sendCommand, hn]
  simp only [call, emit, Prog.modify_bind]
  cases throws (.command n s callback) <;> rfl

/-- The commands among the calls. -/
def commands (calls : List Effect) : List (Nat × Text × Callback) :=
  calls.filterMap fun
    | .command n s callback => some (n, s, callback)
    | _ => none

theorem sendTextMessage_silent (channel : Option Channel) (text : Text) :
    ∃ calls, sendTextMessage channel text [] = (.ok (), calls) ∧ commands calls = [] := by
  cases channel with
  | none => exact ⟨[], rfl, rfl⟩
  | some channel =>
    by_cases htype : channel.type = .text
    · exact ⟨_, sendTextMessage_text htype text [], rfl⟩
    · exact ⟨[], by rw [sendTextMessage, decide_eq_false htype]; rfl, rfl⟩

/-- A handler sends one command, and asks for the answer with its callback. -/
theorem AdminHandler.run_command (env : Env) (throws : Effect → Bool) {h : AdminHandler}
    (hh : h ∈ AdminHandler.answering) (hn : this.bnode = some n) (argument : Text) :
    ∃ s, commands (h.run env this throws argument []).2 = [(n, s, h.callback)] := by
  have hplain : ∀ s callback, commands (sendCommand this throws s callback []).2 =
      [(n, s, callback)] := by
    intro s callback
    rw [sendCommand_calls hn]
    rfl
  -- two handlers announce the command first
  have hlater : ∀ text s, commands ((do
      sendTextMessage this.commandChannel text
      sendCommand this throws s .text : Emit Unit) []).2 = [(n, s, .text)] := by
    intro text s
    obtain ⟨calls, hsend, hnone⟩ := sendTextMessage_silent this.commandChannel text
    rw [Prog.bind_ok hsend, sendCommand_calls hn, commands, List.filterMap_append, ← commands,
      hnone]
    rfl
  cases h
  case disconnect => exact ⟨_, hlater _ _⟩
  case exit => exact ⟨_, hlater _ _⟩
  all_goals first | exact absurd hh (by decide) | exact ⟨_, hplain _ _⟩

end Callbacks

/-! ## Messages that hold all lines -/

section Messages

/-- The messages hold the lines in order: each message holds a group of consecutive lines. -/
def Holds (messages lines : List Text) : Prop :=
  ∃ groups : List (List Text), groups.flatten = lines ∧ List.Forall₂ InOrder groups messages

/-- Discord takes the messages, and they hold the lines of the text. -/
def Posted (text : Text) (messages : List Text) : Prop :=
  (∀ m ∈ messages, m.length ≤ 2000) ∧ Holds messages (splitLines text)

theorem inOrder_payload (lines : List Text) : InOrder lines (payload lines) := by
  induction lines with
  | nil => trivial
  | cons line lines ih =>
    refine ⟨[], nl ++ payload lines, ?_, ih.append_left nl⟩
    rw [payload, List.flatMap_cons, List.append_assoc]
    rfl

theorem holds_payloads (limit : Nat) (lines : List Text) : Holds (payloads limit lines) lines := by
  refine ⟨pack lineLength limit lines [], pack_flatten, ?_⟩
  rw [payloads, List.forall₂_map_right_iff]
  exact List.forall₂_same.2 fun group _ => inOrder_payload group

theorem holds_self (text : Text) : Holds [text] (splitLines text) :=
  ⟨[splitLines text], by simp, .cons (inOrder_splitLines text) .nil⟩

theorem posted_self_iff (text : Text) : Posted text [text] ↔ text.length ≤ 2000 := by
  simp [Posted, holds_self]

theorem not_posted_nil (text : Text) : ¬Posted text [] := by
  rintro ⟨-, groups, hgroups, hheld⟩
  cases hheld
  exact splitLines_ne_nil text hgroups.symm

end Messages

/-! ## Posting the answer -/

section Posting

variable {env : Env} {this : Rcon} {throws : Effect → Bool} {h : AdminHandler} {text : Text}

/-- The answer to the command of a handler is posted in messages that Discord takes and that hold
all of its lines. -/
def Postable (env : Env) (this : Rcon) (throws : Effect → Bool) (h : AdminHandler)
    (argument text : Text) : Prop :=
  ∀ command ∈ commands (h.run env this throws argument []).2,
    Posted text (sent (replyAction env this command.2.2 text []).2)

theorem printLongMessage_dropped {channel : Option Channel}
    (hsend : ∀ text, sendTextMessage channel text = pure ()) (text : Text) :
    printLongMessage text channel [] = (.ok (), []) := by
  have hall : ∀ texts, sendAll channel texts [] = (.ok (), []) := by
    intro texts
    induction texts with
    | nil => rfl
    | cons text texts ih =>
      rw [sendAll, Prog.forEach, hsend]
      exact ih
  unfold printLongMessage
  split
  · rw [hsend]
    rfl
  · exact hall _

/-- Without a text channel nothing is sent. -/
theorem replyAction_dropped (callback : Callback)
    (hnone : ∀ c, this.commandChannel = some c → c.type ≠ .text) :
    sent (replyAction env this callback text []).2 = [] := by
  have hsend : ∀ text, sendTextMessage this.commandChannel text = pure () := by
    intro text
    cases hchannel : this.commandChannel with
    | none => rfl
    | some c =>
      rw [sendTextMessage, decide_eq_false (hnone c hchannel)]
      rfl
  cases callback with
  | none => rfl
  | text =>
    rw [replyAction, hsend]
    cases (!text.isEmpty) <;> rfl
  | long => rw [replyAction, printLongMessage_dropped hsend]; rfl
  | playerList => rw [replyAction, processPlayerList, printLongMessage_dropped hsend]; rfl

theorem replyAction_text {c : Channel} (hchannel : this.commandChannel = some c)
    (hc : c.type = .text) (hne : text ≠ []) :
    sent (replyAction env this .text text []).2 = [text] := by
  have hempty : (!text.isEmpty) = true := by simpa using hne
  rw [replyAction, hempty, Prog.when_true, hchannel, sendTextMessage_text hc]
  rfl

theorem replyAction_long {c : Channel} (hchannel : this.commandChannel = some c)
    (hc : c.type = .text) :
    sent (replyAction env this .long text []).2 =
      if text.length ≤ 2000 then [text] else payloads 2000 (splitLines text) := by
  rw [replyAction, hchannel]
  split
  · rename_i hshort
    rw [printLongMessage, if_pos hshort, sendTextMessage_text hc]
    rfl
  · rename_i hlong
    rw [printLongMessage_long (Nat.lt_of_not_le hlong)]
    exact (sendAll_sent hc _).2

/-- **An answer can be posted**, if its lines fit into messages, when there is a text channel and
the handler bundles the lines or the answer is short. -/
theorem answer_postable_iff (hh : h ∈ AdminHandler.answering) (env : Env)
    (throws : Effect → Bool) (argument : Text) (hbnode : this.bnode ≠ none) (hne : text ≠ [])
    (hlines : ∀ line ∈ splitLines text, line.length ≤ 1999) :
    Postable env this throws h argument text ↔
      (∃ c, this.commandChannel = some c ∧ c.type = .text) ∧
        (h.bundles = true ∨ text.length ≤ 2000) := by
  obtain ⟨n, hn⟩ := Option.ne_none_iff_exists'.1 hbnode
  obtain ⟨s, hcommand⟩ := AdminHandler.run_command env throws hh hn argument
  rw [Postable, hcommand, List.forall_mem_singleton]
  by_cases hchannel : ∃ c, this.commandChannel = some c ∧ c.type = .text
  swap
  · rw [replyAction_dropped _ fun c hc htype => hchannel ⟨c, hc, htype⟩]
    exact iff_of_false (not_posted_nil text) fun hboth => hchannel hboth.1
  rw [and_iff_right hchannel]
  obtain ⟨c, hchannel, hc⟩ := hchannel
  cases hbundles : h.bundles with
  | false =>
    have hcallback : h.callback = .text := by rw [AdminHandler.callback, hbundles]; rfl
    rw [hcallback, replyAction_text hchannel hc hne, posted_self_iff]
    simp
  | true =>
    have hcallback : h.callback = .long := by rw [AdminHandler.callback, hbundles]; rfl
    rw [hcallback, replyAction_long hchannel hc]
    refine ⟨fun _ => .inl rfl, fun _ => ?_⟩
    split
    · rename_i hshort
      exact (posted_self_iff text).2 hshort
    · have hfit : ∀ line ∈ splitLines text, lineLength line ≤ 2000 := fun line hline =>
        Nat.succ_le_succ (hlines line hline)
      exact ⟨fun m hm => (payloads_fit (splitLines_ne_nil text) hfit m hm).2, holds_payloads _ _⟩

end Posting

theorem answer_postable_bans :
    Postable default probeRcon (fun _ => false) .printAllBans [] twoLines :=
  (answer_postable_iff (by decide) default _ [] (by decide +kernel)
    (List.ne_nil_of_mem twoLines_newline)
    fun line hline => (twoLines_fit line hline).trans (by decide)).2
    ⟨⟨probeChannel, rfl, rfl⟩, .inl rfl⟩

/-- A list of missions with 3001 code units is handed to `channel.send` in one piece. -/
theorem long_missions : probeRcon.bnode ≠ none ∧ twoLines ≠ [] ∧
    (∀ line ∈ splitLines twoLines, line.length ≤ 1999) ∧
    ¬Postable default probeRcon (fun _ => false) .getMissions [] twoLines := by
  refine ⟨by decide +kernel, List.ne_nil_of_mem twoLines_newline,
    fun line hline => (twoLines_fit line hline).trans (by decide), fun hposted => ?_⟩
  have hmessages := hposted (0, lit "missions", .text) (by decide +kernel)
  rw [replyAction_text (c := probeChannel) rfl rfl (List.ne_nil_of_mem twoLines_newline),
    posted_self_iff, twoLines_length] at hmessages
  revert hmessages
  decide

end ZBot
