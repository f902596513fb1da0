import ZBot.Verify.Feedback
import ZBot.Verify.Gate
import ZBot.Verify.Origin

/-!
# Why the bot acts

What the methods of an instance add to its calls is known from `ZBot.Verify.Methods`: messages to
its channels, lines of the log, the marks of the connection, and commands with a reason of their
own. For a property that all but the commands have (`Ordinary`) it is enough then to look at the
commands: the replies to a line of the game chat, the text of a cron job, the two commands of a
reload, the command of a Discord message.

With `step_origin` this gives, for every step of every run, a reason for each command that is sent
to a game server (`run_command_origin`), and that every line of the log can be printed
(`Origin.shown`).
-/

namespace ZBot

open Js RconM

/-! ## The calls of a method -/

/-- Calls other than commands, with log lines that can be printed. -/
structure Ordinary (P : Effect → Prop) : Prop where
  send : ∀ c text, P (.send c text)
  log : ∀ text, Shown text → P (.log text)
  query : ∀ host port portQuery, P (.query host port portQuery)
  mark : ∀ e : Effect, e.isMark = true → P e
  socket : ∀ n, P (.closeSocket n)

namespace Ordinary

variable {P : Effect → Prop} (hP : Ordinary P) {env : Env} {o : Oracle} {this : Rcon}

include hP

/-- What a callback of an instance adds. -/
theorem callback {e : RconEvent}
    (hcommand : ∀ n text, Spontaneous this e text → P (.command n text .none)) :
    ∀ effect ∈ (rconStep env o e ⟨this, []⟩).2.calls, P effect := by
  have hpermits : Permits (fun _ => ()) P ⟨this, []⟩ e := {
    send := fun _ _ c text _ => hP.send c text
    log := hP.log
    newNode := fun n => hP.mark (.newNode n) rfl
    login := fun n => hP.mark (.login n) rfl
    reInit := fun cause => hP.mark (.reInit cause) rfl
    loggedIn := hP.mark .loggedIn rfl
    command := fun n text _ h => hcommand n text h }
  exact (rconStep_held (fun _ _ _ _ _ => rfl) (fun _ _ _ _ _ => rfl) hpermits).calls.forall

/-- A reload sends the two commands. -/
theorem close (hdisconnect : ∀ n, P (.command n (lit "disconnect") .text))
    (hexit : ∀ n, P (.command n (lit "exit") .text)) (n : Nat) :
    ∀ effect ∈ (ZBot.close env o n ⟨this, []⟩).2.calls, P effect := by
  have hvoices : Voices (fun _ => ()) P ⟨this, []⟩ := ⟨fun _ _ c text _ => hP.send c text, hP.log⟩
  exact (close_held (fun _ _ _ _ => rfl) (fun _ _ _ _ _ => rfl) hvoices (fun m _ => hdisconnect m)
    (fun m _ => hexit m) (hP.socket n) (hP.mark .stopped rfl)).calls.forall

theorem construct (specific : Value) :
    ∀ effect ∈ (ZBot.construct env o specific ⟨this, []⟩).2.calls, P effect :=
  (construct_held (E := fun _ => ()) (fun _ _ _ _ _ => rfl) (fun _ _ => rfl) (fun _ _ => rfl)
    hP.log (fun n => hP.mark (.newNode n) rfl) (fun n => hP.mark (.login n) rfl)
    specific).calls.forall

end Ordinary

/-! ## Reasons -/

/-- Why a command is sent to the game server of an instance. -/
inductive Reason (w : World) (s : Step) (r : RconRef) : Text → Prop
  /-- a message in the command channel, by an author who holds the role of a permission key -/
  | message {message : Message} {key : Text} (hs : s.event = .message message)
      (hbot : message.authorBot = false) (hr : r ∈ w.bercons)
      (hchannel : (w.rcons r).commandChannel = some message.channel)
      (hrole : HoldsRole (w.objs r.data).specific message key) (text : Text) : Reason w s r text
  /-- an action's reply to a line of the game chat, or a cron job -/
  | callback {e : RconEvent} {text : Text} (hs : s.event = .rcon r e)
      (h : Spontaneous (w.rcons r) e text) : Reason w s r text
  /-- a reload of the guild that lists the instance -/
  | disconnect (hs : s.closes w r) : Reason w s r (lit "disconnect")
  | exit (hs : s.closes w r) : Reason w s r (lit "exit")

theorem ordinary_sends (C : Text → Prop) : Ordinary (Sends C) where
  send c text := .send C c text
  log text _ n s callback h := by cases h
  query host port portQuery := .query C host port portQuery
  mark e he n s callback h := by
    subst h
    cases he
  socket m n s callback h := by cases h

/-- A case that sends a command asks for the role of its key. -/
theorem checkAdminCommand_reason {env : Env} {this : Rcon} {specific : Value}
    {throws : Effect → Bool} {message : Message} {n : Nat} {s : Text} {callback : Callback}
    (h : Effect.command n s callback ∈ (checkAdminCommand env this specific throws message []).2) :
    this.commandChannel = some message.channel ∧ ∃ key, HoldsRole specific message key := by
  have hchannel : some message.channel = this.commandChannel := by
    by_contra hne
    rw [checkAdminCommand, if_neg hne] at h
    cases h
  obtain ⟨c, hc, calls, -, hallowed, hword | ⟨rfl, -⟩⟩ := checkAdminCommand_command h
  · obtain ⟨key, hkey, -⟩ := commandKey_of_word hc hword
    exact ⟨hchannel.symm, key, AdminCase.holdsRole_of_allowed hkey hallowed⟩
  · exact ⟨hchannel.symm, _, AdminCase.holdsRole_of_allowed rfl hallowed⟩

theorem reason_of_origin {env : Env} {w : World} {s : Step} {source : Option RconRef} {n : Nat}
    {text : Text} {callback : Callback} (h : Origin env w s source (.command n text callback)) :
    ∃ r, source = some r ∧ Reason w s r text := by
  cases h with
  | cli hs hbot h => cases h
  | admin hs hbot hr h =>
    obtain ⟨hchannel, key, hrole⟩ := checkAdminCommand_reason h
    exact ⟨_, rfl, .message hs hbot hr hchannel hrole text⟩
  | callback hs h =>
    rename_i r e
    have hall := (ordinary_sends (Spontaneous (w.rcons r) e)).callback
      (fun n text hspont => .command _ hspont n _) _ h
    exact ⟨r, rfl, .callback hs (hall n text callback rfl)⟩
  | close hs hthis hn h =>
    rename_i r this m
    let C : Text → Prop := fun t => t = lit "disconnect" ∨ t = lit "exit"
    have hall := (ordinary_sends C).close (fun n => .command C (.inl rfl) n _)
      (fun n => .command C (.inr rfl) n _) m _ h
    rcases hall n text callback rfl with rfl | rfl
    · exact ⟨r, rfl, .disconnect hs⟩
    · exact ⟨r, rfl, .exit hs⟩
  | build hs h =>
    have hnone : False :=
      (ordinary_sends fun _ => False).construct _ _ h n text callback rfl
    exact hnone.elim

/-- Every command that the step sends has a reason. -/
def Reasoned (env : Env) (w : World) (s : Step) : Prop :=
  ∃ new, (step env s w).2.trace = w.trace ++ new ∧
    ∀ source n text callback, (source, Effect.command n text callback) ∈ new →
      ∃ r, source = some r ∧ Reason w s r text

/-- **Every command has a reason.** In every run, a command is sent to a game server only on a
message in the instance's command channel by an author who holds the role of a permission key, as an
action's reply to a line of the game chat that is no echo, as the text of a live cron job, or to
disconnect in a reload of the instance's guild. -/
theorem run_command_origin (env : Env) (steps : List Step) (w : World) :
    Along env (Reasoned env) steps w := by
  refine Along.of_forall (fun w s => ?_) steps w
  obtain ⟨new, htrace, hnew⟩ := step_origin env s w
  exact ⟨new, htrace, fun source n text callback hmem => reason_of_origin (hnew _ hmem)⟩

/-! ## Where a message is answered -/

/-- The effect shows something in a channel other than the given one. -/
def Effect.elsewhere (channel : Channel) : Effect → Prop
  | .send c _ => c ≠ channel
  | .reply c _ => c ≠ channel
  | _ => False

/-- **A message is answered where it was written.** Whatever the state, the listener of a message of
anybody but the owner of the bot, and the `checkAdminCommand` of the instances it calls, write in
the channel of the message only. What an answer of Redis or of a game server makes the bot write
later on is another step. -/
theorem message_answered_here (env : Env) (o : RconRef → Oracle) (w : World) {message : Message}
    (howner : message.authorId ≠ ownerId) :
    ∃ new, (step env ⟨.message message, o⟩ w).2.trace = w.trace ++ new ∧
      ∀ entry ∈ new, ¬entry.2.elsewhere message.channel := by
  obtain ⟨new, htrace, hnew⟩ := step_origin env ⟨.message message, o⟩ w
  refine ⟨new, htrace, fun entry hentry => ?_⟩
  obtain ⟨source, e⟩ := entry
  cases hnew _ hentry with
  | log h => exact fun h => h
  | cli hs hbot h =>
    cases hs
    cases h with
    | send text => exact fun h => h rfl
    | reply text => exact fun h => h rfl
    | request tags => exact fun h => h
    | broadcast h => exact absurd h howner
    | disconnect h => exact absurd h howner
  | report hs => cases hs
  | admin hs hbot hr h =>
    cases hs
    exact (checkAdminCommand_adds (P := fun e => ¬e.elsewhere message.channel)
      (fun _ _ h => h rfl) (fun _ _ _ h => h) (fun _ _ _ _ h => h) []).forall e h
  | callback hs => cases hs
  | close hs =>
    obtain ⟨g, result, hs, -⟩ := hs
    cases hs
  | build hs => exact absurd rfl (hs.1 message)

/-- Somebody asks who has made the bot. -/
theorem message_answered_here_maker :
    let env : Env := { sampleBot with cli := fun _ => some .maker }
    (reloadMessage sampleId).authorId ≠ ownerId ∧
      ∃ new, (step env (sampleStep (.message (reloadMessage sampleId))) World.start).2.trace =
          World.start.trace ++ new ∧
        ∀ entry ∈ new, ¬entry.2.elsewhere (reloadMessage sampleId).channel :=
  ⟨by decide, message_answered_here _ sampleOracle World.start (by decide)⟩

/-! ## What is logged -/

theorem ordinary_logs : Ordinary fun e => ∀ text, e = .log text → Shown text where
  send c text text' h := by cases h
  log text hshown text' h := by
    cases h
    exact hshown
  query host port portQuery text h := by cases h
  mark e he text h := by
    subst h
    cases he
  socket n text h := by cases h

/-- **Every line of the log can be printed**, whichever code logs it. -/
theorem Origin.shown {env : Env} {w : World} {s : Step} {source : Option RconRef} {text : Text}
    (h : Origin env w s source (.log text)) : Shown text := by
  have hP := ordinary_logs
  cases h with
  | log h => exact h
  | cli hs hbot h => cases h
  | admin hs hbot hr h =>
    exact (checkAdminCommand_adds (P := fun e => ∀ text, e = .log text → Shown text)
      (fun _ _ => hP.send _ _) hP.query (fun _ _ _ _ _ h => by cases h) []).forall _ h text rfl
  | callback hs h => exact hP.callback (fun _ _ _ _ h => by cases h) _ h text rfl
  | close hs hthis hn h =>
    exact hP.close (fun _ _ h => by cases h) (fun _ _ h => by cases h) _ _ h text rfl
  | build hs h => exact hP.construct _ _ h text rfl

/-- Only the command line interface searches for gifs. -/
theorem ordinary_requestless : Ordinary fun e => ∀ tags, e ≠ .request tags where
  send c text tags h := by cases h
  log text _ tags h := by cases h
  query host port portQuery tags h := by cases h
  mark e he tags h := by
    subst h
    cases he
  socket n tags h := by cases h

/-- **A gif search is asked for by a message** that the command line interface takes for a gif
command. -/
theorem Origin.search {env : Env} {w : World} {s : Step} {source : Option RconRef} {tags : Text}
    (h : Origin env w s source (.request tags)) :
    ∃ message, s.event = .message message ∧ message.authorBot = false ∧
      env.cli message.content = some .gif ∧
      tags = replaceFirst message.content (env.cliPrefix ++ lit " gif ") [] := by
  have hP := ordinary_requestless
  cases h with
  | cli hs hbot h =>
    cases h with
    | request hgif => exact ⟨_, hs, hbot, hgif, rfl⟩
  | admin hs hbot hr h =>
    exact absurd rfl ((checkAdminCommand_adds (P := fun e => ∀ tags, e ≠ .request tags)
      (fun _ _ => hP.send _ _) hP.query (fun _ _ _ _ _ h => by cases h) []).forall _ h tags)
  | callback hs h => exact absurd rfl (hP.callback (fun _ _ _ _ h => by cases h) _ h tags)
  | close hs hthis hn h =>
    exact absurd rfl (hP.close (fun _ _ h => by cases h) (fun _ _ h => by cases h) _ _ h tags)
  | build hs h => exact absurd rfl (hP.construct _ _ h tags)

end ZBot
