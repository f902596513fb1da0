import ZBot.Verify.Printers
import ZBot.Verify.Routing

/-!
# The code block around a chat message

The text of a player is posted between two fences. The frames of the eight categories end and begin
with a code unit that is no backtick, so the fences of the styled message are its own two and those
of the text between them (`styled_singleBlock_iff`). Everything else that is posted for a message is
a fixed text or comes from the configuration (`chatMessagesAction_posts`).

A text that holds a fence closes the block early (`chat_contained_iff`, `escaped_message`).
-/

namespace ZBot

open Js

/-! ## The frames -/

section Frames

/-- Three backticks. -/
def fence : Text := lit "```"

/-- The text is one code block: it begins and ends with a fence, and has no other one. -/
def SingleBlock (t : Text) : Prop := occurrences fence t = [0, t.length - 3]

def categories : List Category :=
  [sideCategory, groupCategory, directCategory, vehicleCategory, globalCategory, adminCategory,
    joinsCategory, defaultCategory]

theorem category_mem (message : Text) : category message ∈ categories := by
  unfold category
  repeat' split
  all_goals simp [categories]

/-- The opening ends with a code unit that is no backtick, the closing begins with one, and besides
these each has one fence. -/
def Category.framed (c : Category) : Bool :=
  match c.opening.getLast?, c.closing with
  | some q, q' :: z => !fence.contains q && !fence.contains q' && 3 ≤ z.length &&
    occurrences fence c.opening.dropLast == [0] && occurrences fence z == [z.length - 3]
  | _, _ => false

theorem categories_framed : ∀ c ∈ categories, c.framed = true := by
  simp only [categories, List.forall_mem_cons]
  decide +kernel

theorem category_framed (message : Text) : ∃ x q q' z, (category message).opening = x ++ [q] ∧
    (category message).closing = q' :: z ∧ q ∉ fence ∧ q' ∉ fence ∧ 3 ≤ z.length ∧
    occurrences fence x = [0] ∧ occurrences fence z = [z.length - 3] := by
  have h := categories_framed _ (category_mem message)
  unfold Category.framed at h
  split at h
  · rename_i q q' z hopening hclosing
    simp only [Bool.and_eq_true, Bool.not_eq_true', List.contains_eq_mem, decide_eq_false_iff_not,
      decide_eq_true_eq, beq_iff_eq] at h
    obtain ⟨⟨⟨⟨hq, hq'⟩, hlength⟩, hx⟩, hz⟩ := h
    exact ⟨_, q, q', z, (List.dropLast_append_getLast? q hopening).symm, hclosing, hq, hq', hlength,
      hx, hz⟩
  · cases h

/-- **The fences of the styled message** are those of its frame, and those of the text in it. -/
theorem styled_singleBlock_iff (now message : Text) :
    SingleBlock (styled now message) ↔
      includes now fence = false ∧ includes message fence = false := by
  obtain ⟨x, q, q', z, hopening, hclosing, hq, hq', hlength, hx, hz⟩ := category_framed message
  have hne : fence ≠ [] := by decide +kernel
  have hbody : occurrences fence (now ++ lit ": " ++ message) = [] ↔
      includes now fence = false ∧ includes message fence = false := by
    have hcolon : now ++ lit ": " ++ message = now ++ 58 :: ([] ++ 32 :: message) := by
      rw [List.append_assoc]
      rfl
    rw [hcolon, occurrences_append hne (by decide +kernel), occurrences_append hne
      (by decide +kernel), List.append_eq_nil_iff, List.map_eq_nil_iff, List.append_eq_nil_iff,
      List.map_eq_nil_iff]
    have hnil : includes [] fence = false := by decide +kernel
    simp only [occurrences_eq_nil_iff, hnil, true_and]
  generalize hb : now ++ lit ": " ++ message = body at hbody
  have hstyled : styled now message = x ++ q :: (body ++ q' :: z) := by
    rw [styled, hb, hopening, hclosing]
    simp
  rw [← hbody, SingleBlock, hstyled, occurrences_append hne hq, occurrences_append hne hq', hx, hz]
  -- the last fence is the one at the end
  have hend : z.length - 3 + (body.length + 1) + (x.length + 1) =
      (x ++ q :: (body ++ q' :: z)).length - 3 := by
    simp only [List.length_append, List.length_cons]
    omega
  simp only [List.map_append, List.map_cons, List.map_nil, hend, List.cons_append, List.nil_append,
    List.cons.injEq, true_and]
  simp

end Frames

/-! ## What is posted -/

section Posts

variable {this : Rcon} {throws : Effect → Bool} {now message : Text}

/-- The notice that a category has no channel. -/
def noChannel : Text :=
  lit ("The specific channel does not exist. Posting in default. " ++
    "Please check your channel config.")

/-- The answer of a configured action, with the mentions of its role. -/
def OwnReply (this : Rcon) (text : Text) : Prop :=
  ∃ action ∈ this.actions, ∃ discordReply role discordMessage,
    action.get (lit "discordReply") = .ok discordReply ∧ action.get (lit "role") = .ok role ∧
    addMentions discordReply (if role.truthy then roleMembers this.guild role else []) =
      .ok discordMessage ∧ text = contentText discordMessage

/-- The chat text is posted only in the styled message. -/
def Posts (this : Rcon) (now message : Text) (e : Effect) : Prop :=
  ∀ c text, e = .send c text → text = styled now message ∨ text = noChannel ∨ OwnReply this text

theorem styled_ne_noChannel (now message : Text) : styled now message ≠ noChannel := by
  have hopening : ∀ c ∈ categories, c.opening.head? = some 96 := by
    simp only [categories, List.forall_mem_cons]
    decide +kernel
  have hhead : (styled now message).head? = some 96 := by
    rw [styled, List.append_assoc, List.head?_append,
      hopening _ (category_mem message), Option.some_or]
  intro h
  rw [h] at hhead
  revert hhead
  decide +kernel

theorem sendTextMessage_posts {channel : Option Channel} {text : Text}
    (h : text = styled now message ∨ text = noChannel ∨ OwnReply this text) :
    Prog.Within (Adds (Posts this now message)) (sendTextMessage channel text) :=
  sendTextMessage_adds fun c _ c' text' he => by
    cases he
    exact h

theorem runAction_posts {action : Value} (haction : action ∈ this.actions) :
    Prog.Within (Adds (Posts this now message))
      (runAction this throws message (styled now message) action) := by
  have hP := Adds.frame (Posts this now message)
  refine .lift_bind hP fun command _ => .when hP fun _ => .lift_bind hP fun _ _ => .when hP fun _ =>
    .lift_bind hP fun reply _ => .bind hP (.when hP fun _ => ?_) fun _ =>
    .lift_bind hP fun discordReply hreply => .when hP fun _ => ?_
  · exact cmdSayGlobalMessage_adds fun _ _ _ _ _ _ he => by cases he
  · refine .bind hP (sendTextMessage_posts (.inl rfl)) fun _ => .lift_bind hP fun role hrole =>
      .lift_bind hP fun discordMessage hmessage => sendTextMessage_posts (.inr (.inr ?_))
    exact ⟨action, haction, discordReply, role, discordMessage, hreply, hrole, hmessage, rfl⟩

theorem chatMessagesAction_posts :
    Prog.Within (Adds (Posts this now message)) (chatMessagesAction this throws now message) := by
  have hP := Adds.frame (Posts this now message)
  refine .lift_bind hP fun hide _ => .bind hP (.when hP fun _ => ?_) fun _ =>
    .when hP fun _ => .forEach hP fun action haction => runAction_posts haction
  unfold postMessage
  split
  · exact sendTextMessage_posts (.inl rfl)
  · exact .bind hP (sendTextMessage_posts (.inr (.inl rfl))) fun _ =>
      sendTextMessage_posts (.inl rfl)

/-- Whatever is posted for the message, apart from the notice and the answers of actions, is one
code block. -/
def Contained (now message : Text) : Prop :=
  ∀ (this : Rcon) (throws : Effect → Bool) (c : Channel) (text : Text),
    .send c text ∈ (chatMessagesAction this throws now message []).2 →
      text = noChannel ∨ OwnReply this text ∨ SingleBlock text

/-- An instance that shows every category, in one channel and without actions. -/
def openRcon : Rcon :=
  { Rcon.blank (.obj [(lit "showChannels", .obj (["side", "group", "direct", "admin", "joins",
      "vehicle", "global"].map fun key => (lit key, .bool true)))]) default with
    sideChannel := some textChannel, groupChannel := some textChannel
    directChannel := some textChannel, adminChannel := some textChannel
    connectChannel := some textChannel, vehicleChannel := some textChannel
    defaultChannel := some textChannel, globalChannel := some textChannel }

theorem openRcon_shows (message : Text) : disableShow openRcon (category message) = .ok false ∧
    (category message).channel openRcon = some textChannel := by
  have h : ∀ c ∈ categories, disableShow openRcon c = .ok false ∧
      c.channel openRcon = some textChannel := by
    simp only [categories, List.forall_mem_cons]
    decide +kernel
  exact h _ (category_mem message)

/-- **Chat text stays in its block** when it holds no fence, nor the time before it. -/
theorem chat_contained_iff (now message : Text) :
    Contained now message ↔ includes now fence = false ∧ includes message fence = false := by
  rw [← styled_singleBlock_iff]
  constructor
  · intro h
    obtain ⟨hshow, hchannel⟩ := openRcon_shows message
    have hsend := (chatMessagesAction_sends (fun _ => false) now hshow textChannel).2
      (.inl ⟨by rw [boundTo, hchannel, Option.some_or], rfl⟩)
    rcases h openRcon (fun _ => false) textChannel _ hsend with htext | ⟨_, haction, -⟩ | htext
    · exact absurd htext (styled_ne_noChannel now message)
    · cases haction
    · exact htext
  · intro h this throws c text hsend
    rcases (chatMessagesAction_posts []).forall _ hsend c text rfl with rfl | htext | htext
    · exact .inr (.inr h)
    · exact .inl htext
    · exact .inr (.inl htext)

end Posts

/-- A player closes the block and mentions everybody. -/
theorem escaped_message :
    ¬Contained (lit "12:00") (lit "(Global) Bob: ``` @everyone") := by
  intro h
  have hshown : Effect.send textChannel
      (lit "```cs\n\" 12:00: (Global) Bob: ``` @everyone \"\n```") ∈
      (chatMessagesAction openRcon (fun _ => false) (lit "12:00")
        (lit "(Global) Bob: ``` @everyone") []).2 := by decide +kernel
  rcases h openRcon (fun _ => false) textChannel _ hshown with htext | ⟨_, haction, -⟩ | htext
  · revert htext
    decide +kernel
  · cases haction
  · revert htext
    unfold SingleBlock
    decide +kernel

end ZBot
