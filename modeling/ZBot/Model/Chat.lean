import ZBot.Model.Admin

/-!
# Messages from the game server

`chatMessagesAction` posts a chat line of the game in the channel bound to its category, and
`checkMessageForCommand` runs the configured actions on it. `replyAction` is what the callbacks of
`sendCommand` do with an answer, with the player list of `processPlayerList` among them.
-/

namespace ZBot

open Js

/-! ## Chat -/

/-- How `chatMessagesAction` treats one category: the texts around the styled message, the channel
and the flag of `showChannels`. -/
structure Category where
  opening : Text
  closing : Text
  channel : Rcon → Option Channel
  /-- `none` for the messages that are always shown -/
  flag : Option Text

def sideCategory : Category :=
  ⟨lit "```markdown\n# ", lit "\n```", Rcon.sideChannel, some (lit "side")⟩

def groupCategory : Category :=
  ⟨lit "```css\n", lit "\n```", Rcon.groupChannel, some (lit "group")⟩

def directCategory : Category :=
  ⟨lit "```py\n# ", lit "\n```", Rcon.directChannel, some (lit "direct")⟩

def vehicleCategory : Category :=
  ⟨lit "```fix\n", lit "\n```", Rcon.vehicleChannel, some (lit "vehicle")⟩

def globalCategory : Category :=
  ⟨lit "```cs\n\" ", lit " \"\n```", Rcon.globalChannel, some (lit "global")⟩

def adminCategory : Category :=
  ⟨lit "```py\n@ ", lit "\n```", Rcon.adminChannel, some (lit "admin")⟩

def joinsCategory : Category :=
  ⟨lit "```py\n@ ", lit "\n```", Rcon.connectChannel, some (lit "joins")⟩

def defaultCategory : Category :=
  ⟨lit "```\n", lit "\n```", Rcon.defaultChannel, none⟩

/-- The `switch` of `chatMessagesAction`. -/
def category (message : Text) : Category :=
  if startsWith message (lit "(Side)") then sideCategory
  else if startsWith message (lit "(Group)") then groupCategory
  else if startsWith message (lit "(Direct)") then directCategory
  else if startsWith message (lit "(Vehicle)") then vehicleCategory
  else if startsWith message (lit "(Global)") then globalCategory
  else if startsWith message (lit "RCon admin") then adminCategory
  else if startsWith message (lit "Player #") || startsWith message (lit "Verified GUID") then
    joinsCategory
  else defaultCategory

/-- `!this.cfg.showChannels[flag]`, which hides the message. -/
def disableShow (this : Rcon) (c : Category) : Except Error Bool :=
  match c.flag with
  | none => .ok false
  | some flag => do
    let showChannels ← this.cfg.get (lit "showChannels")
    let shown ← showChannels.get flag
    return !shown.truthy

/-- `guild.roles.find('name', role)`, and the members it has. -/
def roleMembers (guild : Guild) (role : Value) : List Text :=
  match role with
  | .str name =>
    match guild.roles.find? (·.name == name) with
    | some role => role.members
    | none => []
  | _ => []

/-- ``discordMessage += ` ${member}` `` for each member. Only the first one converts the message. -/
def addMentions (discordMessage : Value) : List Text → Except Error Value
  | [] => .ok discordMessage
  | members => do
    let text ← discordMessage.toText
    return .str (text ++ members.flatMap fun member => lit " " ++ member)

/-- The body of the `forEach` over the actions. -/
def runAction (this : Rcon) (throws : Effect → Bool) (message styledMessage : Text)
    (action : Value) : Emit Unit := do
  let command ← Prog.lift (action.get (lit "command"))
  Prog.when command.truthy do
    let command ← Prog.lift command.toText
    Prog.when (includes message command) do
      let reply ← Prog.lift (action.get (lit "reply"))
      Prog.when reply.truthy (cmdSayGlobalMessage this throws reply)
      let discordReply ← Prog.lift (action.get (lit "discordReply"))
      Prog.when discordReply.truthy do
        sendTextMessage this.adminChannel styledMessage
        let role ← Prog.lift (action.get (lit "role"))
        let discordMessage ← Prog.lift (addMentions discordReply
          (if role.truthy then roleMembers this.guild role else []))
        sendTextMessage this.adminChannel (contentText discordMessage)

/-- `checkMessageForCommand`. -/
def checkMessageForCommand (this : Rcon) (throws : Effect → Bool)
    (message styledMessage : Text) : Emit Unit :=
  Prog.when (!startsWith message (lit "RCon admin"))
    (Prog.forEach this.actions (runAction this throws message styledMessage))

/-- Posts the styled message, in the default channel when the category has none. -/
def postMessage (this : Rcon) (c : Category) (styledMessage : Text) : Emit Unit :=
  match c.channel this with
  | some channel => sendTextMessage (some channel) styledMessage
  | none => do
    sendTextMessage this.defaultChannel
      (lit ("The specific channel does not exist. Posting in default. " ++
        "Please check your channel config."))
    sendTextMessage this.defaultChannel styledMessage

/-- `chatMessagesAction`, at the local time `now`. -/
def chatMessagesAction (this : Rcon) (throws : Effect → Bool) (now message : Text) :
    Emit Unit := do
  let c := category message
  let styledMessage := c.opening ++ (now ++ lit ": " ++ message) ++ c.closing
  let hide ← Prog.lift (disableShow this c)
  Prog.when (!hide) (postMessage this c styledMessage)
  checkMessageForCommand this throws message styledMessage

/-! ## Answers -/

/-- The fields `processPlayerList` fills in; the country flag is looked up afterwards. -/
structure Player where
  id : Text
  name : Text
  ping : Text
  ip : Text
  /-- `none` for `undefined`, when the address has no colon -/
  port : Option Text
  guid : Text
  deriving DecidableEq

def Player.empty : Player := ⟨[], [], [], [], some [], []⟩

/-- One step of the inner `forEach`: the `index`-th non-empty element of the line. -/
def Player.assign (player : Player) (index : Nat) (el : Text) : Player :=
  match index with
  | 0 => { player with id := el }
  | 1 =>
    let ipport := splitOn 58 el
    { player with ip := ipport.headD [], port := ipport[1]? }
  | 2 => { player with ping := el }
  | 3 => { player with guid := if el = lit "-1" then lit "Joining" else el }
  | 4 => { player with name := el }
  | _ => { player with name := player.name ++ lit " " ++ el }

/-- The inner `forEach`, which counts only non-empty elements. -/
def parseElements : List Text → Nat → Player → Player
  | [], _, player => player
  | el :: rest, index, player =>
    if el.isEmpty then parseElements rest index player
    else parseElements rest (index + 1) (player.assign index el)

/-- One line of the answer to `players`, `none` for the line with the total. -/
def parsePlayer (line : Text) : Option Player :=
  if includes line (lit "players in total") || includes line (lit "player in total") then none
  else some (parseElements (splitOn space line) 0 Player.empty)

/-- The row of a player in the printed list. -/
def playerRow (env : Env) (player : Player) : Text :=
  let flag := match env.country player.ip with
    | some country => lit ":flag_" ++ country ++ lit ":"
    | none => []
  player.id ++ lit " | " ++ flag ++ lit " | " ++ player.name ++ lit " | " ++ player.ping ++
    lit " | " ++ player.ip ++ lit " | " ++ player.port.getD (lit "undefined") ++ lit " | " ++
    player.guid ++ lit " \n"

/-- The rows of `processPlayerList`: the first three lines are skipped. -/
def players (text : Text) : List Player := ((splitLines text).drop 3).filterMap parsePlayer

/-- `processPlayerList`. -/
def processPlayerList (env : Env) (text : Text) (channel : Option Channel) : Emit Unit :=
  printLongMessage (lit "| ID | Flag | Name | Ping | IP | Port | GUID |\n" ++
    lit "|---|---|---|---|---|---|---|\n" ++ (players text).flatMap (playerRow env)) channel

/-- The callback of a command, on the answer of the game server. -/
def replyAction (env : Env) (this : Rcon) (callback : Callback) (text : Text) : Emit Unit :=
  match callback with
  | .none => pure ()
  | .text => Prog.when (!text.isEmpty) (sendTextMessage this.commandChannel text)
  | .long => printLongMessage text this.commandChannel
  | .playerList => processPlayerList env text this.commandChannel

end ZBot
