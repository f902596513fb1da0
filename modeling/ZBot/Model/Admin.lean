import ZBot.Model.Rcon

/-!
# Commands from Discord

`checkAdminCommand` looks at a message in the instance's command channel. Its `switch (true)` is a
list of cases in order: a pattern that is searched in the whole message, the permission key that is
asked for, and the handler that runs. `adminCases` is that list, and each handler keeps the name it
has in the source.

A handler that takes an argument gets the message with the first occurrence of a pattern deleted.
For the server commands that pattern is shorter than the one of the case.
-/

namespace ZBot

open Js

/-! ## The commands of the game server -/

section Commands

variable (this : Rcon) (throws : Effect → Bool)

/-- `cmdServerCommand`. -/
def cmdServerCommand (command : Text) : Emit Unit := sendCommand this throws command .text

def cmdGetMissions : Emit Unit := sendCommand this throws (lit "missions") .text

def cmdLoadBans : Emit Unit := sendCommand this throws (lit "loadBans") .text

def cmdWriteBans : Emit Unit := sendCommand this throws (lit "writeBans") .text

def cmdGetVersion : Emit Unit := sendCommand this throws (lit "version") .text

def cmdGetUpdate : Emit Unit := sendCommand this throws (lit "update") .text

def cmdKickPlayer (kickData : Text) : Emit Unit :=
  sendCommand this throws (lit "kick " ++ kickData) .text

def cmdRemoveBan (banId : Text) : Emit Unit :=
  sendCommand this throws (lit "removeBan " ++ banId) .text

def cmdBan (banData : Text) : Emit Unit := sendCommand this throws (lit "ban " ++ banData) .text

def cmdAddBan (banData : Text) : Emit Unit :=
  sendCommand this throws (lit "addBan " ++ banData) .text

def cmdSetMaxPing (ping : Text) : Emit Unit :=
  sendCommand this throws (lit "MaxPing " ++ ping) .text

def cmdPrintAllPlayers : Emit Unit := sendCommand this throws (lit "players") .long

def cmdPrintAllExtendedPlayers : Emit Unit := sendCommand this throws (lit "players") .playerList

def cmdPrintAllAdmins : Emit Unit := sendCommand this throws (lit "admins") .long

def cmdPrintAllBans : Emit Unit := sendCommand this throws (lit "bans") .long

def cmdSayPlayerMessage (text : Text) : Emit Unit :=
  sendCommand this throws (lit "say " ++ text) .none

def cmdReloadScripts : Emit Unit := sendCommand this throws (lit "loadScripts") .none

def cmdReloadEvents : Emit Unit := sendCommand this throws (lit "loadEvents") .none

end Commands

/-- `cmdSteamTestPrintData`: reading `trim` of a missing part throws. -/
def cmdSteamTestPrintData (message : Text) : Emit Unit :=
  match splitOn 58 message with
  | host :: port :: portQuery :: _ => emit (.query (trim host) (trim port) (trim portQuery))
  | _ => Prog.raise .typeError

/-- `listCommands`. -/
def listCommands (env : Env) (this : Rcon) : Emit Unit := do
  let fullMessage := lit "# ZBot BattlEye RCON commands\n\n" ++
    lit "**All commands are prefixed with !rcon**\n\n## Commands\n\n" ++ env.commandTable ++
    lit "\n\n**More commands added later**"
  let fullMessage2 := lit "## Server Commands\n\n\n" ++
    lit "**All commands are prefixed with !rcon**\n\n" ++ env.serverCommandTable ++
    lit "\n\n**More commands added later**"
  printLongMarkupMessage fullMessage this.commandChannel
  sendTextMessage this.commandChannel (lit "```Markdown\n" ++ fullMessage2 ++ lit "```")

/-! ## The gate -/

/-- `this._data.config.specific.bercon.permissions[command]`. -/
def permission (specific : Value) (command : Text) : Except Error Value := do
  let bercon ← specific.get (lit "bercon")
  let permissions ← bercon.get (lit "permissions")
  permissions.get command

/-- `message.member.roles.exists('name', role)`. -/
def roleExists (message : Message) (role : Value) : Except Error Bool :=
  match message.member with
  | none => .error .typeError
  | some names =>
    match role with
    | .undefined => .error .error
    | .str s => .ok (names.contains s)
    | _ => .ok false

/-- `hasCorrectRole`. -/
def hasCorrectRole (specific : Value) (message : Message) (command : Text) : Emit Bool := do
  let role ← Prog.lift (permission specific command)
  if role.truthy then
    let answer ← Prog.lift (roleExists message role)
    Prog.when (!answer) do
      let name ← Prog.lift role.toText
      sendTextMessage (some message.channel)
        (lit "You need the following role to use this command: " ++ name)
    return answer
  else
    sendTextMessage (some message.channel)
      (lit ("Something is wrong with the configs. Maybe a new command? Check if this command " ++
        "has a role on the webpanel. Otherwise :/ contact Zupa"))
    return false

/-- The methods `checkAdminCommand` calls. -/
inductive AdminHandler where
  | steamTestPrintData
  | steamtPrintData
  | printAllExtendedPlayers
  | printAllPlayers
  | printAllAdmins
  | printAllBans
  | reloadScripts
  | reloadEvents
  | sayGlobalMessage
  | sayPlayerMessage
  | getMissions
  | getVersion
  | getUpdate
  | loadBans
  | writeBans
  | removeBan
  | ban
  | addBan
  | setMaxPing
  | kickPlayer
  | disconnect
  | exit
  | serverCommand
  | listCommands
  deriving DecidableEq, Repr

/-- One case of the `switch`. -/
structure AdminCase where
  pattern : Text
  /-- the key given to `hasCorrectRole`, `none` where nothing is asked -/
  key : Option Text
  handler : AdminHandler
  /-- the pattern that is deleted from the message to get the handler's argument -/
  cut : Text
  deriving DecidableEq

/-- The cases of the `switch`, in order. -/
def adminCases : List AdminCase := [
  ⟨lit "!rcon teststeam ", none, .steamTestPrintData, lit "!rcon teststeam "⟩,
  ⟨lit "!rcon steam", some (lit "steam"), .steamtPrintData, []⟩,
  ⟨lit "!rcon players+", some (lit "players"), .printAllExtendedPlayers, []⟩,
  ⟨lit "!rcon players", some (lit "players"), .printAllPlayers, []⟩,
  ⟨lit "!rcon admins", some (lit "admins"), .printAllAdmins, []⟩,
  ⟨lit "!rcon bans", some (lit "bans"), .printAllBans, []⟩,
  ⟨lit "!rcon load scripts", some (lit "loadScripts"), .reloadScripts, []⟩,
  ⟨lit "!rcon load events", some (lit "loadEvents"), .reloadEvents, []⟩,
  ⟨lit "!rcon say all ", some (lit "say"), .sayGlobalMessage, lit "!rcon say all "⟩,
  ⟨lit "!rcon say ", some (lit "say"), .sayPlayerMessage, lit "!rcon say "⟩,
  ⟨lit "!rcon missions", some (lit "missions"), .getMissions, []⟩,
  ⟨lit "!rcon version", some (lit "version"), .getVersion, []⟩,
  ⟨lit "!rcon update", some (lit "update"), .getUpdate, []⟩,
  ⟨lit "!rcon loadBans", some (lit "loadBans"), .loadBans, []⟩,
  ⟨lit "!rcon writeBans", some (lit "writeBans"), .writeBans, []⟩,
  ⟨lit "!rcon removeBan ", some (lit "removeBan"), .removeBan, lit "!rcon removeBan "⟩,
  ⟨lit "!rcon ban ", some (lit "ban"), .ban, lit "!rcon ban "⟩,
  ⟨lit "!rcon addBan ", some (lit "addBan"), .addBan, lit "!rcon addBan "⟩,
  ⟨lit "!rcon MaxPing ", some (lit "MaxPing"), .setMaxPing, lit "!rcon MaxPing "⟩,
  ⟨lit "!rcon kick ", some (lit "kick"), .kickPlayer, lit "!rcon kick "⟩,
  ⟨lit "!rcon disconnect", some (lit "disconnect"), .disconnect, []⟩,
  ⟨lit "!rcon exit", some (lit "exit"), .exit, []⟩,
  ⟨lit "!rcon #", some (lit "serverCommands"), .serverCommand, lit "!rcon "⟩,
  ⟨lit "!rcon", none, .listCommands, []⟩]

/-- Runs a handler. The argument is used by the handlers that take one. -/
def AdminHandler.run (env : Env) (this : Rcon) (throws : Effect → Bool) (argument : Text) :
    AdminHandler → Emit Unit
  | .steamTestPrintData => cmdSteamTestPrintData argument
  -- the class has no method of this name: `cmdSteamPrintData` is the one meant
  | .steamtPrintData => Prog.raise .typeError
  | .printAllExtendedPlayers => cmdPrintAllExtendedPlayers this throws
  | .printAllPlayers => cmdPrintAllPlayers this throws
  | .printAllAdmins => cmdPrintAllAdmins this throws
  | .printAllBans => cmdPrintAllBans this throws
  | .reloadScripts => cmdReloadScripts this throws
  | .reloadEvents => cmdReloadEvents this throws
  | .sayGlobalMessage => cmdSayGlobalMessage this throws (.str argument)
  | .sayPlayerMessage => cmdSayPlayerMessage this throws argument
  | .getMissions => cmdGetMissions this throws
  | .getVersion => cmdGetVersion this throws
  | .getUpdate => cmdGetUpdate this throws
  | .loadBans => cmdLoadBans this throws
  | .writeBans => cmdWriteBans this throws
  | .removeBan => cmdRemoveBan this throws argument
  | .ban => cmdBan this throws argument
  | .addBan => cmdAddBan this throws argument
  | .setMaxPing => cmdSetMaxPing this throws argument
  | .kickPlayer => cmdKickPlayer this throws argument
  | .disconnect => cmdDisconnect this throws
  | .exit => cmdExit this throws
  | .serverCommand => cmdServerCommand this throws argument
  | .listCommands => ZBot.listCommands env this

/-- The case the `switch` takes. -/
def adminCase (content : Text) : Option AdminCase :=
  adminCases.find? fun c => includes content c.pattern

/-- Asks for the role of a case. -/
def AdminCase.allowed (c : AdminCase) (specific : Value) (message : Message) : Emit Bool :=
  match c.key with
  | none => pure true
  | some key => hasCorrectRole specific message key

/-- `checkAdminCommand`. -/
def checkAdminCommand (env : Env) (this : Rcon) (specific : Value) (throws : Effect → Bool)
    (message : Message) : Emit Unit :=
  if some message.channel = this.commandChannel then
    match adminCase message.content with
    | none => pure ()
    | some c => do
      let allowed ← c.allowed specific message
      Prog.when allowed (c.handler.run env this throws (replaceFirst message.content c.cut []))
  else pure ()

end ZBot
