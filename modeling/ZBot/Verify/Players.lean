import ZBot.Js.Merge
import ZBot.Js.Split
import ZBot.Model.Chat

/-!
# The player list

The game server answers `players` with a table in plain text, which `processPlayerList` takes apart
again. `PlayerLine` is a line of that table and `playersReply` the whole table, with any spacing and
either line break.

* Taking a line apart gives back its fields, and the words of its name (`players_row`).
* The last line is told from the others by the words `players in total`. A player whose line holds
  them is left out, so the list is complete only when none does (`players_complete_iff`,
  `missing_player`).
-/

namespace ZBot

open Js

/-! ## Lines -/

section Line

/-- A text without spaces. -/
structure IsWord (s : Text) : Prop where
  ne_nil : s ≠ []
  unspaced : space ∉ s

/-- The line of a player: the fields, how many spaces stand before the first of them, and how many
more than one between two of them. -/
structure PlayerLine where
  id : Text
  ip : Text
  port : Text
  ping : Text
  guid : Text
  name : Text
  padding : Nat
  gaps : Fin 4 → Nat
  id_word : IsWord id
  ip_plain : space ∉ ip ∧ 58 ∉ ip
  port_plain : space ∉ port ∧ 58 ∉ port
  ping_word : IsWord ping
  guid_word : IsWord guid

namespace PlayerLine

variable (e : PlayerLine)

/-- The spaces between two fields. -/
def gap (i : Fin 4) : Text := List.replicate (e.gaps i + 1) space

def address : Text := e.ip ++ 58 :: e.port

def line : Text :=
  List.replicate e.padding space ++ (e.id ++ (e.gap 0 ++ (e.address ++ (e.gap 1 ++
    (e.ping ++ (e.gap 2 ++ (e.guid ++ (e.gap 3 ++ e.name))))))))

/-- The row that is made of the line: the words of the name are one space apart. -/
def row : Player :=
  ⟨e.id, [space].intercalate (words e.name), e.ping, e.ip, some e.port,
    if e.guid = lit "-1" then lit "Joining" else e.guid⟩

theorem address_word : IsWord e.address := by
  refine ⟨by simp [address], ?_⟩
  simp only [address, List.mem_append, List.mem_cons, not_or]
  exact ⟨e.ip_plain.1, by decide +kernel, e.port_plain.1⟩

/-- The words of the line are its fields and those of the name. -/
theorem words_line : words e.line = e.id :: e.address :: e.ping :: e.guid :: words e.name := by
  rw [line, words_spaces, gap, words_cons e.id_word.1 e.id_word.2, gap,
    words_cons e.address_word.1 e.address_word.2, gap, words_cons e.ping_word.1 e.ping_word.2, gap,
    words_cons e.guid_word.1 e.guid_word.2]

end PlayerLine

/-- Empty pieces are passed over. -/
theorem parseElements_words (s : Text) (index : Nat) (player : Player) :
    parseElements (splitOn space s) index player = parseElements (words s) index player := by
  unfold words
  induction splitOn space s generalizing index player with
  | nil => rfl
  | cons piece rest ih =>
    cases piece with
    | nil => exact ih index player
    | cons x piece => exact ih (index + 1) _

/-- From the sixth word on, each one is put behind the name. -/
theorem parseElements_name {ws : List Text} (h : ∀ w ∈ ws, w ≠ []) (index : Nat) (player : Player) :
    parseElements ws (index + 5) player =
      { player with name := player.name ++ ws.flatMap (space :: ·) } := by
  induction ws generalizing index player with
  | nil => simp [parseElements]
  | cons w ws ih =>
    obtain ⟨hw, hws⟩ := List.forall_mem_cons.1 h
    have hempty : w.isEmpty = false := by simpa using hw
    rw [parseElements, hempty, if_neg Bool.false_ne_true, ih hws (index + 1)]
    have hspace : lit " " = [space] := by decide +kernel
    simp [Player.assign, hspace]

theorem words_ne_nil {s w : Text} (h : w ∈ words s) : w ≠ [] := by
  have hw := (List.mem_filter.1 h).2
  simpa using hw

theorem intercalate_space (w : Text) (ws : List Text) :
    [space].intercalate (w :: ws) = w ++ ws.flatMap (space :: ·) := by
  induction ws generalizing w with
  | nil => simp
  | cons w' ws ih =>
    rw [List.intercalate_cons_cons, ih, List.flatMap_cons]
    simp

/-- The name is the words from the fifth on, one space apart. -/
theorem parseElements_fifth {ws : List Text} (h : ∀ w ∈ ws, w ≠ []) {player : Player}
    (hname : player.name = []) :
    parseElements ws 4 player = { player with name := [space].intercalate ws } := by
  cases ws with
  | nil =>
    cases player
    cases hname
    rfl
  | cons w ws =>
    obtain ⟨hw, hws⟩ := List.forall_mem_cons.1 h
    have hempty : w.isEmpty = false := by simpa using hw
    rw [parseElements, hempty, if_neg Bool.false_ne_true, parseElements_name hws 0,
      intercalate_space]
    rfl

/-- The line of the total. -/
def isTotal (line : Text) : Bool :=
  includes line (lit "players in total") || includes line (lit "player in total")

/-- **A line gives back its fields**, unless it is taken for the line of the total. -/
theorem parsePlayer_line (e : PlayerLine) :
    parsePlayer e.line = if isTotal e.line then none else some e.row := by
  have hip : splitOn 58 e.address = [e.ip, e.port] := by
    rw [PlayerLine.address, splitOn_append, splitOn_of_not_mem e.ip_plain.2,
      splitOn_of_not_mem e.port_plain.2]
    rfl
  have hrow : parseElements (splitOn space e.line) 0 Player.empty = e.row := by
    have hid : e.id.isEmpty = false := by simpa using e.id_word.ne_nil
    have haddress : e.address.isEmpty = false := by simpa using e.address_word.ne_nil
    have hping : e.ping.isEmpty = false := by simpa using e.ping_word.ne_nil
    have hguid : e.guid.isEmpty = false := by simpa using e.guid_word.ne_nil
    rw [parseElements_words, e.words_line]
    simp only [parseElements, hid, haddress, hping, hguid, Bool.false_eq_true, if_false,
      Player.assign, hip]
    rw [parseElements_fifth (fun w => words_ne_nil) rfl]
    rfl
  rw [parsePlayer, ← isTotal, hrow]

/-- **The row of a player** has the fields of the line, wherever the line stands in the table. -/
theorem players_row (e : PlayerLine) (hguid : e.guid ≠ lit "-1")
    (hplayers : includes e.line (lit "players in total") = false)
    (hplayer : includes e.line (lit "player in total") = false) {text : Text}
    {before after : List Text} (htext : (splitLines text).drop 3 = before ++ e.line :: after) :
    players text = before.filterMap parsePlayer ++
      (⟨e.id, [space].intercalate (words e.name), e.ping, e.ip, some e.port, e.guid⟩ : Player) ::
        after.filterMap parsePlayer := by
  have hline : parsePlayer e.line = some e.row := by
    rw [parsePlayer_line, isTotal, hplayers, hplayer]
    rfl
  rw [players, htext, List.filterMap_append, List.filterMap_cons, hline, PlayerLine.row,
    if_neg hguid]

end Line

/-! ## The table -/

section Table

/-- A player in the table: the name is not empty, and no field holds a line break. -/
structure ListedPlayer extends PlayerLine where
  name_ne : name ≠ []
  unbroken : ∀ part ∈ [id, ip, port, ping, guid, name], Unbroken part

/-- A line above the players. -/
structure Heading where
  text : Text
  ending : Break
  unbroken : Unbroken text

/-- The last line of the table. -/
def totalLine (n : Nat) : Text := lit "(" ++ Value.indexText n ++ lit " players in total)"

/-- The answer to `players`: three lines, the players with their line breaks, and the total. -/
def playersReply (h₁ h₂ h₃ : Heading) (entries : List (ListedPlayer × Break)) : Text :=
  rendered ([h₁, h₂, h₃].map (fun h => (h.text, h.ending)) ++
    entries.map fun e => (e.1.line, e.2)) (totalLine entries.length)

theorem ListedPlayer.unbroken_line (e : ListedPlayer) : Unbroken e.line := by
  have hparts := e.unbroken
  simp only [List.forall_mem_cons] at hparts
  obtain ⟨hid, hip, hport, hping, hguid, hname, -⟩ := hparts
  simp only [PlayerLine.line, PlayerLine.address, PlayerLine.gap, unbroken_append, unbroken_cons,
    unbroken_spaces, hid, hip, hport, hping, hguid, hname]
  trivial

theorem totalLine_unbroken (n : Nat) : Unbroken (totalLine n) := by
  have hdigits : Unbroken (Value.indexText n) := by
    constructor <;> intro h
    · exact absurd (Value.indexText_digits n _ h) (by decide +kernel)
    · exact absurd (Value.indexText_digits n _ h) (by decide +kernel)
  have hopen : Unbroken (lit "(") := by
    unfold Unbroken
    decide +kernel
  have hclose : Unbroken (lit " players in total)") := by
    unfold Unbroken
    decide +kernel
  rw [totalLine, unbroken_append, unbroken_append]
  exact ⟨⟨hopen, hdigits⟩, hclose⟩

theorem parsePlayer_totalLine (n : Nat) : parsePlayer (totalLine n) = none := by
  have hphrase : includes (totalLine n) (lit "players in total") = true := by
    rw [includes_iff]
    have hclose : lit " players in total)" = lit " " ++ (lit "players in total" ++ lit ")") := by
      decide +kernel
    refine ⟨lit "(" ++ Value.indexText n ++ lit " ", lit ")", ?_⟩
    rw [totalLine, hclose]
    simp only [List.append_assoc]
  rw [parsePlayer, hphrase, Bool.true_or, if_pos rfl]

theorem rows_lines (entries : List (ListedPlayer × Break)) :
    (entries.map fun e => e.1.line).filterMap parsePlayer =
      (entries.filter fun e => !isTotal e.1.line).map fun e => e.1.row := by
  induction entries with
  | nil => rfl
  | cons e entries ih =>
    rw [List.map_cons, List.filterMap_cons, parsePlayer_line, ih]
    cases htotal : isTotal e.1.line with
    | true => simp [htotal]
    | false => simp [htotal]

/-- The rows are those of the players whose lines are not taken for the last one. -/
theorem players_reply (h₁ h₂ h₃ : Heading) (entries : List (ListedPlayer × Break)) :
    players (playersReply h₁ h₂ h₃ entries) =
      (entries.filter fun e => !isTotal e.1.line).map fun e => e.1.row := by
  have hlines : splitLines (playersReply h₁ h₂ h₃ entries) =
      [h₁.text, h₂.text, h₃.text] ++ (entries.map (fun e => e.1.line) ++
        [totalLine entries.length]) := by
    rw [playersReply, splitLines_rendered _ (totalLine_unbroken _)]
    · simp
    · intro l hl
      rcases List.mem_append.1 hl with hl | hl
      · obtain ⟨h, -, rfl⟩ := List.mem_map.1 hl
        exact h.unbroken
      · obtain ⟨e, -, rfl⟩ := List.mem_map.1 hl
        exact e.1.unbroken_line
  rw [players, hlines]
  change (entries.map (fun e => e.1.line) ++ [totalLine entries.length]).filterMap parsePlayer = _
  rw [List.filterMap_append, List.filterMap_cons, parsePlayer_totalLine, List.filterMap_nil,
    List.append_nil, rows_lines]

/-- **The player list is complete** when no line of a player holds the words of the last line. -/
theorem players_complete_iff (h₁ h₂ h₃ : Heading) (entries : List (ListedPlayer × Break)) :
    players (playersReply h₁ h₂ h₃ entries) = entries.map (fun e => e.1.row) ↔
      ∀ e ∈ entries, isTotal e.1.line = false := by
  rw [players_reply]
  constructor
  · intro h e he
    have hlength := congrArg List.length h
    rw [List.length_map, List.length_map, List.length_filter_eq_length_iff] at hlength
    simpa using hlength e he
  · intro h
    rw [List.filter_eq_self.2]
    intro e he
    rw [h e he, Bool.not_false]

end Table

/-! ## A player called like the last line -/

/-- The line `0   1.2.3.4:2304   47   ab(OK) name`. -/
def sampleLine (name : Text) : PlayerLine where
  id := lit "0"
  ip := lit "1.2.3.4"
  port := lit "2304"
  ping := lit "47"
  guid := lit "ab(OK)"
  name := name
  padding := 0
  gaps := fun i => if i = 3 then 0 else 2
  id_word := ⟨by decide +kernel, by decide +kernel⟩
  ip_plain := by decide +kernel
  port_plain := by decide +kernel
  ping_word := ⟨by decide +kernel, by decide +kernel⟩
  guid_word := ⟨by decide +kernel, by decide +kernel⟩

theorem players_row_bob :
    players (lit "a\nb\r\nc\n0   1.2.3.4:2304   47   ab(OK)  Bob   the Builder ") =
      [⟨lit "0", lit "Bob the Builder", lit "47", lit "1.2.3.4", some (lit "2304"),
        lit "ab(OK)"⟩] := by
  have htext :
      (splitLines (lit "a\nb\r\nc\n0   1.2.3.4:2304   47   ab(OK)  Bob   the Builder ")).drop 3 =
        [] ++ (sampleLine (lit " Bob   the Builder ")).line :: [] := by decide +kernel
  rw [players_row (sampleLine (lit " Bob   the Builder ")) (by decide +kernel) (by decide +kernel)
    (by decide +kernel) htext]
  decide +kernel

theorem sampleFields_unbroken {name : Text} (h : Unbroken name) :
    ∀ part ∈ [lit "0", lit "1.2.3.4", lit "2304", lit "47", lit "ab(OK)", name],
      Unbroken part := by
  have hfixed : ∀ part ∈ [lit "0", lit "1.2.3.4", lit "2304", lit "47", lit "ab(OK)"],
      Unbroken part := by
    simp only [List.forall_mem_cons, Unbroken]
    decide +kernel
  simp only [List.forall_mem_cons] at hfixed ⊢
  exact ⟨hfixed.1, hfixed.2.1, hfixed.2.2.1, hfixed.2.2.2.1, hfixed.2.2.2.2.1, h, by simp⟩

/-- A player with that line, in a table with short headings. -/
def troll : ListedPlayer where
  toPlayerLine := sampleLine (lit "2 players in total")
  name_ne := by decide +kernel
  unbroken := sampleFields_unbroken (by unfold Unbroken; decide +kernel)

def heading : Heading := ⟨lit "-", .lf, by unfold Unbroken; decide +kernel⟩

/-- The name of the player is taken for the last line: the list is empty. -/
theorem missing_player :
    let entries := [(troll, Break.lf)]
    players (playersReply heading heading heading entries) ≠ entries.map fun e => e.1.row := by
  decide +kernel

end ZBot
