import ZBot.Verify.Players
import ZBot.Verify.Printers

/-!
# Reading the player table back

`processPlayerList` posts a table with a row per player and the columns between bars, in as many
messages as it takes. `readTable` takes what was posted apart again. When no line of a player has
the words of the last line, the table can be read back, whatever its length, exactly when no column
holds a bar (`players_table_iff`). A bar in a name makes a column too many (`players_table_barred`).
-/

namespace ZBot

open Js

/-! ## Rows -/

/-- The sign between two columns. -/
def bar : UInt16 := 124

/-- The country flag of a player. -/
def Player.flag (env : Env) (player : Player) : Text :=
  match env.country player.ip with
  | some country => lit ":flag_" ++ country ++ lit ":"
  | none => []

/-- What the row of a player shows. -/
def Player.columns (env : Env) (player : Player) : List Text :=
  [player.id, player.flag env, player.name, player.ping, player.ip,
    player.port.getD (lit "undefined"), player.guid]

/-- A column with the spaces around it. -/
def padded (column : Text) : Text := space :: (column ++ [space])

/-- The row of a player without its line break. The first column has no space in front. -/
def rowLine (env : Env) (player : Player) : Text :=
  ([bar].intercalate ((player.columns env).map padded)).tail

/-- The columns of a line. -/
def readRow (line : Text) : List Text :=
  (splitOn bar (space :: line)).map fun column => column.tail.dropLast

/-- The rows of a table, which stand below two lines. -/
def readTable (posted : Text) : List (List Text) :=
  (((splitLines posted).drop 2).filter fun line => !line.isEmpty).map readRow

/-- The two lines above the rows. -/
def tableHead : List Text :=
  [lit "| ID | Flag | Name | Ping | IP | Port | GUID |", lit "|---|---|---|---|---|---|---|"]

/-- The fixed texts of a table. -/
theorem table_texts : lit " | " = [space, bar, space] ∧ lit " \n" = [space] ++ nl ∧
    lit "| ID | Flag | Name | Ping | IP | Port | GUID |\n" ++
      lit "|---|---|---|---|---|---|---|\n" = payload tableHead ∧
    ∀ text ∈ [bar] :: lit ":flag_" :: lit ":" :: lit "Joining" :: tableHead, Unbroken text := by
  unfold Unbroken
  decide +kernel

section Rows

variable {env : Env} {player : Player}

theorem playerRow_eq : playerRow env player = rowLine env player ++ nl := by
  cases hcountry : env.country player.ip <;>
    simp only [playerRow, rowLine, Player.columns, Player.flag, hcountry, padded, List.map_cons,
      List.map_nil, table_texts.1, table_texts.2.1, List.intercalate_cons_cons,
      List.intercalate_singleton, List.append_assoc, List.cons_append, List.nil_append,
      List.tail_cons]

theorem space_rowLine :
    space :: rowLine env player = [bar].intercalate ((player.columns env).map padded) := by
  simp [rowLine, Player.columns, padded, List.intercalate_cons_cons]

theorem bar_mem_padded {column : Text} : bar ∈ padded column ↔ bar ∈ column := by
  have hne : bar ≠ space := by decide
  simp [padded, hne]

/-- A row is read back when no column holds a bar. -/
theorem readRow_iff : readRow (rowLine env player) = player.columns env ↔
    ∀ column ∈ player.columns env, bar ∉ column := by
  have hne : (player.columns env).map padded ≠ [] := by simp [Player.columns]
  have hplain : (∀ cell ∈ (player.columns env).map padded, bar ∉ cell) ↔
      ∀ column ∈ player.columns env, bar ∉ column := by
    simp only [List.forall_mem_map, bar_mem_padded]
  have hunpad : ((player.columns env).map padded).map (fun column => column.tail.dropLast) =
      player.columns env := by
    rw [List.map_map]
    refine (List.map_congr_left fun column _ => ?_).trans (List.map_id _)
    simp [padded]
  rw [readRow, space_rowLine, ← hplain]
  constructor
  · intro h
    have hlength := congrArg List.length h
    rw [List.length_map] at hlength
    exact (length_splitOn_intercalate_iff hne).1 (by rw [hlength, List.length_map])
  · intro h
    rw [splitOn_intercalate hne h, hunpad]

end Rows

/-! ## Messages -/

theorem splitLines_payload {lines : List Text} (h : ∀ line ∈ lines, Unbroken line) :
    splitLines (payload lines) = lines ++ [[]] := by
  have hrendered : payload lines = rendered (lines.map fun line => (line, .lf)) [] := by
    rw [rendered, List.append_nil, List.flatMap_map]
    rfl
  rw [hrendered, splitLines_rendered, List.map_map]
  · exact congrArg (· ++ [[]]) (List.map_id lines)
  · simpa using h
  · exact ⟨List.not_mem_nil, List.not_mem_nil⟩

/-- The lines of a text arrive, in however many messages, with empty lines after them. -/
theorem printLongMessage_arrives {lines : List Text} (h : ∀ line ∈ lines, Unbroken line)
    {c : Channel} (hc : c.type = .text) :
    ∃ k, splitLines (sent (printLongMessage (payload lines) (some c) []).2).flatten =
      lines ++ List.replicate k [] := by
  by_cases hlong : 2000 < (payload lines).length
  · refine ⟨2, ?_⟩
    rw [printLongMessage_long hlong, (sendAll_sent hc _).2, payloads_flatten,
      splitLines_payload h, splitLines_payload]
    · simp
    · intro line hline
      rcases List.mem_append.1 hline with hline | hline
      · exact h line hline
      · rw [List.mem_singleton.1 hline]
        exact ⟨List.not_mem_nil, List.not_mem_nil⟩
  · refine ⟨1, ?_⟩
    rw [printLongMessage, if_pos (Nat.not_lt.1 hlong), sendTextMessage_text hc]
    simpa [sent] using splitLines_payload h

/-! ## The table -/

theorem unbroken_name {name : Text} (h : Unbroken name) :
    Unbroken ([space].intercalate (words name)) := by
  have hwords : ∀ x, x ∈ [space].intercalate (words name) → x = space ∨ x ∈ name := by
    intro x hx
    cases hw : words name with
    | nil =>
      rw [hw] at hx
      exact absurd hx List.not_mem_nil
    | cons w ws =>
      have hpiece : ∀ piece ∈ w :: ws, ∀ y ∈ piece, y ∈ name := fun piece hpiece y hy => by
        rw [← hw] at hpiece
        exact mem_of_mem_splitOn (List.mem_filter.1 hpiece).1 hy
      rw [hw, intercalate_space] at hx
      rcases List.mem_append.1 hx with hx | hx
      · exact .inr (hpiece w List.mem_cons_self x hx)
      · obtain ⟨w', hw', hx⟩ := List.mem_flatMap.1 hx
        rcases List.mem_cons.1 hx with hx | hx
        · exact .inl hx
        · exact .inr (hpiece w' (List.mem_cons_of_mem w hw') x hx)
  constructor <;> intro hx
  · rcases hwords _ hx with hx | hx
    · exact absurd hx (by decide)
    · exact h.1 hx
  · rcases hwords _ hx with hx | hx
    · exact absurd hx (by decide)
    · exact h.2 hx

theorem unbroken_of_columns {env : Env} {player : Player}
    (h : ∀ column ∈ player.columns env, Unbroken column) : Unbroken (rowLine env player) := by
  have hspace : Unbroken [space] := unbroken_spaces 1
  have hbar : Unbroken [bar] := table_texts.2.2.2 _ List.mem_cons_self
  have hall : Unbroken (space :: rowLine env player) := by
    rw [space_rowLine]
    simp only [Player.columns, List.forall_mem_cons] at h
    obtain ⟨hid, hflag, hname, hping, hip, hport, hguid, -⟩ := h
    have hpad : ∀ {column}, Unbroken column → Unbroken (padded column) := fun hcolumn =>
      unbroken_append.2 ⟨hspace, unbroken_append.2 ⟨hcolumn, hspace⟩⟩
    simp only [Player.columns, List.map_cons, List.map_nil, List.intercalate_cons_cons,
      List.intercalate_singleton, unbroken_append, hbar, hpad hid, hpad hflag, hpad hname,
      hpad hping, hpad hip, hpad hport, hpad hguid, and_self]
  exact (unbroken_cons.1 hall).2

theorem row_unbroken {env : Env}
    (hcountry : ∀ ip country, env.country ip = some country → Unbroken country)
    (e : ListedPlayer) : ∀ column ∈ e.row.columns env, Unbroken column := by
  have hparts := e.unbroken
  have htexts := table_texts.2.2.2
  simp only [List.forall_mem_cons] at hparts htexts
  obtain ⟨hid, hip, hport, hping, hguid, hname, -⟩ := hparts
  obtain ⟨-, hopening, hclosing, hjoining, -⟩ := htexts
  have hflag : Unbroken (e.row.flag env) := by
    unfold Player.flag
    split
    · rename_i country hc
      exact unbroken_append.2 ⟨unbroken_append.2 ⟨hopening, hcountry _ _ hc⟩, hclosing⟩
    · exact ⟨List.not_mem_nil, List.not_mem_nil⟩
  have hshown : Unbroken e.row.guid := by
    unfold PlayerLine.row
    split
    · exact hjoining
    · exact hguid
  simp only [Player.columns, List.forall_mem_cons]
  exact ⟨hid, hflag, unbroken_name hname, hping, hip, hport, hshown, fun _ h =>
    absurd h List.not_mem_nil⟩

theorem table_payload (env : Env) (rows : List Player) :
    lit "| ID | Flag | Name | Ping | IP | Port | GUID |\n" ++
        lit "|---|---|---|---|---|---|---|\n" ++ rows.flatMap (playerRow env) =
      payload (tableHead ++ rows.map (rowLine env)) := by
  rw [table_texts.2.2.1, payload_append]
  congr 1
  rw [payload, List.flatMap_map]
  exact List.flatMap_congr fun player _ => playerRow_eq

theorem rowLine_ne_nil (env : Env) (player : Player) : (rowLine env player).isEmpty = false := by
  simp [rowLine, Player.columns, padded, List.intercalate_cons_cons]

/-- Reading the posted rows. -/
theorem readTable_arrived {env : Env} {rows : List Player} {posted : Text} {k : Nat}
    (h : splitLines posted = tableHead ++ rows.map (rowLine env) ++ List.replicate k []) :
    readTable posted = rows.map fun player => readRow (rowLine env player) := by
  have hrows : (rows.map (rowLine env)).filter (fun line => !line.isEmpty) =
      rows.map (rowLine env) := by
    refine List.filter_eq_self.2 fun line hline => ?_
    obtain ⟨player, -, rfl⟩ := List.mem_map.1 hline
    rw [rowLine_ne_nil, Bool.not_false]
  have hblank : (List.replicate k ([] : Text)).filter (fun line => !line.isEmpty) = [] :=
    List.filter_eq_nil_iff.2 fun line hline => by simp [List.eq_of_mem_replicate hline]
  rw [readTable, h, List.append_assoc]
  change (((rows.map (rowLine env) ++ List.replicate k []).filter _).map readRow) = _
  rw [List.filter_append, hrows, hblank, List.append_nil, List.map_map]
  rfl

/-- **The player table can be read back when no column holds a bar, and only then.** Take any answer
of the game server in which no line of a player has the words of the last line. What `players+`
posts, in however many messages, gives back the columns of every player, in order, exactly when
there is no bar in any of them. -/
theorem players_table_iff (env : Env)
    (hcountry : ∀ ip country, env.country ip = some country → Unbroken country) {this : Rcon}
    {c : Channel} (hthis : this.commandChannel = some c) (hc : c.type = .text)
    (h₁ h₂ h₃ : Heading) {entries : List (ListedPlayer × Break)}
    (htotal : ∀ e ∈ entries, isTotal e.1.line = false) :
    readTable (sent (replyAction env this .playerList
        (playersReply h₁ h₂ h₃ entries) []).2).flatten =
        entries.map (fun e => e.1.row.columns env) ↔
      ∀ e ∈ entries, ∀ column ∈ e.1.row.columns env, bar ∉ column := by
  let rows := entries.map fun e => e.1.row
  have hrows : players (playersReply h₁ h₂ h₃ entries) = rows := by
    rw [players_reply, List.filter_eq_self.2 fun e he => by rw [htotal e he, Bool.not_false]]
  have hhead : ∀ line ∈ tableHead, Unbroken line := fun line hline =>
    table_texts.2.2.2 line (by simp [hline])
  have hunbroken : ∀ line ∈ tableHead ++ rows.map (rowLine env), Unbroken line := by
    intro line hline
    rcases List.mem_append.1 hline with hline | hline
    · exact hhead line hline
    · obtain ⟨player, hplayer, rfl⟩ := List.mem_map.1 hline
      obtain ⟨e, -, rfl⟩ := List.mem_map.1 hplayer
      exact unbroken_of_columns (row_unbroken hcountry e.1)
  obtain ⟨k, hk⟩ := printLongMessage_arrives hunbroken hc
  have hposted : replyAction env this .playerList (playersReply h₁ h₂ h₃ entries) =
      printLongMessage (payload (tableHead ++ rows.map (rowLine env))) (some c) := by
    rw [replyAction, processPlayerList, hrows, hthis, table_payload]
  rw [hposted, readTable_arrived hk, List.map_map, List.map_inj_left]
  exact forall₂_congr fun e _ => readRow_iff

/-- A player called Bob. -/
def plainPlayer : ListedPlayer where
  toPlayerLine := sampleLine (lit "Bob")
  name_ne := by decide +kernel
  unbroken := sampleFields_unbroken (by unfold Unbroken; decide +kernel)

/-- A player with a bar in the name. -/
def barredPlayer : ListedPlayer where
  toPlayerLine := sampleLine (lit "a | b")
  name_ne := by decide +kernel
  unbroken := sampleFields_unbroken (by unfold Unbroken; decide +kernel)

/-- The table of Bob is read back, with the flag. When the other player comes in, the row of that
player has a column too many, and the ping stands where the address should. -/
theorem players_table_barred :
    let env := { (default : Env) with country := fun _ => some (lit "be") }
    let this := { Rcon.blank .undefined default with commandChannel := some textChannel }
    let posted := fun entries => (sent (replyAction env this .playerList
      (playersReply heading heading heading entries) []).2).flatten
    let bob := [lit "0", lit ":flag_be:", lit "Bob", lit "47", lit "1.2.3.4", lit "2304",
      lit "ab(OK)"]
    let entries := [(plainPlayer, Break.lf), (barredPlayer, Break.lf)]
    readTable (posted [(plainPlayer, .lf)]) = [bob] ∧
      readTable (posted entries) ≠ entries.map (fun e => e.1.row.columns env) ∧
      readTable (posted entries) = [bob, [lit "0", lit ":flag_be:", lit "a", lit "b", lit "47",
        lit "1.2.3.4", lit "2304", lit "ab(OK)"]] := by
  intro env this posted bob entries
  have hcountry : ∀ ip country, env.country ip = some country → Unbroken country := by
    intro ip country hc
    cases hc
    unfold Unbroken
    decide +kernel
  have htable : ∀ entries : List (ListedPlayer × Break),
      (∀ e ∈ entries, isTotal e.1.line = false) →
      (readTable (posted entries) = entries.map (fun e => e.1.row.columns env) ↔
        ∀ e ∈ entries, ∀ column ∈ e.1.row.columns env, bar ∉ column) := fun entries htotal =>
    players_table_iff env hcountry (show this.commandChannel = some textChannel from rfl) rfl
      heading heading heading htotal
  refine ⟨?_, fun h => ?_, by decide +kernel⟩
  · have hread := (htable [(plainPlayer, .lf)] (by decide +kernel)).2 (by decide +kernel)
    exact hread.trans (by decide +kernel)
  · have hbar := (htable entries (by decide +kernel)).1 h (barredPlayer, .lf) (by simp [entries])
      (lit "a | b") (by decide +kernel)
    exact hbar (by decide +kernel)

end ZBot
