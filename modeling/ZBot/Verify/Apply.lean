import ZBot.Verify.Startup

/-!
# Applying configurations

`applyConfig` (of a reload) and `applyConfigs` (of the start-up) install the parsed value and then
fill in `showChannels` of its servers, one after the other.

* A value that is refused on the way is already installed. So an application that throws leaves the
  guild as it was only when the text was no JSON, or by coincidence, when what was written is what
  had been there (`applyConfig_atomic_iff`, `half_applied`).
* The two differ on a text that denotes `null`, `false`, `0` or `''`: the one for the start-up
  passes over it, the one for a reload fills in the configuration the guild has. So they agree when
  that is filled in already (`applyConfigs_agrees_iff`, `null_applied`).
-/

namespace ZBot

open Js

/-! ## What the loop over the servers leaves -/

section Filling

/-- A server with the defaults under its own `showChannels`. -/
def filledServer (showChannels server : Value) : Value :=
  match normaliseServer showChannels server with
  | .ok server' => server'
  | .error _ => server

/-- A configuration with the servers filled in that come before the first one that is no object. -/
def filled (showChannels specific : Value) : Value :=
  match serverList specific with
  | .ok servers => setServers specific
    ((servers.takeWhile writable).map (filledServer showChannels) ++ servers.dropWhile writable)
  | .error _ => specific

theorem normaliseServers_snd (showChannels : Value) (servers : List Value) :
    (normaliseServers showChannels servers).2 =
      (servers.takeWhile writable).map (filledServer showChannels) ++
        servers.dropWhile writable := by
  induction servers with
  | nil => rfl
  | cons server rest ih =>
    have hwritable := normaliseServer_ok_iff showChannels server
    rw [normaliseServers]
    cases hserver : normaliseServer showChannels server with
    | error e =>
      rw [hserver] at hwritable
      have hnot : ¬writable server = true := fun h => by
        obtain ⟨_, h'⟩ := hwritable.2 h
        cases h'
      rw [List.takeWhile_cons_of_neg hnot, List.dropWhile_cons_of_neg hnot]
      rfl
    | ok server' =>
      have h : writable server = true := hwritable.1 ⟨server', hserver⟩
      rw [List.takeWhile_cons_of_pos h, List.dropWhile_cons_of_pos h, List.map_cons,
        List.cons_append, ← ih, filledServer, hserver]

theorem normalise_snd (showChannels specific : Value) :
    (normalise showChannels specific).2 = filled showChannels specific := by
  unfold normalise filled
  cases serverList specific with
  | error e => rfl
  | ok servers => exact congrArg (setServers specific) (normaliseServers_snd showChannels servers)

/-- `bercon.servers` is a list in which every server has `showChannels`. -/
def ShowsChannels (specific : Value) : Prop :=
  ∃ servers, serverList specific = .ok servers ∧
    ∀ server ∈ servers, (Value.lookup server.fields (lit "showChannels")).isSome = true

theorem normaliseServers_shows {showChannels : Value} {servers : List Value}
    (h : (normaliseServers showChannels servers).1 = .ok ()) :
    ∀ server ∈ (normaliseServers showChannels servers).2,
      (Value.lookup server.fields (lit "showChannels")).isSome = true := by
  induction servers with
  | nil => exact nofun
  | cons server rest ih =>
    unfold normaliseServers at h ⊢
    cases hserver : normaliseServer showChannels server with
    | error e =>
      rw [hserver] at h
      cases h
    | ok server' =>
      rw [hserver] at h
      obtain ⟨x, hset⟩ := normaliseServer_set hserver
      refine List.forall_mem_cons.2 ⟨?_, ih h⟩
      rw [(Value.set_ok hset).2.2, Value.lookup_insert_self, Option.isSome_some]

theorem normalise_shows {showChannels specific : Value} (h : servable specific = true) :
    ShowsChannels (normalise showChannels specific).2 := by
  cases hlist : serverList specific with
  | error e =>
    rw [servable, hlist] at h
    cases h
  | ok servers =>
    have hok : (normaliseServers showChannels servers).1 = .ok () := by
      rw [normaliseServers_ok_iff]
      rwa [servable, hlist] at h
    rw [normalise, hlist]
    exact ⟨_, (setServers_spec hlist _).1, normaliseServers_shows hok⟩

end Filling

/-! ## One application -/

section Atomic

variable {env : Env} {g : GuildId} {text : Text} {w : World}

/-- The world without the record of the rcons that hold a server of the configuration: the values
that are left are compared. -/
def World.plain (w : World) : World :=
  { w with objs := fun d => { w.objs d with shared := fun _ => none } }

/-- The application returns and leaves a complete configuration, or it throws and changes
nothing. -/
def Atomic (env : Env) (g : GuildId) (text : Text) (w : World) : Prop :=
  ((applyConfig env g text w).1 = .ok () ∧
      (g ∈ w.guildIds → ShowsChannels ((applyConfig env g text w).2.data g).specific)) ∨
    ((applyConfig env g text w).1 ≠ .ok () ∧ (applyConfig env g text w).2.plain = w.plain)

/-- The condition on the input: the configuration to fill in, if there is one, has an array of
servers that can all be written. -/
def Applicable (env : Env) (g : GuildId) (text : Text) (w : World) : Prop :=
  g ∈ w.guildIds → ∀ v, env.parse text = some v → servable (chosen (w.data g).specific v) = true

/-- The coincidence: filling it in as far as possible gives the configuration the guild has. -/
def Ineffective (env : Env) (g : GuildId) (text : Text) (w : World) : Prop :=
  ∃ v, env.parse text = some v ∧
    filled env.showChannels (chosen (w.data g).specific v) = (w.data g).specific

theorem World.setConfig_plain (w : World) (d : DataRef) :
    (w.setConfig d (w.objs d).specific).plain = w.plain := by
  have hobjs : (w.setConfig d (w.objs d).specific).plain.objs = w.plain.objs := by
    funext d'
    by_cases hd : d' = d
    · subst hd
      simp [World.plain]
    · simp [World.plain, hd]
  calc (w.setConfig d (w.objs d).specific).plain
      = { w with objs := (w.setConfig d (w.objs d).specific).plain.objs } := rfl
    _ = w.plain := by rw [hobjs]; rfl

/-- Writing what is there changes nothing. -/
theorem World.Shares.fill_eq_self (hw : w.Shares) (d : DataRef) :
    w.fill d (w.objs d).specific = w := by
  have hobjs : (w.fill d (w.objs d).specific).objs = w.objs := by
    funext d'
    by_cases hd : d' = d
    · subst hd
      rw [World.fill_self]
    · rw [World.fill_of_ne _ _ hd]
  have hrcons : (w.fill d (w.objs d).specific).rcons = w.rcons := by
    funext r
    by_cases hd : r.data = d
    · subst hd
      cases hshared : (w.objs r.data).shared r.num with
      | none => exact w.fill_rcons_of_none _ hshared
      | some i =>
        obtain ⟨servers, hservers, hcfg⟩ := hw r i hshared
        exact w.fill_rcons_of_some hservers hshared hcfg
    · exact w.fill_rcons_of_ne _ hd
  calc w.fill d (w.objs d).specific
      = { w with objs := (w.fill d (w.objs d).specific).objs,
                 rcons := (w.fill d (w.objs d).specific).rcons } := rfl
    _ = w := by rw [hobjs, hrcons]

theorem World.Shares.reconfigure_plain_iff (hw : w.Shares) {d : DataRef} {v specific : Value} :
    (w.reconfigure d v specific).plain = w.plain ↔ specific = (w.objs d).specific := by
  constructor
  · intro h
    have hobj : ((w.reconfigure d v specific).plain.objs d).specific =
        (w.plain.objs d).specific := by rw [h]
    exact (World.reconfigure_specific w d v specific).symm.trans hobj
  · rintro rfl
    unfold World.reconfigure
    split
    · exact w.setConfig_plain d
    · rw [hw.fill_eq_self]

/-- **Atomic application.** A known guild whose text denotes a value keeps its configuration or gets
a complete one when the configuration to fill in has servers that can all be written, and else only
by coincidence. -/
theorem applyConfig_atomic_iff (hw : w.Shares) :
    Atomic env g text w ↔ Applicable env g text w ∨ Ineffective env g text w := by
  unfold Atomic Applicable Ineffective
  by_cases hg : g ∈ w.guildIds
  swap
  · rw [applyConfig_unknown hg]
    exact ⟨fun _ => .inl fun h => absurd h hg, fun _ => .inl ⟨rfl, fun h => absurd h hg⟩⟩
  cases hparse : env.parse text with
  | none =>
    rw [applyConfig_unparsed hg hparse]
    exact ⟨fun _ => .inl fun _ _ h => (nomatch h), fun _ => .inr ⟨nofun, rfl⟩⟩
  | some v =>
    have hok := normalise_ok_iff env.showChannels (chosen (w.data g).specific v)
    rw [applyConfig_parsed hg hparse, hok, reconfigure_data_specific, hw.reconfigure_plain_iff,
      normalise_snd]
    constructor
    · rintro (⟨h, -⟩ | ⟨-, h⟩)
      · exact .inl fun _ _ hv => Option.some.inj hv ▸ h
      · exact .inr ⟨v, rfl, h⟩
    · intro h
      by_cases hservable : servable (chosen (w.data g).specific v) = true
      · refine .inl ⟨hservable, fun _ => ?_⟩
        rw [← normalise_snd]
        exact normalise_shows hservable
      · refine .inr ⟨mt hok.1 hservable, ?_⟩
        rcases h with happlicable | ⟨_, hv, hsame⟩
        · exact absurd (happlicable hg v rfl) hservable
        · cases hv
          exact hsame

end Atomic

/-- The bot is in one guild, which has no servers. -/
def plainWorld (env : Env) : World := World.start.addData env (sampleGuild sampleId)

theorem plainWorld_heap (env : Env) : (plainWorld env).Heap := World.Heap.start.addData env _

/-- A configuration with a server is stored for that guild. -/
theorem applyConfig_atomic_stored :
    Atomic sampleBot sampleId (lit "stored") (plainWorld sampleBot) := by
  refine (applyConfig_atomic_iff (plainWorld_heap sampleBot).shares).2 (.inl fun _ v hv => ?_)
  cases hv
  decide +kernel

/-- The stored text denotes an object without `bercon`: it is installed, and then the application
throws. -/
theorem half_applied :
    let env := sampleEnv (.obj [])
    ¬Atomic env sampleId (lit "stored") (plainWorld env) := by
  rintro env (⟨hok, -⟩ | ⟨-, hsame⟩)
  · revert hok
    decide +kernel
  · have hfields := congrArg (fun w => (World.data w sampleId).specific.fields.length) hsame
    revert hfields
    decide +kernel

/-! ## Many applications -/

section Bulk

variable {env : Env} {w : World}

/-- `applyConfig` on the stored text of a guild. -/
def applySingle (env : Env) (e : GuildId × Text) : BotM Unit := applyConfig env e.1 e.2

/-- The two ways to apply the stored texts throw on the same ones and leave the same state. -/
def Agrees (env : Env) (stored : List (GuildId × Text)) (w : World) : Prop :=
  let bulk := applyConfigs env (stored.map fun e => guildKey e.1) (stored.map fun e => some e.2) w
  let single := Prog.forEach stored (applySingle env) w
  (bulk.1 = .ok () ↔ single.1 = .ok ()) ∧ bulk.2 = single.2

/-- Filling in the configuration changes nothing. -/
def Settled (showChannels specific : Value) : Prop :=
  servable specific = true ∧ filled showChannels specific = specific

/-- The text is not passed over, or it is of an unknown guild, or the guild's configuration is
filled in. -/
def Matching (env : Env) (w : World) (e : GuildId × Text) : Prop :=
  e.1 ∈ w.guildIds → ∀ v, env.parse e.2 = some v → v.truthy = false →
    Settled env.showChannels (w.data e.1).specific

theorem applySingle_eq (hw : w.Shares) {e : GuildId × Text}
    (hparse : (env.parse e.2).isSome = true) (h : Matching env w e) :
    applySingle env e w = applyEntry env e w := by
  by_cases hg : e.1 ∈ w.guildIds
  swap
  · rw [applySingle, applyConfig_unknown hg, applyEntry_unknown hg]
  obtain ⟨v, hv⟩ := Option.isSome_iff_exists.1 hparse
  obtain ⟨g, text⟩ := e
  rw [applySingle, applyConfig_parsed hg hv, applyEntry_known hg, storedConfig, World.install, hv,
    chosen, World.reconfigure]
  cases htruthy : v.truthy with
  | true => simp only [htruthy, if_true]
  | false =>
    obtain ⟨hservable, hfilled⟩ := h hg v hv htruthy
    have hok := (normalise_ok_iff env.showChannels (w.data g).specific).2 hservable
    have hsame : w.fill (w.dataRef g) (w.data g).specific = w := hw.fill_eq_self _
    simp only [htruthy, Bool.false_eq_true, if_false, hok, normalise_snd, hfilled, hsame]

/-- The two ways differ on a text that is passed over when the guild's configuration is not filled
in. -/
theorem matching_of_agree {e : GuildId × Text}
    (hresult : (applyEntry env e w).1 = .ok () ↔ (applySingle env e w).1 = .ok ())
    (hstate : (applyEntry env e w).2 = (applySingle env e w).2) : Matching env w e := by
  intro hg v hv htruthy
  obtain ⟨g, text⟩ := e
  rw [applySingle, applyConfig_parsed hg hv, applyEntry_known hg, storedConfig, World.install, hv,
    chosen, World.reconfigure] at hresult hstate
  simp only [htruthy, Bool.false_eq_true, if_false, normalise_ok_iff, normalise_snd,
    true_iff] at hresult hstate
  have hspecific := congrArg (fun w' => (World.objs w' (w.dataRef g)).specific) hstate
  simp only [World.fill_self] at hspecific
  exact ⟨hresult, hspecific.symm⟩

/-- The data of a guild is not touched by the entry of another. -/
theorem applyEntry_data (env : Env) {e : GuildId × Text} {g : GuildId} (hne : e.1 ≠ g) (w : World) :
    ((applyEntry env e w).2.guildIds, (applyEntry env e w).2.data g) = (w.guildIds, w.data g) := by
  refine Prod.ext (applyEntry_guildIds env e w) ?_
  by_cases hg : e.1 ∈ w.guildIds
  · rw [show e = (e.1, e.2) from rfl, applyEntry_known hg]
    unfold World.install
    split
    · split
      · exact w.setConfig_of_ne _ (w.dataRef_ne hne.symm)
      · rfl
    · rfl
  · rw [applyEntry_unknown hg]

/-- The rcons of a new configuration share nothing yet. -/
theorem World.Shares.setConfig (hw : w.Shares) (d : DataRef) (specific : Value) :
    (w.setConfig d specific).Shares := by
  intro r i hr
  by_cases hd : r.data = d
  · subst hd
    rw [World.setConfig_self] at hr
    cases hr
  · rw [World.setConfig_of_ne _ _ hd] at hr ⊢
    exact hw r i hr

theorem applyEntry_shares (hw : w.Shares) (env : Env) (e : GuildId × Text) :
    (applyEntry env e w).2.Shares := by
  by_cases hg : e.1 ∈ w.guildIds
  · rw [show e = (e.1, e.2) from rfl, applyEntry_known hg]
    unfold World.install
    split
    · split
      · exact hw.setConfig _ _
      · exact hw
    · exact hw
  · rw [applyEntry_unknown hg]
    exact hw

theorem applyEntries_data (env : Env) {stored : List (GuildId × Text)} {g : GuildId}
    (h : ∀ e ∈ stored, e.1 ≠ g) :
    Prog.Within (fun w w' : World => (w'.guildIds, w'.data g) = (w.guildIds, w.data g))
      (Prog.forEach stored (applyEntry env)) :=
  .forEach (.eq fun w : World => (w.guildIds, w.data g)) fun e he => applyEntry_data env (h e he)

theorem Matching.of_data {w' : World} {e : GuildId × Text}
    (hsame : (w'.guildIds, w'.data e.1) = (w.guildIds, w.data e.1)) :
    Matching env w' e ↔ Matching env w e := by
  obtain ⟨hids, hdata⟩ := Prod.ext_iff.1 hsame
  simp only at hids hdata
  rw [Matching, Matching, hids, hdata]

/-- The two loops are the same as long as every entry that is reached matches. -/
theorem applySingles_eq (hw : w.Shares) {stored : List (GuildId × Text)}
    (hnodup : (stored.map Prod.fst).Nodup)
    (hparse : ∀ e ∈ stored, (env.parse e.2).isSome = true)
    (h : ∀ pre e post, stored = pre ++ e :: post → (∀ e' ∈ pre, ¬Stops env w.guildIds e') →
      Matching env w e) :
    Prog.forEach stored (applySingle env) w = Prog.forEach stored (applyEntry env) w := by
  induction stored generalizing w with
  | nil => rfl
  | cons e rest ih =>
    rw [List.map_cons, List.nodup_cons] at hnodup
    obtain ⟨hparse_e, hparse_rest⟩ := List.forall_mem_cons.1 hparse
    have hfirst := applySingle_eq hw hparse_e (h [] e rest rfl nofun)
    have hreturns := applyEntry_ok_iff env e w
    have hids := applyEntry_guildIds env e w
    have hshares := applyEntry_shares hw env e
    rw [Prog.forEach, Prog.forEach]
    rcases he : applyEntry env e w with ⟨_ | _, w₁⟩ <;> rw [he] at hfirst hreturns hids hshares
    · rw [Prog.bind_error he, Prog.bind_error hfirst]
    · rw [Prog.bind_ok he, Prog.bind_ok hfirst]
      refine ih hshares hnodup.2 hparse_rest fun pre e' post hsplit hpre => ?_
      have hne : e.1 ≠ e'.1 := fun heq =>
        hnodup.1 (List.mem_map.2 ⟨e', by rw [hsplit]; simp, heq.symm⟩)
      have hdata := applyEntry_data env hne w
      rw [he] at hdata
      refine (Matching.of_data hdata).2 (h (e :: pre) e' post (by rw [hsplit]; rfl) ?_)
      refine List.forall_mem_cons.2 ⟨hreturns.1 rfl, fun e'' he'' => ?_⟩
      rw [← hids]
      exact hpre e'' he''

/-- **The two ways to apply stored texts** agree on a list and all its first parts when each entry
that is reached matches. -/
theorem applyConfigs_agrees_iff (hw : w.Shares) {stored : List (GuildId × Text)}
    (hnodup : (stored.map Prod.fst).Nodup)
    (hparse : ∀ e ∈ stored, (env.parse e.2).isSome = true) :
    (∀ n, Agrees env (stored.take n) w) ↔
      ∀ pre e post, stored = pre ++ e :: post → (∀ e' ∈ pre, ¬Stops env w.guildIds e') →
        Matching env w e := by
  simp only [Agrees, applyConfigs_stored]
  constructor
  · intro h pre e post hsplit hpre
    have hfirst : stored.take pre.length = pre := by rw [hsplit, List.take_left]
    have hnext : stored.take (pre.length + 1) = pre ++ [e] := by
      rw [hsplit, List.take_length_add_append]
      rfl
    have hbefore := h pre.length
    have hafter := h (pre.length + 1)
    rw [hfirst] at hbefore
    rw [hnext] at hafter
    -- both loops return from the first part, in the same state
    have hbulk := (applyEntries_ok_iff env pre w).2 hpre
    have hsingle := hbefore.1.1 hbulk
    rw [Prog.forEach_append_ok hbulk, Prog.forEach_append_ok hsingle, ← hbefore.2,
      Prog.forEach_singleton, Prog.forEach_singleton] at hafter
    rw [hsplit, List.map_append, List.map_cons, List.nodup_append] at hnodup
    have hothers : ∀ e' ∈ pre, e'.1 ≠ e.1 := fun e' he' =>
      hnodup.2.2 e'.1 (List.mem_map_of_mem he') e.1 List.mem_cons_self
    exact (Matching.of_data (applyEntries_data env hothers w)).1
      (matching_of_agree hafter.1 hafter.2)
  · intro h n
    have htake : (stored.take n).Sublist stored := List.take_sublist n stored
    rw [applySingles_eq hw (hnodup.sublist (htake.map _)) fun e he => hparse e (htake.subset he)]
    · exact ⟨Iff.rfl, rfl⟩
    · intro pre e post hsplit hpre
      refine h pre e (post ++ stored.drop n) ?_ hpre
      conv_lhs => rw [← List.take_append_drop n stored, hsplit]
      simp

end Bulk

/-- A server that shows no side channel. -/
def quietServer : Value := .obj [(lit "showChannels", .obj [(lit "side", .bool false)])]

/-- A bot whose guilds have that server, until another configuration is stored. -/
def settledBot : Env :=
  { sampleBot with
    specific := sampleConfig [quietServer]
    parse := fun text => some (if text = lit "null" then .null else sampleConfig [sampleServer]) }

/-- A configuration is stored for one guild and `null` for another, whose configuration is filled in
already. -/
theorem applyConfigs_agrees_two :
    Agrees settledBot [(otherId, lit "stored"), (sampleId, lit "null")]
      ((plainWorld settledBot).addData settledBot (sampleGuild otherId)) := by
  have hshares := ((plainWorld_heap settledBot).addData settledBot (sampleGuild otherId)).shares
  have hagrees : (∀ n, Agrees settledBot
      ([(otherId, lit "stored"), (sampleId, lit "null")].take n) _) ↔ _ :=
    applyConfigs_agrees_iff hshares (by decide +kernel) fun _ _ => rfl
  refine hagrees.2 (fun pre e post hsplit _ _ v hv htruthy => ?_) 2
  have he : e ∈ [(otherId, lit "stored"), (sampleId, lit "null")] := by
    rw [hsplit]
    simp
  rcases List.mem_pair.1 he with rfl | rfl
  · cases hv
    exact absurd htruthy (by decide +kernel)
  · exact ⟨by decide +kernel, rfl⟩

/-- The stored text denotes `null`, and the guild has a server without `showChannels`: only the
reload fills it in. -/
theorem null_applied :
    let env := { sampleEnv .null with specific := sampleConfig [sampleServer] }
    ¬Agrees env [(sampleId, lit "null")] (plainWorld env) := by
  rintro env ⟨-, hsame⟩
  have hshows := congrArg (fun w => (configured (World.data w sampleId).specific).map fun server =>
    (Value.lookup server.fields (lit "showChannels")).isSome) hsame
  revert hshows
  decide +kernel

end ZBot
