import ZBot.Verify.Servers
import ZBot.Verify.Noninterference

/-!
# Start-up

With Redis, the start-up ends in one callback: `applyConfigs` writes the stored configurations into
the data objects, and `initBERcon(null)` builds the instances of all guilds. Each of the two is a
loop over guilds, and an exception in it ends the callback, so that one guild can keep another from
being served (`starved_by_neighbour`):

* a stored text that is no JSON, or has no array of servers, ends the first loop; the guilds whose
  keys come later keep the configuration of the file, and no guild is built;
* a configuration whose channels cannot be bound ends the second loop, and the guilds that were
  added later are not built.

What the callback does for a guild is otherwise its own matter: a foreign entry changes nothing that
belongs to the guild (`applyEntries_spares`), nor do the instances of another guild
(`buildGuilds_spares`). So a guild is left in one of three states, and which one is decided by the
stored texts and the order (`startup_behind`, `startup_stopped`, `startup_applied`).
-/

namespace ZBot

open Js BotM

/-- The start-up callback, with what is stored for the guilds. -/
def startup (env : Env) (o : RconRef → Oracle) (stored : List (GuildId × Text)) : BotM Unit :=
  mgetReply env o (stored.map fun e => guildKey e.1) (stored.map fun e => some e.2)

/-! ## One stored text -/

section Entry

variable {env : Env} {g : GuildId} {text : Text} {w : World}

/-- The body of the loop of `applyConfigs`, on the text that is stored for a guild. -/
def applyEntry (env : Env) (e : GuildId × Text) : BotM Unit :=
  applyStored env (guildKey e.1) (some (some e.2))

theorem applyConfigs_stored (env : Env) (stored : List (GuildId × Text)) :
    applyConfigs env (stored.map fun e => guildKey e.1) (stored.map fun e => some e.2) =
      Prog.forEach stored (applyEntry env) := by
  -- the loop reads the results by index, from the index of its first key on
  have hloop : ∀ (k : Nat) (results : List (Option Text)),
      (∀ i, results[k + i]? = (stored.map fun e => some e.2)[i]?) →
      Prog.forEach ((stored.map fun e => guildKey e.1).zipIdx k)
        (fun key => applyStored env key.1 results[key.2]?) =
      Prog.forEach stored (applyEntry env) := by
    induction stored with
    | nil => exact fun _ _ _ => rfl
    | cons e rest ih =>
      intro k results hresults
      have hfirst : results[k]? = some (some e.2) := hresults 0
      have hrest := ih (k + 1) results fun i => by
        rw [Nat.add_right_comm]
        exact hresults (i + 1)
      simp only [List.map_cons, List.zipIdx_cons, Prog.forEach, hfirst, hrest]
      rfl
  exact hloop 0 _ fun i => by rw [Nat.zero_add]

theorem find_known (ids : List GuildId) (g : GuildId) :
    (ids.find? fun h => h.val == g.val) = if g ∈ ids then some g else none := by
  induction ids with
  | nil => rfl
  | cons h ids ih =>
    by_cases heq : h = g
    · subst heq
      simp
    · have hval : ¬h.val = g.val := fun hval => heq (Subtype.ext hval)
      simp [hval, ih, Ne.symm heq]

/-- The text ends the loop: it is no JSON, or `bercon.servers` of what it denotes is no array of
objects. -/
def malformed (env : Env) (text : Text) : Bool :=
  match env.parse text with
  | none => true
  | some v => v.truthy && !servable v

/-- What a stored text makes of the configuration of a guild. -/
def storedConfig (env : Env) (text : Text) (current : Value) : Except Error Unit × Value :=
  match env.parse text with
  | none => (.error .syntaxError, current)
  | some v => if v.truthy then normalise env.showChannels v else (.ok (), current)

theorem storedConfig_ok_iff (current : Value) :
    (storedConfig env text current).1 = .ok () ↔ malformed env text = false := by
  unfold storedConfig malformed
  cases env.parse text with
  | none => exact ⟨fun h => (nomatch h), fun h => (nomatch h)⟩
  | some v =>
    cases htruthy : v.truthy with
    | false => exact ⟨fun _ => by simp [htruthy], fun _ => by simp [htruthy]⟩
    | true => simp [htruthy, normalise_ok_iff]

theorem applyEntry_unknown {e : GuildId × Text} (he : e.1 ∉ w.guildIds) :
    applyEntry env e w = (.ok (), w) := by
  simp only [applyEntry, applyStored, guildKey, replaceFirst_append, List.nil_append,
    Prog.read_bind, find_known, if_neg he]
  rfl

/-- The state after the entry of a known guild: a value that is falsy is passed over. -/
def World.install (w : World) (env : Env) (g : GuildId) (text : Text) : World :=
  match env.parse text with
  | some v =>
    if v.truthy then w.setConfig (w.dataRef g) (normalise env.showChannels v).2 else w
  | none => w

theorem World.install_guildIds (w : World) (env : Env) (g : GuildId) (text : Text) :
    (w.install env g text).guildIds = w.guildIds := by
  unfold World.install
  split
  · split <;> rfl
  · rfl

theorem applyEntry_known (hg : g ∈ w.guildIds) :
    applyEntry env (g, text) w =
      ((storedConfig env text (w.data g).specific).1, w.install env g text) := by
  simp only [applyEntry, applyStored, guildKey, replaceFirst_append, List.nil_append,
    Prog.read_bind, find_known, if_pos hg, jsonParse, storedConfig, World.install]
  cases env.parse text with
  | none => rfl
  | some v =>
    simp only [Prog.lift_ok_bind rfl, Prog.read_bind]
    cases htruthy : v.truthy with
    | false => simp
    | true =>
      have hset : setSpecific (w.dataRef g) v w = (.ok (), w.setConfig (w.dataRef g) v) := rfl
      simp only [if_true, Prog.when_true, Prog.bind_ok hset, normaliseData_apply,
        World.setConfig_self, World.setConfig_fill]

theorem setConfig_data_self (w : World) (g : GuildId) (specific : Value) :
    (w.setConfig (w.dataRef g) specific).data g =
      { w.data g with specific := specific, shared := fun _ => none } :=
  w.setConfig_self (w.dataRef g) specific

theorem install_specific (env : Env) (g : GuildId) (text : Text) (w : World) :
    ((w.install env g text).data g).specific =
      (storedConfig env text (w.data g).specific).2 := by
  unfold World.install storedConfig
  cases env.parse text with
  | none => rfl
  | some v =>
    cases htruthy : v.truthy with
    | false => simp [htruthy]
    | true =>
      simp only [htruthy, if_true]
      rw [setConfig_data_self]

/-- The entry ends the loop when the bot is in its guild. -/
def Stops (env : Env) (ids : List GuildId) (e : GuildId × Text) : Prop :=
  e.1 ∈ ids ∧ malformed env e.2 = true

theorem applyEntry_ok_iff (env : Env) (e : GuildId × Text) (w : World) :
    (applyEntry env e w).1 = .ok () ↔ ¬Stops env w.guildIds e := by
  by_cases hg : e.1 ∈ w.guildIds
  · rw [show e = (e.1, e.2) from rfl, applyEntry_known hg, storedConfig_ok_iff, Stops,
      and_iff_right hg, Bool.not_eq_true]
  · rw [applyEntry_unknown hg]
    exact ⟨fun _ h => hg h.1, fun _ => rfl⟩

theorem applyEntry_guildIds (env : Env) (e : GuildId × Text) (w : World) :
    (applyEntry env e w).2.guildIds = w.guildIds := by
  by_cases hg : e.1 ∈ w.guildIds
  · rw [show e = (e.1, e.2) from rfl, applyEntry_known hg]
    exact w.install_guildIds env e.1 e.2
  · rw [applyEntry_unknown hg]

/-- The first loop returns when no entry ends it. -/
theorem applyEntries_ok_iff (env : Env) (stored : List (GuildId × Text)) (w : World) :
    (Prog.forEach stored (applyEntry env) w).1 = .ok () ↔ ∀ e ∈ stored, ¬Stops env w.guildIds e :=
  Prog.forEach_ok_iff (V := World.guildIds) (p := fun ids e => ¬Stops env ids e)
    (applyEntry_guildIds env) (applyEntry_ok_iff env) stored w

end Entry

/-! ## The other guilds -/

section Spared

variable {g : GuildId} {ids : List GuildId} {w w' : World}

/-- The state is in order, and the bot is in the guilds `ids`. -/
def Known (ids : List GuildId) (w : World) : Prop := Tenants w ∧ w.guildIds = ids

/-- What belongs to the guild is left alone. -/
def Spares (ids : List GuildId) (g : GuildId) (w w' : World) : Prop :=
  Known ids w → Known ids w' ∧ Same g w w'

theorem Spares.frame (ids : List GuildId) (g : GuildId) : Prog.Frame (Spares ids g) :=
  Prog.Frame.guard ⟨.refl g, .trans⟩ (Known ids)

theorem Confined.known (hc : Confined g w w') (hw : Known ids w) : Known ids w' := by
  obtain ⟨hw', honly⟩ := hc hw.1
  exact ⟨hw', honly.guildIds.trans hw.2⟩

theorem Confined.spares {h : GuildId} (hne : h ≠ g) (hc : Confined h w w') : Spares ids g w w' :=
  fun hw => ⟨hc.known hw, (hc hw.1).2.same g hne.symm⟩

theorem Same.data (hs : Same g w w') : w.data g = w'.data g := by
  rw [World.data, hs.objs _ rfl, hs.dataRef]
  rfl

theorem setConfig_confined (w : World) (g : GuildId) (specific : Value) :
    Confined g w (w.setConfig (w.dataRef g) specific) :=
  setSpecific_confined rfl specific w

theorem applyEntry_confined (env : Env) (e : GuildId × Text) :
    Prog.Within (Confined e.1) (applyEntry env e) := by
  intro w
  by_cases hg : e.1 ∈ w.guildIds
  · rw [show e = (e.1, e.2) from rfl, applyEntry_known hg]
    unfold World.install
    split
    · split
      · exact setConfig_confined w e.1 _
      · exact (Confined.frame e.1).refl w
    · exact (Confined.frame e.1).refl w
  · rw [applyEntry_unknown hg]
    exact (Confined.frame e.1).refl w

/-- The entries of other guilds. -/
theorem applyEntries_spares (env : Env) {stored : List (GuildId × Text)}
    (h : ∀ e ∈ stored, e.1 ≠ g) :
    Prog.Within (Spares ids g) (Prog.forEach stored (applyEntry env)) :=
  .forEach (Spares.frame ids g) fun e he w => (applyEntry_confined env e w).spares (h e he)

theorem buildGuild_confined (env : Env) (o : RconRef → Oracle) (hg : g ∈ ids) (hw : Known ids w) :
    Confined g w (buildGuild env o g w).2 :=
  buildRcons_confined env o (d := w.dataRef g) rfl (hw.1.guilds g (hw.2 ▸ hg))

theorem buildGuilds_spares (env : Env) (o : RconRef → Oracle) {todo : List GuildId}
    (h : ∀ g' ∈ todo, g' ∈ ids ∧ g' ≠ g) :
    Prog.Within (Spares ids g) (Prog.forEach todo (buildGuild env o)) :=
  .forEach (Spares.frame ids g) fun g' hg' _ hw =>
    (buildGuild_confined env o (h g' hg').1 hw).spares (h g' hg').2 hw

end Spared

/-! ## The configuration of a guild -/

section Due

variable {env : Env} {ids : List GuildId}

/-- The configuration a guild is due: what is stored for it, or its current one. -/
def due (env : Env) (stored : List (GuildId × Text)) (g : GuildId) (current : Value) : Value :=
  match stored.find? fun e => e.1 = g with
  | some e =>
    match env.parse e.2 with
    | some v => chosen current v
    | none => current
  | none => current

theorem due_other (env : Env) {g h : GuildId} (hne : h ≠ g) (text : Text) (current : Value) :
    due env [(g, text)] h current = current := by
  simp [due, hne.symm]

theorem buildable_storedConfig {text : Text} (h : malformed env text = false) (current : Value) :
    buildable (storedConfig env text current).2 =
      buildable (match env.parse text with | some v => chosen current v | none => current) := by
  unfold malformed at h
  unfold storedConfig
  cases hparse : env.parse text with
  | none => rfl
  | some v =>
    rw [hparse] at h
    cases htruthy : v.truthy with
    | false => simp [chosen, htruthy]
    | true =>
      have hservable : servable v = true := by simpa [htruthy] using h
      simp [chosen, htruthy, buildable_normalise env.showChannels hservable]

/-- After the first loop, a guild can be built when the configuration it is due can be. -/
theorem applyEntries_buildable {stored : List (GuildId × Text)}
    (hkeys : (stored.map Prod.fst).Nodup) (hok : ∀ e ∈ stored, ¬Stops env ids e) {g : GuildId}
    (hg : g ∈ ids) {w : World} (hw : Known ids w) :
    buildable ((Prog.forEach stored (applyEntry env) w).2.data g).specific =
      buildable (due env stored g (w.data g).specific) := by
  induction stored generalizing w with
  | nil => rfl
  | cons e rest ih =>
    obtain ⟨he, hrest⟩ := List.nodup_cons.1 hkeys
    obtain ⟨hfirst, hothers⟩ := List.forall_mem_cons.1 hok
    have hreturns := (applyEntry_ok_iff env e w).2 (hw.2.symm ▸ hfirst)
    have hw₁ := (applyEntry_confined env e w).known hw
    by_cases heq : e.1 = g
    · -- no later entry is of the guild
      have hspared : Prog.Within (Spares ids g) (Prog.forEach rest (applyEntry env)) :=
        applyEntries_spares env fun e' he' h => he (heq ▸ h ▸ List.mem_map_of_mem he')
      obtain ⟨g', text⟩ := e
      obtain rfl : g' = g := heq
      have happly := @applyEntry_known env _ text w (hw.2.symm ▸ hg)
      have hformed : malformed env text = false :=
        Bool.eq_false_iff.2 fun h => hfirst ⟨hg, h⟩
      rw [happly] at hreturns hw₁
      rw [hreturns] at happly
      rw [Prog.forEach, Prog.bind_ok happly, ← (hspared _ hw₁).2.data, install_specific,
        buildable_storedConfig hformed, due, List.find?_cons_of_pos (by simp)]
    · have hsame := ((applyEntry_confined env e w).spares heq hw).2
      rcases happly : applyEntry env e w with ⟨_ | _, w₁⟩ <;> rw [happly] at hreturns hw₁ hsame
      · cases hreturns
      · rw [Prog.forEach, Prog.bind_ok happly, ih hrest hothers hw₁, ← hsame.data, due, due,
          List.find?_cons_of_neg (by simpa using heq)]

end Due

/-! ## The callback, for one guild -/

section Startup

variable {env : Env} {o : RconRef → Oracle} {g : GuildId} {text : Text} {v : Value} {w : World}
  {before after : List (GuildId × Text)} {ahead behind : List GuildId}

/-- A configuration that its guild can be served with: `bercon.servers` is an array of objects, each
with the names of its channels. -/
structure WellFormed (v : Value) : Prop where
  truthy : v.truthy = true
  servable : servable v = true
  bindable : (configured v).all bindable = true

theorem WellFormed.storedConfig (hv : WellFormed v) (hparse : env.parse text = some v)
    (current : Value) :
    storedConfig env text current = (.ok (), (normalise env.showChannels v).2) := by
  have hok := (normalise_ok_iff env.showChannels v).2 hv.servable
  rw [ZBot.storedConfig, hparse]
  simp only [hv.truthy, if_true]
  rw [← hok]

theorem WellFormed.not_stops (hv : WellFormed v) (hparse : env.parse text = some v)
    (ids : List GuildId) : ¬Stops env ids (g, text) := by
  rintro ⟨-, hmalformed⟩
  simp [malformed, hparse, hv.servable] at hmalformed

/-- The guild with the stored configuration, before its instances are built. -/
def World.configure (w : World) (env : Env) (g : GuildId) (v : Value) : World :=
  w.setConfig (w.dataRef g) (normalise env.showChannels v).2

variable (hw : Known (ahead ++ g :: behind) w) (hids : (ahead ++ g :: behind).Nodup)
  (hkeys : ((before ++ (g, text) :: after).map Prod.fst).Nodup) (hv : WellFormed v)
  (hparse : env.parse text = some v)

include hw hkeys

omit hw in
theorem others_before : ∀ e ∈ before, e.1 ≠ g := by
  intro e he heq
  rw [List.map_append, List.nodup_append] at hkeys
  exact hkeys.2.2 e.1 (List.mem_map_of_mem he) g (by simp) heq

omit hw in
theorem others_after : ∀ e ∈ after, e.1 ≠ g := by
  intro e he heq
  rw [List.map_append, List.map_cons, List.nodup_append, List.nodup_cons] at hkeys
  exact hkeys.2.1.1 (List.mem_map.2 ⟨e, he, heq⟩)

/-- An entry before the one of the guild ends the callback: the guild is left as it was. -/
theorem startup_behind (hstop : ∃ e ∈ before, Stops env w.guildIds e) :
    Same g w (startup env o (before ++ (g, text) :: after) w).2 := by
  have hthrows : (Prog.forEach before (applyEntry env) w).1 ≠ .ok () := by
    rw [Ne, applyEntries_ok_iff]
    push Not
    exact hstop
  have hspared := (applyEntries_spares env (others_before hkeys) w hw).2
  rcases e : Prog.forEach before (applyEntry env) w with ⟨_ | _, w₁⟩ <;> rw [e] at hthrows hspared
  · have happly : Prog.forEach (before ++ (g, text) :: after) (applyEntry env) w = (_, w₁) :=
      (Prog.forEach_append_error (e ▸ hthrows)).trans e
    rw [startup, mgetReply, applyConfigs_stored, Prog.bind_error happly]
    exact hspared
  · exact absurd rfl hthrows

include hv hparse

/-- The first loop reaches the entry of the guild. -/
theorem applyEntries_own (hbefore : ∀ e ∈ before, ¬Stops env w.guildIds e) :
    let w' := (Prog.forEach (before ++ (g, text) :: after) (applyEntry env) w).2
    Known (ahead ++ g :: behind) w' ∧ Same g (w.configure env g v) w' := by
  have hreturns := (applyEntries_ok_iff env before w).2 hbefore
  obtain ⟨hw₁, hsame₁⟩ := applyEntries_spares env (others_before hkeys) w hw
  rw [Prog.forEach_append_ok hreturns]
  generalize (Prog.forEach before (applyEntry env) w).2 = w₁ at hw₁ hsame₁ ⊢
  have happly : applyEntry env (g, text) w₁ = (.ok (), w₁.configure env g v) := by
    rw [applyEntry_known (hw₁.2.symm ▸ by simp), hv.storedConfig hparse, World.install, hparse]
    simp only [hv.truthy, if_true]
    rfl
  have hown : Same g (w.configure env g v) (w₁.configure env g v) := by
    rw [World.configure, World.configure, ← hsame₁.dataRef]
    exact (setSpecific_agrees (d := w.dataRef g) rfl _ w w₁ hsame₁).2
  obtain ⟨hw₂, hsame₂⟩ := applyEntries_spares env (others_after hkeys) (w₁.configure env g v)
    ((setConfig_confined w₁ g _).known hw₁)
  rw [Prog.forEach, Prog.bind_ok happly]
  exact ⟨hw₂, hown.trans hsame₂⟩

/-- A later entry ends the callback: the guild has its configuration, and is not built. -/
theorem startup_stopped (hbefore : ∀ e ∈ before, ¬Stops env w.guildIds e)
    (hstop : ∃ e ∈ before ++ (g, text) :: after, Stops env w.guildIds e) :
    Same g (w.configure env g v) (startup env o (before ++ (g, text) :: after) w).2 := by
  obtain ⟨-, hsame⟩ := applyEntries_own hw hkeys hv hparse hbefore
  have hthrows : (Prog.forEach (before ++ (g, text) :: after) (applyEntry env) w).1 ≠ .ok () := by
    rw [Ne, applyEntries_ok_iff]
    push Not
    exact hstop
  rw [startup, mgetReply, applyConfigs_stored]
  rcases e : Prog.forEach (before ++ (g, text) :: after) (applyEntry env) w with ⟨_ | _, w₁⟩ <;>
    rw [e] at hthrows hsame
  · rw [Prog.bind_error e]
    exact hsame
  · exact absurd rfl hthrows

variable (ho : ∀ r, (o r).Connects)

include hids ho

/-- The second loop, when the first one returned: it is ended by a guild ahead, or builds the
guild. -/
theorem startup_applied (hnone : ∀ e ∈ before ++ (g, text) :: after, ¬Stops env w.guildIds e) :
    let w' := (startup env o (before ++ (g, text) :: after) w).2
    let ready := ∀ h ∈ ahead,
      buildable (due env (before ++ (g, text) :: after) h (w.data h).specific) = true
    (¬ready → Same g (w.configure env g v) w') ∧
      (ready → Same g (buildGuild env o g (w.configure env g v)).2 w') := by
  intro w' ready
  have hreturns := (applyEntries_ok_iff env _ w).2 hnone
  obtain ⟨hw₁, hsame₁⟩ := applyEntries_own hw hkeys hv hparse fun e he =>
    hnone e (List.mem_append_left _ he)
  have hahead : ∀ h ∈ ahead, h ∈ ahead ++ g :: behind ∧ h ≠ g := fun h hh =>
    ⟨List.mem_append_left _ hh, (List.nodup_append.1 hids).2.2 h hh g List.mem_cons_self⟩
  have hbehind : ∀ h ∈ behind, h ∈ ahead ++ g :: behind ∧ h ≠ g := fun h hh =>
    ⟨by simp [hh], fun heq => (List.nodup_cons.1 (List.nodup_append.1 hids).2.1).1 (heq ▸ hh)⟩
  have hready : (∀ h ∈ ahead, buildable ((Prog.forEach (before ++ (g, text) :: after)
      (applyEntry env) w).2.data h).specific = true) ↔ ready := by
    refine forall₂_congr fun h hh => ?_
    rw [applyEntries_buildable hkeys (hw.2 ▸ hnone) (hahead h hh).1 hw]
  have hrun : w' = (initBERconAll env o (Prog.forEach (before ++ (g, text) :: after)
      (applyEntry env) w).2).2 := by
    change (startup env o _ w).2 = _
    rw [startup, mgetReply, applyConfigs_stored]
    exact congrArg Prod.snd (Prog.bind_ok (Prod.ext hreturns rfl))
  rw [hrun, ← hready]
  generalize (Prog.forEach (before ++ (g, text) :: after) (applyEntry env) w).2 = w₁ at hw₁ hsame₁ ⊢
  have hloop : initBERconAll env o w₁ =
      Prog.forEach (ahead ++ g :: behind) (buildGuild env o) w₁ := by
    rw [← hw₁.2]
    rfl
  obtain ⟨hw₂, hsame₂⟩ := buildGuilds_spares env o hahead w₁ hw₁
  rw [hloop, ← buildGuilds_ok_iff env ho ahead w₁]
  constructor
  · intro hthrows
    rw [Prog.forEach_append_error hthrows]
    exact hsame₁.trans hsame₂
  · intro hok
    rw [Prog.forEach_append_ok hok]
    generalize (Prog.forEach ahead (buildGuild env o) w₁).2 = w₂ at hw₂ hsame₂ ⊢
    have hsame := hsame₁.trans hsame₂
    have hbuild : Same g (buildGuild env o g (w.configure env g v)).2
        (buildGuild env o g w₂).2 := by
      rw [buildGuild, Prog.read_bind, Prog.read_bind, hsame.dataRef]
      exact (buildRcons_agrees env o (d := w₂.dataRef g) rfl _ _ hsame).2
    have hw₃ := (buildGuild_confined (g := g) env o (by simp) hw₂).known hw₂
    rw [Prog.forEach]
    rcases e : buildGuild env o g w₂ with ⟨_ | _, w₃⟩ <;> rw [e] at hbuild hw₃
    · rw [Prog.bind_error e]
      exact hbuild
    · rw [Prog.bind_ok e]
      exact hbuild.trans (buildGuilds_spares env o hbehind w₃ hw₃).2

/-- The three states the callback can leave a guild in. -/
theorem startup_cases :
    let w' := (startup env o (before ++ (g, text) :: after) w).2
    let served := (∀ e ∈ before ++ (g, text) :: after, ¬Stops env w.guildIds e) ∧ ∀ h ∈ ahead,
      buildable (due env (before ++ (g, text) :: after) h (w.data h).specific) = true
    ((∃ e ∈ before, Stops env w.guildIds e) ∧ Same g w w') ∨
      ((∀ e ∈ before, ¬Stops env w.guildIds e) ∧ ¬served ∧ Same g (w.configure env g v) w') ∨
      served ∧ Same g (buildGuild env o g (w.configure env g v)).2 w' := by
  intro w' served
  by_cases hbefore : ∃ e ∈ before, Stops env w.guildIds e
  · exact .inl ⟨hbefore, startup_behind hw hkeys hbefore⟩
  push Not at hbefore
  by_cases hnone : ∀ e ∈ before ++ (g, text) :: after, ¬Stops env w.guildIds e
  · obtain ⟨hunbuilt, hbuilt⟩ := startup_applied hw hids hkeys hv hparse ho hnone
    by_cases hready : ∀ h ∈ ahead,
        buildable (due env (before ++ (g, text) :: after) h (w.data h).specific) = true
    · exact .inr (.inr ⟨⟨hnone, hready⟩, hbuilt hready⟩)
    · exact .inr (.inl ⟨hbefore, fun h => hready h.2, hunbuilt hready⟩)
  · have hstop := hnone
    push Not at hstop
    exact .inr (.inl
      ⟨hbefore, fun h => hnone h.1, startup_stopped hw hkeys hv hparse hbefore hstop⟩)

end Startup

/-! ## Isolation -/

/-- The state at start-up: nothing has been built. -/
structure Starting (w : World) : Prop where
  tenants : Tenants w
  listed : Listed w
  none : w.bercons = []

/-- What a guild is served with: its configuration and its instances. -/
def World.service (w : World) (g : GuildId) : Value × List (RconRef × Rcon) :=
  ((w.data g).specific, (w.data g).beRcons.map fun r => (r, w.rcons r))

theorem World.cfgs_eq (w : World) (g : GuildId) :
    w.cfgs g = (w.service g).2.map fun i => i.2.cfg := by
  simp [World.cfgs, World.service, Function.comp_def]

theorem World.service_nil {w : World} {g : GuildId} :
    (w.service g).2 = [] ↔ w.cfgs g = [] := by
  rw [w.cfgs_eq, List.map_eq_nil_iff]

theorem Same.service {g : GuildId} {w w' : World} (hw : Tenants w) (hs : Same g w w') :
    w'.service g = w.service g := by
  have hrcons : ∀ r ∈ (w.data g).beRcons, w'.rcons r = w.rcons r := fun r hr =>
    (hs.rcons r (hw.lists (w.dataRef g) r hr)).symm
  rw [World.service, World.service, ← hs.data]
  congr 1
  exact List.map_congr_left fun r hr => by rw [hrcons r hr]

/-- A guild is served after the start-up as if nothing was stored for the others, with one instance
for each of its servers when it is enabled. -/
def Isolated (env : Env) (o : RconRef → Oracle) (stored : List (GuildId × Text)) (g : GuildId)
    (text : Text) (w : World) : Prop :=
  let full := (startup env o stored w).2
  let alone := (startup env o [(g, text)] w).2
  full.service g = alone.service g ∧ full.cfgs g = activeServers (full.data g).specific

/-- What the stored texts and the order of the guilds must be for that: no entry ahead of the
guild's stops the first loop, and when the guild asks for instances no entry at all does, nor does a
guild ahead stop the second one. -/
def Undisturbed (env : Env) (stored : List (GuildId × Text)) (g : GuildId) (v : Value) (w : World) :
    Prop :=
  (∀ e ∈ stored.takeWhile fun e => e.1 ≠ g, ¬Stops env w.guildIds e) ∧
    (activeServers v = [] ∨ (∀ e ∈ stored, ¬Stops env w.guildIds e) ∧
      ∀ h ∈ w.guildIds.takeWhile fun h => h ≠ g, buildable (w.data h).specific = true ∧
        buildable (due env stored h (w.data h).specific) = true)

/-- A coincidence: the guild asks for no instance, and its configuration is what the stored text
would make of it, so that there is nothing to do for it. -/
def Anticipated (env : Env) (g : GuildId) (v : Value) (w : World) : Prop :=
  activeServers v = [] ∧ (w.data g).specific = (normalise env.showChannels v).2

section Isolation

variable {env : Env} {o : RconRef → Oracle} {g : GuildId} {v : Value} {w : World}

theorem Starting.cfgs_nil (hw : Starting w) (hg : g ∈ w.guildIds) : w.cfgs g = [] :=
  hw.listed.cfgs_nil hw.none hg

theorem Starting.configure_service (hw : Starting w) (hg : g ∈ w.guildIds) :
    (w.configure env g v).service g = ((normalise env.showChannels v).2, []) := by
  have hnone : (w.data g).beRcons = [] := List.map_eq_nil_iff.1 (hw.cfgs_nil hg)
  rw [World.service, World.configure, setConfig_data_self, hnone]
  rfl

/-- A guild with active servers is enabled, and its servers can be bound. -/
theorem WellFormed.buildable (hv : WellFormed v) (hactive : activeServers v ≠ []) :
    buildable v = true := by
  have hbindable := hv.bindable
  unfold activeServers at hactive
  unfold ZBot.buildable
  unfold configured at hbindable
  cases henabled : berconEnabled v with
  | error e => simp [henabled] at hactive
  | ok enabled =>
    cases enabled with
    | false => rfl
    | true =>
      cases hservers : serverList v with
      | error e => simp [henabled, hservers] at hactive
      | ok servers =>
        rw [hservers] at hbindable
        exact hbindable

/-- The instances of a guild that is reached. -/
theorem Starting.built_service (ho : ∀ r, (o r).Connects) (hw : Starting w) (hg : g ∈ w.guildIds)
    (hv : WellFormed v) :
    let w' := (buildGuild env o g (w.configure env g v)).2
    (w'.service g).1 = (normalise env.showChannels v).2 ∧
      w'.cfgs g = activeServers (normalise env.showChannels v).2 := by
  have hlisted : Listed (w.configure env g v) := (setSpecific_passive _ _ w).listed hw.listed
  have hnone : (w.configure env g v).cfgs g = [] := by
    have hlist : ((w.configure env g v).data g).beRcons = (w.data g).beRcons := by
      rw [World.configure, setConfig_data_self]
    rw [World.cfgs, hlist, List.map_eq_nil_iff.1 (hw.cfgs_nil hg), List.map_nil]
  have hspecific : ((w.configure env g v).data g).specific = (normalise env.showChannels v).2 := by
    rw [World.configure, setConfig_data_self]
  obtain ⟨hserving, -, ⟨k, hpart⟩, hfull⟩ := buildRcons_serves env o hlisted (g := g) hg
  rw [hnone, List.nil_append, hspecific] at hpart hfull
  refine ⟨(hserving.specific g).trans hspecific, ?_⟩
  change ((buildRcons env o ((w.configure env g v).dataRef g) (w.configure env g v)).2).cfgs g = _
  by_cases hactive : activeServers (normalise env.showChannels v).2 = []
  · rw [hpart, hactive, List.take_nil]
  · rw [activeServers_normalise env.showChannels hv.servable] at hactive
    refine hfull ((buildRcons_ok_iff ho env _ _).2 ?_)
    change buildable ((w.configure env g v).data g).specific = true
    rw [hspecific, buildable_normalise env.showChannels hv.servable]
    exact hv.buildable hactive

/-- What a guild is served with after the callback. -/
theorem Starting.startup_service (ho : ∀ r, (o r).Connects) (hw : Starting w)
    {before after : List (GuildId × Text)} {ahead behind : List GuildId}
    (hids : w.guildIds = ahead ++ g :: behind) {text : Text}
    (hkeys : ((before ++ (g, text) :: after).map Prod.fst).Nodup)
    (hparse : env.parse text = some v) (hv : WellFormed v) :
    let s := (startup env o (before ++ (g, text) :: after) w).2.service g
    let served := (∀ e ∈ before ++ (g, text) :: after, ¬Stops env w.guildIds e) ∧ ∀ h ∈ ahead,
      buildable (due env (before ++ (g, text) :: after) h (w.data h).specific) = true
    ((∃ e ∈ before, Stops env w.guildIds e) ∧ s = ((w.data g).specific, [])) ∨
      ((∀ e ∈ before, ¬Stops env w.guildIds e) ∧ ¬served ∧
        s = ((normalise env.showChannels v).2, [])) ∨
      served ∧ s = (buildGuild env o g (w.configure env g v)).2.service g := by
  have hg : g ∈ w.guildIds := hids ▸ by simp
  have hknown : Known (ahead ++ g :: behind) w := ⟨hw.tenants, hids⟩
  have hconfigured := (setConfig_confined w g (normalise env.showChannels v).2).known hknown
  have hbuilt := (buildGuild_confined (g := g) env o (by simp) hconfigured).known hconfigured
  have hnone : w.service g = ((w.data g).specific, []) :=
    Prod.ext rfl (World.service_nil.2 (hw.cfgs_nil hg))
  rcases startup_cases hknown (hids ▸ hw.listed.ids) hkeys hv hparse ho with
    ⟨hstop, hsame⟩ | ⟨hbefore, hserved, hsame⟩ | ⟨hserved, hsame⟩
  · exact .inl ⟨hstop, (hsame.service hw.tenants).trans hnone⟩
  · exact .inr (.inl ⟨hbefore, hserved,
      (hsame.service hconfigured.1).trans (hw.configure_service hg)⟩)
  · exact .inr (.inr ⟨hserved, hsame.service hbuilt.1⟩)

/-- The guild alone is stopped only by a guild ahead whose current configuration cannot be built. -/
theorem Starting.alone_service (ho : ∀ r, (o r).Connects) (hw : Starting w)
    {ahead behind : List GuildId} (hids : w.guildIds = ahead ++ g :: behind) {text : Text}
    (hparse : env.parse text = some v) (hv : WellFormed v) :
    let s := (startup env o [(g, text)] w).2.service g
    let ready := ∀ h ∈ ahead, buildable (w.data h).specific = true
    (¬ready ∧ s = ((normalise env.showChannels v).2, [])) ∨
      ready ∧ s = (buildGuild env o g (w.configure env g v)).2.service g := by
  have hahead : ∀ h ∈ ahead, h ≠ g := fun h hh =>
    (List.nodup_append.1 (hids ▸ hw.listed.ids)).2.2 h hh g List.mem_cons_self
  have hdue : (∀ h ∈ ahead, buildable (due env [(g, text)] h (w.data h).specific) = true) ↔
      ∀ h ∈ ahead, buildable (w.data h).specific = true :=
    forall₂_congr fun h hh => by rw [due_other env (hahead h hh)]
  have hown : ∀ e ∈ [(g, text)], ¬Stops env w.guildIds e :=
    List.forall_mem_singleton.2 (hv.not_stops hparse _)
  have hkeys : (([] ++ (g, text) :: []).map Prod.fst).Nodup := by simp
  have hcases := hw.startup_service ho hids hkeys hparse hv
  rw [List.nil_append, hdue] at hcases
  rcases hcases with ⟨⟨e, he, -⟩, -⟩ | ⟨-, hready, hs⟩ | ⟨hready, hs⟩
  · cases he
  · exact .inl ⟨fun h => hready ⟨hown, h⟩, hs⟩
  · exact .inr ⟨hready.2, hs⟩

/-- Two services compared: one is cut short when the guild is `stopped` or not `served`, the other
one when the guilds ahead are not `ready`. -/
theorem services_agree_iff {s t : Value × List (RconRef × Rcon)} {current config : Value}
    {instances : List (RconRef × Rcon)} {stopped served ready : Prop}
    (hcfgs : (instances.map fun i => i.2.cfg) = activeServers config)
    (hserved : served → ¬stopped)
    (hs : (stopped ∧ s = (current, [])) ∨ (¬stopped ∧ ¬served ∧ s = (config, [])) ∨
      served ∧ s = (config, instances))
    (ht : (¬ready ∧ t = (config, [])) ∨ ready ∧ t = (config, instances)) :
    (s = t ∧ (s.2.map fun i => i.2.cfg) = activeServers s.1) ↔
      (¬stopped ∨ current = config) ∧ (activeServers config = [] ∨ served ∧ ready) := by
  have hnil : activeServers config = [] → instances = [] := by
    intro h
    rw [h] at hcfgs
    exact List.map_eq_nil_iff.1 hcfgs
  have hconfig : t.1 = config := by rcases ht with ⟨-, rfl⟩ | ⟨-, rfl⟩ <;> rfl
  constructor
  · rintro ⟨rfl, hservers⟩
    rcases hs with ⟨-, rfl⟩ | ⟨hfree, -, rfl⟩ | ⟨hyes, rfl⟩
    · exact ⟨.inr hconfig, .inl (hconfig ▸ hservers.symm)⟩
    · exact ⟨.inl hfree, .inl hservers.symm⟩
    · refine ⟨.inl (hserved hyes), ?_⟩
      rcases ht with ⟨-, heq⟩ | ⟨hready, -⟩
      · obtain rfl : instances = [] := congrArg Prod.snd heq
        exact .inl hservers.symm
      · exact .inr ⟨hyes, hready⟩
  · rintro ⟨hfirst, hnone | ⟨hyes, hready⟩⟩
    · -- without active servers every service has no instances
      have hs' : s = (config, []) := by
        rcases hs with ⟨hstop, rfl⟩ | ⟨-, -, rfl⟩ | ⟨-, rfl⟩
        · rw [hfirst.resolve_left (not_not.2 hstop)]
        · rfl
        · rw [hnil hnone]
      have ht' : t = (config, []) := by
        rcases ht with ⟨-, rfl⟩ | ⟨-, rfl⟩
        · rfl
        · rw [hnil hnone]
      rw [hs', ht']
      exact ⟨rfl, hnone.symm⟩
    · rcases hs with ⟨hstop, -⟩ | ⟨-, hno, -⟩ | ⟨-, rfl⟩
      · exact absurd hstop (hserved hyes)
      · exact absurd hyes hno
      · rcases ht with ⟨hunready, -⟩ | ⟨-, rfl⟩
        · exact absurd hready hunready
        · exact ⟨rfl, hcfgs⟩

/-- What stands ahead of the first element that fails the test. -/
theorem takeWhile_split {α : Type} {p : α → Bool} {before after : List α} {a : α}
    (hbefore : ∀ b ∈ before, p b = true) (ha : ¬p a = true) :
    (before ++ a :: after).takeWhile p = before := by
  rw [List.takeWhile_append_of_pos hbefore, List.takeWhile_cons_of_neg ha, List.append_nil]

/-- **A guild is isolated at start-up exactly when no other guild stops one of the two loops**, a
coincidence apart, when the BattleNodes connect. -/
theorem startup_isolated_iff (ho : ∀ r, (o r).Connects) (hw : Starting w) (hg : g ∈ w.guildIds)
    {stored : List (GuildId × Text)} (hkeys : (stored.map Prod.fst).Nodup) {text : Text}
    (hstored : (g, text) ∈ stored) (hparse : env.parse text = some v) (hv : WellFormed v) :
    Isolated env o stored g text w ↔ Undisturbed env stored g v w ∨ Anticipated env g v w := by
  obtain ⟨ahead, behind, hids⟩ := List.append_of_mem hg
  obtain ⟨before, after, rfl⟩ := List.append_of_mem hstored
  have hahead : (w.guildIds.takeWhile fun h => h ≠ g) = ahead := by
    have hne : ∀ h ∈ ahead, h ≠ g := fun h hh =>
      (List.nodup_append.1 (hids ▸ hw.listed.ids)).2.2 h hh g List.mem_cons_self
    rw [hids]
    exact takeWhile_split (by simpa using hne) (by simp)
  have hbefore : ((before ++ (g, text) :: after).takeWhile fun e => e.1 ≠ g) = before :=
    takeWhile_split (fun e he => by simpa using others_before hkeys e he) (by simp)
  have hfree : (∀ e ∈ before, ¬Stops env w.guildIds e) ↔
      ¬∃ e ∈ before, Stops env w.guildIds e := by
    push Not
    rfl
  obtain ⟨hconfig, hcfgs⟩ := @Starting.built_service env o g v w ho hw hg hv
  have hfull := hw.startup_service ho hids hkeys hparse hv
  have halone := hw.alone_service ho hids hparse hv
  have hbuilt : (buildGuild env o g (w.configure env g v)).2.service g =
      ((normalise env.showChannels v).2,
        ((buildGuild env o g (w.configure env g v)).2.service g).2) := Prod.ext hconfig rfl
  rw [World.cfgs_eq] at hcfgs
  rw [hbuilt] at halone
  rw [hbuilt, hfree] at hfull
  rw [Undisturbed, Anticipated, hahead, hbefore, hfree,
    ← activeServers_normalise env.showChannels hv.servable, Isolated, World.cfgs_eq]
  refine (services_agree_iff hcfgs (fun h => hfree.1 fun e he => h.1 e (List.mem_append_left _ he))
    hfull halone).trans ?_
  rw [forall₂_and, and_assoc, and_comm (a := ∀ h ∈ ahead, buildable (w.data h).specific = true)]
  -- a guild whose entry is not reached is not built either
  constructor
  · rintro ⟨hreached | hsame, hnone | hall⟩
    · exact .inl ⟨hreached, .inl hnone⟩
    · exact .inl ⟨hreached, .inr hall⟩
    · exact .inr ⟨hnone, hsame⟩
    · exact .inl ⟨hfree.1 fun e he => hall.1 e (List.mem_append_left _ he), .inr hall⟩
  · rintro (⟨hreached, hrest⟩ | ⟨hnone, hsame⟩)
    · exact ⟨.inl hreached, hrest⟩
    · exact ⟨.inr hsame, .inl hnone⟩

end Isolation

/-! ## From the start -/

/-- With Redis, the bot is in order and has built nothing after `ready`. -/
theorem initAfterReady_starting {env : Env} (hredis : env.useRedis = true) (o : RconRef → Oracle)
    (guilds : List Guild) : Starting (initAfterReady env o guilds World.start).2 := by
  have hlisted : Listed (initAfterReady env o guilds World.start).2 :=
    initAfterReady_listed env o guilds Listed.start fun _ _ _ h => (nomatch h)
  have hf := Prog.Frame.inv fun w : World => Tenants w ∧ w.bercons = []
  have hkept : Prog.Within (fun w w' : World =>
      Tenants w ∧ w.bercons = [] → Tenants w' ∧ w'.bercons = [])
      (initAfterReady env o guilds) := by
    refine .bind hf (.read hf _) fun running => .when hf fun _ => ?_
    refine .bind hf ?_ fun _ => .bind hf ?_ fun _ => ?_
    · refine .forEach hf fun guild _ => .bind hf ?_ fun _ w hw => ⟨hw.1.addData env guild, hw.2⟩
      exact fun w hw => ⟨⟨hw.1.lists, hw.1.channels, hw.1.guilds, hw.1.requests⟩, hw.2⟩
    · rw [initRcons, if_pos hredis]
      refine fun w hw => ⟨⟨hw.1.lists, hw.1.channels, hw.1.guilds, fun guild c hc => ?_⟩, hw.2⟩
      rcases List.mem_append.1 hc with hc | hc
      · exact hw.1.requests guild c hc
      · cases List.mem_singleton.1 hc
    · exact fun w hw => ⟨⟨hw.1.lists, hw.1.channels, hw.1.guilds, hw.1.requests⟩, hw.2⟩
  obtain ⟨htenants, hnone⟩ := hkept World.start ⟨Tenants.start, rfl⟩
  exact ⟨htenants, hlisted, hnone⟩

/-- The sample bot, for which only one text is JSON. -/
def strictBot : Env :=
  { sampleBot with
    parse := fun text => if text = lit "stored" then some (sampleConfig [sampleServer]) else none }

theorem strictBot_parse : strictBot.parse (lit "stored") = some (sampleConfig [sampleServer]) := by
  simp [strictBot]

theorem sampleConfig_wellFormed : WellFormed (sampleConfig [sampleServer]) :=
  ⟨by decide +kernel, by decide +kernel, by decide +kernel⟩

/-- The bot is in two guilds, and reads the stored texts of both. -/
theorem startup_isolated_two :
    let w := (initAfterReady strictBot sampleOracle [sampleGuild otherId, sampleGuild sampleId]
      World.start).2
    let stored := [(otherId, lit "stored"), (sampleId, lit "stored")]
    Starting w ∧ (stored.map Prod.fst).Nodup ∧ WellFormed (sampleConfig [sampleServer]) ∧
      (sampleId, lit "stored") ∈ stored ∧
      Isolated strictBot sampleOracle stored sampleId (lit "stored") w := by
  intro w stored
  have hw : Starting w := initAfterReady_starting rfl _ _
  have hg : sampleId ∈ w.guildIds := by decide +kernel
  have hkeys : (stored.map Prod.fst).Nodup := by decide +kernel
  have hstored : (sampleId, lit "stored") ∈ stored := by simp [stored]
  have hformed : ∀ g, ¬Stops strictBot w.guildIds (g, lit "stored") := fun _ =>
    sampleConfig_wellFormed.not_stops strictBot_parse _
  have hfree : ∀ e ∈ stored, ¬Stops strictBot w.guildIds e :=
    List.forall_mem_cons.2 ⟨hformed _, List.forall_mem_singleton.2 (hformed _)⟩
  refine ⟨hw, hkeys, sampleConfig_wellFormed, hstored, ?_⟩
  rw [startup_isolated_iff (fun _ _ => ⟨rfl, rfl⟩) hw hg hkeys hstored strictBot_parse
    sampleConfig_wellFormed]
  exact .inl ⟨fun e he => hfree e ((List.takeWhile_subset _) he), .inr ⟨hfree, by decide +kernel⟩⟩

/-- What is stored for another guild is no JSON: the guild, whose own text is fine, is not served at
all. -/
theorem starved_by_neighbour :
    let w := (initAfterReady strictBot sampleOracle [sampleGuild otherId, sampleGuild sampleId]
      World.start).2
    let stored := [(otherId, lit "broken"), (sampleId, lit "stored")]
    (Starting w ∧ sampleId ∈ w.guildIds ∧ (stored.map Prod.fst).Nodup ∧
      (sampleId, lit "stored") ∈ stored ∧
      strictBot.parse (lit "stored") = some (sampleConfig [sampleServer]) ∧
      WellFormed (sampleConfig [sampleServer])) ∧
      ¬Isolated strictBot sampleOracle stored sampleId (lit "stored") w := by
  intro w stored
  refine ⟨⟨initAfterReady_starting rfl _ _, by decide +kernel, by decide +kernel, by simp [stored],
    strictBot_parse, sampleConfig_wellFormed⟩, fun h => ?_⟩
  have hlength := congrArg (fun s => s.2.length) h.1
  revert hlength
  decide +kernel

end ZBot
