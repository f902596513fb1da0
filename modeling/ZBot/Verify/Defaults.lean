import ZBot.Js.Store
import ZBot.Verify.Apply

/-!
# The defaults of `showChannels`

Filling in a server merges its own `showChannels` over the defaults, and leaves the rest of the
server and of the configuration as it was (`ServerFilled`, `ConfigFilled`). What has been filled in
is a fixed point (`normalise_fixed`).

The loop assigns to a clone of the defaults, which the bot keeps for all servers of all guilds.
`normaliseRecords` is the same loop with the maps by reference. It refines the loop over values
(`normaliseRecords_refines`), keeps every map there was, the defaults among them, and gives each
server a map of its own (`normaliseRecords_fresh`).
-/

namespace ZBot

open Js

variable {defaults : List (Text × Value)}

/-! ## One server -/

section Server

variable {server server' : Value}

/-- The members that a server's stored `showChannels` has. -/
def ownShown (server : Value) : List (Text × Value) :=
  match Value.lookup server.fields (lit "showChannels") with
  | some own => own.entries
  | none => []

/-- A server after its `showChannels` has been filled in. -/
structure ServerFilled (defaults : List (Text × Value)) (server server' : Value) : Prop where
  shown : ∃ members, server'.get (lit "showChannels") = .ok (.obj members) ∧
    ∀ k, Value.lookup members k =
      (Value.lookup (ownShown server) k).or (Value.lookup defaults k)
  others : ∀ k, k ≠ lit "showChannels" → server'.get k = server.get k
  items : server'.itemsD = server.itemsD

theorem defined_of_writable (h : writable server = true) : server.defined = true ∧
    Value.lookup server.fields (lit "hasOwnProperty") = none := by
  cases server with
  | obj fields => exact ⟨rfl, Option.isNone_iff_eq_none.1 h⟩
  | arr items fields => exact ⟨rfl, Option.isNone_iff_eq_none.1 h⟩
  | _ => cases h

theorem writable_set {x : Value} {k : Text} (h : server.set k x = .ok server')
    (hne : lit "hasOwnProperty" ≠ k) : writable server' = writable server := by
  cases server with
  | obj fields =>
    cases h
    rw [writable, writable, Value.lookup_insert_of_ne fields x hne]
  | arr items fields =>
    cases h
    rw [writable, writable, Value.lookup_insert_of_ne fields x hne]
  | _ => cases h

theorem itemsD_set {v v' x : Value} {k : Text} (h : v.set k x = .ok v') :
    v'.itemsD = v.itemsD := by
  cases v with
  | obj fields => cases h; rfl
  | arr items fields => cases h; rfl
  | _ => cases h

/-- A server that can be written gets the merge. -/
theorem normaliseServer_eq (h : writable server = true) :
    normaliseServer (.obj defaults) server =
      server.set (lit "showChannels") (.obj (Value.merge defaults (ownShown server))) := by
  obtain ⟨hdefined, hhidden⟩ := defined_of_writable h
  have hhas : server.hasOwnProperty (lit "showChannels") =
      .ok (Value.lookup server.fields (lit "showChannels")).isSome := by
    simp [Value.hasOwnProperty, hdefined, hhidden]
  rw [normaliseServer, hhas, ownShown]
  cases hown : Value.lookup server.fields (lit "showChannels") with
  | none => rfl
  | some own =>
    have hget : server.get (lit "showChannels") = .ok own := by
      rw [Value.get, if_pos hdefined, hown, Option.getD_some]
    change (server.get (lit "showChannels") >>= _) = _
    rw [hget]
    change server.set (lit "showChannels") ((Value.obj defaults).assign own) = _
    rw [Value.assign_obj]

theorem ownShown_distinct (h : Value.Proper server) : (Value.names (ownShown server)).Nodup := by
  unfold ownShown
  cases hown : Value.lookup server.fields (lit "showChannels") with
  | none => exact List.nodup_nil
  | some own => exact (h.member hown).distinct

theorem normaliseServer_filled (hserver : Value.Proper server)
    (h : normaliseServer (.obj defaults) server = .ok server') :
    ServerFilled defaults server server' := by
  have hwritable := (normaliseServer_ok_iff (.obj defaults) server).1 ⟨server', h⟩
  rw [normaliseServer_eq hwritable] at h
  exact {
    shown := ⟨_, Value.get_set_self h,
      Value.lookup_merge (ownShown_distinct hserver) defaults⟩
    others := fun k hk => Value.get_set_of_ne h hk
    items := itemsD_set h }

/-- A server that has been filled in stays as it is. -/
theorem normaliseServer_fixed (hdefaults : (Value.names defaults).Nodup)
    (h : normaliseServer (.obj defaults) server = .ok server') :
    normaliseServer (.obj defaults) server' = .ok server' := by
  have hwritable := (normaliseServer_ok_iff (.obj defaults) server).1 ⟨server', h⟩
  rw [normaliseServer_eq hwritable] at h
  have hwritable' : writable server' = true := by
    rw [writable_set h (by decide +kernel), hwritable]
  have hshown : Value.lookup server'.fields (lit "showChannels") =
      some (.obj (Value.merge defaults (ownShown server))) :=
    Value.lookup_of_get (Value.get_set_self h) rfl
  have hown : ownShown server' = Value.merge defaults (ownShown server) := by
    rw [ownShown, hshown]
    rfl
  rw [normaliseServer_eq hwritable', hown, Value.merge_merge hdefaults]
  exact Value.set_of_lookup hshown

end Server

/-! ## A configuration -/

section Config

variable {servers : List Value} {config config' : Value}

theorem normaliseServers_filled (hservers : ∀ server ∈ servers, Value.Proper server)
    (h : (normaliseServers (.obj defaults) servers).1 = .ok ()) :
    servers.Forall₂ (ServerFilled defaults) (normaliseServers (.obj defaults) servers).2 := by
  induction servers with
  | nil => exact .nil
  | cons server rest ih =>
    obtain ⟨hserver, hrest⟩ := List.forall_mem_cons.1 hservers
    unfold normaliseServers at h ⊢
    cases hnormalise : normaliseServer (.obj defaults) server with
    | error e =>
      rw [hnormalise] at h
      cases h
    | ok server' =>
      rw [hnormalise] at h
      exact .cons (normaliseServer_filled hserver hnormalise) (ih hrest h)

theorem normaliseServers_fixed (hdefaults : (Value.names defaults).Nodup)
    (h : (normaliseServers (.obj defaults) servers).1 = .ok ()) :
    normaliseServers (.obj defaults) (normaliseServers (.obj defaults) servers).2 =
      (.ok (), (normaliseServers (.obj defaults) servers).2) := by
  induction servers with
  | nil => rfl
  | cons server rest ih =>
    unfold normaliseServers at h
    cases hnormalise : normaliseServer (.obj defaults) server with
    | error e =>
      rw [hnormalise] at h
      cases h
    | ok server' =>
      rw [hnormalise] at h
      have hcons : (normaliseServers (.obj defaults) (server :: rest)).2 =
          server' :: (normaliseServers (.obj defaults) rest).2 := by
        rw [normaliseServers, hnormalise]
      rw [hcons, normaliseServers, normaliseServer_fixed hdefaults hnormalise]
      simp only [ih h]

/-- A configuration after its servers have been filled in. -/
structure ConfigFilled (defaults : List (Text × Value)) (config config' : Value) : Prop where
  servers : ∃ bercon bercon' servers servers' fields,
    config.get (lit "bercon") = .ok bercon ∧ config'.get (lit "bercon") = .ok bercon' ∧
    bercon.get (lit "servers") = .ok (.arr servers fields) ∧
    bercon'.get (lit "servers") = .ok (.arr servers' fields) ∧
    servers.Forall₂ (ServerFilled defaults) servers' ∧
    (∀ k, k ≠ lit "servers" → bercon'.get k = bercon.get k) ∧ bercon'.itemsD = bercon.itemsD
  others : ∀ k, k ≠ lit "bercon" → config'.get k = config.get k
  items : config'.itemsD = config.itemsD

/-- A loop that returns has gone over a list of servers and stored what it made of them. -/
theorem normalise_ok {showChannels : Value}
    (h : normalise showChannels config = (.ok (), config')) :
    ∃ servers, serverList config = .ok servers ∧
      (normaliseServers showChannels servers).1 = .ok () ∧
      setServers config (normaliseServers showChannels servers).2 = config' := by
  unfold normalise at h
  cases hlist : serverList config with
  | error e =>
    rw [hlist] at h
    cases h
  | ok servers =>
    rw [hlist] at h
    obtain ⟨hresult, hconfig⟩ := Prod.mk.inj h
    exact ⟨servers, rfl, hresult, hconfig⟩

theorem normalise_filled (hconfig : Value.Proper config)
    (h : normalise (.obj defaults) config = (.ok (), config')) :
    ConfigFilled defaults config config' := by
  obtain ⟨servers, hlist, hservers, rfl⟩ := normalise_ok h
  obtain ⟨bercon, fields, bercon', hbercon, harray, hset, hset'⟩ :=
    setServers_sets hlist (normaliseServers (.obj defaults) servers).2
  have hproper : ∀ server ∈ servers, Value.Proper server := by
    intro server hserver
    have hdefined : bercon.defined = true := (Value.set_ok hset).1
    have hmember := (hconfig.member (Value.lookup_of_get hbercon hdefined)).member
      (Value.lookup_of_get harray rfl)
    exact hmember.item hserver
  exact {
    servers := ⟨bercon, bercon', servers, _, fields, hbercon, Value.get_set_self hset', harray,
      Value.get_set_self hset, normaliseServers_filled hproper hservers,
      fun k hk => Value.get_set_of_ne hset hk, itemsD_set hset⟩
    others := fun k hk => Value.get_set_of_ne hset' hk
    items := itemsD_set hset' }

theorem setServers_self (h : serverList config = .ok servers) :
    setServers config servers = config := by
  obtain ⟨bercon, fields, bercon', hbercon, harray, hset, hset'⟩ := setServers_sets h servers
  have hdefined : bercon.defined = true := (Value.set_ok hset).1
  rw [Value.set_of_lookup (Value.lookup_of_get harray rfl)] at hset
  cases hset
  rw [Value.set_of_lookup (Value.lookup_of_get hbercon hdefined)] at hset'
  exact (Except.ok.inj hset').symm

/-- A configuration that has been filled in stays as it is. -/
theorem normalise_fixed (hdefaults : (Value.names defaults).Nodup)
    (h : normalise (.obj defaults) config = (.ok (), config')) :
    normalise (.obj defaults) config' = (.ok (), config') := by
  obtain ⟨servers, hlist, hservers, rfl⟩ := normalise_ok h
  have hlist' := (setServers_spec hlist (normaliseServers (.obj defaults) servers).2).1
  rw [normalise, hlist']
  simp only [normaliseServers_fixed hdefaults hservers, setServers_self hlist']

end Config

/-! ## The maps by reference -/

section References

variable {σ : Store} {d : Addr}

/-- The body of the loop, where `d` is the address of the defaults. -/
def normaliseRecord (d : Addr) (server : Record) : Prog Store Record := do
  if (server.find (lit "hasOwnProperty")).isSome then
    Prog.raise .typeError
  else
    let shown ← Prog.read Store.size
    Prog.modify fun σ => σ.clone d
    match server.find (lit "showChannels") with
    | some own =>
      let source ← Prog.read fun σ => own.value σ
      Prog.modify fun σ => σ.assign shown source.entries
    | none => pure ()
    return server.put (lit "showChannels") (.ref shown)

/-- What the loop leaves: whether it threw, the servers, and the store. -/
structure Loop where
  result : Except Error Unit
  servers : List Record
  store : Store

/-- The loop over the servers. -/
def normaliseRecords (d : Addr) : List Record → Store → Loop
  | [], σ => ⟨.ok (), [], σ⟩
  | server :: rest, σ =>
    match normaliseRecord d server σ with
    | (.error e, σ') => ⟨.error e, server :: rest, σ'⟩
    | (.ok server', σ') =>
      let after := normaliseRecords d rest σ'
      ⟨after.result, server' :: after.servers, after.store⟩

theorem normaliseRecord_hidden {server : Record}
    (h : (server.find (lit "hasOwnProperty")).isSome = true) :
    normaliseRecord d server σ = (.error .typeError, σ) := by
  rw [normaliseRecord, if_pos h]
  rfl

/-- The new map is a clone of the defaults, with the server's own members written on it. -/
theorem normaliseRecord_clones {server : Record} (hlive : server.Live σ)
    (h : ¬(server.find (lit "hasOwnProperty")).isSome = true) :
    ∃ σ', normaliseRecord d server σ =
        (.ok (server.put (lit "showChannels") (.ref σ.size)), σ') ∧
      σ.Keeps σ' ∧ σ'.size = σ.size + 1 ∧
      σ'.read σ.size = Value.merge (σ.read d) (ownShown (server.value σ)) := by
  have hkeeps := σ.clone_keeps d
  have hnew : σ.size < (σ.clone d).size := by
    rw [Store.size_clone]
    omega
  have hlookup : Value.lookup (server.value σ).fields (lit "showChannels") =
      (server.find (lit "showChannels")).map (Slot.value σ) := server.lookup_fields σ _
  rw [normaliseRecord, if_neg h, ownShown, hlookup]
  cases hown : server.find (lit "showChannels") with
  | none =>
    refine ⟨σ.clone d, rfl, hkeeps, σ.size_clone d, ?_⟩
    rw [Store.read_clone_new]
    rfl
  | some own =>
    refine ⟨(σ.clone d).assign σ.size (own.value (σ.clone d)).entries, rfl,
      hkeeps.assign le_rfl _, ?_, ?_⟩
    · rw [Store.size_assign, Store.size_clone]
    · rw [Store.read_assign_self hnew, Store.read_clone_new,
        Slot.value_of_keeps hkeeps (hlive.find hown)]
      rfl

/-- **One server.** The step on references throws when the step on values does; otherwise it makes
one map, which is the server's from then on, and the server denotes what the step on values
returns. -/
theorem normaliseRecord_refines {server : Record} (hlive : server.Live σ) :
    (normaliseRecord d server σ = (.error .typeError, σ) ∧
        normaliseServer (.obj (σ.read d)) (server.value σ) = .error .typeError) ∨
      ∃ server' σ', normaliseRecord d server σ = (.ok server', σ') ∧
        normaliseServer (.obj (σ.read d)) (server.value σ) = .ok (server'.value σ') ∧
        σ.Keeps σ' ∧ σ'.size = σ.size + 1 ∧ server'.Live σ' ∧
        server'.find (lit "showChannels") = some (.ref σ.size) := by
  have hhidden : Value.lookup (server.value σ).fields (lit "hasOwnProperty") =
      (server.find (lit "hasOwnProperty")).map (Slot.value σ) := server.lookup_fields σ _
  by_cases h : (server.find (lit "hasOwnProperty")).isSome = true
  · refine .inl ⟨normaliseRecord_hidden h, ?_⟩
    have hthrow : (server.value σ).hasOwnProperty (lit "showChannels") = .error .typeError := by
      have hdefined : (server.value σ).defined = true := rfl
      simp [Value.hasOwnProperty, hdefined, hhidden, h]
    rw [normaliseServer, hthrow]
    rfl
  · obtain ⟨σ', hrun, hkeeps, hsize, hread⟩ := normaliseRecord_clones (d := d) hlive h
    have hwritable : writable (server.value σ) = true := by
      change (Value.lookup (server.value σ).fields (lit "hasOwnProperty")).isNone = true
      rw [hhidden, Option.isNone_map]
      simpa using h
    refine .inr ⟨_, σ', hrun, ?_, hkeeps, hsize, ?_, server.find_put_self _ _⟩
    · rw [normaliseServer_eq hwritable, ← hread, Record.value, Record.value, Record.fields_put,
        Record.fields_of_keeps hkeeps hlive]
      rfl
    · refine (hlive.of_keeps hkeeps).put ?_
      change σ.size < σ'.size
      omega

/-- **The loop.** It keeps every map there was, and the servers denote what the loop over values
makes of them. -/
theorem normaliseRecords_refines {servers : List Record} (hd : d < σ.size)
    (hlive : ∀ server ∈ servers, server.Live σ) :
    let after := normaliseRecords d servers σ
    σ.Keeps after.store ∧ (∀ server ∈ after.servers, server.Live after.store) ∧
      (after.result, after.servers.map (Record.value after.store)) =
        normaliseServers (.obj (σ.read d)) (servers.map (Record.value σ)) := by
  induction servers generalizing σ with
  | nil => exact ⟨.refl σ, fun _ h => absurd h List.not_mem_nil, rfl⟩
  | cons server rest ih =>
    obtain ⟨hserver, hrest⟩ := List.forall_mem_cons.1 hlive
    intro after
    rcases normaliseRecord_refines (d := d) hserver with ⟨hrun, hvalue⟩ |
      ⟨server', σ', hrun, hvalue, hkeeps, -, hserver', -⟩
    · have hafter : after = ⟨.error .typeError, server :: rest, σ⟩ := by
        simp only [after, normaliseRecords, hrun]
      rw [hafter, List.map_cons, normaliseServers, hvalue]
      exact ⟨.refl σ, hlive, rfl⟩
    · have hrest' : ∀ server ∈ rest, server.Live σ' :=
        fun server h => (hrest server h).of_keeps hkeeps
      obtain ⟨hkeeps', hlive', hvalues⟩ := ih (hd.trans_le hkeeps.size_le) hrest'
      have hafter : after = ⟨(normaliseRecords d rest σ').result,
          server' :: (normaliseRecords d rest σ').servers, (normaliseRecords d rest σ').store⟩ := by
        simp only [after, normaliseRecords, hrun]
      have hsame : rest.map (Record.value σ') = rest.map (Record.value σ) :=
        List.map_congr_left fun server h => Record.value_of_keeps hkeeps (hrest server h)
      have hcons : normaliseServers (.obj (σ.read d)) ((server :: rest).map (Record.value σ)) =
          ((normaliseServers (.obj (σ.read d)) (rest.map (Record.value σ))).1, server'.value σ' ::
            (normaliseServers (.obj (σ.read d)) (rest.map (Record.value σ))).2) := by
        rw [List.map_cons, normaliseServers, hvalue]
      rw [hsame, hkeeps.read_eq d hd] at hvalues
      rw [hafter, hcons, ← hvalues]
      refine ⟨hkeeps.trans hkeeps', ?_, ?_⟩
      · exact List.forall_mem_cons.2 ⟨hserver'.of_keeps hkeeps', hlive'⟩
      · rw [List.map_cons, Record.value_of_keeps hkeeps' hserver']

/-- The maps of the servers are new, and no two servers have the same one. -/
theorem normaliseRecords_fresh {servers : List Record}
    (hlive : ∀ server ∈ servers, server.Live σ)
    (h : (normaliseRecords d servers σ).result = .ok ()) :
    (normaliseRecords d servers σ).servers.map (Record.find · (lit "showChannels")) =
      (List.range' σ.size servers.length).map fun a => some (.ref a) := by
  induction servers generalizing σ with
  | nil => rfl
  | cons server rest ih =>
    obtain ⟨hserver, hrest⟩ := List.forall_mem_cons.1 hlive
    rcases normaliseRecord_refines (d := d) hserver with ⟨hrun, -⟩ |
      ⟨server', σ', hrun, -, hkeeps, hsize, -, hshown⟩
    · rw [normaliseRecords, hrun] at h
      cases h
    · rw [normaliseRecords, hrun] at h ⊢
      have htail := ih (fun server hmem => (hrest server hmem).of_keeps hkeeps) h
      rw [List.length_cons, List.range'_succ, List.map_cons, List.map_cons, hshown, htail, hsize]

end References

/-! ## Applying a configuration -/

/-- Writing a configuration in place a second time changes nothing. -/
theorem World.fill_fill (w : World) (d : DataRef) (specific : Value) :
    (w.fill d specific).fill d specific = w.fill d specific := by
  have hobjs : ((w.fill d specific).fill d specific).objs = (w.fill d specific).objs := by
    funext d'
    by_cases hd : d' = d
    · subst hd
      simp only [World.fill_self]
    · rw [World.fill_of_ne _ _ hd]
  have hrcons : ((w.fill d specific).fill d specific).rcons = (w.fill d specific).rcons := by
    funext r
    have hreread : ∀ (this : Rcon) servers position,
        (this.reread servers position).reread servers position =
          this.reread servers position := by
      intro this servers position
      unfold Rcon.reread
      split <;> rfl
    by_cases hd : r.data = d
    · have hshared : ((w.fill d specific).objs d).shared = (w.objs d).shared := by
        rw [World.fill_self]
      change (if r.data = d then _ else _) = _
      rw [if_pos hd, hshared]
      simp only [World.fill, if_pos hd, hreread]
    · exact World.fill_rcons_of_ne _ _ hd
  calc (w.fill d specific).fill d specific
      = { w.fill d specific with objs := ((w.fill d specific).fill d specific).objs,
                                 rcons := ((w.fill d specific).fill d specific).rcons } := rfl
    _ = w.fill d specific := by rw [hobjs, hrcons]

theorem World.reconfigure_again (w : World) (d : DataRef) (v v' specific : Value) :
    ((w.reconfigure d v specific).reconfigure d v' specific).plain =
      (w.reconfigure d v specific).plain := by
  have hspecific := World.reconfigure_specific w d v specific
  generalize hw' : w.reconfigure d v specific = w' at hspecific
  unfold World.reconfigure
  split
  · rw [← hspecific, World.setConfig_plain]
  · rw [← hw', World.reconfigure]
    split
    · rw [World.setConfig_fill]
    · rw [World.fill_fill]

/-- **The defaults are filled in.** After an application that returns, every server has its own
members of `showChannels` over the defaults and the rest of the configuration is as it was; filling
it in again, or applying a text that leaves it chosen, changes nothing. With the maps by reference
the defaults stay as they were, and each server has a map of its own. -/
theorem applyConfig_fills {env : Env} {g : GuildId} {text : Text} {w : World} {v : Value}
    (hshow : env.showChannels = .obj defaults) (hdefaults : (Value.names defaults).Nodup)
    (hg : g ∈ w.guildIds) (hparse : env.parse text = some v)
    (hconfig : Value.Proper (chosen (w.data g).specific v))
    (hok : (applyConfig env g text w).1 = .ok ()) :
    let config := chosen (w.data g).specific v
    let w' := (applyConfig env g text w).2
    let config' := (w'.data g).specific
    ConfigFilled defaults config config' ∧
      normalise env.showChannels config' = (.ok (), config') ∧
      (∀ text' v', env.parse text' = some v' → chosen config' v' = config' →
        (applyConfig env g text' w').1 = .ok () ∧
          (applyConfig env g text' w').2.plain = w'.plain) ∧
      ∀ (σ : Store) (d : Addr) (servers : List Record), d < σ.size → σ.read d = defaults →
        (∀ server ∈ servers, server.Live σ) →
        serverList config = .ok (servers.map (Record.value σ)) →
        let after := normaliseRecords d servers σ
        after.result = .ok () ∧ after.store.read d = defaults ∧ σ.Keeps after.store ∧
          serverList config' = .ok (after.servers.map (Record.value after.store)) ∧
          after.servers.map (Record.find · (lit "showChannels")) =
            (List.range' σ.size servers.length).map fun a => some (.ref a) := by
  intro config w' config'
  have happly := applyConfig_parsed hg hparse
  have hconfig' : (normalise env.showChannels config).2 = config' := by
    simp only [config', w', happly, reconfigure_data_specific, config]
  have hnormalise : normalise (.obj defaults) config = (.ok (), config') := by
    rw [happly] at hok
    rw [← hshow]
    exact Prod.ext hok hconfig'
  have hfixed := normalise_fixed hdefaults hnormalise
  refine ⟨normalise_filled hconfig hnormalise, hshow ▸ hfixed, ?_, ?_⟩
  · intro text' v' hparse' hchosen
    have hg' : g ∈ w'.guildIds := by
      simp only [w', happly, World.reconfigure_guildIds]
      exact hg
    have hw' : w' = w.reconfigure (w.dataRef g) v config' := by
      rw [← hconfig']
      exact congrArg Prod.snd happly
    have happly' := applyConfig_parsed hg' hparse'
    rw [hchosen, hshow, hfixed] at happly'
    have hdata : w'.dataRef g = w.dataRef g := by rw [hw', World.reconfigure_dataRef]
    rw [happly', hdata, hw']
    exact ⟨rfl, World.reconfigure_again w (w.dataRef g) v v' config'⟩
  · rintro σ d servers hd rfl hlive hlist after
    obtain ⟨hkeeps, -, hvalues⟩ := normaliseRecords_refines (d := d) hd hlive
    obtain ⟨servers', hlist', hresult, hset⟩ := normalise_ok hnormalise
    rw [hlist] at hlist'
    cases hlist'
    have hafter : after.result = .ok () := by rw [← hresult, ← hvalues]
    refine ⟨hafter, hkeeps.read_eq d hd, hkeeps, ?_, normaliseRecords_fresh hlive hafter⟩
    rw [← hset, ← hvalues]
    exact (setServers_spec hlist _).1

/-- A server that hides the side channel, and a flag that the defaults do not know. -/
def hidingServer : Value :=
  .obj [(lit "showChannels", .obj [(lit "side", .bool false), (lit "extra", .null)])]

/-- A bot with two defaults, for whose guilds that server is stored. -/
def hidingBot : Env :=
  { sampleEnv .null with
    showChannels := .obj [(lit "side", .bool true), (lit "joins", .bool true)]
    parse := fun text => some (if text = lit "null" then .null else sampleConfig [hidingServer]) }

/-- The defaults of the bot, and the map of the server. -/
def hidingStore : Store :=
  ⟨[[(lit "side", .bool true), (lit "joins", .bool true)],
    [(lit "side", .bool false), (lit "extra", .null)]]⟩

theorem hidingConfig_proper : Value.Proper (sampleConfig [hidingServer]) := by
  have hleaf : ∀ v : Value, v.entries = [] → Value.Proper v := by
    intro v hv
    refine .members ?_ ?_ <;> rw [hv]
    · exact List.nodup_nil
    · exact fun e he => absurd he List.not_mem_nil
  have hbool : ∀ b, Value.Proper (.bool b) := fun b => hleaf _ rfl
  have hnull : Value.Proper .null := hleaf _ rfl
  have hshown : Value.Proper (.obj [(lit "side", .bool false), (lit "extra", .null)]) :=
    .members (by decide +kernel) (by simp [Value.entries, hbool, hnull])
  have hserver : Value.Proper hidingServer :=
    .members (by decide +kernel) (by simp [Value.entries, hidingServer, hshown])
  have hservers : Value.Proper (.arr [hidingServer] []) :=
    .members (by decide +kernel) (by simp [Value.entries, hserver])
  have hbercon : Value.Proper (.obj [(lit "enabled", .bool true),
      (lit "servers", .arr [hidingServer] [])]) :=
    .members (by decide +kernel) (by simp [Value.entries, hbool, hservers])
  exact .members (by decide +kernel) (by simp [Value.entries, sampleConfig, hbercon])

/-- The server is filled in, a text `null` changes nothing afterwards, and with the maps by
reference the third object of the store is the map of the server. -/
theorem applyConfig_fills_hiding :
    let w := plainWorld hidingBot
    let w' := (applyConfig hidingBot sampleId (lit "stored") w).2
    let after := normaliseRecords 0 [[(lit "showChannels", .ref 1)]] hidingStore
    (applyConfig hidingBot sampleId (lit "stored") w).1 = .ok () ∧
      ConfigFilled [(lit "side", .bool true), (lit "joins", .bool true)]
        (sampleConfig [hidingServer]) (w'.data sampleId).specific ∧
      normalise hidingBot.showChannels (w'.data sampleId).specific =
        (.ok (), (w'.data sampleId).specific) ∧
      (applyConfig hidingBot sampleId (lit "null") w').1 = .ok () ∧
      (applyConfig hidingBot sampleId (lit "null") w').2.plain = w'.plain ∧
      after.store.read 0 = hidingStore.read 0 ∧
      after.servers.map (Record.find · (lit "showChannels")) = [some (.ref 2)] := by
  intro w w' after
  have hok : (applyConfig hidingBot sampleId (lit "stored") w).1 = .ok () := by decide +kernel
  obtain ⟨hfilled, hfixed, hagain, hrecords⟩ := applyConfig_fills (v := sampleConfig [hidingServer])
    rfl (by decide +kernel) (by decide +kernel) rfl hidingConfig_proper hok
  obtain ⟨hreturns, hsame⟩ := hagain (lit "null") .null rfl rfl
  have hlive : ∀ server ∈ [[(lit "showChannels", Slot.ref 1)]], Record.Live hidingStore server := by
    simp [Record.Live, Slot.Live, Store.size, hidingStore]
  obtain ⟨-, hdefaults, -, -, hmaps⟩ := hrecords hidingStore 0 _ (by decide) rfl hlive rfl
  exact ⟨hok, hfilled, hfixed, hreturns, hsame, hdefaults, hmaps⟩

end ZBot
