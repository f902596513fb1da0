import ZBot.Model.System

/-!
# Writing a configuration in place

`applyConfig` fills the defaults into the server objects of a configuration. The rcons that were
built from that configuration hold the same objects as their `_cfg`, so they see the defaults at
once, while an rcon of an older configuration does not.

`World.Shares` is the invariant behind this: what `shared` records is the server an rcon was built
from. Then a write in place changes the `_cfg` of an rcon as `normaliseServer` changes the server
(`World.Shares.filled`): only `showChannels` is written (`normaliseServer_get`).
-/

namespace ZBot

open Js

/-! ## Servers -/

theorem normaliseServer_set {showChannels server server' : Value}
    (h : normaliseServer showChannels server = .ok server') :
    ∃ x, server.set (lit "showChannels") x = .ok server' := by
  unfold normaliseServer at h
  cases hhas : server.hasOwnProperty (lit "showChannels") with
  | error e =>
    rw [hhas] at h
    cases h
  | ok has =>
    rw [hhas] at h
    cases has with
    | false => exact ⟨_, h⟩
    | true =>
      cases hown : server.get (lit "showChannels") with
      | error e =>
        change (server.get (lit "showChannels") >>= _) = _ at h
        rw [hown] at h
        cases h
      | ok own =>
        change (server.get (lit "showChannels") >>= _) = _ at h
        rw [hown] at h
        exact ⟨_, h⟩

/-- Only `showChannels` is written. -/
theorem normaliseServer_get {showChannels server server' : Value}
    (h : normaliseServer showChannels server = .ok server') {key : Text}
    (hkey : key ≠ lit "showChannels") : server'.get key = server.get key := by
  obtain ⟨x, hset⟩ := normaliseServer_set h
  exact Value.get_set_of_ne hset hkey

/-- The loop writes each server by itself, up to the first that throws. -/
theorem normaliseServers_getElem (showChannels : Value) {servers : List Value} {i : Nat}
    {server : Value} (h : servers[i]? = some server) :
    (normaliseServers showChannels servers).2[i]? = some server ∨
      ∃ server', normaliseServer showChannels server = .ok server' ∧
        (normaliseServers showChannels servers).2[i]? = some server' := by
  induction servers generalizing i with
  | nil => cases h
  | cons head rest ih =>
    unfold normaliseServers
    cases hhead : normaliseServer showChannels head with
    | error e => exact .inl h
    | ok head' =>
      cases i with
      | zero =>
        cases h
        exact .inr ⟨head', hhead, rfl⟩
      | succ i => exact ih h

theorem serverList_ok {specific : Value} {servers : List Value}
    (h : serverList specific = .ok servers) : ∃ bercon fields,
      specific.get (lit "bercon") = .ok bercon ∧
      bercon.get (lit "servers") = .ok (.arr servers fields) := by
  unfold serverList at h
  cases hbercon : specific.get (lit "bercon") with
  | error e =>
    rw [hbercon] at h
    cases h
  | ok bercon =>
    rw [hbercon] at h
    change (bercon.get (lit "servers") >>= _) = _ at h
    cases hservers : bercon.get (lit "servers") with
    | error e =>
      rw [hservers] at h
      cases h
    | ok v =>
      rw [hservers] at h
      cases v with
      | arr items fields =>
        cases h
        exact ⟨bercon, fields, rfl, hservers⟩
      | _ => cases h

/-- `setServers` writes the array, and with it the object that holds it. -/
theorem setServers_sets {specific : Value} {servers : List Value}
    (h : serverList specific = .ok servers) (servers' : List Value) : ∃ bercon fields bercon',
      specific.get (lit "bercon") = .ok bercon ∧
      bercon.get (lit "servers") = .ok (.arr servers fields) ∧
      bercon.set (lit "servers") (.arr servers' fields) = .ok bercon' ∧
      specific.set (lit "bercon") bercon' = .ok (setServers specific servers') := by
  obtain ⟨bercon, fields, hbercon, hservers⟩ := serverList_ok h
  obtain ⟨bercon', hset⟩ := Value.set_of_get hservers rfl (lit "servers") (.arr servers' fields)
  have hdefined : bercon.defined = true := (Value.set_ok hset).1
  obtain ⟨specific', hset'⟩ := Value.set_of_get hbercon hdefined (lit "bercon") bercon'
  refine ⟨bercon, fields, bercon', hbercon, hservers, hset, ?_⟩
  have hfields : ((Value.lookup bercon.fields (lit "servers")).getD .undefined).fields =
      fields := by
    rw [Value.lookup_of_get hservers rfl]
    rfl
  have hsets : setServers specific servers' = specific' := by
    simp only [setServers, Value.lookup_of_get hbercon hdefined, Option.getD_some, hfields, hset,
      hset']
  rw [hsets, hset']

theorem setServers_spec {specific : Value} {servers : List Value}
    (h : serverList specific = .ok servers) (servers' : List Value) :
    serverList (setServers specific servers') = .ok servers' ∧
      berconEnabled (setServers specific servers') = berconEnabled specific := by
  obtain ⟨bercon, fields, bercon', hbercon, -, hset, hset'⟩ := setServers_sets h servers'
  have hne : lit "enabled" ≠ lit "servers" := by decide +kernel
  constructor
  · rw [serverList, Value.get_set_self hset']
    change (bercon'.get (lit "servers") >>= _) = _
    rw [Value.get_set_self hset]
    rfl
  · rw [berconEnabled, berconEnabled, Value.get_set_self hset', hbercon]
    change (bercon'.get (lit "enabled") >>= _) = (bercon.get (lit "enabled") >>= _)
    rw [Value.get_set_of_ne hset hne]

theorem normalise_serverList (showChannels : Value) {specific : Value} {servers : List Value}
    (h : serverList specific = .ok servers) :
    serverList (normalise showChannels specific).2 =
      .ok (normaliseServers showChannels servers).2 := by
  rw [normalise, h]
  exact (setServers_spec h _).1

/-! ## Shared servers -/

namespace World

@[simp] theorem fill_self (w : World) (d : DataRef) (specific : Value) :
    (w.fill d specific).objs d = { w.objs d with specific := specific } := by
  simp [fill, setObj]

@[simp] theorem fill_of_ne (w : World) {d d' : DataRef} (specific : Value) (h : d' ≠ d) :
    (w.fill d specific).objs d' = w.objs d' := by
  simp [fill, setObj, h]

theorem fill_rcons_of_ne (w : World) {d : DataRef} {r : RconRef} (specific : Value)
    (h : r.data ≠ d) : (w.fill d specific).rcons r = w.rcons r := if_neg h

/-- An rcon whose server is no longer in the configuration does not see the write. -/
theorem fill_rcons_of_none (w : World) {d : DataRef} {r : RconRef} (specific : Value)
    (h : (w.objs r.data).shared r.num = none) : (w.fill d specific).rcons r = w.rcons r := by
  by_cases hd : r.data = d
  · subst hd
    simp only [fill, if_pos, h]
    rfl
  · exact w.fill_rcons_of_ne specific hd

theorem fill_rcons_of_some (w : World) {r : RconRef} {specific : Value} {servers : List Value}
    {i : Nat} {server : Value} (hservers : serverList specific = .ok servers)
    (hi : (w.objs r.data).shared r.num = some i) (hserver : servers[i]? = some server) :
    (w.fill r.data specific).rcons r = { w.rcons r with cfg := server } := by
  simp only [fill, if_pos, hservers, Except.toOption, Option.getD_some, hi, Rcon.reread,
    Option.bind_some, hserver]

/-- A write in place changes nothing of an rcon but its `_cfg`. -/
theorem fill_rcons (w : World) (d : DataRef) (specific : Value) (r : RconRef) :
    ∃ cfg, (w.fill d specific).rcons r = { w.rcons r with cfg := cfg } := by
  by_cases hd : r.data = d
  · simp only [fill, hd, if_pos, Rcon.reread]
    split
    · exact ⟨_, rfl⟩
    · exact ⟨(w.rcons r).cfg, rfl⟩
  · exact ⟨(w.rcons r).cfg, w.fill_rcons_of_ne specific hd⟩

/-- Where an rcon shares a server with the configuration, that server is its `_cfg`. -/
def Shares (w : World) : Prop :=
  ∀ r i, (w.objs r.data).shared r.num = some i →
    ∃ servers, serverList (w.objs r.data).specific = .ok servers ∧
      servers[i]? = some (w.rcons r).cfg

/-- Filling in the defaults in place leaves an rcon as it is, or fills them into its `_cfg`. -/
theorem Shares.filled {w : World} (hw : w.Shares) (showChannels : Value) (d : DataRef)
    (r : RconRef) :
    (w.fill d (normalise showChannels (w.objs d).specific).2).rcons r = w.rcons r ∨
      ∃ cfg, normaliseServer showChannels (w.rcons r).cfg = .ok cfg ∧
        (w.fill d (normalise showChannels (w.objs d).specific).2).rcons r =
          { w.rcons r with cfg := cfg } := by
  by_cases hd : r.data = d
  · subst hd
    cases hshared : (w.objs r.data).shared r.num with
    | none => exact .inl (w.fill_rcons_of_none _ hshared)
    | some i =>
      obtain ⟨servers, hservers, hcfg⟩ := hw r i hshared
      have hlist := normalise_serverList showChannels hservers
      rcases normaliseServers_getElem showChannels hcfg with hsame | ⟨server', hserver', hnew⟩
      · exact .inl (w.fill_rcons_of_some hlist hshared hsame)
      · exact .inr ⟨server', hserver', w.fill_rcons_of_some hlist hshared hnew⟩
  · exact .inl (w.fill_rcons_of_ne _ hd)

/-- The rcons go on sharing their servers. -/
theorem Shares.fill {w : World} (hw : w.Shares) (showChannels : Value) (d : DataRef) :
    (w.fill d (normalise showChannels (w.objs d).specific).2).Shares := by
  intro r i hr
  by_cases hd : r.data = d
  · subst hd
    have hi : (w.objs r.data).shared r.num = some i := by rwa [fill_self] at hr
    obtain ⟨servers, hservers, hcfg⟩ := hw r i hi
    have hlist := normalise_serverList showChannels hservers
    obtain ⟨server, hserver⟩ : ∃ server,
        (normaliseServers showChannels servers).2[i]? = some server := by
      rcases normaliseServers_getElem showChannels hcfg with h | ⟨server', -, h⟩
      · exact ⟨_, h⟩
      · exact ⟨server', h⟩
    rw [fill_self, w.fill_rcons_of_some hlist hi hserver]
    exact ⟨_, hlist, hserver⟩
  · rw [fill_of_ne _ _ hd] at hr ⊢
    rw [fill_rcons_of_ne _ _ hd]
    exact hw r i hr

end World

end ZBot
