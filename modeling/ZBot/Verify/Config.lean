import ZBot.Verify.Registry

/-!
# Good configurations

Whether the code that reads a configuration returns or throws depends on the configuration, and
on the calls of `battle-node` it makes.

* A constructor whose BattleNode connects (`Oracle.Connects`) returns when `channels` of its server
  has all nine names (`bindable`), so the loop that builds a guild returns when all of its servers
  do (`buildable`, `buildRcons_ok_iff`).
* The loop that fills in `showChannels` returns when `servers` is an array of objects (`servable`,
  `normalise_ok_iff`).
* A reload closes an instance when its BattleNode does not throw and, where the listener of
  `disconnected` is called, none of its job handles is `null` (`close_ok_iff`).
-/

namespace ZBot

open Js RconM

/-! ## Building -/

section Building

/-- The names that `bindChannels` looks up. -/
def channelKeys : List String :=
  ["commands", "side", "group", "direct", "admin", "joins", "vehicle", "default", "global"]

/-- `server.channels[key]` is there. -/
def named (server : Value) (key : String) : Bool :=
  match server.get (lit "channels") >>= fun channels => channels.get (lit key) with
  | .ok .undefined => false
  | .ok _ => true
  | .error _ => false

/-- `server.channels` has every name. -/
def bindable (server : Value) : Bool := channelKeys.all (named server)

theorem findChannel_ok_iff (this : Rcon) (key : String) :
    (∃ c, findChannel this key = .ok c) ↔ named this.cfg key = true := by
  have hfind : findChannel this key =
      (this.cfg.get (lit "channels") >>= fun channels => channels.get (lit key)) >>=
        this.guild.findChannel := by
    rw [findChannel, bind_assoc]
  rw [hfind, named]
  cases this.cfg.get (lit "channels") >>= fun channels => channels.get (lit key) with
  | error e => exact ⟨fun ⟨_, h⟩ => (nomatch h), fun h => (nomatch h)⟩
  | ok name =>
    cases name with
    | undefined => exact ⟨fun ⟨_, h⟩ => (nomatch h), fun h => (nomatch h)⟩
    | _ => exact ⟨fun _ => rfl, fun _ => ⟨_, rfl⟩⟩

/-- The channels are bound when every name is there. -/
theorem bindChannels_ok_iff (s : RconSt) :
    (bindChannels s).1 = .ok () ↔ bindable s.rcon.cfg = true := by
  have hend : ∀ (c : Bool) (f : RconSt → RconSt) (s : RconSt),
      (Prog.when c (Prog.modify f) s).1 = .ok () := by
    intro c f s
    cases c <;> rfl
  -- each lookup is made on the instance as it was at the start
  simp only [bindChannels, this, Prog.read_bind, Prog.lift_bind_ok_iff, update, Prog.modify_bind,
    hend, and_true, exists_and_right]
  simp only [findChannel_ok_iff, bindable, channelKeys, List.all_cons, List.all_nil,
    Bool.and_eq_true, and_true]

/-- The default channel is a text channel when the instance goes on to log in. -/
theorem bindChannels_default {s : RconSt} (hs : s.rcon.continue_ = false)
    (h : bindable s.rcon.cfg = true) (hcontinue : (bindChannels s).2.rcon.continue_ = true) :
    ∃ c, (bindChannels s).2.rcon.defaultChannel = some c ∧ c.type = .text := by
  have hfind : ∀ key ∈ channelKeys, ∃ c, findChannel s.rcon key = .ok c := by
    intro key hkey
    exact (findChannel_ok_iff s.rcon key).2 (List.all_eq_true.1 h key hkey)
  simp only [channelKeys, List.forall_mem_cons] at hfind
  obtain ⟨⟨c₁, h₁⟩, ⟨c₂, h₂⟩, ⟨c₃, h₃⟩, ⟨c₄, h₄⟩, ⟨c₅, h₅⟩, ⟨c₆, h₆⟩, ⟨c₇, h₇⟩, ⟨c₈, h₈⟩, ⟨c₉, h₉⟩,
    -⟩ := hfind
  simp only [bindChannels, this, Prog.read_bind, h₁, h₂, h₃, h₄, h₅, h₆, h₇, h₈, h₉,
    Prog.lift_ok_bind rfl, update, Prog.modify_bind] at hcontinue ⊢
  cases c₈ with
  | none =>
    rw [show s.rcon.continue_ = true from hcontinue] at hs
    cases hs
  | some channel =>
    by_cases htext : channel.type = .text
    · have hany : (some channel).any (fun c : Channel => decide (c.type = .text)) = true := by
        simp [htext]
      rw [hany]
      exact ⟨channel, rfl, htext⟩
    · have hany : (some channel).any (fun c : Channel => decide (c.type = .text)) = false := by
        simp [htext]
      rw [hany] at hcontinue
      rw [show s.rcon.continue_ = true from hcontinue] at hs
      cases hs

/-- `bercon` of the configuration can be read. -/
def hasBercon (specific : Value) : Bool :=
  match specific.get (lit "bercon") with
  | .ok bercon => bercon.defined
  | .error _ => false

theorem get_ok_iff (v : Value) (k : Text) : (∃ x, v.get k = .ok x) ↔ v.defined = true := by
  unfold Value.get
  split
  · rename_i h
    exact ⟨fun _ => h, fun _ => ⟨_, rfl⟩⟩
  · rename_i h
    exact ⟨fun ⟨_, hx⟩ => (nomatch hx), fun hv => absurd hv h⟩

theorem bindable_defined {server : Value} (h : bindable server = true) : server.defined = true := by
  have hcommands : named server "commands" = true := List.all_eq_true.1 h _ (by simp [channelKeys])
  rw [← get_ok_iff server (lit "channels")]
  unfold named at hcommands
  cases hget : server.get (lit "channels") with
  | error e =>
    rw [hget] at hcommands
    cases hcommands
  | ok channels => exact ⟨channels, rfl⟩

theorem hasBercon_iff (specific : Value) :
    hasBercon specific = true ↔ ∃ bercon, specific.get (lit "bercon") = .ok bercon ∧
      ∃ shared, bercon.get (lit "sharedActions") = .ok shared := by
  unfold hasBercon
  cases specific.get (lit "bercon") with
  | error e => exact ⟨fun h => (nomatch h), fun ⟨_, h, _⟩ => (nomatch h)⟩
  | ok bercon =>
    rw [← get_ok_iff bercon (lit "sharedActions")]
    exact ⟨fun h => ⟨bercon, rfl, h⟩, fun ⟨_, h₁, h₂⟩ => by cases h₁; exact h₂⟩

/-- `new BattleNode(…)` and `login()` return. -/
def Oracle.Connects (o : Oracle) : Prop :=
  ∀ n, o.throws (.newNode n) = false ∧ o.throws (.login n) = false

theorem call_returns {throws : Effect → Bool} {e : Effect} (h : throws e = false) (s : RconSt) :
    emitting (call throws e) s = (.ok (), { s with calls := s.calls ++ [e] }) := by
  simp [emitting, call, emit, h, Prog.bind_apply]

theorem newBattleNode_returns {o : Oracle} (ho : o.Connects) (s : RconSt) :
    newBattleNode o s = (.ok s.rcon.nodes.length,
      ⟨{ s.rcon with
        bnode := some s.rcon.nodes.length
        nodes := s.rcon.nodes ++ [⟨false, false, false, false⟩] },
        s.calls ++ [.newNode s.rcon.nodes.length]⟩) := by
  simp only [newBattleNode, this, Prog.read_bind, update, Prog.modify_bind]
  rw [Prog.bind_ok (call_returns (ho s.rcon.nodes.length).1 _)]
  rfl

/-- The login at the end of `init` returns, since there is a default channel then. -/
theorem login_returns (env : Env) {o : Oracle} (ho : o.Connects) (n : Nat) {s : RconSt}
    (h : s.rcon.defaultChannel ≠ none) :
    ((do logLogin env; initEvents n; login o n : RconM Unit) s).1 = .ok () := by
  obtain ⟨channel, hchannel⟩ := Option.ne_none_iff_exists'.1 h
  have hlog : (logLogin env s).1 = .ok () := by
    simp only [logLogin, this, Prog.read_bind, hchannel]
    exact (logBot_quiet env _).2 s
  refine Prog.bind_ok_iff.2 ⟨(), hlog, ?_⟩
  rw [initEvents, login, update, Prog.modify_bind, update, Prog.modify_bind]
  exact congrArg Prod.fst (call_returns (ho n).2 _)

/-- A constructor whose BattleNode connects returns when every channel has its name. -/
theorem construct_ok_iff (env : Env) {o : Oracle} (ho : o.Connects) (specific server : Value)
    (guild : Guild) :
    (construct env o specific ⟨.blank server guild, []⟩).1 = .ok () ↔
      hasBercon specific = true ∧ bindable server = true := by
  have hinit : ∀ s : RconSt, s.rcon.continue_ = false →
      ((init env o s).1 = .ok () ↔ bindable s.rcon.cfg = true) := by
    intro s hs
    obtain ⟨s₁, hnode, hcontinue, hcfg⟩ : ∃ s₁, newBattleNode o s = (.ok s.rcon.nodes.length, s₁) ∧
        s₁.rcon.continue_ = false ∧ s₁.rcon.cfg = s.rcon.cfg :=
      ⟨_, newBattleNode_returns ho s, hs, rfl⟩
    rw [init, Prog.bind_ok hnode, Prog.bind_ok_iff, ← hcfg, ← bindChannels_ok_iff]
    refine ⟨fun ⟨_, h, _⟩ => h, fun h => ⟨(), h, ?_⟩⟩
    have hdefault := bindChannels_default hcontinue ((bindChannels_ok_iff s₁).1 h)
    simp only [this, Prog.read_bind]
    cases hc : (bindChannels s₁).2.rcon.continue_ with
    | false => rfl
    | true =>
      obtain ⟨channel, hchannel, -⟩ := hdefault hc
      exact login_returns env ho _ (by rw [hchannel]; exact Option.some_ne_none channel)
  simp only [construct, this, Prog.read_bind, Prog.lift_bind_ok_iff]
  constructor
  · rintro ⟨actions, -, bercon, hbercon, shared, hshared, h⟩
    exact ⟨(hasBercon_iff specific).2 ⟨bercon, hbercon, shared, hshared⟩, (hinit _ rfl).1 h⟩
  · rintro ⟨hspecific, hserver⟩
    obtain ⟨actions, hactions⟩ := (get_ok_iff server (lit "actions")).2 (bindable_defined hserver)
    obtain ⟨bercon, hbercon, shared, hshared⟩ := (hasBercon_iff specific).1 hspecific
    exact ⟨actions, hactions, bercon, hbercon, shared, hshared, (hinit _ rfl).2 hserver⟩

variable {o : RconRef → Oracle} (ho : ∀ r, (o r).Connects)

include ho

theorem buildRcon_ok_iff (env : Env) (d : DataRef) (server : Value) (position : Nat) (w : World) :
    (buildRcon env o d server position w).1 = .ok () ↔
      hasBercon (w.objs d).specific = true ∧ bindable server = true := by
  have hnew : (w.alloc d server position).rcons ⟨d, (w.objs d).built⟩ =
      .blank server (w.objs d).guild := by
    simp [World.alloc, World.setRcon]
  rw [buildRcon_apply, Prog.seq_ok_iff, ← construct_ok_iff env (ho _) _ server (w.objs d).guild,
    ← hnew]
  exact ⟨fun h => h.1, fun h => ⟨h, rfl⟩⟩

theorem buildServers_ok_iff (env : Env) (d : DataRef) (servers : List Value) (w : World)
    (hw : hasBercon (w.objs d).specific = true) :
    (Prog.forEach servers.zipIdx (fun server => buildRcon env o d server.1 server.2) w).1 =
      .ok () ↔ servers.all bindable = true := by
  have hspecific : ∀ (item : Value × Nat) w,
      ((buildRcon env o d item.1 item.2 w).2.objs d).specific = (w.objs d).specific := by
    intro item w
    have h := buildRcon_grows env o d item.1 item.2 [] w w (Grows.refl d w)
    rcases e : buildRcon env o d item.1 item.2 w with ⟨_ | _, w'⟩ <;> rw [e] at h <;>
      exact h.specific
  rw [Prog.forEach_ok_iff (V := fun w => (w.objs d).specific)
    (p := fun specific item => hasBercon specific = true ∧ bindable item.1 = true) hspecific
    (fun item => buildRcon_ok_iff ho env d item.1 item.2), List.all_eq_true]
  constructor
  · intro h server hserver
    obtain ⟨i, hi, rfl⟩ := List.getElem_of_mem hserver
    exact (h (servers[i], i) (List.mk_mem_zipIdx_iff_getElem?.2 (List.getElem?_eq_getElem hi))).2
  · intro h item hitem
    exact ⟨hw, h item.1 (List.fst_mem_of_mem_zipIdx hitem)⟩

omit ho

/-- The instances of the configuration can be built, if it asks for any. -/
def buildable (specific : Value) : Bool :=
  match berconEnabled specific with
  | .error _ => false
  | .ok false => true
  | .ok true =>
    match serverList specific with
    | .error _ => false
    | .ok servers => servers.all bindable

theorem hasBercon_of_enabled {specific : Value} {b : Bool} (h : berconEnabled specific = .ok b) :
    hasBercon specific = true := by
  unfold berconEnabled at h
  unfold hasBercon
  cases hbercon : specific.get (lit "bercon") with
  | error e =>
    rw [hbercon] at h
    cases h
  | ok bercon =>
    rw [hbercon] at h
    rw [← get_ok_iff bercon (lit "enabled")]
    cases henabled : bercon.get (lit "enabled") with
    | error e =>
      change (bercon.get (lit "enabled") >>= enabledTest) = .ok b at h
      rw [henabled] at h
      cases h
    | ok enabled => exact ⟨enabled, rfl⟩

include ho

/-- **Building a guild returns when its configuration is buildable** and its BattleNodes connect. -/
theorem buildRcons_ok_iff (env : Env) (d : DataRef) (w : World) :
    (buildRcons env o d w).1 = .ok () ↔ buildable (w.objs d).specific = true := by
  rw [buildRcons, Prog.read_bind, buildable]
  cases henabled : berconEnabled (w.objs d).specific with
  | error e =>
    rw [Prog.lift_error_bind rfl]
    exact ⟨fun h => (by cases h), fun h => (by cases h)⟩
  | ok enabled =>
    rw [Prog.lift_ok_bind rfl]
    cases enabled with
    | false => exact ⟨fun _ => rfl, fun _ => rfl⟩
    | true =>
      cases hservers : serverList (w.objs d).specific with
      | error e =>
        rw [Prog.when_true, Prog.lift_error_bind rfl]
        exact ⟨fun h => (by cases h), fun h => (by cases h)⟩
      | ok servers =>
        rw [Prog.when_true, Prog.lift_ok_bind rfl]
        exact buildServers_ok_iff ho env d servers w (hasBercon_of_enabled henabled)

end Building

/-! ## Applying -/

section Applying

/-- `showChannels` can be written: an object without a member that hides `hasOwnProperty`. -/
def writable : Value → Bool
  | .obj fields => (Value.lookup fields (lit "hasOwnProperty")).isNone
  | .arr _ fields => (Value.lookup fields (lit "hasOwnProperty")).isNone
  | _ => false

/-- `bercon.servers` is an array of such objects. -/
def servable (specific : Value) : Bool :=
  match serverList specific with
  | .ok servers => servers.all writable
  | .error _ => false

theorem normaliseServer_ok_iff (showChannels server : Value) :
    (∃ server', normaliseServer showChannels server = .ok server') ↔ writable server = true := by
  -- an object or an array with the members `fields`
  have hobject : ∀ v fields, v.defined = true → v.fields = fields →
      (∀ k x, ∃ v', v.set k x = .ok v') →
      ((∃ server', normaliseServer showChannels v = .ok server') ↔
        (Value.lookup fields (lit "hasOwnProperty")).isNone = true) := by
    intro v fields hdefined hfields hset
    cases hhidden : Value.lookup fields (lit "hasOwnProperty") with
    | some x =>
      have hthrow : v.hasOwnProperty (lit "showChannels") = .error .typeError := by
        simp [Value.hasOwnProperty, hdefined, hfields, hhidden]
      rw [normaliseServer, hthrow]
      exact ⟨fun ⟨_, h⟩ => (nomatch h), fun h => (nomatch h)⟩
    | none =>
      have hhas : v.hasOwnProperty (lit "showChannels") =
          .ok (Value.lookup fields (lit "showChannels")).isSome := by
        simp [Value.hasOwnProperty, hdefined, hfields, hhidden]
      refine ⟨fun _ => rfl, fun _ => ?_⟩
      obtain ⟨own, hown⟩ := (get_ok_iff v (lit "showChannels")).2 hdefined
      rw [normaliseServer, hhas]
      cases (Value.lookup fields (lit "showChannels")).isSome with
      | true =>
        change ∃ server', (v.get (lit "showChannels") >>= _) = _
        rw [hown]
        exact hset _ _
      | false => exact hset _ _
  cases server with
  | obj fields => exact hobject _ fields rfl rfl fun k x => ⟨_, rfl⟩
  | arr items fields => exact hobject _ fields rfl rfl fun k x => ⟨_, rfl⟩
  | _ => exact ⟨fun ⟨_, h⟩ => (nomatch h), fun h => (nomatch h)⟩

theorem normaliseServers_ok_iff (showChannels : Value) (servers : List Value) :
    (normaliseServers showChannels servers).1 = .ok () ↔ servers.all writable = true := by
  induction servers with
  | nil => exact ⟨fun _ => rfl, fun _ => rfl⟩
  | cons server rest ih =>
    rw [List.all_cons, Bool.and_eq_true, ← normaliseServer_ok_iff showChannels server, ← ih,
      normaliseServers]
    cases normaliseServer showChannels server with
    | error e => exact ⟨fun h => (nomatch h), fun ⟨⟨_, h⟩, _⟩ => (nomatch h)⟩
    | ok server' => exact ⟨fun h => ⟨⟨server', rfl⟩, h⟩, fun h => h.2⟩

/-- The servers are normalised when they all can be written. -/
theorem normalise_ok_iff (showChannels specific : Value) :
    (normalise showChannels specific).1 = .ok () ↔ servable specific = true := by
  unfold normalise servable
  cases serverList specific with
  | error e => exact ⟨fun h => (nomatch h), fun h => (nomatch h)⟩
  | ok servers => exact normaliseServers_ok_iff showChannels servers

/-- The channels of a server are left alone. -/
theorem bindable_normaliseServer {showChannels server server' : Value}
    (h : normaliseServer showChannels server = .ok server') :
    bindable server' = bindable server := by
  obtain ⟨x, hset⟩ := normaliseServer_set h
  have hne : lit "channels" ≠ lit "showChannels" := by decide +kernel
  have hnamed : named server' = named server := by
    funext key
    rw [named, named, Value.get_set_of_ne hset hne]
  rw [bindable, bindable, hnamed]

theorem bindable_normaliseServers {showChannels : Value} {servers : List Value}
    (h : (normaliseServers showChannels servers).1 = .ok ()) :
    (normaliseServers showChannels servers).2.map bindable = servers.map bindable := by
  induction servers with
  | nil => rfl
  | cons server rest ih =>
    unfold normaliseServers at h ⊢
    cases hserver : normaliseServer showChannels server with
    | error e => rfl
    | ok server' =>
      rw [hserver] at h
      change bindable server' :: (normaliseServers showChannels rest).2.map bindable =
        bindable server :: rest.map bindable
      rw [bindable_normaliseServer hserver, ih h]

/-- The normalised configuration asks for the same connections: as many, to servers whose channels
are the same. -/
theorem normalise_spec (showChannels : Value) {specific : Value} {servers : List Value}
    (hlist : serverList specific = .ok servers) (h : servable specific = true) :
    ∃ servers', serverList (normalise showChannels specific).2 = .ok servers' ∧
      servers'.map bindable = servers.map bindable ∧
      berconEnabled (normalise showChannels specific).2 = berconEnabled specific := by
  obtain ⟨hservers', henabled⟩ :=
    setServers_spec hlist (normaliseServers showChannels servers).2
  have hnormalise : (normalise showChannels specific).2 =
      setServers specific (normaliseServers showChannels servers).2 := by
    rw [normalise, hlist]
  rw [hnormalise]
  refine ⟨_, hservers', bindable_normaliseServers ?_, henabled⟩
  rw [normaliseServers_ok_iff]
  rwa [servable, hlist] at h

theorem buildable_normalise (showChannels : Value) {specific : Value}
    (h : servable specific = true) :
    buildable (normalise showChannels specific).2 = buildable specific := by
  cases hlist : serverList specific with
  | error e =>
    rw [servable, hlist] at h
    cases h
  | ok servers =>
    obtain ⟨servers', hlist', hbindable, henabled⟩ := normalise_spec showChannels hlist h
    have hall : servers'.all bindable = servers.all bindable := by
      have hid : ∀ xs : List Value, xs.all bindable = (xs.map bindable).all id := fun xs => by
        rw [List.all_map]
        rfl
      rw [hid, hid, hbindable]
    simp only [buildable, henabled, hlist, hlist', hall]

theorem activeServers_normalise (showChannels : Value) {specific : Value}
    (h : servable specific = true) :
    activeServers (normalise showChannels specific).2 = [] ↔ activeServers specific = [] := by
  cases hlist : serverList specific with
  | error e =>
    rw [servable, hlist] at h
    cases h
  | ok servers =>
    obtain ⟨servers', hlist', hbindable, henabled⟩ := normalise_spec showChannels hlist h
    have hnil : servers' = [] ↔ servers = [] := by
      rw [← List.map_eq_nil_iff (f := bindable), hbindable, List.map_eq_nil_iff]
    rw [activeServers, activeServers, henabled, hlist, hlist']
    cases berconEnabled specific with
    | error e => exact Iff.rfl
    | ok enabled =>
      cases enabled with
      | false => exact Iff.rfl
      | true => exact hnil

/-- The world with another configuration in a data object. No rcon has its servers. -/
def World.setConfig (w : World) (d : DataRef) (specific : Value) : World :=
  w.setObj d fun data => { data with specific := specific, shared := fun _ => none }

@[simp] theorem World.setConfig_self (w : World) (d : DataRef) (specific : Value) :
    (w.setConfig d specific).objs d =
      { w.objs d with specific := specific, shared := fun _ => none } := by
  simp [World.setConfig, World.setObj]

@[simp] theorem World.setConfig_of_ne (w : World) {d d' : DataRef} (specific : Value)
    (h : d' ≠ d) : (w.setConfig d specific).objs d' = w.objs d' := by
  simp [World.setConfig, World.setObj, h]

/-- A new configuration is written in place without any rcon seeing it. -/
theorem World.setConfig_fill (w : World) (d : DataRef) (v v' : Value) :
    (w.setConfig d v).fill d v' = w.setConfig d v' := by
  have hrcons : ((w.setConfig d v).fill d v').rcons = w.rcons := by
    funext r
    by_cases hr : r.data = d
    · subst hr
      exact World.fill_rcons_of_none _ _ (by rw [World.setConfig_self])
    · exact World.fill_rcons_of_ne _ _ hr
  have hobjs : ((w.setConfig d v).fill d v').objs = (w.setConfig d v').objs := by
    funext d'
    by_cases hd : d' = d
    · subst hd; simp
    · simp [hd]
  calc (w.setConfig d v).fill d v'
      = { w with objs := ((w.setConfig d v).fill d v').objs,
                 rcons := ((w.setConfig d v).fill d v').rcons } := rfl
    _ = w.setConfig d v' := by rw [hrcons, hobjs]; rfl

theorem normaliseData_apply (env : Env) (d : DataRef) (w : World) :
    normaliseData env d w = ((normalise env.showChannels (w.objs d).specific).1,
      w.fill d (normalise env.showChannels (w.objs d).specific).2) := rfl

/-- The world after a configuration was applied: a parsed value that is truthy has replaced the old
one, which otherwise was written in place. -/
def World.reconfigure (w : World) (d : DataRef) (parsed specific : Value) : World :=
  if parsed.truthy then w.setConfig d specific else w.fill d specific

section Reconfigure

variable (w : World) (d : DataRef) (parsed specific : Value)

@[simp] theorem World.reconfigure_guildIds :
    (w.reconfigure d parsed specific).guildIds = w.guildIds := by
  unfold World.reconfigure
  split <;> rfl

@[simp] theorem World.reconfigure_dataRef (g : GuildId) :
    (w.reconfigure d parsed specific).dataRef g = w.dataRef g := by
  unfold World.reconfigure
  split <;> rfl

@[simp] theorem World.reconfigure_specific :
    ((w.reconfigure d parsed specific).objs d).specific = specific := by
  unfold World.reconfigure
  split <;> simp

@[simp] theorem World.reconfigure_of_ne {d' : DataRef} (h : d' ≠ d) :
    (w.reconfigure d parsed specific).objs d' = w.objs d' := by
  unfold World.reconfigure
  split <;> simp [h]

@[simp] theorem World.reconfigure_beRcons :
    ((w.reconfigure d parsed specific).objs d).beRcons = (w.objs d).beRcons := by
  unfold World.reconfigure
  split <;> simp

/-- The rcons of the other data objects are left alone. -/
theorem World.reconfigure_rcons {r : RconRef} (h : r.data ≠ d) :
    (w.reconfigure d parsed specific).rcons r = w.rcons r := by
  unfold World.reconfigure
  split
  · rfl
  · exact w.fill_rcons_of_ne specific h

end Reconfigure

theorem applyConfig_unknown {env : Env} {g : GuildId} {text : Text} {w : World}
    (hg : g ∉ w.guildIds) : applyConfig env g text w = (.ok (), w) := by
  rw [applyConfig, Prog.read_bind, Prog.read_bind,
    show w.guildIds.contains g = false by simpa using hg]
  rfl

/-- A text that is no JSON is refused before anything is written. -/
theorem applyConfig_unparsed {env : Env} {g : GuildId} {text : Text} {w : World}
    (hg : g ∈ w.guildIds) (hparse : env.parse text = none) :
    applyConfig env g text w = (.error .syntaxError, w) := by
  rw [applyConfig, Prog.read_bind, Prog.read_bind, List.contains_iff_mem.2 hg]
  simp only [Prog.when_true, jsonParse, hparse, Prog.lift_error_bind rfl, Prog.raise_apply]

/-- The configuration that is normalised: the parsed one, or the current one when that is falsy. -/
def chosen (current parsed : Value) : Value := if parsed.truthy then parsed else current

theorem applyConfig_parsed {env : Env} {g : GuildId} {text : Text} {v : Value} {w : World}
    (hg : g ∈ w.guildIds) (hparse : env.parse text = some v) :
    applyConfig env g text w =
      ((normalise env.showChannels (chosen (w.data g).specific v)).1,
        w.reconfigure (w.dataRef g) v
          (normalise env.showChannels (chosen (w.data g).specific v)).2) := by
  rw [applyConfig, Prog.read_bind, Prog.read_bind, List.contains_iff_mem.2 hg]
  simp only [Prog.when_true, jsonParse, hparse, Prog.lift_ok_bind rfl]
  unfold chosen World.reconfigure
  cases htruthy : v.truthy with
  | false => rfl
  | true =>
    have hset : setSpecific (w.dataRef g) v w = (.ok (), w.setConfig (w.dataRef g) v) := rfl
    rw [Prog.when_true, Prog.bind_ok hset, normaliseData_apply, World.setConfig_self,
      World.setConfig_fill]
    rfl

end Applying

/-! ## Closing -/

section Closing

/-- A reload can close the instance. -/
def Closable (o : Oracle) (this : Rcon) : Prop :=
  (∀ e, o.throws e = false) ∧ none ∉ this.cronJobs

/-- Cancelling the jobs throws at a handle that is `null`. -/
theorem cancelCronJobs_ok_iff (s : RconSt) :
    (cancelCronJobs s).1 = .ok () ↔ none ∉ s.rcon.cronJobs := by
  have hjob : ∀ (job : Option Nat) (s : RconSt), (cancelJob job s).1 = .ok () ↔ job ≠ none := by
    intro job s
    cases job with
    | none => exact ⟨fun h => (nomatch h), fun h => absurd rfl h⟩
    | some id => exact ⟨fun _ => nofun, fun _ => rfl⟩
  have hloop := Prog.forEach_ok_iff (V := fun _ : RconSt => ()) (p := fun _ job => job ≠ none)
    (fun _ _ => rfl) hjob s.rcon.cronJobs s
  simp only [cancelCronJobs, this, Prog.read_bind, Prog.seq_ok_iff]
  refine ⟨fun h hmem => hloop.1 h.1 none hmem rfl, fun h => ⟨hloop.2 ?_, rfl⟩⟩
  exact fun job hmem heq => h (heq ▸ hmem)

theorem disconnectedAction_ok_iff (env : Env) (extra : Option Text) (s : RconSt) :
    (disconnectedAction env extra s).1 = .ok () ↔ none ∉ s.rcon.cronJobs := by
  rw [disconnectedAction, Prog.seq_ok_iff, ← cancelCronJobs_ok_iff, and_iff_left_iff_imp]
  intro _
  generalize (cancelCronJobs s).2 = s₁
  simp only [this, Prog.read_bind]
  split
  · exact Prog.seq_ok_iff.2 ⟨(logBot_quiet _ _).2 _, (sendTextMessage_quiet _ _).2 _⟩
  · exact Prog.seq_ok_iff.2 ⟨(logBot_quiet _ _).2 _,
      Prog.seq_ok_iff.2 ⟨(sendTextMessage_quiet _ _).2 _, rfl⟩⟩

theorem emitDisconnected_ok_iff (env : Env) (n : Nat) (extra : Option Text) (s : RconSt) :
    (emitDisconnected env n extra s).1 = .ok () ↔
      (s.rcon.link.hears n = true → none ∉ s.rcon.cronJobs) := by
  cases hears : s.rcon.link.hears n with
  | false =>
    rw [emitDisconnected_deaf env extra hears]
    exact ⟨fun _ h => (nomatch h), fun _ => rfl⟩
  | true =>
    rw [emitDisconnected_apply env extra hears, disconnectedAction_ok_iff]
    exact ⟨fun h _ => h, fun h => h rfl⟩

/-- Closing the instance throws: a call of its BattleNode does, or the listener of
`disconnected`. -/
def Rcon.unclosable (o : Oracle) (this : Rcon) : Bool :=
  match this.bnode with
  | none => false
  | some n =>
    o.throws (.command n (lit "disconnect") .text) || o.throws (.command n (lit "exit") .text) ||
      o.throws (.closeSocket n) || (this.link.hears n && this.cronJobs.contains none)

theorem command_ok_iff {o : Oracle} {this : Rcon} {n : Nat} (hn : this.bnode = some n)
    (text s : Text) (s₀ : RconSt) :
    (emitting (do
      sendTextMessage this.commandChannel text
      sendCommand this o.throws s .text) s₀).1 = .ok () ↔
        o.throws (.command n s .text) = false := by
  have hsend : (sendTextMessage this.commandChannel text []).1 = .ok () :=
    (sendTextMessage_quiet this.commandChannel text).2 s₀
  change ((sendTextMessage this.commandChannel text >>= fun _ => _) []).1 = _ ↔ _
  rw [Prog.seq_ok_iff, and_iff_right hsend]
  simp only [sendCommand, hn, call, emit, Prog.modify_bind]
  cases o.throws (.command n s .text) with
  | false => exact ⟨fun _ => rfl, fun _ => rfl⟩
  | true => exact ⟨fun h => (by cases h), fun h => (by cases h)⟩

theorem closeSocket_ok_iff (o : Oracle) (n : Nat) (s : RconSt) :
    (closeSocket o n s).1 = .ok () ↔ o.throws (.closeSocket n) = false := by
  change ((emitting (call o.throws (.closeSocket n)) >>= fun _ => _) s).1 = _ ↔ _
  rw [Prog.seq_ok_iff]
  change (call o.throws (.closeSocket n) []).1 = _ ∧ _ ↔ _
  simp only [call, emit, Prog.modify_bind]
  cases o.throws (.closeSocket n) with
  | false => exact ⟨fun _ => rfl, fun _ => ⟨rfl, rfl⟩⟩
  | true => exact ⟨fun h => (by cases h.1), fun h => (by cases h)⟩

theorem closeSocket_hears (o : Oracle) (n : Nat) (s : RconSt) :
    (closeSocket o n s).2.rcon.link.hears n = s.rcon.link.hears n := by
  refine Prog.Triple.snd (P := At s.rcon.link (marks s.calls))
    (R := fun s' => s'.rcon.link.hears n = s.rcon.link.hears n) ?_ ⟨rfl, rfl⟩
  refine (closeSocket_link n).post (fun _ s' hs' => ?_) fun s' hs' => by rw [hs'.1]
  rw [hs'.1, Link.closed_hears]

/-- Closing an instance returns unless it is unclosable. -/
theorem close_ok_iff (env : Env) {o : Oracle} {n : Nat} {s : RconSt}
    (hn : s.rcon.bnode = some n) : (close env o n s).1 = .ok () ↔ s.rcon.unclosable o = false := by
  have hsame : ∀ (x : Emit Unit) (s : RconSt), (emitting x s).2.rcon = s.rcon := fun _ _ => rfl
  have hnull : ∀ (f : Rcon → Rcon) (s : RconSt), (update f s).1 = .ok () := fun _ _ => rfl
  have hlog : ∀ s : RconSt, (emitting (emit .stopped) s).1 = .ok () := fun _ => rfl
  simp only [close, this, Prog.read_bind, Prog.seq_ok_iff, cmdDisconnect, cmdExit,
    command_ok_iff hn, closeSocket_ok_iff, emitDisconnected_ok_iff, closeSocket_hears,
    (closeSocket_kept o n _).1, hsame, hnull, hlog, and_true]
  rw [Rcon.unclosable, hn]
  simp only [Bool.or_eq_false_iff, Bool.and_eq_false_iff, and_assoc]
  simp [imp_iff_not_or]

theorem closeRcon_ok_iff (env : Env) (o : RconRef → Oracle) (r : RconRef) (w : World) :
    (closeRcon env o r w).1 = .ok () ↔ (w.rcons r).unclosable (o r) = false := by
  cases hn : (w.rcons r).bnode with
  | none =>
    rw [closeRcon_none hn, Rcon.unclosable, hn]
    exact ⟨fun _ => rfl, fun _ => rfl⟩
  | some n =>
    have hclose := close_ok_iff env (o := o r) (s := ⟨w.rcons r, []⟩) hn
    rw [closeRcon_some hn, Prog.seq_ok_iff, ← hclose]
    exact ⟨fun h => h.1, fun h => ⟨h, rfl⟩⟩

theorem Closable.unclosable_eq {o : Oracle} {this : Rcon} (h : Closable o this) :
    this.unclosable o = false := by
  unfold Rcon.unclosable
  cases this.bnode with
  | none => rfl
  | some n => simp [h.1, h.2]

theorem closeRcon_others (env : Env) (o : RconRef → Oracle) {r r' : RconRef} (hne : r' ≠ r)
    (w : World) : (closeRcon env o r w).2.rcons r' = w.rcons r' := by
  cases hn : (w.rcons r).bnode with
  | none => rw [closeRcon_none hn]
  | some n =>
    rw [closeRcon_some hn]
    refine Prog.Within.bind_at (Prog.Frame.eq fun w : World => w.rcons r') ?_ fun _ _ => rfl
    simp [BotM.onRcon, World.record, World.setRcon, hne]

/-- The loop over the old instances returns when each of them can be closed. -/
theorem closeAll_ok_iff (env : Env) {o : RconRef → Oracle} {rs : List RconRef} (w : World)
    (hnodup : rs.Nodup) :
    (Prog.forEach rs (closeRcon env o) w).1 = .ok () ↔
      ∀ r ∈ rs, (w.rcons r).unclosable (o r) = false := by
  induction rs generalizing w with
  | nil => exact ⟨fun _ => nofun, fun _ => rfl⟩
  | cons r rs ih =>
    obtain ⟨hr, hrs⟩ := List.nodup_cons.1 hnodup
    have hothers : (∀ r' ∈ rs, ((closeRcon env o r w).2.rcons r').unclosable (o r') = false) ↔
        ∀ r' ∈ rs, (w.rcons r').unclosable (o r') = false :=
      forall₂_congr fun r' hr' => by
        have hne : r' ≠ r := fun heq => hr (heq ▸ hr')
        rw [closeRcon_others env o hne]
    rw [Prog.forEach, Prog.seq_ok_iff, List.forall_mem_cons, closeRcon_ok_iff, ih _ hrs, hothers]

theorem closeAll_returns (env : Env) {o : RconRef → Oracle} {rs : List RconRef} {w : World}
    (hnodup : rs.Nodup) (h : ∀ r ∈ rs, Closable (o r) (w.rcons r)) :
    (Prog.forEach rs (closeRcon env o) w).1 = .ok () :=
  (closeAll_ok_iff env w hnodup).2 fun r hr => (h r hr).unclosable_eq

end Closing

end ZBot
