import ZBot.Verify.Servers

/-!
# Reloading one guild

`initBERcon(guild)` closes the guild's instances one after the other, clears the guild's list and
builds the instances of the current configuration. The states it starts from are those in which
`_bercons` is the disjoint union of the guilds' lists (`Registered`).

* Closing passes over an instance without a BattleNode (`closeAll_skips`), and runs the closing
  calls of every other one once (`closeAll_inst`).
* A reload whose closings and constructors return restarts exactly the guild's instances
  (`initBERconGuild_restarts`).
* A reload that throws while it closes leaves the instances it has closed in the guild's list, but
  no longer in `_bercons` (`torn_reload`). The two lists agree afterwards, and a later reload
  repairs the guild, only when it is the first instance that throws (`recovers_iff`).
-/

namespace ZBot

open Js RconM BotM

/-! ## The states -/

/-- `_bercons` is the disjoint union of the guilds' lists. -/
structure Registered (w : World) : Prop where
  heap : w.Heap
  ids : w.guildIds.Nodup
  agreement : Agreement w

namespace Registered

variable {w : World} (hw : Registered w) {g : GuildId}

include hw

theorem lists (hg : g ∈ w.guildIds) : (w.data g).beRcons.Nodup :=
  (List.nodup_flatMap.1 (hw.agreement.1.nodup_iff.1 hw.agreement.2)).1 g hg

theorem guild_eq {r : RconRef} (hr : r ∈ (w.data g).beRcons) : r.guild = g :=
  congrArg DataRef.guild (hw.heap.beRcons _ r hr).1

theorem mem_of_list (hg : g ∈ w.guildIds) {r : RconRef} (hr : r ∈ (w.data g).beRcons) :
    r ∈ w.bercons :=
  hw.agreement.1.mem_iff.2 (List.mem_flatMap.2 ⟨g, hg, hr⟩)

theorem mem_list {r : RconRef} (hr : r ∈ w.bercons) : r ∈ (w.data r.guild).beRcons := by
  obtain ⟨g, -, hmem⟩ := List.mem_flatMap.1 (hw.agreement.1.mem_iff.1 hr)
  rwa [hw.guild_eq hmem]

end Registered

theorem Listed.registered {w : World} (hw : Listed w) : Registered w :=
  ⟨hw.heap, hw.ids, hw.agreement⟩

/-! ## The closing loop -/

section Closing

variable {env : Env} {o : RconRef → Oracle}

/-- The instance has a BattleNode, so that a reload closes it. -/
def World.connected (w : World) (r : RconRef) : Bool := (w.rcons r).bnode.isSome

theorem World.connected_iff {w : World} {r : RconRef} :
    w.connected r = true ↔ (w.rcons r).bnode ≠ none :=
  Option.isSome_iff_ne_none

/-- An instance without a BattleNode is passed over. -/
theorem closeAll_skips {rs : List RconRef} (hnodup : rs.Nodup) (w : World) :
    Prog.forEach rs (closeRcon env o) w =
      Prog.forEach (rs.filter w.connected) (closeRcon env o) w := by
  induction rs generalizing w with
  | nil => rfl
  | cons r rs ih =>
    obtain ⟨hr, hrs⟩ := List.nodup_cons.1 hnodup
    cases hn : (w.rcons r).bnode with
    | none =>
      rw [List.filter_cons_of_neg (by simp [World.connected, hn]), Prog.forEach,
        Prog.bind_ok (closeRcon_none hn)]
      exact ih hrs w
    | some n =>
      rw [List.filter_cons_of_pos (by simp [World.connected, hn]), Prog.forEach, Prog.forEach]
      rcases e : closeRcon env o r w with ⟨_ | _, w₁⟩
      · rw [Prog.bind_error e, Prog.bind_error e]
      · rw [Prog.bind_ok e, Prog.bind_ok e, ih hrs w₁]
        -- the instances that are still to come are as before
        congr 1
        refine List.filter_congr fun r' hr' => ?_
        have hne : r' ≠ r := fun heq => hr (heq ▸ hr')
        have hsame := closeRcon_others env o hne w
        rw [e] at hsame
        rw [World.connected, World.connected, hsame]

/-- What closing makes of an instance. -/
def RconSt.closed (env : Env) (o : Oracle) (s : RconSt) : RconSt :=
  match s.rcon.bnode with
  | some n => s.after (close env o n)
  | none => s

theorem closeRcon_inst (r r' : RconRef) (w : World) :
    (closeRcon env o r w).2.inst r' =
      if r' = r then (w.inst r).closed env (o r) else w.inst r' := by
  cases hn : (w.rcons r).bnode with
  | none =>
    have hclosed : (w.inst r).closed env (o r) = w.inst r := by
      rw [RconSt.closed, show (w.inst r).rcon.bnode = none from hn]
    rw [closeRcon_none hn, hclosed]
    split
    · rename_i h
      rw [h]
    · rfl
  | some n =>
    have hclosed : (w.inst r).closed env (o r) = (w.inst r).after (close env (o r) n) := by
      rw [RconSt.closed, show (w.inst r).rcon.bnode = some n from hn]
    rw [hclosed, ← onRcon_inst, closeRcon_some hn]
    rcases e : onRcon r (close env (o r) n) w with ⟨_ | _, w₁⟩
    · rw [Prog.bind_error e]
    · rw [Prog.bind_ok e]
      rfl

/-- Every instance of the loop is closed once, and no other instance is reached. -/
theorem closeAll_inst {rs : List RconRef} {w : World} (hnodup : rs.Nodup)
    (hok : (Prog.forEach rs (closeRcon env o) w).1 = .ok ()) (r : RconRef) :
    (Prog.forEach rs (closeRcon env o) w).2.inst r =
      if r ∈ rs then (w.inst r).closed env (o r) else w.inst r := by
  induction rs generalizing w with
  | nil => rfl
  | cons r' rs ih =>
    obtain ⟨hr', hrs⟩ := List.nodup_cons.1 hnodup
    have hinst : (closeRcon env o r' w).2.inst r = _ := closeRcon_inst r' r w
    rw [Prog.forEach] at hok ⊢
    rcases e : closeRcon env o r' w with ⟨_ | _, w₁⟩ <;> rw [e] at hinst
    · rw [Prog.bind_error e] at hok
      cases hok
    · rw [Prog.bind_ok e] at hok ⊢
      rw [ih hrs hok]
      replace hinst :
          w₁.inst r = if r = r' then (w.inst r').closed env (o r') else w.inst r := hinst
      by_cases heq : r = r'
      · subst heq
        rw [if_neg hr', if_pos List.mem_cons_self, hinst, if_pos rfl]
      · rw [if_neg heq] at hinst
        simp only [hinst, List.mem_cons, heq, false_or]

/-- The loop as a whole, when it returns. -/
theorem closeAll_returned {rs : List RconRef} {w : World} (hnodup : rs.Nodup)
    (hok : (Prog.forEach rs (closeRcon env o) w).1 = .ok ()) :
    Closes (rs.filter w.connected) w (Prog.forEach rs (closeRcon env o) w).2 := by
  have hcloses : Prog.Triple (Closes [] w)
      (Prog.forEach (rs.filter w.connected) (closeRcon env o))
      (fun _ => Closes ([] ++ rs.filter w.connected) w) fun _ => True :=
    closeAll_closes (hnodup.filter _) fun r hr => World.connected_iff.1 (List.mem_filter.1 hr).2
  rw [closeAll_skips hnodup] at hok ⊢
  exact hcloses.of_ok (Closes.refl w) hok

end Closing

/-! ## The closing calls -/

/-- The calls with which a connection is closed. -/
def Effect.isClosing : Effect → Bool
  | .command .. | .closeSocket _ | .stopped => true
  | _ => false

def closings (calls : List Effect) : List Effect := calls.filter Effect.isClosing

@[simp] theorem closings_append (calls calls' : List Effect) :
    closings (calls ++ calls') = closings calls ++ closings calls' := List.filter_append ..

/-- The closing of the BattleNode `n`. -/
def closing (n : Nat) : List Effect :=
  [.command n (lit "disconnect") .text, .command n (lit "exit") .text, .closeSocket n, .stopped]

section ClosingCalls

variable {env : Env} {o : Oracle} {cs : List Effect}

/-- The closing calls so far. -/
def HasClosings (cs : List Effect) (s : RconSt) : Prop := closings s.calls = cs

/-- A call that returns is the only closing call added. -/
theorem call_closings {throws : Effect → Bool} {e : Effect} (he : e.isClosing = true) :
    Prog.Triple (fun calls => closings calls = cs) (call throws e)
      (fun _ calls => closings calls = cs ++ [e]) fun _ => True := by
  refine .bind (R := fun _ calls => closings calls = cs ++ [e]) (.modify fun calls hcalls => ?_)
    fun _ => .when (fun _ => .raise fun _ _ => trivial) fun _ _ h => h
  rw [closings_append, hcalls]
  simp [closings, he]

/-- The closing calls of code that starts with none. -/
theorem emitting_adds_closings {x : Emit Unit} {new : List Effect}
    (hx : Prog.Triple (fun calls => closings calls = []) x (fun _ calls => closings calls = new)
      fun _ => True) :
    Prog.Triple (HasClosings cs) (emitting x) (fun _ => HasClosings (cs ++ new))
      fun _ => True := by
  intro s hs
  have h := hx [] rfl
  rcases e : x [] with ⟨_ | _, calls⟩ <;> rw [e] at h
  · rw [RconM.emitting, Prog.zoom_apply, e]
    trivial
  · rw [RconM.emitting, Prog.zoom_apply, e]
    change closings (s.calls ++ calls) = cs ++ new
    rw [closings_append, hs, h]

theorem emitDisconnected_closings (env : Env) (n : Nat) (extra : Option Text) :
    Prog.Within (fun s s' => closings s'.calls = closings s.calls)
      (emitDisconnected env n extra) := by
  intro s
  have hvoices : Voices (fun _ => ()) (fun e => e.isClosing = false) s :=
    ⟨fun _ _ _ _ _ => rfl, fun _ _ => rfl⟩
  have hkeeps : Keeps _ _ s (emitDisconnected env n extra) :=
    emitDisconnected_keeps (fun _ _ _ _ => rfl) (fun _ _ _ => rfl) (fun _ _ => rfl) hvoices n extra
  obtain ⟨new, hcalls, hnew⟩ := (keeps_held hkeeps).calls
  have hnone : closings new = [] := by
    simpa [closings, List.filter_eq_nil_iff] using hnew
  rw [hcalls, closings_append, hnone, List.append_nil]

/-- **Closing an instance makes each of the closing calls once.** -/
theorem close_closings {this : Rcon} {n : Nat} (hn : this.bnode = some n)
    (hok : (close env o n ⟨this, []⟩).1 = .ok ()) :
    closings (close env o n ⟨this, []⟩).2.calls = closing n := by
  have hcommand : ∀ (cs : List Effect) (text s : Text),
      Prog.Triple (HasClosings cs) (emitting (do
        sendTextMessage this.commandChannel text
        sendCommand this o.throws s .text))
        (fun _ => HasClosings (cs ++ [.command n s .text])) fun _ => True := by
    intro cs text s
    have hsend : Prog.Within (Adds fun e => e.isClosing = false)
        (sendTextMessage this.commandChannel text) := sendTextMessage_adds fun _ _ => rfl
    refine emitting_adds_closings (.bind (R := fun _ calls => closings calls = [])
      (Prog.Triple.post (Prog.Triple.of_within hsend ?_) (fun _ _ h => h) fun _ _ => trivial)
      fun _ => ?_)
    · rintro calls _ hcalls ⟨new, rfl, hnew⟩
      rw [closings_append, hcalls, List.nil_append, closings, List.filter_eq_nil_iff]
      intro e he
      rw [hnew e he]
      exact Bool.false_ne_true
    · rw [sendCommand, hn]
      exact call_closings rfl
  have hupdate : ∀ (cs : List Effect) (f : Rcon → Rcon), Prog.Triple (HasClosings cs) (update f)
      (fun _ => HasClosings cs) fun _ => True := fun _ _ => .modify fun _ h => h
  have hsocket : Prog.Triple
      (HasClosings [.command n (lit "disconnect") .text, .command n (lit "exit") .text])
      (closeSocket o n) (fun _ => HasClosings [.command n (lit "disconnect") .text,
        .command n (lit "exit") .text, .closeSocket n]) fun _ => True :=
    .bind (emitting_adds_closings (call_closings rfl)) fun _ => hupdate _ _
  have hend : ∀ cs, Prog.Triple (HasClosings cs) (emitDisconnected env n (some (lit "stop")))
      (fun _ => HasClosings cs) fun _ => True := fun cs =>
    (Prog.Triple.of_within (emitDisconnected_closings env n (some (lit "stop")))
      fun _ _ hs h => h.trans hs).post (fun _ _ h => h) fun _ _ => trivial
  have hclose : Prog.Triple (fun s => s.rcon = this ∧ HasClosings [] s) (close env o n)
      (fun _ => HasClosings (closing n)) fun _ => True := by
    have hdisconnect : ∀ s, s.rcon = this ∧ HasClosings [] s →
        Prog.Triple (fun s => s.rcon = this ∧ HasClosings [] s)
          (emitting (cmdDisconnect s.rcon o.throws))
          (fun _ => HasClosings [.command n (lit "disconnect") .text]) fun _ => True := by
      intro s hs
      rw [hs.1]
      exact (hcommand [] _ _).pre fun _ h => h.2
    refine close_triple hdisconnect (fun s hs => ?_) hsocket (hend _) fun s hs => ?_
    · rw [hs.1]
      exact hcommand _ _ _
    · change closings (s.calls ++ [.stopped]) = _
      rw [closings_append, hs]
      rfl
  exact hclose.of_ok ⟨rfl, rfl⟩ hok

end ClosingCalls

/-! ## Building leaves the other instances alone -/

/-- The instances that were there have made no call. -/
def SparesCalls (d : DataRef) (w w' : World) : Prop :=
  (w.objs d).built ≤ (w'.objs d).built ∧
    ∀ r, r.data ≠ d ∨ r.num < (w.objs d).built → w'.calls r = w.calls r

theorem SparesCalls.frame (d : DataRef) : Prog.Frame (SparesCalls d) where
  refl _ := ⟨le_rfl, fun _ _ => rfl⟩
  trans h h' := ⟨h.1.trans h'.1, fun r hr =>
    (h'.2 r (hr.imp_right fun hlt => hlt.trans_le h.1)).trans (h.2 r hr)⟩

theorem buildRcon_sparesCalls (env : Env) (o : RconRef → Oracle) (d : DataRef) (server : Value)
    (position : Nat) : Prog.Within (SparesCalls d) (buildRcon env o d server position) := by
  intro w
  let r₀ : RconRef := ⟨d, (w.objs d).built⟩
  let x := construct env (o r₀) (w.objs d).specific
  have hgrows := (construct_grows env (o r₀) d server position (w.objs d).specific w).built
  have hcalls : ∀ r, r.data ≠ d ∨ r.num < (w.objs d).built →
      (onRcon r₀ x (w.alloc d server position)).2.calls r = w.calls r := by
    intro r hr
    have hne : r ≠ r₀ := by
      rintro rfl
      exact hr.elim (fun h => h rfl) (lt_irrefl _)
    have hinst := onRcon_inst r₀ x (w.alloc d server position) r
    rw [if_neg hne] at hinst
    exact congrArg RconSt.calls hinst
  rw [buildRcon_apply]
  rcases e : onRcon r₀ x (w.alloc d server position) with ⟨_ | _, w₁⟩ <;> rw [e] at hgrows hcalls
  · rw [Prog.bind_error e]
    exact ⟨hgrows, hcalls⟩
  · rw [Prog.bind_ok e]
    refine ⟨hgrows.trans ?_, hcalls⟩
    simp [World.push, World.setObj]

theorem buildRcons_sparesCalls (env : Env) (o : RconRef → Oracle) (d : DataRef) :
    Prog.Within (SparesCalls d) (buildRcons env o d) :=
  buildRcons_within (SparesCalls.frame d) env o d (buildRcon_sparesCalls env o d)

/-! ## A reload that throws neither in a closing nor in a constructor -/

/-- No constructor of the instances that are built next on the data object throws. -/
def Constructible (env : Env) (o : RconRef → Oracle) (d : DataRef) (data : GuildData) : Prop :=
  ∀ i server, (activeServers data.specific)[i]? = some server →
    (construct env (o ⟨d, data.built + i⟩) data.specific ⟨.blank server data.guild, []⟩).1 = .ok ()

theorem Constructible.of_buildable (env : Env) {o : RconRef → Oracle} (ho : ∀ r, (o r).Connects)
    {d : DataRef} {data : GuildData} (h : buildable data.specific = true) :
    Constructible env o d data := by
  intro i server hi
  have hserver := List.mem_of_getElem? hi
  rw [construct_ok_iff env (ho _)]
  unfold activeServers at hserver
  unfold buildable at h
  cases henabled : berconEnabled data.specific with
  | error e =>
    rw [henabled] at hserver
    cases hserver
  | ok enabled =>
    cases enabled with
    | false =>
      rw [henabled] at hserver
      cases hserver
    | true =>
      cases hservers : serverList data.specific with
      | error e =>
        rw [henabled, hservers] at hserver
        cases hserver
      | ok servers =>
        rw [henabled, hservers] at hserver h
        exact ⟨hasBercon_of_enabled henabled, List.all_eq_true.1 h server hserver⟩

/-- One instance is built when its constructor returns. -/
theorem buildRcon_returns {env : Env} {o : RconRef → Oracle} {d : DataRef} {server : Value}
    {w : World} (h : (construct env (o ⟨d, (w.objs d).built⟩) (w.objs d).specific
      ⟨.blank server (w.objs d).guild, []⟩).1 = .ok ()) (position : Nat) :
    let w' := (buildRcon env o d server position w).2
    (buildRcon env o d server position w).1 = .ok () ∧
      (w'.objs d).built = (w.objs d).built + 1 ∧
      (w'.objs d).specific = (w.objs d).specific ∧ (w'.objs d).guild = (w.objs d).guild := by
  let r : RconRef := ⟨d, (w.objs d).built⟩
  have hnew : (w.alloc d server position).rcons r = .blank server (w.objs d).guild := by
    simp [World.alloc, World.setRcon, r]
  have hok : (onRcon r (construct env (o r) (w.objs d).specific)
      (w.alloc d server position)).1 = .ok () := by
    rw [← hnew] at h
    exact h
  have hbuilt := (World.alloc_built w d d server position).trans (if_pos rfl)
  have hgrows := construct_grows env (o r) d server position (w.objs d).specific w
  rw [buildRcon_apply]
  rcases e : onRcon r (construct env (o r) (w.objs d).specific) (w.alloc d server position) with
    ⟨_ | _, w₁⟩ <;> rw [e] at hok hgrows
  · cases hok
  · have hbuilt₁ : (w₁.objs d).built = (w.objs d).built + 1 := by
      rw [← hbuilt]
      exact (congrArg (fun p => (p.2.objs d).built) e).symm
    rw [Prog.bind_ok e]
    change _ ∧ ((w₁.push r).objs d).built = _ ∧ ((w₁.push r).objs d).specific = _ ∧
      ((w₁.push r).objs d).guild = _
    rw [World.push_objs, if_pos rfl]
    exact ⟨rfl, hbuilt₁, hgrows.specific, hgrows.guild⟩

theorem buildServers_returns {env : Env} {o : RconRef → Oracle} {d : DataRef}
    {servers : List Value} {w : World}
    (h : ∀ i server, servers[i]? = some server →
      (construct env (o ⟨d, (w.objs d).built + i⟩) (w.objs d).specific
        ⟨.blank server (w.objs d).guild, []⟩).1 = .ok ()) (position : Nat) :
    (Prog.forEach (servers.zipIdx position)
      (fun server => buildRcon env o d server.1 server.2) w).1 = .ok () := by
  induction servers generalizing w position with
  | nil => rfl
  | cons server rest ih =>
    obtain ⟨hok, hbuilt, hspecific, hguild⟩ := buildRcon_returns (h 0 server rfl) position
    rw [List.zipIdx_cons, Prog.forEach, Prog.seq_ok_iff]
    refine ⟨hok, ih (fun i server' hi => ?_) (position + 1)⟩
    rw [hbuilt, hspecific, hguild, Nat.add_assoc, Nat.add_comm 1]
    exact h (i + 1) server' hi

/-- The instances of all active servers are built, even when the configuration is refused: it has no
active servers then. -/
theorem buildRcons_full {env : Env} {o : RconRef → Oracle} {d : DataRef} {w : World}
    (h : Constructible env o d (w.objs d)) :
    Grows d (activeServers (w.objs d).specific) w (buildRcons env o d w).2 := by
  rcases buildRcons_cases env o d w with ⟨e, hrun, hnone⟩ | hrun
  · rw [hrun, hnone]
    exact Grows.refl d w
  · rw [hrun]
    exact (buildServers_grows env o d _ [] 0 w).of_ok (Grows.refl d w) (buildServers_returns h 0)

/-- The guild's instances that had a BattleNode were replaced by those of its active servers, and
nothing else changed. -/
structure Reloaded (env : Env) (o : RconRef → Oracle) (g : GuildId) (w w' : World) : Prop where
  guildIds : w'.guildIds = w.guildIds
  data : ∀ g', g' ≠ g → w'.data g' = w.data g'
  guild : (w'.data g).guild = (w.data g).guild
  specific : (w'.data g).specific = (w.data g).specific
  bercons : w'.bercons = w.bercons.filter (· ∉ (w.data g).beRcons.filter w.connected) ++
    (w'.data g).beRcons
  cfgs : w'.cfgs g = activeServers (w.data g).specific
  nodup : (w'.data g).beRcons.Nodup
  fresh : ∀ r ∈ (w'.data g).beRcons,
    r.data = w.dataRef g ∧ (w.data g).built ≤ r.num ∧ (w'.rcons r).bnode ≠ none
  closed : ∀ r ∈ (w.data g).beRcons, w'.inst r = (w.inst r).closed env (o r)
  others : ∀ r ∉ (w.data g).beRcons, r.data ≠ w.dataRef g ∨ r.num < (w.data g).built →
    w'.inst r = w.inst r

section Reloading

variable {env : Env} {o : RconRef → Oracle} {g : GuildId} {w : World}

/-- The state in which a reload builds: the old instances are closed, and the guild's list is
empty. -/
def World.cleared (env : Env) (o : RconRef → Oracle) (g : GuildId) (w : World) : World :=
  (Prog.forEach (w.data g).beRcons (closeRcon env o) w).2.clear (w.dataRef g)

theorem initBERconGuild_closed (hg : g ∈ w.guildIds)
    (hok : (Prog.forEach (w.data g).beRcons (closeRcon env o) w).1 = .ok ()) :
    initBERconGuild env o g w = buildRcons env o (w.dataRef g) (w.cleared env o g) := by
  rw [initBERconGuild_known hg, World.cleared]
  rcases e : Prog.forEach (w.data g).beRcons (closeRcon env o) w with ⟨_ | _, w₁⟩ <;> rw [e] at hok
  · cases hok
  · rw [Prog.bind_ok e, Prog.modify_bind]
    rfl

theorem World.Heap.initBERconGuild (hw : w.Heap) (env : Env) (o : RconRef → Oracle) (g : GuildId) :
    (initBERconGuild env o g w).2.Heap :=
  have htouch : Touches env o (fun _ => True) w _ := initBERconGuild_touches fun _ _ => trivial
  htouch.heap hw

/-- The closing loop throws, and the reload ends there. -/
theorem initBERconGuild_torn (hg : g ∈ w.guildIds)
    (hthrow : (Prog.forEach (w.data g).beRcons (closeRcon env o) w).1 ≠ .ok ()) :
    initBERconGuild env o g w = Prog.forEach (w.data g).beRcons (closeRcon env o) w := by
  rw [initBERconGuild_known hg]
  rcases e : Prog.forEach (w.data g).beRcons (closeRcon env o) w with ⟨_ | _, w₁⟩
  · exact Prog.bind_error e
  · rw [e] at hthrow
    exact absurd rfl hthrow

/-- **Reloading a guild.** -/
theorem initBERconGuild_reloads (hw : w.Heap) (hg : g ∈ w.guildIds)
    (hnodup : (w.data g).beRcons.Nodup)
    (hclose : ∀ r ∈ (w.data g).beRcons, (w.rcons r).unclosable (o r) = false)
    (hbuild : Constructible env o (w.dataRef g) (w.data g)) :
    Reloaded env o g w (initBERconGuild env o g w).2 := by
  have hok := (closeAll_ok_iff env w hnodup).2 hclose
  have hcloses := closeAll_returned hnodup hok
  have hinst := closeAll_inst hnodup hok
  have hself : (w.cleared env o g).objs (w.dataRef g) = { w.data g with beRcons := [] } := by
    have hdata : (w.cleared env o g).data g = { w.data g with beRcons := [] } :=
      hcloses.clear_data_self
    rwa [World.data, World.cleared, hcloses.clear_dataRef] at hdata
  have hconstructible : Constructible env o (w.dataRef g)
      ((w.cleared env o g).objs (w.dataRef g)) := by
    rw [hself]
    exact hbuild
  have hgrows := buildRcons_full hconstructible
  have hcalls := (buildRcons_sparesCalls env o (w.dataRef g) (w.cleared env o g)).2
  rw [hself] at hgrows hcalls
  rw [initBERconGuild_closed hg hok]
  generalize (buildRcons env o (w.dataRef g) (w.cleared env o g)).2 = w' at hgrows hcalls
  have hd : ∀ g', w'.dataRef g' = w.dataRef g' := fun g' => by
    simp only [World.dataRef, hgrows.gens]
    exact congrArg (DataRef.mk g') (congrFun hcloses.gens g')
  have hold : ∀ r, r.data ≠ w.dataRef g ∨ r.num < (w.data g).built →
      w'.inst r = if r ∈ (w.data g).beRcons then (w.inst r).closed env (o r) else w.inst r := by
    intro r hr
    have hrcon := hgrows.rcons r (by rw [hself]; exact hr)
    have hsame : w'.inst r = (w.cleared env o g).inst r := by
      rw [World.inst, World.inst, hrcon, hcalls r hr]
    rw [hsame]
    exact hinst r
  obtain ⟨news, hbercons, hlist, hcfgs, hnew, hnews⟩ := hgrows.news
  rw [hself] at hlist hnews
  replace hlist : (w'.data g).beRcons = news := by rw [World.data, hd, hlist, List.nil_append]
  exact {
    guildIds := hgrows.guildIds.trans hcloses.guildIds
    data := fun g' hne => by
      have hcleared : (w.cleared env o g).data g' = w.data g' := hcloses.clear_data_of_ne hne
      rw [World.data, World.cleared, hcloses.clear_dataRef] at hcleared
      rw [World.data, hd, hgrows.others _ (w.dataRef_ne hne)]
      exact hcleared
    guild := by rw [World.data, hd, hgrows.guild, hself]
    specific := by rw [World.data, hd, hgrows.specific, hself]
    bercons := by
      rw [hlist, hbercons]
      exact congrArg (· ++ news) hcloses.bercons
    cfgs := by rw [World.cfgs, hlist, hcfgs]
    nodup := by rw [hlist]; exact hnew
    fresh := fun r hr => by
      obtain ⟨hdata, hge, -, hbnode⟩ := hnews r (hlist ▸ hr)
      exact ⟨hdata, hge, hbnode⟩
    closed := fun r hr => by
      rw [hold r (.inr (hw.beRcons _ r hr).2), if_pos hr]
    others := fun r hr hbuilt => by rw [hold r hbuilt, if_neg hr] }

end Reloading

/-! ## Restarting exactly the guild's instances -/

/-- `bercon.enabled` is `true`, or it is `'on'` under `==`. -/
def SwitchedOn (specific : Value) : Prop :=
  ∃ bercon enabled, specific.get (lit "bercon") = .ok bercon ∧
    bercon.get (lit "enabled") = .ok enabled ∧
    (enabled = .bool true ∨ enabled.looseEqText (lit "on") = .ok true)

theorem enabledTest_iff (enabled : Value) : enabledTest enabled = .ok true ↔
    enabled = .bool true ∨ enabled.looseEqText (lit "on") = .ok true := by
  have hempty : lit "on" ≠ [] := by decide +kernel
  cases enabled with
  | bool b => simp [enabledTest, Value.looseEqText]
  | num t =>
    by_cases h : t = lit "0" <;> simp [enabledTest, Value.truthy, Value.looseEqText, h]
  | str t =>
    by_cases h : t = []
    · simp [enabledTest, Value.truthy, Value.looseEqText, h, hempty]
    · simp [enabledTest, Value.truthy, h]
  | undefined => simp [enabledTest, Value.truthy, Value.looseEqText]
  | null => simp [enabledTest, Value.truthy, Value.looseEqText]
  | arr items fields => simp [enabledTest, Value.truthy]
  | obj fields => simp [enabledTest, Value.truthy]

theorem switchedOn_iff (specific : Value) :
    SwitchedOn specific ↔ berconEnabled specific = .ok true := by
  unfold SwitchedOn berconEnabled
  cases specific.get (lit "bercon") with
  | error e => exact ⟨fun ⟨_, _, h, _⟩ => (nomatch h), fun h => (nomatch h)⟩
  | ok bercon =>
    change _ ↔ (bercon.get (lit "enabled") >>= enabledTest) = _
    cases henabled : bercon.get (lit "enabled") with
    | error e =>
      refine ⟨?_, fun h => (nomatch h)⟩
      rintro ⟨_, _, ⟨⟩, h, -⟩
      cases henabled.symm.trans h
    | ok enabled =>
      refine Iff.trans ?_ (enabledTest_iff enabled).symm
      constructor
      · rintro ⟨_, _, ⟨⟩, h, htest⟩
        cases henabled.symm.trans h
        exact htest
      · exact fun htest => ⟨bercon, enabled, rfl, henabled, htest⟩

theorem activeServers_on {specific : Value} (h : SwitchedOn specific) :
    activeServers specific = configured specific := by
  rw [activeServers, configured, (switchedOn_iff specific).1 h]
  cases serverList specific <;> rfl

theorem activeServers_off {specific : Value} (h : ¬SwitchedOn specific) :
    activeServers specific = [] := by
  rw [switchedOn_iff] at h
  unfold activeServers
  cases henabled : berconEnabled specific with
  | error e => rfl
  | ok enabled =>
    cases enabled with
    | false => rfl
    | true => exact absurd henabled h

/-- The instances of the guild `g`, and no others, were closed and built anew. -/
structure Restarts (env : Env) (o : RconRef → Oracle) (g : GuildId) (w w' : World) : Prop where
  /-- each old instance is closed: its body ran on it, with each closing call made once, the end
  delivered to its listeners, and its BattleNode gone -/
  closed : ∀ r ∈ (w.data g).beRcons, ∃ n, (w.rcons r).bnode = some n ∧
    w'.inst r = (w.inst r).after (close env (o r) n) ∧
    closings (w'.calls r) = closings (w.calls r) ++ closing n ∧
    (w'.rcons r).link = { (w.rcons r).link.shut n with bnode := none }
  /-- no other instance is reached -/
  others : ∀ r ∉ (w.data g).beRcons, r.num < (w.objs r.data).built → w'.inst r = w.inst r
  data : ∀ g', g' ≠ g → w'.data g' = w.data g'
  /-- the new instances did not exist before -/
  fresh : ∀ r ∈ (w'.data g).beRcons, r.guild = g ∧ (w.objs r.data).built ≤ r.num
  on : SwitchedOn (w.data g).specific → w'.cfgs g = configured (w.data g).specific
  off : ¬SwitchedOn (w.data g).specific → (w'.data g).beRcons = []
  bercons : w'.bercons = w.bercons.filter (· ∉ (w.data g).beRcons) ++ (w'.data g).beRcons

/-- The registry without the names of the instances: the guilds, the servers of each guild's
instances, and the guilds and servers of `_bercons`, in the order of the lists. -/
def World.shape (w : World) : List GuildId × (GuildId → List Value) × List (GuildId × Value) :=
  (w.guildIds, fun g => w.cfgs g, w.bercons.map fun r => (r.guild, (w.rcons r).cfg))

theorem closed_of_closable (env : Env) {o : Oracle} {s : RconSt} {n : Nat}
    (hn : s.rcon.bnode = some n) (h : s.rcon.unclosable o = false) :
    s.closed env o = s.after (close env o n) ∧
      closings (s.closed env o).calls = closings s.calls ++ closing n ∧
      (s.closed env o).rcon.link = { s.rcon.link.shut n with bnode := none } := by
  have hclosed : s.closed env o = s.after (close env o n) := by rw [RconSt.closed, hn]
  have hok : (close env o n ⟨s.rcon, []⟩).1 = .ok () :=
    (close_ok_iff env (s := ⟨s.rcon, []⟩) hn).2 h
  rw [hclosed]
  refine ⟨rfl, ?_, ((close_stops n).of_ok (s := ⟨s.rcon, []⟩) ⟨rfl, rfl⟩ hok).1⟩
  change closings (s.calls ++ (close env o n ⟨s.rcon, []⟩).2.calls) = _
  rw [closings_append, close_closings hn hok]

section Restarting

variable {env : Env} {o : RconRef → Oracle} {g : GuildId} {w w' : World}

/-- When every instance of the guild has a BattleNode, the reload replaces them all. -/
theorem Reloaded.bercons_eq (h : Reloaded env o g w w')
    (hbnode : ∀ r ∈ (w.data g).beRcons, (w.rcons r).bnode ≠ none) :
    w'.bercons = w.bercons.filter (· ∉ (w.data g).beRcons) ++ (w'.data g).beRcons := by
  have hall : (w.data g).beRcons.filter w.connected = (w.data g).beRcons :=
    List.filter_eq_self.2 fun r hr => World.connected_iff.2 (hbnode r hr)
  rw [h.bercons, hall]

theorem Reloaded.restarts (h : Reloaded env o g w w')
    (hbnode : ∀ r ∈ (w.data g).beRcons, (w.rcons r).bnode ≠ none)
    (hclose : ∀ r ∈ (w.data g).beRcons, (w.rcons r).unclosable (o r) = false) :
    Restarts env o g w w' where
  closed r hr := by
    obtain ⟨n, hn⟩ := Option.ne_none_iff_exists'.1 (hbnode r hr)
    obtain ⟨hafter, hcalls, hlink⟩ :=
      closed_of_closable env (s := w.inst r) hn (hclose r hr)
    rw [← h.closed r hr] at hafter hcalls hlink
    exact ⟨n, hn, hafter, hcalls, hlink⟩
  others r hr hbuilt := by
    exact h.others r hr (World.built_before hbuilt _)
  data := h.data
  fresh r hr := by
    obtain ⟨hd, hge, -⟩ := h.fresh r hr
    exact ⟨congrArg DataRef.guild hd, hd ▸ hge⟩
  on hon := by rw [h.cfgs, activeServers_on hon]
  off hoff := by
    have hcfgs := h.cfgs
    rw [activeServers_off hoff] at hcfgs
    exact List.map_eq_nil_iff.1 hcfgs
  bercons := h.bercons_eq hbnode

/-- The instances of the other guilds are left alone. -/
theorem Reloaded.cfgs_of_ne (hw : w.Heap) (h : Reloaded env o g w w') {g' : GuildId}
    (hne : g' ≠ g) : w'.cfgs g' = w.cfgs g' := by
  unfold World.cfgs
  rw [h.data g' hne]
  refine List.map_congr_left fun r hr => ?_
  have hd : r.data = w.dataRef g' := (hw.beRcons _ r hr).1
  have hne' : r.data ≠ w.dataRef g := by
    rw [hd]
    exact w.dataRef_ne hne
  have hout : r ∉ (w.data g).beRcons := fun hmem => hne' (hw.beRcons _ r hmem).1
  exact congrArg (fun s => s.rcon.cfg) (h.others r hout (.inl hne'))

/-- An instance that was listed is none of the new ones. -/
theorem Reloaded.not_fresh (hw : w.Heap) (h : Reloaded env o g w w') {r : RconRef}
    (hr : r ∈ w.bercons) : r ∉ (w'.data g).beRcons := by
  intro hmem
  obtain ⟨hd, hge, -⟩ := h.fresh r hmem
  have hlt := hw.bercons r hr
  rw [hd] at hlt
  exact absurd hlt (Nat.not_lt.2 hge)

/-- The new instances in `_bercons`. -/
theorem Reloaded.own_entries (h : Reloaded env o g w w') :
    (w'.data g).beRcons.map (fun r => (r.guild, (w'.rcons r).cfg)) =
      (w'.cfgs g).map fun cfg => (g, cfg) := by
  rw [World.cfgs, List.map_map]
  refine List.map_congr_left fun r hr => ?_
  rw [Function.comp_apply, RconRef.guild, (h.fresh r hr).1]
  rfl

/-- A second reload gives the registry the same shape. -/
theorem Reloaded.shape_eq (hw : w.Heap) (hw' : w'.Heap) (h : Reloaded env o g w w')
    {o' : RconRef → Oracle} {w'' : World} (h' : Reloaded env o' g w' w'') :
    w''.shape = w'.shape := by
  have hcfgs : w''.cfgs g = w'.cfgs g := by rw [h'.cfgs, h.specific, h.cfgs]
  refine Prod.ext h'.guildIds (Prod.ext (funext fun g' => ?_) ?_)
  · by_cases hne : g' = g
    · subst hne
      exact hcfgs
    · exact h'.cfgs_of_ne hw' hne
  -- what the first reload kept is kept by the second one, and the rest is replaced
  generalize hkept : w.bercons.filter (· ∉ (w.data g).beRcons.filter w.connected) = kept
  have hbercons : w'.bercons = kept ++ (w'.data g).beRcons := hkept ▸ h.bercons
  have hout : ∀ r ∈ kept, r ∉ (w'.data g).beRcons := fun r hr =>
    h.not_fresh hw (List.mem_filter.1 (hkept ▸ hr)).1
  have hfilter : w'.bercons.filter (· ∉ (w'.data g).beRcons) = kept := by
    have hself : kept.filter (· ∉ (w'.data g).beRcons) = kept :=
      List.filter_eq_self.2 fun r hr => decide_eq_true (hout r hr)
    have hnone : (w'.data g).beRcons.filter (· ∉ (w'.data g).beRcons) = [] :=
      List.filter_eq_nil_iff.2 fun r hr => by simpa using hr
    rw [hbercons, List.filter_append, hself, hnone, List.append_nil]
  have hbercons' : w''.bercons = kept ++ (w''.data g).beRcons := by
    rw [h'.bercons_eq fun r hr => (h.fresh r hr).2.2, hfilter]
  change w''.bercons.map _ = w'.bercons.map _
  rw [hbercons, hbercons', List.map_append, List.map_append, h'.own_entries, h.own_entries, hcfgs]
  congr 1
  refine List.map_congr_left fun r hr => ?_
  have hbuilt := hw'.bercons r (by rw [hbercons]; exact List.mem_append_left _ hr)
  have hsame : w''.inst r = w'.inst r :=
    h'.others r (hout r hr) (World.built_before hbuilt _)
  rw [show w''.rcons r = w'.rcons r from congrArg RconSt.rcon hsame]

/-- **A reload restarts exactly the guild's instances**, when neither a call of a BattleNode, a
listener nor a constructor throws, and a second one gives the registry the same shape. -/
theorem initBERconGuild_restarts (hw : Registered w)
    (hbnode : ∀ r ∈ w.bercons, (w.rcons r).bnode ≠ none) (hg : g ∈ w.guildIds)
    (hclose : ∀ r ∈ (w.data g).beRcons, (w.rcons r).unclosable (o r) = false)
    (hbuild : Constructible env o (w.dataRef g) (w.data g)) :
    let w' := (initBERconGuild env o g w).2
    Restarts env o g w w' ∧
      ∀ o' : RconRef → Oracle,
        (∀ r ∈ (w'.data g).beRcons, (w'.rcons r).unclosable (o' r) = false) →
        Constructible env o' (w'.dataRef g) (w'.data g) →
          (initBERconGuild env o' g w').2.shape = w'.shape := by
  intro w'
  have h : Reloaded env o g w w' :=
    initBERconGuild_reloads hw.heap hg (hw.lists hg) hclose hbuild
  have hheap : w'.Heap := hw.heap.initBERconGuild env o g
  refine ⟨h.restarts (fun r hr => hbnode r (hw.mem_of_list hg hr)) hclose,
    fun o' hclose' hbuild' => ?_⟩
  have hg' : g ∈ w'.guildIds := h.guildIds ▸ hg
  exact h.shape_eq hw.heap hheap (initBERconGuild_reloads hheap hg' h.nodup hclose' hbuild')

end Restarting

/-! ## A closing that throws -/

section Throwing

variable {env : Env} {o : Oracle} {n : Nat}

theorem Link.shut_bnode (l : Link) (n : Nat) : (l.shut n).bnode = l.bnode := by
  unfold Link.shut
  split <;> rfl

theorem Link.shut_hears (l : Link) (n : Nat) : (l.shut n).hears n = l.hears n := by
  have hended : ∀ l : Link, (l.ended n).hears n = l.hears n := by
    intro l
    simp only [Link.hears, Link.ended, List.getElem?_modify_eq]
    cases l.nodes[n]? <;> rfl
  unfold Link.shut
  split
  · rw [hended, Link.closed_hears]
  · exact Link.closed_hears l n

/-- The listener throws at a job that is `null`, and leaves the list of jobs as it is. -/
theorem disconnectedAction_thrown (env : Env) (extra : Option Text) (jobs : List (Option Nat)) :
    Prog.Triple (fun s => s.rcon.cronJobs = jobs) (disconnectedAction env extra) (fun _ _ => True)
      fun s => s.rcon.cronJobs = jobs := by
  intro s hs
  have hcancel : ∀ job, Prog.Within (fun s s' : RconSt => s'.rcon.cronJobs = s.rcon.cronJobs)
      (cancelJob job) := by
    intro job
    cases job with
    | none => exact fun _ => rfl
    | some id => exact fun _ => rfl
  have hloop : (Prog.forEach s.rcon.cronJobs cancelJob s).2.rcon.cronJobs = s.rcon.cronJobs :=
    Prog.Within.forEach (Prog.Frame.eq fun s : RconSt => s.rcon.cronJobs)
      (fun job _ => hcancel job) s
  rcases e : disconnectedAction env extra s with ⟨_ | _, s'⟩
  · -- the rest of the listener does not throw
    have hthrow : (Prog.forEach s.rcon.cronJobs cancelJob s).1 ≠ .ok () := by
      intro hok
      have hjobs : (cancelCronJobs s).1 = .ok () := Prog.seq_ok_iff.2 ⟨hok, rfl⟩
      rw [cancelCronJobs_ok_iff, ← disconnectedAction_ok_iff env extra, e] at hjobs
      cases hjobs
    rcases e' : Prog.forEach s.rcon.cronJobs cancelJob s with ⟨err | _, s''⟩ <;>
      rw [e'] at hloop hthrow
    · have hcancel' : cancelCronJobs s = (.error err, s'') := by
        rw [cancelCronJobs, this, Prog.read_bind]
        exact Prog.bind_error e'
      rw [disconnectedAction, Prog.bind_error hcancel'] at e
      cases e
      exact hloop.trans hs
    · exact absurd rfl hthrow
  · trivial

theorem emitDisconnected_thrown (env : Env) (n : Nat) (extra : Option Text)
    (jobs : List (Option Nat)) :
    Prog.Triple (fun s => s.rcon.cronJobs = jobs) (emitDisconnected env n extra) (fun _ _ => True)
      fun s => s.rcon.cronJobs = jobs := by
  intro s hs
  cases hears : s.rcon.link.hears n with
  | false =>
    rw [emitDisconnected_deaf env extra hears]
    trivial
  | true =>
    rw [emitDisconnected_apply env extra hears]
    exact disconnectedAction_thrown env extra jobs _ hs

/-- An instance whose closing throws is as closable as before. -/
theorem close_thrown {s : RconSt} (h : (close env o n s).1 ≠ .ok ()) :
    (close env o n s).2.rcon.bnode = s.rcon.bnode ∧
      (close env o n s).2.rcon.link.hears n = s.rcon.link.hears n ∧
      (close env o n s).2.rcon.cronJobs = s.rcon.cronJobs := by
  have hlink : Prog.Triple (At s.rcon.link (marks s.calls)) (close env o n) _ _ := close_stops n
  have hlink' := hlink s ⟨rfl, rfl⟩
  have hjobs : Prog.Triple (fun t => t.rcon.cronJobs = s.rcon.cronJobs) (close env o n)
      (fun _ _ => True) fun t => t.rcon.cronJobs = s.rcon.cronJobs := by
    have hkept : ∀ {x : RconM Unit}, Prog.Within Kept x →
        Prog.Triple (fun t => t.rcon.cronJobs = s.rcon.cronJobs) x
          (fun _ t => t.rcon.cronJobs = s.rcon.cronJobs)
          fun t => t.rcon.cronJobs = s.rcon.cronJobs := fun hx =>
      .of_within hx fun _ _ ht hkept => hkept.1.trans ht
    exact close_triple (fun _ _ => hkept (emitting_kept _)) (fun _ _ => hkept (emitting_kept _))
      (hkept (closeSocket_kept o n)) (emitDisconnected_thrown env n _ _) fun _ _ => trivial
  have hjobs' := hjobs s rfl
  rcases e : close env o n s with ⟨_ | _, s'⟩ <;> rw [e] at h hlink' hjobs'
  · refine ⟨?_, ?_, hjobs'⟩
    · rcases hlink' with hs' | hs'
      · exact congrArg Link.bnode hs'.1
      · exact (congrArg Link.bnode hs'.1).trans (Link.shut_bnode _ n)
    · rcases hlink' with hs' | hs'
      · rw [hs'.1]
      · rw [hs'.1, Link.shut_hears]
  · exact absurd rfl h

/-- Closing throws even when no call of the BattleNode does: the listener of `disconnected` meets a
job that is `null`. -/
def Rcon.jammed (this : Rcon) : Bool :=
  match this.bnode with
  | none => false
  | some n => this.link.hears n && this.cronJobs.contains none

theorem Rcon.unclosable_quiet (h : ∀ e, o.throws e = false) (this : Rcon) :
    this.unclosable o = this.jammed := by
  unfold Rcon.unclosable Rcon.jammed
  cases this.bnode with
  | none => rfl
  | some n => simp [h]

/-- The instance whose closing throws keeps its BattleNode and its place in the registry. -/
theorem closeRcon_thrown {o : RconRef → Oracle} {r : RconRef} {w : World}
    (h : (closeRcon env o r w).1 ≠ .ok ()) :
    (closeRcon env o r w).2.registry = w.registry ∧
      (closeRcon env o r w).2.objs = w.objs ∧
      ((closeRcon env o r w).2.rcons r).bnode = (w.rcons r).bnode ∧
      ∀ o' : Oracle, ((closeRcon env o r w).2.rcons r).unclosable o' =
        (w.rcons r).unclosable o' := by
  cases hn : (w.rcons r).bnode with
  | none =>
    rw [closeRcon_none hn] at h
    exact absurd rfl h
  | some n =>
    have hthrow : (close env (o r) n ⟨w.rcons r, []⟩).1 ≠ .ok () := by
      rw [Ne, close_ok_iff env hn, ← closeRcon_ok_iff env o]
      exact h
    obtain ⟨hbnode, hhears, hjobs⟩ := close_thrown hthrow
    rw [closeRcon_some hn] at h ⊢
    rcases e : onRcon r (close env (o r) n) w with ⟨_ | _, w₁⟩
    · rw [Prog.bind_error e]
      obtain rfl : (onRcon r (close env (o r) n) w).2 = w₁ := congrArg Prod.snd e
      have hrcon : (onRcon r (close env (o r) n) w).2.rcons r =
          (close env (o r) n ⟨w.rcons r, []⟩).2.rcon := by
        simp [onRcon, World.record, World.setRcon]
      rw [hrcon]
      replace hbnode := hbnode.trans hn
      refine ⟨rfl, rfl, hbnode, fun o' => ?_⟩
      rw [Rcon.unclosable, Rcon.unclosable, hbnode, hn, hjobs]
      simp only [hhears]
    · exact absurd (congrArg Prod.fst e) hthrow

end Throwing

/-! ## Recovering from a closing that threw -/

section Recovery

variable {env : Env} {o : RconRef → Oracle} {g : GuildId} {w w' : World}

/-- The state after a closing loop that threw: the instances `done` were closed. -/
structure Torn (done : List RconRef) (w w' : World) : Prop where
  guildIds : w'.guildIds = w.guildIds
  gens : w'.gens = w.gens
  objs : w'.objs = w.objs
  bercons : w'.bercons = w.bercons.filter (· ∉ done)
  bnode : ∀ r ∉ done, (w'.rcons r).bnode = (w.rcons r).bnode
  unclosable : ∀ r ∉ done, ∀ o' : Oracle, (w'.rcons r).unclosable o' = (w.rcons r).unclosable o'

theorem Torn.data_eq {done : List RconRef} (h : Torn done w w') (g : GuildId) :
    w'.data g = w.data g := by
  rw [World.data, World.dataRef, h.gens, h.objs]
  rfl

/-- The loop stops at the first instance that cannot be closed. -/
theorem closeAll_torn (env : Env) {pre post : List RconRef} {r : RconRef}
    (hnodup : (pre ++ r :: post).Nodup)
    (hpre : ∀ r' ∈ pre, (w.rcons r').unclosable (o r') = false)
    (hr : (w.rcons r).unclosable (o r) = true) :
    (Prog.forEach (pre ++ r :: post) (closeRcon env o) w).1 ≠ .ok () ∧
      Torn (pre.filter w.connected) w (Prog.forEach (pre ++ r :: post) (closeRcon env o) w).2 := by
  have hpre_nodup : pre.Nodup := (List.nodup_append.1 hnodup).1
  have hok := (closeAll_ok_iff env w hpre_nodup).2 hpre
  have hcloses := closeAll_returned hpre_nodup hok
  rw [Prog.forEach_append_ok hok, Prog.forEach]
  generalize (Prog.forEach pre (closeRcon env o) w).2 = w₀ at hcloses
  have hnot : r ∉ pre.filter w.connected := fun hmem =>
    (List.nodup_append.1 hnodup).2.2 r (List.mem_of_mem_filter hmem) r List.mem_cons_self rfl
  have hsame := hcloses.rcons r hnot
  have hthrow : (closeRcon env o r w₀).1 ≠ .ok () := by
    rw [Ne, closeRcon_ok_iff, hsame, hr]
    decide
  obtain ⟨hregistry, hobjs, hbnode, hunclosable⟩ := closeRcon_thrown hthrow
  have hothers : ∀ r', r' ≠ r → (closeRcon env o r w₀).2.rcons r' = w₀.rcons r' := fun r' hne =>
    closeRcon_others env o hne w₀
  rcases e : closeRcon env o r w₀ with ⟨_ | _, w₁⟩ <;>
    rw [e] at hthrow hregistry hobjs hbnode hunclosable hothers
  · rw [Prog.bind_error e]
    refine ⟨fun h => (by cases h), (registry_guildIds hregistry).trans hcloses.guildIds,
      (congrArg (fun x => x.2.1) hregistry).trans hcloses.gens, hobjs.trans hcloses.objs,
      (registry_bercons hregistry).trans hcloses.bercons, fun r' hr' => ?_, fun r' hr' o' => ?_⟩
    · by_cases heq : r' = r
      · subst heq
        rw [← hsame]
        exact hbnode
      · rw [← hcloses.rcons r' hr', ← hothers r' heq]
    · by_cases heq : r' = r
      · subst heq
        rw [← hsame]
        exact hunclosable o'
      · rw [← hcloses.rcons r' hr', ← hothers r' heq]
  · exact absurd rfl hthrow

/-- A reload returns when the instances can be closed and the configuration is buildable. -/
theorem initBERconGuild_ok_iff (ho : ∀ r, (o r).Connects) (hg : g ∈ w.guildIds)
    (hnodup : (w.data g).beRcons.Nodup) :
    (initBERconGuild env o g w).1 = .ok () ↔
      (∀ r ∈ (w.data g).beRcons, (w.rcons r).unclosable (o r) = false) ∧
        buildable (w.data g).specific = true := by
  rw [← closeAll_ok_iff env w hnodup]
  by_cases hok : (Prog.forEach (w.data g).beRcons (closeRcon env o) w).1 = .ok ()
  · have hdata : (w.cleared env o g).data g = { w.data g with beRcons := [] } :=
      (closeAll_returned hnodup hok).clear_data_self
    rw [World.data, World.cleared, (closeAll_returned hnodup hok).clear_dataRef] at hdata
    rw [initBERconGuild_closed hg hok, buildRcons_ok_iff ho, World.cleared, hdata,
      and_iff_right hok]
  · rw [initBERconGuild_torn hg hok]
    exact ⟨fun h => absurd h hok, fun h => absurd h.1 hok⟩

/-- The two lists agree after the reload, and the next one in which no call of a BattleNode throws
leaves the guild with one instance for each server. -/
def Recovers (env : Env) (o : RconRef → Oracle) (g : GuildId) (w : World) : Prop :=
  let w₁ := (initBERconGuild env o g w).2
  Agreement w₁ ∧ ∀ o' : RconRef → Oracle, (∀ r e, (o' r).throws e = false) →
    let w₂ := (initBERconGuild env o' g w₁).2
    (initBERconGuild env o' g w₁).1 = .ok () ∧
      w₂.cfgs g = activeServers (w.data g).specific ∧
      (w₂.connections g).Perm (activeServers (w.data g).specific)

/-- The first instance is the one whose closing throws. None of the guild's instances is without a
BattleNode, or has a job that is `null`, and the configuration is buildable. -/
def Recoverable (o : RconRef → Oracle) (g : GuildId) (w : World) : Prop :=
  (∃ r ∈ (w.data g).beRcons.head?, (w.rcons r).unclosable (o r) = true) ∧
    (∀ r ∈ (w.data g).beRcons, (w.rcons r).bnode ≠ none ∧ (w.rcons r).jammed = false) ∧
    buildable (w.data g).specific = true

/-- The instances of a reloaded guild in `_bercons`: those that were passed over, and the new
ones. -/
theorem Reloaded.connections_eq (h : Reloaded env o g w w') :
    w'.connections g = ((w.bercons.filter (· ∉ (w.data g).beRcons.filter w.connected)).filter
      fun r => r.guild = g).map (fun r => (w'.rcons r).cfg) ++ w'.cfgs g := by
  have hnew : (w'.data g).beRcons.filter (fun r => r.guild = g) = (w'.data g).beRcons :=
    List.filter_eq_self.2 fun r hr =>
      decide_eq_true (congrArg DataRef.guild (h.fresh r hr).1)
  rw [World.connections, h.bercons, List.filter_append, List.map_append, hnew]
  rfl

/-- The reload stops at the first instance that cannot be closed. -/
theorem initBERconGuild_stops (hw : Registered w) (hg : g ∈ w.guildIds)
    (hthrow : ∃ r ∈ (w.data g).beRcons, (w.rcons r).unclosable (o r) = true) :
    ∃ pre r post, (w.data g).beRcons = pre ++ r :: post ∧ (w.rcons r).unclosable (o r) = true ∧
      Torn (pre.filter w.connected) w (initBERconGuild env o g w).2 := by
  have hsome : ((w.data g).beRcons.find? fun r => (w.rcons r).unclosable (o r)).isSome = true :=
    List.find?_isSome.2 hthrow
  obtain ⟨r, hfind⟩ := Option.isSome_iff_exists.1 hsome
  obtain ⟨hr, pre, post, hsplit, hpre⟩ := List.find?_eq_some_iff_append.1 hfind
  have hnodup := hw.lists hg
  rw [hsplit] at hnodup
  obtain ⟨herror, htorn⟩ :=
    closeAll_torn env hnodup (fun r' hr' => by simpa using hpre r' hr') hr
  rw [← hsplit] at herror htorn
  rw [initBERconGuild_torn hg herror]
  exact ⟨pre, r, post, hsplit, hr, htorn⟩

theorem Recoverable.recovers (hw : Registered w) (hg : g ∈ w.guildIds) (h : Recoverable o g w) :
    Recovers env o g w := by
  obtain ⟨⟨r, hhead, hr⟩, hall, hbuildable⟩ := h
  obtain ⟨rest, hlist⟩ := List.head?_eq_some_iff.1 hhead
  have htorn : Torn [] w (initBERconGuild env o g w).2 := by
    have hnodup : ([] ++ r :: rest).Nodup := hlist ▸ hw.lists hg
    obtain ⟨herror, htorn⟩ := closeAll_torn env hnodup nofun hr
    rw [List.nil_append, ← hlist] at herror htorn
    rwa [initBERconGuild_torn hg herror]
  have hheap := hw.heap.initBERconGuild env o g
  unfold Recovers
  generalize (initBERconGuild env o g w).2 = w₁ at htorn hheap
  have hbercons : w₁.bercons = w.bercons := by simpa using htorn.bercons
  have hagreement : Agreement w₁ := by
    simp only [Agreement, hbercons, htorn.guildIds, htorn.data_eq]
    exact hw.agreement
  have hw₁ : Registered w₁ := ⟨hheap, htorn.guildIds ▸ hw.ids, hagreement⟩
  have hg₁ : g ∈ w₁.guildIds := htorn.guildIds ▸ hg
  refine ⟨hagreement, fun o' hquiet => ?_⟩
  have hconnects : ∀ r, (o' r).Connects := fun r _ => ⟨hquiet r _, hquiet r _⟩
  have hclose : ∀ r ∈ (w₁.data g).beRcons, (w₁.rcons r).unclosable (o' r) = false := by
    intro r hr
    rw [htorn.data_eq] at hr
    rw [htorn.unclosable r List.not_mem_nil, Rcon.unclosable_quiet (hquiet r)]
    exact (hall r hr).2
  have hbuildable₁ : buildable (w₁.data g).specific = true := by
    rw [htorn.data_eq]
    exact hbuildable
  have hreloaded := initBERconGuild_reloads hheap hg₁ (hw₁.lists hg₁) hclose
    (.of_buildable env hconnects hbuildable₁)
  have hcfgs := hreloaded.cfgs
  rw [htorn.data_eq] at hcfgs
  refine ⟨(initBERconGuild_ok_iff hconnects hg₁ (hw₁.lists hg₁)).2 ⟨hclose, hbuildable₁⟩, hcfgs, ?_⟩
  -- none of the guild's instances was passed over
  have hnone : (w₁.bercons.filter (· ∉ (w₁.data g).beRcons.filter w₁.connected)).filter
      (fun r => r.guild = g) = [] := by
    refine List.filter_eq_nil_iff.2 fun r hr hguild => ?_
    rw [decide_eq_true_iff] at hguild
    obtain ⟨hmem, hout⟩ := List.mem_filter.1 hr
    have hown := hw₁.mem_list hmem
    rw [hguild] at hown
    refine of_decide_eq_true hout (List.mem_filter.2 ⟨hown, World.connected_iff.2 ?_⟩)
    rw [htorn.bnode r List.not_mem_nil]
    exact (hall r (htorn.data_eq g ▸ hown)).1
  rw [hreloaded.connections_eq, hnone, List.map_nil, List.nil_append, hcfgs]

theorem Recovers.recoverable (hw : Registered w) (hg : g ∈ w.guildIds)
    (hthrow : ∃ r ∈ (w.data g).beRcons, (w.rcons r).unclosable (o r) = true)
    (h : Recovers env o g w) : Recoverable o g w := by
  obtain ⟨pre, r, post, hsplit, hr, htorn⟩ := initBERconGuild_stops hw hg hthrow
  have hheap := hw.heap.initBERconGuild env o g
  unfold Recovers at h
  generalize (initBERconGuild env o g w).2 = w₁ at htorn hheap h
  obtain ⟨hagreement, hnext⟩ := h
  have hw₁ : Registered w₁ := ⟨hheap, htorn.guildIds ▸ hw.ids, hagreement⟩
  have hg₁ : g ∈ w₁.guildIds := htorn.guildIds ▸ hg
  have hquiet : ∀ (r : RconRef) (e : Effect),
      ((fun _ => ⟨fun _ => false, fun _ => false⟩ : RconRef → Oracle) r).throws e = false :=
    fun _ _ => rfl
  have hconnects : ∀ r,
      ((fun _ => ⟨fun _ => false, fun _ => false⟩ : RconRef → Oracle) r).Connects :=
    fun _ _ => ⟨rfl, rfl⟩
  obtain ⟨hok, hcfgs, hperm⟩ := hnext _ hquiet
  obtain ⟨hclose, hbuildable⟩ := (initBERconGuild_ok_iff hconnects hg₁ (hw₁.lists hg₁)).1 hok
  have hreloaded := initBERconGuild_reloads hheap hg₁ (hw₁.lists hg₁) hclose
    (.of_buildable env hconnects hbuildable)
  simp only [htorn.data_eq] at hclose hbuildable
  -- an instance without a BattleNode is passed over twice, and stays beside the new ones
  have hbnode : ∀ r' ∈ (w.data g).beRcons, (w.rcons r').bnode ≠ none := by
    intro r' hr' hnone
    rw [hreloaded.connections_eq, hcfgs] at hperm
    have hlength := hperm.length_eq
    rw [List.length_append, List.length_map, Nat.add_eq_right, List.length_eq_zero_iff,
      List.filter_eq_nil_iff] at hlength
    have hout : r' ∉ pre.filter w.connected := fun hmem =>
      World.connected_iff.1 (List.mem_filter.1 hmem).2 hnone
    refine hlength r' (List.mem_filter.2 ⟨?_, decide_eq_true fun hmem => ?_⟩)
      (decide_eq_true (hw.guild_eq hr'))
    · rw [htorn.bercons]
      exact List.mem_filter.2 ⟨hw.mem_of_list hg hr', decide_eq_true hout⟩
    · refine World.connected_iff.1 (List.mem_filter.1 hmem).2 ?_
      rw [htorn.bnode r' hout]
      exact hnone
  -- an instance that was closed is listed by the guild only
  have hpre : pre = [] := by
    refine List.eq_nil_iff_forall_not_mem.2 fun r' hr' => ?_
    have hmem : r' ∈ (w.data g).beRcons := by
      rw [hsplit]
      exact List.mem_append_left _ hr'
    have hlisted := hw₁.mem_of_list hg₁ (htorn.data_eq g ▸ hmem)
    rw [htorn.bercons] at hlisted
    exact of_decide_eq_true (List.mem_filter.1 hlisted).2
      (List.mem_filter.2 ⟨hr', World.connected_iff.2 (hbnode r' hmem)⟩)
  subst hpre
  refine ⟨⟨r, by rw [hsplit]; rfl, hr⟩, fun r' hr' => ⟨hbnode r' hr', ?_⟩, hbuildable⟩
  rw [← Rcon.unclosable_quiet (hquiet r'), ← htorn.unclosable r' List.not_mem_nil]
  exact hclose r' hr'

/-- **Recovery from a closing that threw.** -/
theorem recovers_iff (hw : Registered w) (hg : g ∈ w.guildIds)
    (hthrow : ∃ r ∈ (w.data g).beRcons, (w.rcons r).unclosable (o r) = true) :
    Recovers env o g w ↔ Recoverable o g w :=
  ⟨fun h => h.recoverable hw hg hthrow, fun h => h.recovers hw hg⟩

end Recovery

/-! ## A guild with two servers -/

/-- The bot whose guilds have two servers. -/
def pairBot : Env := sampleEnv (sampleConfig [sampleServer, sampleServer])

/-- The bot has joined the sample guild. -/
def pairWorld : World := run pairBot joinSteps World.start

/-- The second of its instances. -/
def secondRcon : RconRef := ⟨⟨sampleId, 1⟩, 1⟩

/-- The calls of the instance's BattleNode throw. -/
def refusing (r : RconRef) : RconRef → Oracle := fun r' => ⟨fun _ => r' = r, fun _ => true⟩

theorem pairWorld_listed : Listed pairWorld := by
  have h : Along pairBot (fun w s => (step pairBot s w).1 = .ok () ∧ SafeOverwrite w s) joinSteps
      World.start := by
    refine ⟨⟨rfl, fun hmem => ?_⟩, ⟨?_, trivial⟩, trivial⟩
    · cases hmem
    · decide +kernel
  exact Along.run_inv (I := Listed) (fun _ _ hw hs => step_listed hw hs.1 hs.2) .start h

theorem pairWorld_known : sampleId ∈ pairWorld.guildIds := by decide +kernel

theorem pairWorld_beRcons : (pairWorld.data sampleId).beRcons = [firstRcon, secondRcon] := by
  decide +kernel

theorem pairWorld_buildable : buildable (pairWorld.data sampleId).specific = true := by
  decide +kernel

theorem initBERconGuild_restarts_pair :
    let w := (initBERconGuild pairBot sampleOracle sampleId pairWorld).2
    Restarts pairBot sampleOracle sampleId pairWorld w ∧
      (initBERconGuild pairBot sampleOracle sampleId w).2.shape = w.shape := by
  have hclose : ∀ r ∈ (pairWorld.data sampleId).beRcons,
      (pairWorld.rcons r).unclosable (sampleOracle r) = false := by
    rw [pairWorld_beRcons]
    decide +kernel
  have hconnects : ∀ r, (sampleOracle r).Connects := fun _ _ => ⟨rfl, rfl⟩
  obtain ⟨hrestarts, htwice⟩ := initBERconGuild_restarts pairWorld_listed.registered
    pairWorld_listed.bnode pairWorld_known hclose
    (.of_buildable pairBot hconnects pairWorld_buildable)
  exact ⟨hrestarts, htwice sampleOracle (by decide +kernel)
    (.of_buildable pairBot hconnects (by decide +kernel))⟩

theorem recovers_iff_first : Recovers pairBot (refusing firstRcon) sampleId pairWorld := by
  refine (recovers_iff pairWorld_listed.registered pairWorld_known ?_).2
    ⟨⟨firstRcon, ?_, ?_⟩, ?_, pairWorld_buildable⟩
  · rw [pairWorld_beRcons]
    exact ⟨firstRcon, List.mem_cons_self, by decide +kernel⟩
  · rw [pairWorld_beRcons]
    rfl
  · decide +kernel
  · rw [pairWorld_beRcons]
    decide +kernel

/-- The closing of the second instance throws: the first one is closed and gone from `_bercons`, but
still in the guild's list. -/
theorem torn_reload :
    Registered pairWorld ∧ sampleId ∈ pairWorld.guildIds ∧
      (∃ r ∈ (pairWorld.data sampleId).beRcons,
        (pairWorld.rcons r).unclosable (refusing secondRcon r) = true) ∧
      ¬Recovers pairBot (refusing secondRcon) sampleId pairWorld := by
  refine ⟨pairWorld_listed.registered, pairWorld_known, ⟨secondRcon, ?_, by decide +kernel⟩,
    fun h => ?_⟩
  · rw [pairWorld_beRcons]
    exact List.mem_cons_of_mem _ List.mem_cons_self
  · have hlength := h.1.1.length_eq
    revert hlength
    decide +kernel

end ZBot
