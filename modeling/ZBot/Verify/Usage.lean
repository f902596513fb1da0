import ZBot.Verify.Life
import ZBot.Verify.Provenance

/-!
# How an instance uses its BattleNodes

A BattleNode is created, told to log in at most once, sent commands, and closed at most once; after
that it is not used again. `Use.next` is the automaton of that protocol for the BattleNode `n`, and
a trace that it runs through without getting stuck keeps to the protocol.

The invariant is that the automaton's state can be read off the instance (`Rcon.use`), and that the
current BattleNode is one that may still be used (`Rcon.Usable`). It breaks in two ways. When the
closing of a socket throws, `initBERcon` keeps the BattleNode, and later commands go to it; and when
the listener of `disconnected` throws at a `null` handle, the closed BattleNode stays the current
one. So a run has to have neither (`Smooth`).
-/

namespace ZBot

open Js RconM

/-! ## The protocol -/

/-- What was done with a BattleNode. -/
inductive Use where
  | unborn
  | made
  | up
  | shut
  deriving DecidableEq

/-- The BattleNode a call is about. -/
def Effect.node : Effect → Option Nat
  | .newNode n | .login n | .command n _ _ | .closeSocket n => some n
  | _ => none

/-- The next state of the protocol of the BattleNode `n`, if it allows the call. -/
def Use.next (n : Nat) (u : Use) (e : Effect) : Option Use :=
  if e.node = some n then
    match u, e with
    | .unborn, .newNode _ => some .made
    | .made, .login _ => some .up
    | .made, .command .. => some .made
    | .up, .command .. => some .up
    | .made, .closeSocket _ => some .shut
    | .up, .closeSocket _ => some .shut
    | _, _ => none
  else some u

theorem Use.next_of_ne {n : Nat} {e : Effect} (h : e.node ≠ some n) (u : Use) :
    u.next n e = some u := if_neg h

/-- Where the BattleNode `n` of an instance stands. -/
def Rcon.use (this : Rcon) (n : Nat) : Use :=
  match this.nodes[n]? with
  | none => .unborn
  | some node => if node.closed then .shut else if node.login then .up else .made

theorem Rcon.use_setNode_of_ne {this : Rcon} {f : Node → Node} {n m : Nat} (h : n ≠ m) :
    (this.setNode n f).use m = this.use m := by
  simp only [Rcon.use, Rcon.setNode, List.getElem?_modify, if_neg h]
  cases this.nodes[m]? <;> rfl

theorem Rcon.use_login {this : Rcon} {n : Nat} (h : this.use n = .made) :
    (this.setNode n fun node => { node with login := true }).use n = .up := by
  simp only [Rcon.use, Rcon.setNode, List.getElem?_modify_eq] at h ⊢
  cases hnode : this.nodes[n]? with
  | none =>
    rw [hnode] at h
    cases h
  | some node =>
    rw [hnode] at h
    cases hclosed : node.closed <;> simp [hclosed] at h ⊢

theorem Rcon.use_close {this : Rcon} {n : Nat} (h : this.use n ≠ .unborn) :
    (this.setNode n fun node => { node with closed := true }).use n = .shut := by
  simp only [Rcon.use, Rcon.setNode, List.getElem?_modify_eq] at h ⊢
  cases hnode : this.nodes[n]? with
  | none =>
    rw [hnode] at h
    exact absurd rfl h
  | some node => rfl

/-- The current BattleNode is there and was not closed. -/
def Rcon.Usable (this : Rcon) : Prop :=
  ∀ n, this.bnode = some n → this.use n = .made ∨ this.use n = .up

/-- The calls in between take every BattleNode from where it stood to where it stands. -/
def Tracks (s s' : RconSt) : Prop :=
  ∃ new, s'.calls = s.calls ++ new ∧
    ∀ n, new.foldlM (Use.next n) (s.rcon.use n) = some (s'.rcon.use n)

theorem Tracks.frame : Prog.Frame Tracks := by
  refine ⟨fun s => ⟨[], by simp, fun _ => rfl⟩, ?_⟩
  rintro s s' s'' ⟨new, h, hnew⟩ ⟨new', h', hnew'⟩
  refine ⟨new ++ new', by rw [h', h, List.append_assoc], fun n => ?_⟩
  rw [List.foldlM_append, hnew n]
  exact hnew' n

/-- A method of an instance with a usable BattleNode leaves it with one. -/
def Uses (s s' : RconSt) : Prop := s.rcon.Usable → s'.rcon.Usable ∧ Tracks s s'

theorem Uses.frame : Prog.Frame Uses := Tracks.frame.guard fun s => s.rcon.Usable

/-! ## Methods -/

/-- Calls that leave the protocol where it is. -/
theorem foldlM_stays {n : Nat} {u : Use} {calls : List Effect}
    (h : ∀ e ∈ calls, u.next n e = some u) : calls.foldlM (Use.next n) u = some u := by
  induction calls with
  | nil => rfl
  | cons e calls ih =>
    rw [List.foldlM_cons, h e List.mem_cons_self]
    exact ih fun e' he' => h e' (List.mem_cons_of_mem e he')

/-- A call that is a command to the current BattleNode, or about none. -/
def Effect.Through (this : Rcon) (e : Effect) : Prop :=
  ∀ n, e.node = some n → this.bnode = some n ∧ ∃ s callback, e = .command n s callback

theorem Effect.Through.stays {this : Rcon} {e : Effect} (h : e.Through this)
    (hthis : this.Usable) (n : Nat) : (this.use n).next n e = some (this.use n) := by
  by_cases he : e.node = some n
  · obtain ⟨hbnode, s, callback, rfl⟩ := h n he
    rcases hthis n hbnode with hu | hu <;> rw [hu] <;> simp [Use.next, Effect.node]
  · exact Use.next_of_ne he _

theorem emitting_uses {α : Type} {x : Emit α} {s : RconSt}
    (hx : Prog.Within (Adds (Effect.Through s.rcon)) x) : Uses s (emitting x s).2 := by
  intro hs
  refine ⟨hs, (x []).2, rfl, fun n => foldlM_stays fun e he => ?_⟩
  exact ((hx []).forall e he).stays hs n

/-- What is read of an instance to know how it uses its BattleNodes. -/
def Rcon.usage (this : Rcon) : (Nat → Use) × Option Nat := (this.use, this.bnode)

/-- No BattleNode is used, and none changes hands. -/
abbrev Aside : RconSt → RconSt → Prop := Held Rcon.usage fun e => e.node = none

theorem Aside.use {s s' : RconSt} (h : Aside s s') (n : Nat) : s'.rcon.use n = s.rcon.use n :=
  congrFun (congrArg Prod.fst h.rcon) n

theorem Aside.bnode {s s' : RconSt} (h : Aside s s') : s'.rcon.bnode = s.rcon.bnode :=
  congrArg Prod.snd h.rcon

theorem Aside.tracks {s s' : RconSt} (h : Aside s s') : Tracks s s' := by
  obtain ⟨new, hcalls, hnew⟩ := h.calls
  refine ⟨new, hcalls, fun n => ?_⟩
  rw [Aside.use h n]
  refine foldlM_stays fun e he => Use.next_of_ne ?_ _
  rw [hnew e he]
  exact fun h => by cases h

theorem Aside.usable {s s' : RconSt} (h : Aside s s') (hs : s.rcon.Usable) : s'.rcon.Usable :=
  fun n hn => by
    rw [Aside.use h n]
    exact hs n ((Aside.bnode h).symm.trans hn)

theorem Aside.uses {s s' : RconSt} (h : Aside s s') : Uses s s' := fun hs =>
  ⟨Aside.usable h hs, Aside.tracks h⟩

/-- A write to a BattleNode that is no use of it. -/
theorem usage_setNode {n : Nat} {f : Node → Node}
    (h : ∀ node, (f node).closed = node.closed ∧ (f node).login = node.login) (this : Rcon) :
    (this.setNode n f).usage = this.usage := by
  refine Prod.ext (funext fun m => ?_) rfl
  simp only [Rcon.usage, Rcon.use, Rcon.setNode, List.getElem?_modify]
  cases this.nodes[m]? with
  | none => rfl
  | some node => by_cases hm : n = m <;> simp [hm, h node]

theorem usage_ignoresJobs : IgnoresJobs Rcon.usage := fun _ _ _ _ => rfl

theorem usage_ignoresTimers : IgnoresTimers Rcon.usage := fun _ _ _ => rfl

theorem usage_ignoresEnds : IgnoresEnds Rcon.usage := fun this _ =>
  usage_setNode (f := fun node => { node with ended := true }) (fun _ => ⟨rfl, rfl⟩) this

theorem voices_aside (s : RconSt) : Voices Rcon.usage (fun e => e.node = none) s :=
  ⟨fun _ _ _ _ _ => rfl, fun _ _ => rfl⟩

/-! ### Handlers -/

theorem through_of_none {this : Rcon} {e : Effect} (h : e.node = none) : e.Through this :=
  fun n hn => by
    rw [h] at hn
    cases hn

theorem command_through {this : Rcon} {n : Nat} (hn : this.bnode = some n) (s : Text)
    (callback : Callback) : (Effect.command n s callback).Through this := fun m hm => by
  cases hm
  exact ⟨hn, s, callback, rfl⟩

/-! ### Creating and closing -/

section Connecting

variable {env : Env} {o : Oracle} {s₀ : RconSt} {n : Nat}

/-- The current BattleNode is usable, and the calls since `s₀` kept to the protocol. -/
def Since (s₀ s : RconSt) : Prop := s.rcon.Usable ∧ Tracks s₀ s

theorem Since.uses {s s' : RconSt} (hs : Since s₀ s) (h : Uses s s') : Since s₀ s' :=
  ⟨(h hs.1).1, Tracks.frame.trans hs.2 (h hs.1).2⟩

theorem since_triple {α : Type} {x : RconM α} (hx : Prog.Within Uses x) :
    Prog.Triple (Since s₀) x (fun _ => Since s₀) (Since s₀) :=
  .of_within hx fun _ _ hs h => hs.uses h

theorem since_aside {α : Type} {x : RconM α}
    (hx : ∀ s, Keeps Rcon.usage (fun e => e.node = none) s x) :
    Prog.Triple (Since s₀) x (fun _ => Since s₀) (Since s₀) :=
  since_triple fun s => Aside.uses (keeps_held (hx s))

/-- The instance has just created the BattleNode `n`. -/
structure Made (s₀ : RconSt) (n : Nat) (s : RconSt) : Prop where
  tracks : Tracks s₀ s
  bnode : s.rcon.bnode = some n
  use : s.rcon.use n = .made

theorem Made.since {s : RconSt} (h : Made s₀ n s) : Since s₀ s := by
  refine ⟨fun m hm => .inl ?_, h.tracks⟩
  cases h.bnode.symm.trans hm
  exact h.use

theorem made_aside {α : Type} {x : RconM α}
    (hx : ∀ s, Keeps Rcon.usage (fun e => e.node = none) s x) :
    Prog.Triple (Made s₀ n) x (fun _ => Made s₀ n) (Since s₀) := by
  have hmade : Prog.Triple (Made s₀ n) x (fun _ => Made s₀ n) (Made s₀ n) :=
    .of_within (keeps_within hx) fun _ _ hs h =>
      ⟨Tracks.frame.trans hs.tracks (Aside.tracks h), (Aside.bnode h).trans hs.bnode,
        (Aside.use h n).trans hs.use⟩
  exact hmade.post (fun _ _ h => h) fun _ h => h.since

/-- The instance with the record of one more BattleNode, and the call that creates it. -/
def RconSt.grown (s : RconSt) : RconSt :=
  ⟨{ s.rcon with nodes := s.rcon.nodes ++ [⟨false, false, false, false⟩] },
    s.calls ++ [.newNode s.rcon.nodes.length]⟩

theorem use_length (this : Rcon) : this.use this.nodes.length = .unborn := by
  simp [Rcon.use]

theorem grown_use_length (s : RconSt) : s.grown.rcon.use s.rcon.nodes.length = .made := by
  simp [RconSt.grown, Rcon.use]

theorem grown_use_of_ne {s : RconSt} (hn : n ≠ s.rcon.nodes.length) :
    s.grown.rcon.use n = s.rcon.use n := by
  rcases Nat.lt_or_gt_of_ne hn with hlt | hgt
  · simp [RconSt.grown, Rcon.use, List.getElem?_append_left hlt]
  · have hnone : s.rcon.nodes[n]? = none := List.getElem?_eq_none (by omega)
    have hnone' : s.grown.rcon.nodes[n]? = none :=
      List.getElem?_eq_none (by simp [RconSt.grown]; omega)
    simp only [Rcon.use, hnone, hnone']

theorem grown_tracks (s : RconSt) : Tracks s s.grown := by
  refine ⟨[.newNode s.rcon.nodes.length], rfl, fun n => ?_⟩
  by_cases hn : n = s.rcon.nodes.length
  · subst hn
    rw [use_length, grown_use_length]
    simp [Use.next, Effect.node]
  · rw [grown_use_of_ne hn]
    refine foldlM_stays fun e he => Use.next_of_ne ?_ _
    rw [List.mem_singleton.1 he]
    simpa [Effect.node] using fun h => hn h.symm

theorem grown_usable {s : RconSt} (hs : s.rcon.Usable) : s.grown.rcon.Usable := by
  intro n hn
  have huse : s.rcon.use n = .made ∨ s.rcon.use n = .up := hs n hn
  have hne : n ≠ s.rcon.nodes.length := by
    rintro rfl
    rw [use_length] at huse
    rcases huse with h | h <;> cases h
  rw [grown_use_of_ne hne]
  exact huse

theorem newBattleNode_apply (o : Oracle) (s : RconSt) :
    newBattleNode o s =
      if o.throws (.newNode s.rcon.nodes.length) = true then (.error .error, s.grown)
      else (.ok s.rcon.nodes.length, { s.grown with
        rcon := { s.grown.rcon with bnode := some s.rcon.nodes.length } }) := by
  rw [newBattleNode, this, Prog.read_bind, Prog.bind_ok (x := update _) rfl, Prog.bind_apply,
    emitting_call]
  cases o.throws (.newNode s.rcon.nodes.length) <;> rfl

/-- A BattleNode whose constructor throws is never the current one. -/
theorem newBattleNode_made :
    Prog.Triple (Since s₀) (newBattleNode o) (fun n => Made s₀ n) (Since s₀) := by
  intro s hs
  have htracks : Tracks s₀ s.grown := Tracks.frame.trans hs.2 (grown_tracks s)
  rw [newBattleNode_apply]
  cases o.throws (.newNode s.rcon.nodes.length) with
  | true => exact ⟨grown_usable hs.1, htracks⟩
  | false => exact ⟨htracks, rfl, grown_use_length s⟩

/-- A call about the BattleNode `n` that the protocol allows, with the update of its record. -/
theorem node_tracks {s : RconSt} {f : Node → Node} {e : Effect} (he : e.node = some n)
    (hnext : (s.rcon.use n).next n e = some ((s.rcon.setNode n f).use n)) :
    Tracks s ⟨s.rcon.setNode n f, s.calls ++ [e]⟩ := by
  refine ⟨[e], rfl, fun m => ?_⟩
  by_cases hm : n = m
  · subst hm
    simpa using hnext
  · rw [Rcon.use_setNode_of_ne hm]
    refine foldlM_stays fun e' he' => Use.next_of_ne ?_ _
    rw [List.mem_singleton.1 he', he]
    exact fun h => hm (Option.some.inj h)

theorem login_since : Prog.Triple (Made s₀ n) (login o n) (fun _ => Since s₀) (Since s₀) := by
  refine .of_snd fun s hs => ?_
  have hlogin : (login o n s).2 =
      ⟨s.rcon.setNode n fun node => { node with login := true }, s.calls ++ [.login n]⟩ := by
    rw [login, Prog.bind_ok (x := update _) rfl, emitting_call]
  have hup := Rcon.use_login hs.use
  rw [hlogin]
  refine ⟨fun m hm => .inr ?_, Tracks.frame.trans hs.tracks (node_tracks rfl ?_)⟩
  · cases hs.bnode.symm.trans hm
    exact hup
  · rw [hs.use, hup]
    simp [Use.next, Effect.node]

/-- The end of `init` and of `reInit`. -/
theorem connect_since :
    Prog.Triple (Made s₀ n) (do logLogin env; initEvents n; login o n) (fun _ => Since s₀)
      (Since s₀) := by
  refine .bind (made_aside fun _ => logLogin_keeps fun _ _ => rfl) fun _ => ?_
  refine .bind (made_aside fun _ => keeps_update ?_) fun _ => login_since
  exact usage_setNode fun _ => ⟨rfl, rfl⟩

theorem reconnect_uses (cause : Cause) : Prog.Within Uses (reconnect env o cause) := by
  intro s hs
  have hnote : ∀ t, Keeps Rcon.usage (fun e => e.node = none) t (noteReconnect env cause) := by
    intro t
    cases cause with
    | loginError =>
      exact keeps_update fun this => usage_ignoresTimers this this.timers (this.loginAttempts + 1)
    | disconnected =>
      exact keeps_this fun _ _ => keeps_log (fun _ _ => rfl) (.append_left (by decide) _)
  have hclear : Prog.Within Uses (update fun this => { this with bnode := none }) := by
    refine fun s _ => ⟨fun n hn => ?_, [], by simp [update], fun _ => rfl⟩
    cases hn
  refine Prog.Triple.snd (P := Since s) (R := Since s) ?_ ⟨hs, Tracks.frame.refl s⟩
  exact .bind (since_aside hnote) fun _ => .bind (since_triple hclear) fun _ =>
    .bind (since_aside fun _ => keeps_emit rfl) fun _ =>
    .bind newBattleNode_made fun n => connect_since

theorem construct_since (specific server : Value) (guild : Guild) :
    Since ⟨.blank server guild, []⟩ (construct env o specific ⟨.blank server guild, []⟩).2 := by
  let s : RconSt := ⟨.blank server guild, []⟩
  have husable : s.rcon.Usable := fun n hn => by cases hn
  have hactions : ∀ t actions, Since s t →
      Since s { t with rcon := { t.rcon with actions := actions } } := fun t actions ht =>
    (since_aside (x := update fun this => { this with actions := actions })
      fun _ => keeps_update fun _ => rfl) t ht
  have hbind : ∀ n, Prog.Triple (Made s n) bindChannels (fun _ => Made s n) (Since s) :=
    fun n => made_aside fun _ => bindChannels_keeps fun _ _ => rfl
  exact (construct_triple specific hactions newBattleNode_made hbind (fun _ => connect_since)
    (fun _ _ h => h.since) fun _ h => h).snd ⟨husable, Tracks.frame.refl s⟩

/-- A reload closes the current BattleNode and gives it up; when it cannot, the BattleNode stays
usable. -/
theorem close_since (hsocket : ∀ n, o.throws (.closeSocket n) = false) {s : RconSt}
    (hs : s.rcon.Usable) (hclean : s.rcon.Clean) (hn : s.rcon.bnode = some n) :
    Since s (close env o n s).2 := by
  let before : RconSt → Prop := fun t => t.rcon = s.rcon ∧ Tracks s t
  have hcommand : ∀ x : Rcon → Emit Unit, Prog.Within (Adds (Effect.Through s.rcon)) (x s.rcon) →
      ∀ s', before s' → Prog.Triple before (emitting (x s'.rcon)) (fun _ => before) (Since s) := by
    intro x hx s' hs' t ht
    rw [hs'.1]
    have huses : Uses t (emitting (x s.rcon) t).2 := emitting_uses (by rw [ht.1]; exact hx)
    obtain ⟨husable, htracks⟩ := huses (by rw [ht.1]; exact hs)
    have hrcon : (emitting (x s.rcon) t).2.rcon = s.rcon := ht.1
    rcases e : emitting (x s.rcon) t with ⟨_ | _, t'⟩ <;> rw [e] at husable htracks hrcon
    · exact ⟨husable, Tracks.frame.trans ht.2 htracks⟩
    · exact ⟨hrcon, Tracks.frame.trans ht.2 htracks⟩
  have hdisconnect : Prog.Within (Adds (Effect.Through s.rcon)) (cmdDisconnect s.rcon o.throws) :=
    cmdDisconnect_adds (fun _ _ _ => through_of_none rfl) fun _ hm => command_through hm _ _
  have hexit : Prog.Within (Adds (Effect.Through s.rcon)) (cmdExit s.rcon o.throws) :=
    cmdExit_adds (fun _ _ _ => through_of_none rfl) fun _ hm => command_through hm _ _
  have hclosed : Prog.Triple before (closeSocket o n)
      (fun _ t => Tracks s t ∧ t.rcon.Clean) (Since s) := fun t ht => by
    have hcall : closeSocket o n t = (.ok (), ⟨t.rcon.setNode n fun node =>
        { node with closed := true }, t.calls ++ [.closeSocket n]⟩) := by
      rw [closeSocket, Prog.bind_apply, emitting_call, hsocket]
      rfl
    have huse := hs n hn
    rw [← ht.1] at huse
    have hshut : (t.rcon.setNode n fun node => { node with closed := true }).use n = .shut :=
      Rcon.use_close (by rcases huse with h | h <;> simp [h])
    rw [hcall]
    refine ⟨Tracks.frame.trans ht.2 (node_tracks rfl ?_), ht.1 ▸ hclean.handles,
      ht.1 ▸ hclean.live⟩
    rw [hshut]
    rcases huse with h | h <;> rw [h] <;> simp [Use.next, Effect.node]
  -- the listener returns, since the jobs are in order
  have hend : Prog.Triple (fun t => Tracks s t ∧ t.rcon.Clean)
      (emitDisconnected env n (some (lit "stop"))) (fun _ => Tracks s) (Since s) := fun t ht => by
    have haside : Aside t (emitDisconnected env n (some (lit "stop")) t).2 :=
      keeps_held (emitDisconnected_keeps usage_ignoresJobs usage_ignoresTimers usage_ignoresEnds
        (voices_aside t) n _)
    have hok : (emitDisconnected env n (some (lit "stop")) t).1 = .ok () := by
      cases hears : t.rcon.link.hears n with
      | false => rw [emitDisconnected_deaf env _ hears]
      | true => exact (emitDisconnected_clean env _ hears ht.2).1
    rcases e : emitDisconnected env n (some (lit "stop")) t with ⟨_ | _, t'⟩ <;>
      rw [e] at haside hok
    · cases hok
    · exact Tracks.frame.trans ht.1 (Aside.tracks haside)
  have hstart : before s := ⟨rfl, Tracks.frame.refl s⟩
  refine (close_triple (hcommand (cmdDisconnect · o.throws) hdisconnect)
    (hcommand (cmdExit · o.throws) hexit) hclosed hend fun t ht => ?_).snd hstart
  have hstopped : Tracks t ⟨{ t.rcon with bnode := none }, t.calls ++ [.stopped]⟩ :=
    ⟨[.stopped], rfl, fun _ => rfl⟩
  refine ⟨fun m hm => ?_, Tracks.frame.trans ht hstopped⟩
  cases hm

end Connecting

/-- **A callback uses the current BattleNode only, and uses it by the protocol.** -/
theorem rconStep_uses (env : Env) (o : Oracle) (e : RconEvent) :
    Prog.Within Uses (rconStep env o e) := by
  intro s
  have hrefl := Uses.frame.refl s
  have hnode : ∀ n {x : RconM Unit}, Uses s (x s).2 → Uses s (fromNode n x s).2 := by
    intro n x hx
    rw [fromNode_apply]
    split
    · exact hx
    · exact hrefl
  cases e with
  | login n err success =>
    exact hnode n (Aside.uses (keeps_held (loginEvent_keeps (fun _ _ => usage_ignoresJobs)
      usage_ignoresTimers usage_ignoresEnds (voices_aside s) rfl n)))
  | chat n now message =>
    exact hnode n (emitting_uses (chatMessagesAction_adds (fun _ _ _ => through_of_none rfl)
      fun _ _ hm _ _ => command_through hm _ _))
  | disconnected n extra =>
    exact hnode n (Aside.uses (keeps_held (emitDisconnected_keeps usage_ignoresJobs
      usage_ignoresTimers usage_ignoresEnds (voices_aside s) n extra)))
  | answer n callback text =>
    exact hnode n (Aside.uses (emitting_held (replyAction_adds fun _ _ _ => rfl) s))
  | timer i =>
    cases h : s.rcon.timers[i]? with
    | none =>
      rw [timer_none env o h]
      exact hrefl
    | some cause =>
      have hfired : Aside s ⟨{ s.rcon with timers := s.rcon.timers.eraseIdx i }, s.calls⟩ :=
        ⟨rfl, (Adds.frame _).refl s.calls⟩
      rw [timer_some env o h]
      exact Uses.frame.trans (Aside.uses hfired) (reconnect_uses cause _)
  | cron id =>
    cases hjob : s.rcon.liveJobs.find? (·.id == id) with
    | none =>
      simp only [rconStep, this, Prog.read_bind, hjob]
      exact hrefl
    | some job =>
      simp only [rconStep, this, Prog.read_bind, hjob, cronAction]
      exact emitting_uses (cmdSayGlobalMessage_adds fun _ _ hm _ => command_through hm _ _)

/-! ## Runs -/

/-- The past of an instance kept to the protocol and led to where its BattleNodes stand. -/
structure Disciplined (t : RconSt) : Prop where
  clean : t.rcon.Clean
  usable : t.rcon.Usable
  past : ∀ n, t.calls.foldlM (Use.next n) .unborn = some (t.rcon.use n)

/-- An instance without BattleNodes has no past. -/
theorem Disciplined.new {this : Rcon} (hclean : this.Clean) (hbnode : this.bnode = none)
    (hnodes : this.nodes = []) : Disciplined ⟨this, []⟩ := by
  refine ⟨hclean, fun n hn => ?_, fun n => ?_⟩
  · rw [hbnode] at hn
    cases hn
  · simp [Rcon.use, hnodes]

theorem Disciplined.after {t : RconSt} {x : RconM Unit} (ht : Disciplined t)
    (hclean : (x ⟨t.rcon, []⟩).2.rcon.Clean)
    (hx : Since ⟨t.rcon, []⟩ (x ⟨t.rcon, []⟩).2) :
    Disciplined (t.after x) := by
  obtain ⟨husable, new, hcalls, hnew⟩ := hx
  refine ⟨hclean, husable, fun n => ?_⟩
  have hcalls' : (t.after x).calls = t.calls ++ new := by rw [RconSt.after, hcalls, List.nil_append]
  rw [hcalls', List.foldlM_append, ht.past n]
  exact hnew n

/-- Logins schedule accepted jobs only, and closing a socket does not throw. -/
def Smooth (w : World) (s : Step) : Prop :=
  Accepted w s ∧ ∀ r n, (s.oracle r).throws (.closeSocket n) = false

theorem Along.and_mem {env : Env} {P : World → Step → Prop} {Q : Step → Prop} {steps : List Step}
    {w : World} (h : Along env P steps w) (hQ : ∀ s ∈ steps, Q s) :
    Along env (fun w s => P w s ∧ Q s) steps w := by
  induction steps generalizing w with
  | nil => trivial
  | cons s steps ih =>
    exact ⟨⟨h.1, hQ s List.mem_cons_self⟩, ih h.2 fun s' hs' => hQ s' (List.mem_cons_of_mem s hs')⟩

theorem step_disciplined {env : Env} {w : World} {s : Step} (hw : w.Heap)
    (hinst : ∀ r, Disciplined (w.inst r)) (hs : Smooth w s) (r : RconRef) :
    Disciplined ((step env s w).2.inst r) := by
  refine step_inv (J := fun _ t => Disciplined t) hw hinst ?_ ?_ r
  · intro r e he
    refine (hinst r).after (rconStep_clean (t := ⟨w.rcons r, []⟩) (hinst r).clean ?_)
      (rconStep_uses env _ e ⟨w.rcons r, []⟩ (hinst r).usable)
    intro n hlogin hopen
    have haccepted := hs.1
    rw [Accepted, he, hlogin] at haccepted
    exact haccepted hopen
  · intro r t t' htouch ht
    cases htouch with
    | close _ hn =>
      exact ht.after (close_clean env _ _ ⟨t.rcon, []⟩ ht.clean)
        (close_since (s := ⟨t.rcon, []⟩) (hs.2 r) ht.usable ht.clean hn)
    | admin specific message =>
      refine ht.after ht.clean (emitting_uses (s := ⟨t.rcon, []⟩) ?_ ht.usable)
      exact checkAdminCommand_adds (fun _ _ => through_of_none rfl)
        (fun _ _ _ => through_of_none rfl) fun _ _ _ hm => command_through hm _ _
    | build _ server specific guild =>
      have hclean : (Rcon.blank server guild).Clean := clean_empty rfl rfl
      exact Disciplined.after (.new hclean rfl rfl) ((construct_kept env _ specific _).clean hclean)
        (construct_since specific server guild)
    | fill _ => exact ⟨⟨ht.clean.handles, ht.clean.live⟩, ht.usable, ht.past⟩

/-- **Every BattleNode is used by the protocol.** When logins schedule accepted jobs only and no
closing of a socket throws, every instance creates each of its BattleNodes once, tells it to log in
at most once, sends it commands only between its creation and its closing, and closes it at most
once. -/
theorem run_usage (env : Env) (steps : List Step) (h : Along env Accepted steps World.start)
    (hsocket : ∀ s ∈ steps, ∀ r n, (s.oracle r).throws (.closeSocket n) = false)
    (r : RconRef) (n : Nat) :
    ((run env steps World.start).calls r).foldlM (Use.next n) .unborn ≠ none := by
  have hsmooth : Along env Smooth steps World.start := h.and_mem hsocket
  have hrun := Along.run_inv (I := fun w => w.Heap ∧ ∀ r, Disciplined (w.inst r))
    (fun _ s hw hs => ⟨hw.1.step env s, step_disciplined hw.1 hw.2 hs⟩)
    ⟨World.Heap.start, fun _ => .new (clean_empty rfl rfl) rfl rfl⟩ hsmooth
  have hpast : ((run env steps World.start).calls r).foldlM (Use.next n) .unborn = some _ :=
    (hrun.2 r).past n
  rw [hpast]
  exact Option.some_ne_none _

/-- The bot logs in, says something at a reload, and closes its BattleNode. -/
theorem run_usage_reload :
    Along cronBot Accepted (loginSteps ++ reloadSteps) World.start ∧
      ((run cronBot (loginSteps ++ reloadSteps) World.start).calls firstRcon).foldlM
        (Use.next 0) .unborn ≠ none := by
  have h : Along cronBot Accepted (loginSteps ++ reloadSteps) World.start :=
    ⟨trivial, trivial, fun _ => by decide +kernel, trivial, trivial, trivial⟩
  refine ⟨h, run_usage _ _ h (fun s hs r n => ?_) firstRcon 0⟩
  simp only [loginSteps, joinSteps, reloadSteps, List.map_cons, List.map_nil, List.cons_append,
    List.nil_append, List.mem_cons, List.not_mem_nil, or_false] at hs
  rcases hs with rfl | rfl | rfl | rfl | rfl <;> rfl

end ZBot
