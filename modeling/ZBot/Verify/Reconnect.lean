import ZBot.Verify.Instances

/-!
# Reconnecting

An instance that loses its connection arms a timer and connects again when the timer fires. Three
properties of whole runs:

* reconnects never multiply: an instance has at most one pending timer or live BattleNode
  (`run_single_chain`);
* reconnects after a login error are counted since the last login, up to 60, and no further one is
  armed (`run_retries`);
* an instance that a reload has stopped does not connect again, as long as it has no pending timer
  when it is stopped and hears no more of its older BattleNodes (`run_unrevived`). `reload` does not
  see to either, so it fails in general (`revived_by_timer`).

The first two hold when a BattleNode ends at most once (`EndsOnce`), which is how `battle-node`
works. All three are invariants of the automaton of `ZBot.Verify.Link`.
-/

namespace ZBot

open Js

/-! ## One chain of reconnects -/

section Count

variable {α : Type} {p : α → Bool} {f : α → α}

/-- Writing one element changes a count by that element. -/
theorem countP_modify {xs : List α} {n : Nat} {a : α} (ha : xs[n]? = some a) :
    (xs.modify n f).countP p + (if p a then 1 else 0) = xs.countP p + if p (f a) then 1 else 0 := by
  induction xs generalizing n with
  | nil => cases ha
  | cons x xs ih =>
    cases n with
    | zero =>
      cases Option.some.inj ha
      simp only [List.modify_zero_cons, List.countP_cons]
      omega
    | succ n =>
      have := ih ha
      simp only [List.modify_succ_cons, List.countP_cons]
      omega

theorem countP_modify_le (hf : ∀ a, p (f a) = true → p a = true) (xs : List α) (n : Nat) :
    (xs.modify n f).countP p ≤ xs.countP p := by
  cases ha : xs[n]? with
  | none => rw [List.modify_eq_self (List.getElem?_eq_none_iff.1 ha)]
  | some a =>
    have hcount := countP_modify (p := p) (f := f) ha
    by_cases h : p (f a) = true
    · rw [if_pos h, if_pos (hf a h)] at hcount
      omega
    · rw [if_neg h] at hcount
      omega

end Count

/-- The events after which a BattleNode is lost. -/
def RconEvent.lost : RconEvent → Option Nat
  | .login n true _ => some n
  | .disconnected n _ => some n
  | _ => none

/-- A login error or a lost connection comes from a BattleNode that has not ended before. -/
def EndsOnce (w : World) (s : Step) : Prop :=
  ∀ own ∈ s.event.own, ∀ n ∈ own.2.lost, ∀ node ∈ (w.rcons own.1).nodes[n]?, node.ended = false

instance (w : World) (s : Step) : Decidable (EndsOnce w s) := by
  unfold EndsOnce
  infer_instance

namespace Link

variable {l : Link}

/-- The BattleNodes that may still lose their connection. -/
def live (l : Link) : Nat := l.nodes.countP Node.live

/-- The end of a BattleNode that can emit events and has not ended. -/
theorem live_ended {n : Nat} (hopen : l.open n = true)
    (hended : ∀ node ∈ l.nodes[n]?, node.ended = false) : (l.ended n).live + 1 = l.live := by
  obtain ⟨node, hnode, -, hlogin, -⟩ := node_of_open hopen
  have h := countP_modify (p := Node.live) (f := fun node => { node with ended := true }) hnode
  rw [if_pos (by simp [Node.live, hlogin, hended node hnode]), if_neg (by simp [Node.live])] at h
  exact h

theorem live_ended_le (l : Link) (n : Nat) : (l.ended n).live ≤ l.live :=
  countP_modify_le (by simp [Node.live]) _ _

theorem live_closed_le (l : Link) (n : Nat) : (l.closed n).live ≤ l.live :=
  countP_modify_le (by simp [Node.live]) _ _

theorem live_shut_le (l : Link) (n : Nat) : (l.shut n).live ≤ l.live := by
  unfold shut
  split
  · exact (live_ended_le _ n).trans (live_closed_le l n)
  · exact live_closed_le l n

@[simp] theorem timers_ended (l : Link) (n : Nat) : (l.ended n).timers = l.timers := rfl

@[simp] theorem timers_arm (l : Link) (cause : Cause) :
    (l.arm cause).timers = l.timers ++ [cause] := rfl

@[simp] theorem live_arm (l : Link) (cause : Cause) : (l.arm cause).live = l.live := rfl

@[simp] theorem timers_reconnected (l : Link) (i : Nat) (cause : Cause) (up : Bool) :
    (((l.fired i).counted cause).renewed up).timers = l.timers.eraseIdx i := rfl

theorem live_reconnected (l : Link) (i : Nat) (cause : Cause) (up : Bool) :
    (((l.fired i).counted cause).renewed up).live ≤ l.live + 1 := by
  cases up <;> simp [live, renewed, counted, fired, Node.live]

@[simp] theorem timers_shut (l : Link) (n : Nat) : (l.shut n).timers = l.timers := by
  unfold shut
  split <;> rfl

/-- At most one pending timer or live BattleNode. -/
def Single (l : Link) : Prop := l.timers.length + l.live ≤ 1

/-- The new BattleNode takes the place of the timer. -/
theorem Single.reconnected (hl : l.Single) {i : Nat} {cause : Cause}
    (htimer : l.timers[i]? = some cause) (up : Bool) :
    (((l.fired i).counted cause).renewed up).Single := by
  obtain ⟨hlt, -⟩ := List.getElem?_eq_some_iff.1 htimer
  have hlive := live_reconnected l i cause up
  unfold Single at hl ⊢
  rw [timers_reconnected, List.length_eraseIdx_of_lt hlt]
  omega

end Link

theorem LinkStep.single {event : RconEvent} {l l' : Link} {new : List Effect}
    (h : LinkStep event l new l')
    (honce : ∀ n ∈ event.lost, ∀ node ∈ l.nodes[n]?, node.ended = false) (hl : l.Single) :
    l'.Single := by
  -- the timer takes the place of the BattleNode that ended
  have harm : ∀ n cause, l.open n = true → (∀ node ∈ l.nodes[n]?, node.ended = false) →
      ((l.ended n).arm cause).Single := by
    intro n cause hopen hended
    have hlive := Link.live_ended hopen hended
    unfold Link.Single at hl ⊢
    simp only [Link.timers_arm, Link.timers_ended, Link.live_arm, List.length_append,
      List.length_singleton]
    omega
  have hended : ∀ n, (l.ended n).Single := fun n =>
    (Nat.add_le_add_left (Link.live_ended_le l n) _).trans hl
  cases h with
  | stay => exact hl
  | retry hopen _ => exact harm _ _ hopen (honce _ rfl)
  | giveUp hopen _ => exact hended _
  | loggedIn _ => exact hl
  | lost hopen => exact harm _ _ hopen (honce _ rfl)
  | ended _ => exact hended _
  | reconnect htimer up => exact hl.reconnected htimer up
  | lapse htimer => exact hl.reconnected htimer false

theorem CloseStep.single {n : Nat} {l l' : Link} {new : List Effect} (h : CloseStep n l new l')
    (hl : l.Single) : l'.Single := by
  have := Link.live_shut_le l n
  unfold Link.Single at hl ⊢
  cases h with
  | refused => exact hl
  | stuck => rw [Link.timers_shut]; omega
  | stopped =>
    change (l.shut n).timers.length + (l.shut n).live ≤ 1
    rw [Link.timers_shut]
    omega

theorem BuildStep.single {returned : Bool} {new : List Effect} {l : Link}
    (h : BuildStep returned new l) : l.Single := by
  unfold Link.Single
  cases h <;> decide

theorem EndsOnce.lost {w : World} {s : Step} (h : EndsOnce w s) {r : RconRef} {e : RconEvent}
    (he : s.event = .rcon r e) :
    ∀ n ∈ e.lost, ∀ node ∈ (w.rcons r).link.nodes[n]?, node.ended = false :=
  h (r, e) (by rw [he]; rfl)

theorem step_single {env : Env} {w : World} {s : Step} (hw : w.Heap)
    (hl : ∀ r, (w.rcons r).link.Single) (hs : EndsOnce w s) (r : RconRef) :
    ((step env s w).2.rcons r).link.Single :=
  link_inv env (K := fun _ l _ => l.Single) hw hl
    (fun r _ _ _ he h => h.single (hs.lost he) (hl r))
    (fun _ _ _ _ _ _ _ _ h => h.single) (fun _ _ _ _ h => h.single) r

/-- **Single reconnect chain.** In every state that is reached when every BattleNode ends at most
once, an instance has at most one pending reconnect timer or live BattleNode. -/
theorem run_single_chain (env : Env) (steps : List Step)
    (h : Along env EndsOnce steps World.start) (r : RconRef) :
    ((run env steps World.start).rcons r).timers.length +
      ((run env steps World.start).rcons r).nodes.countP Node.live ≤ 1 := by
  have hrun := Along.run_inv (I := fun w => w.Heap ∧ ∀ r, (w.rcons r).link.Single)
    (fun w s hw hs => ⟨hw.1.step env s, step_single hw.1 hw.2 hs⟩)
    ⟨World.Heap.start, fun _ => Nat.zero_le 1⟩ h
  exact hrun.2 r

/-- A login error, and the reconnect it causes. -/
def retrySteps : List Step :=
  joinSteps ++ [sampleStep (.rcon firstRcon (.login 0 true none)),
    sampleStep (.rcon firstRcon (.timer 0))]

theorem retrySteps_endsOnce : Along sampleBot EndsOnce retrySteps World.start := by
  decide +kernel

theorem run_single_chain_retry :
    Along sampleBot EndsOnce retrySteps World.start ∧
    ((run sampleBot retrySteps World.start).rcons firstRcon).timers.length +
      ((run sampleBot retrySteps World.start).rcons firstRcon).nodes.countP Node.live ≤ 1 :=
  ⟨retrySteps_endsOnce, run_single_chain _ _ retrySteps_endsOnce firstRcon⟩

/-! ## Counting the retries -/

/-- The calls of `reInit` after a login error since the last login that was handled. -/
def loginRetries (calls : List Effect) : Nat :=
  (calls.reverse.takeWhile (· != .loggedIn)).count (.reInit .loginError)

theorem loginRetries_append {new : List Effect} (h : .loggedIn ∉ new) (calls : List Effect) :
    loginRetries (calls ++ new) = loginRetries calls + new.count (.reInit .loginError) := by
  have hall : ∀ e ∈ new.reverse, (e != .loggedIn) = true := fun e he => by
    simp only [bne_iff_ne, ne_eq]
    rintro rfl
    exact h (List.mem_reverse.1 he)
  rw [loginRetries, List.reverse_append, List.takeWhile_append_of_pos hall, List.count_append,
    List.count_reverse, Nat.add_comm]
  rfl

theorem loginRetries_loggedIn (calls : List Effect) : loginRetries (calls ++ [.loggedIn]) = 0 := by
  simp [loginRetries]

/-- The retries can be read off the marks. -/
theorem loginRetries_marks (calls : List Effect) :
    loginRetries (marks calls) = loginRetries calls := by
  induction calls using List.reverseRecOn with
  | nil => rfl
  | append_singleton calls e ih =>
    rw [marks_append]
    by_cases he : e = .loggedIn
    · subst he
      rw [loginRetries_loggedIn]
      exact loginRetries_loggedIn _
    · have hm : Effect.loggedIn ∉ marks [e] := fun h =>
        he (List.mem_singleton.1 (List.mem_of_mem_filter h)).symm
      rw [loginRetries_append hm, loginRetries_append (by simpa using Ne.symm he), ih]
      cases e <;> rfl

/-- The count of failed logins is right, and the retries that are counted or pending are at most
60. -/
structure Link.Retries (l : Link) (ms : List Effect) : Prop where
  single : l.Single
  attempts : l.loginAttempts = loginRetries ms
  bound : l.loginAttempts + l.timers.count .loginError ≤ 60

theorem Link.Single.timers_eq {l : Link} (hl : l.Single) {i : Nat} {cause : Cause}
    (h : l.timers[i]? = some cause) : l.timers = [cause] ∧ i = 0 := by
  have hlen : l.timers.length ≤ 1 := (Nat.le_add_right _ _).trans hl
  obtain ⟨hlt, hcause⟩ := List.getElem?_eq_some_iff.1 h
  have hi : i = 0 := by omega
  subst hi
  obtain ⟨a, ha⟩ := List.length_eq_one_iff.1 (Nat.le_antisymm hlen hlt)
  simp only [ha, List.getElem_cons_zero] at hcause
  exact ⟨by rw [ha, hcause], rfl⟩

theorem Link.Retries.reconnected {l : Link} {ms : List Effect} (hl : l.Retries ms) {i : Nat}
    {cause : Cause} (htimer : l.timers[i]? = some cause) (up : Bool) :
    (((l.fired i).counted cause).renewed up).Retries
      (ms ++ .reInit cause :: renewal l.nodes.length up) := by
  obtain ⟨htimers, rfl⟩ := hl.single.timers_eq htimer
  have hbound := hl.bound
  have hmarks : .loggedIn ∉ .reInit cause :: renewal l.nodes.length up := by
    cases up <;> simp [renewal]
  have hcount : (Effect.reInit cause :: renewal l.nodes.length up).count (.reInit .loginError) =
      if cause = .loginError then 1 else 0 := by
    cases up <;> cases cause <;> rfl
  refine ⟨hl.single.reconnected htimer up, ?_, ?_⟩
  · rw [loginRetries_append hmarks, hcount, ← hl.attempts]
    cases cause <;> rfl
  · rw [htimers] at hbound
    rw [Link.timers_reconnected, htimers]
    cases cause <;> exact hbound

theorem LinkStep.retries {event : RconEvent} {l l' : Link} {ms new : List Effect}
    (h : LinkStep event l new l')
    (honce : ∀ n ∈ event.lost, ∀ node ∈ l.nodes[n]?, node.ended = false) (hl : l.Retries ms) :
    l'.Retries (ms ++ new) := by
  have hsingle := h.single honce hl.single
  have hlen : l.timers.count .loginError ≤ l.timers.length := List.count_le_length
  have hchain : l.timers.length + l.live ≤ 1 := hl.single
  cases h with
  | stay => exact ⟨hsingle, by rw [List.append_nil]; exact hl.attempts, hl.bound⟩
  | retry hopen hless =>
    -- the BattleNode was live, so no timer was pending
    have := Link.live_ended hopen (honce _ rfl)
    refine ⟨hsingle, by rw [List.append_nil]; exact hl.attempts, ?_⟩
    change l.loginAttempts + (l.timers ++ [Cause.loginError]).count .loginError ≤ 60
    simp only [List.count_append, List.count_singleton_self]
    omega
  | giveUp hopen _ => exact ⟨hsingle, by rw [List.append_nil]; exact hl.attempts, hl.bound⟩
  | loggedIn _ =>
    refine ⟨hsingle, (loginRetries_loggedIn ms).symm, ?_⟩
    simp only
    omega
  | lost hopen =>
    refine ⟨hsingle, by rw [List.append_nil]; exact hl.attempts, ?_⟩
    change l.loginAttempts + (l.timers ++ [Cause.disconnected]).count .loginError ≤ 60
    simpa using hl.bound
  | ended _ => exact ⟨hsingle, by rw [List.append_nil]; exact hl.attempts, hl.bound⟩
  | reconnect htimer up => exact hl.reconnected htimer up
  | lapse htimer =>
    -- which BattleNode is the current one does not matter
    have h := hl.reconnected htimer false
    exact ⟨h.single, h.attempts, h.bound⟩

theorem CloseStep.retries {n : Nat} {l l' : Link} {ms new : List Effect}
    (h : CloseStep n l new l') (hl : l.Retries ms) : l'.Retries (ms ++ new) := by
  have hsingle := h.single hl.single
  have hattempts : (l.shut n).loginAttempts = l.loginAttempts := by
    unfold Link.shut
    split <;> rfl
  have hbound : (l.shut n).loginAttempts + (l.shut n).timers.count .loginError ≤ 60 := by
    rw [hattempts, Link.timers_shut]
    exact hl.bound
  cases h with
  | refused => exact ⟨hsingle, by rw [List.append_nil]; exact hl.attempts, hl.bound⟩
  | stuck => exact ⟨hsingle, by rw [List.append_nil, hattempts]; exact hl.attempts, hbound⟩
  | stopped =>
    refine ⟨hsingle, ?_, hbound⟩
    rw [loginRetries_append (by simp)]
    exact hattempts.trans hl.attempts

theorem BuildStep.retries {returned : Bool} {new : List Effect} {l : Link}
    (h : BuildStep returned new l) : l.Retries new := by
  refine ⟨h.single, ?_, ?_⟩ <;> cases h <;> decide

/-- A login error at the bound arms no timer. -/
theorem LinkStep.timers_of_bound {n : Nat} {success : Option Bool} {l l' : Link}
    {new : List Effect} (h : LinkStep (.login n true success) l new l')
    (hbound : l.loginAttempts = 60) : l'.timers = l.timers := by
  cases h with
  | stay => rfl
  | retry _ hless => exact absurd hless (by rw [hbound]; decide)
  | giveUp => rfl

/-- **Bounded login retries.** In every state that is reached when every BattleNode ends at most
once, `_loginAttempts` is the number of reconnects after a login error since the last login, it is
at most 60, and at 60 a login error arms no further reconnect. -/
theorem run_retries (env : Env) (steps : List Step) (h : Along env EndsOnce steps World.start)
    (r : RconRef) :
    let w := run env steps World.start
    (w.rcons r).loginAttempts = loginRetries (w.calls r) ∧
      (w.rcons r).loginAttempts ≤ 60 ∧
      ((w.rcons r).loginAttempts = 60 → ∀ o n success,
        ((step env ⟨.rcon r (.login n true success), o⟩ w).2.rcons r).timers =
          (w.rcons r).timers) := by
  have hrun := Along.run_inv
    (I := fun w => w.Heap ∧ ∀ r, (w.rcons r).link.Retries (marks (w.calls r)))
    (fun w s hw hs => ⟨hw.1.step env s, link_inv env (K := fun _ l ms => l.Retries ms) hw.1 hw.2
      (fun r _ _ _ he h => h.retries (hs.lost he) (hw.2 r))
      (fun _ _ _ _ _ _ _ _ h => h.retries) (fun _ _ _ _ h => h.retries)⟩)
    ⟨World.Heap.start, fun _ => ⟨Nat.zero_le 1, rfl, Nat.zero_le 60⟩⟩ h
  obtain ⟨-, hattempts, hbound⟩ := hrun.2 r
  refine ⟨hattempts.trans (loginRetries_marks _), (Nat.le_add_right _ _).trans hbound, ?_⟩
  intro h60 o n success
  obtain ⟨new, hstep, -⟩ := event_link env (o r) ((run env steps World.start).inst r)
    (.login n true success)
  have hinst := rconStep_inst env o r r (.login n true success) (run env steps World.start)
  rw [if_pos rfl] at hinst
  rw [← hinst] at hstep
  exact hstep.timers_of_bound h60

theorem run_retries_retry :
    Along sampleBot EndsOnce retrySteps World.start ∧
    ((run sampleBot retrySteps World.start).rcons firstRcon).loginAttempts = 1 ∧
    loginRetries ((run sampleBot retrySteps World.start).calls firstRcon) = 1 := by
  have hone : ((run sampleBot retrySteps World.start).rcons firstRcon).loginAttempts = 1 := by
    decide +kernel
  have hretries := run_retries _ _ retrySteps_endsOnce firstRcon
  exact ⟨retrySteps_endsOnce, hone, hretries.1.symm.trans hone⟩

/-! ## Stopped instances -/

/-- The effects of an instance that connects. -/
def Effect.connects : Effect → Bool
  | .newNode _ | .login _ => true
  | _ => false

/-- The instance connects after it was stopped. -/
def Revived (calls : List Effect) : Prop :=
  ∃ before after, calls = before ++ .stopped :: after ∧ ∃ e ∈ after, e.connects = true

theorem Revived.marks {calls : List Effect} : Revived calls → Revived (marks calls) := by
  rintro ⟨before, after, rfl, e, he, hconnects⟩
  refine ⟨ZBot.marks before, ZBot.marks after, ?_, e, List.mem_filter.2 ⟨he, ?_⟩, hconnects⟩
  · rw [marks_append]
    rfl
  · cases e <;> first | rfl | cases hconnects

/-- An instance that was not revived before is so by what it does after it was stopped. -/
theorem Revived.of_append {ms new : List Effect} (h : Revived (ms ++ new)) :
    Revived ms ∨ (.stopped ∈ ms ∧ ∃ e ∈ new, e.connects = true) ∨ Revived new := by
  obtain ⟨before, after, heq, e, he, hconnects⟩ := h
  rcases List.append_eq_append_iff.1 heq with ⟨mid, rfl, rfl⟩ | ⟨mid, rfl, hmid⟩
  · exact .inr (.inr ⟨mid, after, rfl, e, he, hconnects⟩)
  · cases mid with
    | nil =>
      exact .inr (.inr ⟨[], after, hmid.symm, e, he, hconnects⟩)
    | cons a mid =>
      obtain ⟨rfl, rfl⟩ := List.cons.inj hmid
      rcases List.mem_append.1 he with he | he
      · exact .inl ⟨before, mid, rfl, e, he, hconnects⟩
      · exact .inr (.inl ⟨by simp, e, he, hconnects⟩)

/-- No instance connects after it was stopped. -/
def NoResurrection (w : World) : Prop := ∀ r, ¬Revived (w.calls r)

/-- The guild a step reloads. -/
def Event.reloads : Event → Option GuildId
  | .getReply g _ => some g
  | _ => none

/-- A reload finds no pending reconnect timer on an instance it stops, and an instance without a
BattleNode hears of no BattleNode that is lost. -/
def Calm (w : World) (s : Step) : Prop :=
  (∀ g ∈ s.event.reloads, ∀ r ∈ (w.data g).beRcons,
    (w.rcons r).bnode = none ∨ (w.rcons r).timers = []) ∧
  ∀ own ∈ s.event.own, ∀ n ∈ own.2.lost, (w.rcons own.1).open n = true →
    (w.rcons own.1).bnode ≠ none

instance (w : World) (s : Step) : Decidable (Calm w s) := by
  unfold Calm
  infer_instance

/-- A stopped instance has neither a BattleNode nor a timer. -/
structure Link.Stopped (l : Link) (ms : List Effect) : Prop where
  unrevived : ¬Revived ms
  bnode : .stopped ∈ ms → l.bnode = none
  timers : .stopped ∈ ms → l.timers = []

theorem not_revived_of_not_mem {ms : List Effect} (h : .stopped ∉ ms) : ¬Revived ms := by
  rintro ⟨before, after, rfl, -⟩
  exact h (by simp)

/-- An instance does something else than to stop, and once stopped it does not connect. -/
theorem Link.Stopped.append {l l' : Link} {ms new : List Effect} (hl : l.Stopped ms)
    (hnew : .stopped ∉ new) (h : .stopped ∈ ms →
      (∀ e ∈ new, e.connects = false) ∧ l'.bnode = none ∧ l'.timers = []) :
    l'.Stopped (ms ++ new) := by
  have hmem : .stopped ∈ ms ++ new → .stopped ∈ ms := fun hm =>
    (List.mem_append.1 hm).resolve_right hnew
  refine ⟨fun hrev => ?_, fun hm => (h (hmem hm)).2.1, fun hm => (h (hmem hm)).2.2⟩
  rcases hrev.of_append with hrev | ⟨hm, e, he, hconnects⟩ | hrev
  · exact hl.unrevived hrev
  · exact absurd hconnects (by rw [(h hm).1 e he]; decide)
  · exact not_revived_of_not_mem hnew hrev

theorem LinkStep.stopped {event : RconEvent} {l l' : Link} {ms new : List Effect}
    (h : LinkStep event l new l')
    (hcalm : ∀ n ∈ event.lost, l.open n = true → l.bnode ≠ none) (hl : l.Stopped ms) :
    l'.Stopped (ms ++ new) := by
  cases h with
  | stay => exact hl.append (by simp) fun hm => ⟨by simp, hl.bnode hm, hl.timers hm⟩
  | retry hopen _ => exact hl.append (by simp) fun hm => absurd (hl.bnode hm) (hcalm _ rfl hopen)
  | giveUp _ _ => exact hl.append (by simp) fun hm => ⟨by simp, hl.bnode hm, hl.timers hm⟩
  | loggedIn _ =>
    exact hl.append (by simp) fun hm => ⟨by simp [Effect.connects], hl.bnode hm, hl.timers hm⟩
  | lost hopen => exact hl.append (by simp) fun hm => absurd (hl.bnode hm) (hcalm _ rfl hopen)
  | ended _ => exact hl.append (by simp) fun hm => ⟨by simp, hl.bnode hm, hl.timers hm⟩
  | reconnect htimer up =>
    refine hl.append (by cases up <;> simp [renewal]) fun hm => ?_
    rw [hl.timers hm] at htimer
    cases htimer
  | lapse htimer =>
    refine hl.append (by simp [renewal]) fun hm => ?_
    rw [hl.timers hm] at htimer
    cases htimer

/-- What a reload stops has no timer. -/
theorem CloseStep.stopped_of_timers {n : Nat} {l l' : Link} {ms new : List Effect}
    (h : CloseStep n l new l') (hn : l.bnode = some n) (htimers : l.timers = [])
    (hl : l.Stopped ms) : l'.Stopped (ms ++ new) ∧ l'.timers = [] := by
  have hm : .stopped ∉ ms := fun hm => by cases (hl.bnode hm).symm.trans hn
  have hshut : (l.shut n).timers = [] := (Link.timers_shut l n).trans htimers
  cases h with
  | refused => exact ⟨hl.append (by simp) fun h => absurd h hm, htimers⟩
  | stuck => exact ⟨hl.append (by simp) fun h => absurd h hm, hshut⟩
  | stopped =>
    refine ⟨⟨fun hrev => ?_, fun _ => rfl, fun _ => hshut⟩, hshut⟩
    rcases hrev.of_append with hrev | ⟨h, -⟩ | ⟨before, after, heq, e, he, -⟩
    · exact hl.unrevived hrev
    · exact hm h
    · have hlen := congrArg List.length heq
      simp only [List.length_append, List.length_cons, List.length_nil] at hlen
      have : after = [] := List.eq_nil_of_length_eq_zero (by omega)
      rw [this] at he
      cases he

theorem BuildStep.stopped {returned : Bool} {new : List Effect} {l : Link}
    (h : BuildStep returned new l) : l.Stopped new ∧ l.timers = [] := by
  have hnew : .stopped ∉ new := by cases h <;> simp [renewal]
  refine ⟨⟨not_revived_of_not_mem hnew, fun h => absurd h hnew, fun h => absurd h hnew⟩, ?_⟩
  cases h <;> rfl

theorem step_stopped {env : Env} {w : World} {s : Step} (hw : w.Heap)
    (hl : ∀ r, (w.rcons r).link.Stopped (marks (w.calls r))) (hs : Calm w s) (r : RconRef) :
    ((step env s w).2.rcons r).link.Stopped (marks ((step env s w).2.calls r)) := by
  -- during a reload what it closes has no timer to begin with
  refine (link_inv env (K := fun r l ms => l.Stopped ms ∧
    (s.closes w r → l.bnode = none ∨ l.timers = [])) hw (fun r => ⟨hl r, ?_⟩) ?_ ?_ ?_ r).1
  · rintro ⟨g, result, he, hr⟩
    exact hs.1 g (by rw [he]; rfl) r hr
  · intro r e new l' he h
    refine ⟨h.stopped (hs.2 (r, e) (by rw [he]; rfl)) (hl r), ?_⟩
    rintro ⟨g, result, he', -⟩
    cases he.symm.trans he'
  · intro r n l ms new l' hclosing hn h ⟨hstopped, htimers⟩
    have ht : l.timers = [] := (htimers hclosing).resolve_left (by rw [hn]; simp)
    obtain ⟨h, ht'⟩ := h.stopped_of_timers hn ht hstopped
    exact ⟨h, fun _ => .inr ht'⟩
  · intro r returned new l' h
    exact ⟨h.stopped.1, fun _ => .inr h.stopped.2⟩

/-- **No resurrection, when a reload is calm.** In a run whose reloads find no pending timer on what
they stop, and in which no instance without a BattleNode hears of a lost one, no instance connects
after it was stopped. -/
theorem run_unrevived (env : Env) (steps : List Step) (h : Along env Calm steps World.start) :
    NoResurrection (run env steps World.start) := by
  have hrun := Along.run_inv
    (I := fun w => w.Heap ∧ ∀ r, (w.rcons r).link.Stopped (marks (w.calls r)))
    (fun w s hw hs => ⟨hw.1.step env s, step_stopped hw.1 hw.2 hs⟩)
    ⟨World.Heap.start, fun _ => ⟨not_revived_of_not_mem (by simp [World.calls, World.start, marks]),
      fun _ => rfl, fun _ => rfl⟩⟩ h
  exact fun r hrev => (hrun.2 r).unrevived hrev.marks

/-- A reload after the login. -/
def calmSteps : List Step :=
  joinSteps ++ [sampleStep (.rcon firstRcon (.login 0 false (some true)))] ++ reloadSteps

theorem run_unrevived_reload :
    Along sampleBot Calm calmSteps World.start ∧
      NoResurrection (run sampleBot calmSteps World.start) := by
  have h : Along sampleBot Calm calmSteps World.start := by decide +kernel
  exact ⟨h, run_unrevived _ _ h⟩

/-- The timer armed by a login error outlives the reload. -/
def revivingSteps : List Step :=
  joinSteps ++ [sampleStep (.rcon firstRcon (.login 0 true none))] ++ reloadSteps ++
    [sampleStep (.rcon firstRcon (.timer 0))]

theorem revived_by_timer :
    ¬NoResurrection (run sampleBot revivingSteps World.start) := by
  let calls :=
    (run sampleBot revivingSteps World.start).calls firstRcon
  have hsplit : calls = calls.takeWhile (· != .stopped) ++
      .stopped :: (calls.dropWhile (· != .stopped)).tail := by decide +kernel
  have hlogin : .login 1 ∈ (calls.dropWhile (· != .stopped)).tail := by decide +kernel
  exact fun h => h firstRcon ⟨_, _, hsplit, .login 1, hlogin, rfl⟩

end ZBot
