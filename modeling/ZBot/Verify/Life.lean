import ZBot.Verify.Origin
import ZBot.Verify.Phase

/-!
# The life of an instance

What the phase machine of `ZBot.Verify.Phase` says about whole runs of the bot. The runs are proper
(`Proper`): the BattleNodes keep to their protocol, `new BattleNode` returns when a reconnect timer
fires, and a login finds cron specs that are accepted. In a proper run

* every instance follows the machine (`run_phases`);
* an instance that was told to log in has one live BattleNode or one pending timer, unless a reload
  has stopped it or it has failed to log in 60 times (`run_pending`);
* an instance that is connecting or waiting can be online after at most two callbacks
  (`run_recovers`);
* only the two calls of `battle-node` can make the callback of a timer throw (`run_timer_returns`);
* cron jobs are live only while the instance is online, so that they find an open BattleNode
  (`run_cron_online`);
* an instance that is down, with neither a live BattleNode nor a pending timer, stays down and makes
  no BattleNode (`run_down_stays`).

In every run at all, an instance keeps its guild, its channels, its actions and its configuration,
of which a reload may write `showChannels` (`run_bindings`).
-/

namespace ZBot

open Js RconM

theorem Along.drop {env : Env} {P : World → Step → Prop} {steps more : List Step} {w : World}
    (h : Along env P (steps ++ more) w) : Along env P more (run env steps w) := by
  induction steps generalizing w with
  | nil => exact h
  | cons s steps ih => exact ih h.2

theorem Along.take {env : Env} {P : World → Step → Prop} {steps more : List Step} {w : World}
    (h : Along env P (steps ++ more) w) : Along env P steps w := by
  induction steps generalizing w with
  | nil => trivial
  | cons s steps ih => exact ⟨h.1, ih h.2⟩

/-- The events of the instances keep to the protocol of the BattleNodes. -/
def Conforms (w : World) (s : Step) : Prop :=
  ∀ own ∈ s.event.own, own.2.Fits (w.inst own.1)

instance (w : World) (s : Step) : Decidable (Conforms w s) := by
  unfold Conforms
  infer_instance

/-- `new BattleNode` returns when a timer of an instance fires. -/
def Renewable (w : World) (s : Step) : Prop :=
  ∀ own ∈ s.event.own, own.2.Builds (s.oracle own.1) (w.inst own.1)

instance (w : World) (s : Step) : Decidable (Renewable w s) := by
  unfold Renewable
  infer_instance

/-- A callback moves the phase of its instance as its signal says, and no other; anything else
builds and closes instances. -/
def Follows (env : Env) (w : World) (s : Step) : Prop :=
  ∀ r, match s.event.own with
    | some (r', e) => ((step env s w).2.inst r).phase =
        if r = r' then (w.inst r).phase.next (e.signal (w.rcons r)) else (w.inst r).phase
    | none => Relation.ReflTransGen Phase.Managed (w.inst r).phase
        ((step env s w).2.inst r).phase

/-- The instances are in order. -/
structure World.Steady (w : World) : Prop where
  heap : w.Heap
  inst : ∀ r, (w.inst r).Steady

theorem World.Steady.start : World.start.Steady where
  heap := .start
  inst r := {
    link := {
      single := Nat.zero_le 1
      current := fun n node hn _ => by cases hn
      listening := fun node hnode _ => by cases hnode
      started := fun hne => absurd rfl hne
      counted := fun hup => by cases hup
      ends := fun hdown => by cases hdown }
    clean := clean_empty rfl rfl
    default := fun h => by cases h
    jobs := fun hne => absurd rfl hne
    unused := fun _ => rfl }

/-- The BattleNodes keep to their protocol, a timer gets its BattleNode, and a login finds cron
specs that are accepted. -/
def Proper (w : World) (s : Step) : Prop := Conforms w s ∧ Renewable w s ∧ Accepted w s

instance (w : World) (s : Step) : Decidable (Accepted w s) := by
  unfold Accepted
  split <;> infer_instance

instance (w : World) (s : Step) : Decidable (Proper w s) := by
  unfold Proper
  infer_instance

theorem World.Steady.event (env : Env) {w : World} {s : Step} (hw : w.Steady) (hs : Proper w s)
    {r : RconRef} {e : RconEvent} (he : s.event = .rcon r e) :
    ((w.inst r).after (rconStep env (s.oracle r) e)).Steady ∧
      ((w.inst r).after (rconStep env (s.oracle r) e)).phase =
        (w.inst r).phase.next (e.signal (w.rcons r)) := by
  have hown : (r, e) ∈ s.event.own := by rw [he]; rfl
  refine event_steady (hw.inst r) (hs.1 (r, e) hown) (hs.2.1 (r, e) hown) fun n hlogin hopen => ?_
  have haccepted := hs.2.2
  rw [Accepted, he, hlogin] at haccepted
  exact haccepted hopen

theorem World.Steady.step (env : Env) {w : World} {s : Step} (hw : w.Steady) (hs : Proper w s) :
    (step env s w).2.Steady := by
  refine ⟨hw.heap.step env s, fun r => ?_⟩
  refine step_inv (J := fun _ t => t.Steady) hw.heap hw.inst ?_ ?_ r
  · exact fun r e he => (hw.event env hs he).1
  · exact fun r t t' htouch ht => (touch_steady htouch ht).1

theorem World.Steady.follows (env : Env) {w : World} {s : Step} (hw : w.Steady)
    (hs : Proper w s) : Follows env w s := by
  intro r
  cases hown : s.event.own with
  | some own =>
    obtain ⟨r', e⟩ := own
    have he : s.event = .rcon r' e := by
      unfold Event.own at hown
      split at hown
      · cases hown
        assumption
      · cases hown
    have hphase := (hw.event env hs he).2
    rcases s with ⟨event, o⟩
    subst he
    simp only
    rw [rconStep_inst]
    split
    · rename_i h
      subst h
      exact hphase
    · rfl
  | none =>
    have hno : ¬∃ r e, s.event = .rcon r e := by
      rintro ⟨r', e, he⟩
      rw [he] at hown
      cases hown
    have htouches := ((step_touches env hno).2 hw.heap).2 r
    simp only
    -- every touch is a few steps of the phase
    have hall : ∀ t, Relation.ReflTransGen (Touch env (s.oracle r) (s.closes w r)) (w.inst r) t →
        t.Steady ∧ Relation.ReflTransGen Phase.Managed (w.inst r).phase t.phase := by
      intro t h
      induction h with
      | refl => exact ⟨hw.inst r, .refl⟩
      | tail _ htouch ih =>
        obtain ⟨hsteady, hphase⟩ := touch_steady htouch ih.1
        exact ⟨hsteady, ih.2.trans hphase⟩
    exact (hall _ htouches).2

/-- **Every instance follows the phase machine.** Along every proper run each callback moves the
phase of its instance exactly as `Phase.next` says and leaves the other instances alone, and every
other step builds and closes instances only. -/
theorem run_phases (env : Env) (steps : List Step) (h : Along env Proper steps World.start) :
    Along env (Follows env) steps World.start :=
  Along.imp (I := World.Steady) (fun _ _ hw hs => hw.step env hs)
    (fun _ _ hw hs => hw.follows env hs) .start h

/-- A bot with one server and one cron job. -/
def cronBot : Env := sampleEnv (sampleConfig [cronServer [lit "0 * * * *"]])

/-- The bot logs in, loses the connection and connects again. -/
def lifeSteps : List Step :=
  loginSteps ++ [lostStep, ⟨.rcon firstRcon (.timer 0), hourlyOracle⟩]

theorem lifeSteps_proper : Along cronBot Proper lifeSteps World.start := by decide +kernel

theorem run_phases_life :
    Along cronBot Proper lifeSteps World.start ∧
      Along cronBot (Follows cronBot) lifeSteps World.start :=
  ⟨lifeSteps_proper, run_phases _ _ lifeSteps_proper⟩

theorem run_steady {env : Env} {steps : List Step} (h : Along env Proper steps World.start) :
    (run env steps World.start).Steady :=
  Along.run_inv (fun _ _ hw hs => World.Steady.step env hw hs) .start h

/-! ## Waiting and recovering -/

/-- The instance is online, no failed login is counted, and its jobs are the configured ones. -/
structure Recovered (o : Oracle) (cfg : Value) (t : RconSt) : Prop where
  phase : t.phase = .online
  attempts : t.rcon.loginAttempts = 0
  jobs : t.rcon.liveJobs.map CronJob.text = expectedTexts o cfg

section Recovering

variable {w : World} {r : RconRef} {o : RconRef → Oracle}

theorem follows_callback (env : Env) {e : RconEvent} (hw : w.Steady)
    (hs : Proper w ⟨.rcon r e, o⟩) :
    ((step env ⟨.rcon r e, o⟩ w).2.inst r).phase =
      (w.inst r).phase.next (e.signal (w.rcons r)) := by
  have h := hw.follows env hs r
  simpa only [Event.own, if_true] using h

/-- An instance that is connecting recovers when the login succeeds. -/
theorem login_recovers (env : Env) (hw : w.Steady) {k : Nat}
    (hphase : (w.inst r).phase = .connecting k)
    (hjobs : schedulable (o r) (w.rcons r).cfg = true) :
    ∃ n, Proper w ⟨.rcon r (.login n false (some true)), o⟩ ∧
      Recovered (o r) (w.rcons r).cfg
        ((step env ⟨.rcon r (.login n false (some true)), o⟩ w).2.inst r) := by
  have hl := (hw.inst r).link
  obtain ⟨n, -, hopen, hended⟩ := hl.linked (by
    change (w.inst r).phase.linked = true
    rw [hphase]
    rfl)
  have hopen' : (w.rcons r).open n = true := hopen
  have hproper : Proper w ⟨.rcon r (.login n false (some true)), o⟩ := by
    refine ⟨fun own hown => ?_, fun own hown => ?_, fun _ => hjobs⟩
    · cases hown
      exact ⟨hended, fun h => by cases h⟩
    · cases hown
      trivial
  have honline : ((step env ⟨.rcon r (.login n false (some true)), o⟩ w).2.inst r).phase =
      .online := by
    rw [follows_callback env hw hproper]
    simp only [RconEvent.signal, hopen', if_true]
    exact hl.next_succeeded ⟨hopen, hended⟩
  refine ⟨n, hproper, honline, ?_, ?_⟩
  · have hsteady := ((hw.step env hproper).inst r).link
    exact hsteady.attempts_online honline
  · have hygiene : Hygiene env w ⟨.rcon r (.login n false (some true)), o⟩ :=
      step_hygiene (fun r => (hw.inst r).clean) hproper.2.2
    exact hygiene hopen'

theorem callback_cfg (env : Env) (o : RconRef → Oracle) (r : RconRef) (e : RconEvent) (w : World) :
    ((step env ⟨.rcon r e, o⟩ w).2.rcons r).cfg = (w.rcons r).cfg := by
  rw [step_rcons rfl]
  exact rconStep_cfg env (o r) e ⟨w.rcons r, []⟩

/-- **Every instance can recover.** After every proper run, an instance that is connecting or waits
for its timer is online after at most two callbacks, the timer and a login that succeeds, with no
failed login counted and the configured cron jobs live, when its cron specs are accepted and `new
BattleNode` returns. -/
theorem run_recovers (env : Env) (steps : List Step) (h : Along env Proper steps World.start)
    (r : RconRef) (o : RconRef → Oracle) :
    let w := run env steps World.start
    schedulable (o r) (w.rcons r).cfg = true →
      (o r).throws (.newNode (w.rcons r).nodes.length) = false →
      ((w.inst r).phase ≠ .idle ∧ (w.inst r).phase ≠ .down ∧ (w.inst r).phase ≠ .online) →
      ∃ more, more.length ≤ 2 ∧ (∀ s ∈ more, ∃ e, s = ⟨.rcon r e, o⟩) ∧ Along env Proper more w ∧
        Recovered (o r) (w.rcons r).cfg ((run env more w).inst r) := by
  intro w hjobs hbuilds hphase
  have hw : w.Steady := run_steady h
  cases hp : (w.inst r).phase with
  | idle => exact absurd hp hphase.1
  | down => exact absurd hp hphase.2.1
  | online => exact absurd hp hphase.2.2
  | connecting k =>
    obtain ⟨n, hproper, hrecovered⟩ := login_recovers env hw hp hjobs
    exact ⟨[_], by simp, by simp, ⟨hproper, trivial⟩, hrecovered⟩
  | waiting cause k =>
    have htimer : (w.rcons r).timers[0]? = some cause := by
      have hp' : (w.rcons r).link.phase (w.calls r) = .waiting cause k := hp
      unfold Link.phase at hp'
      split at hp'
      · rename_i rest hcons
        cases hp'
        have hcons' : (w.rcons r).timers = _ := hcons
        rw [hcons']
        rfl
      · split at hp' <;> split at hp' <;> cases hp'
    have htimerStep : Proper w ⟨.rcon r (.timer 0), o⟩ := by
      refine ⟨fun own hown => ?_, fun own hown => ?_, trivial⟩
      · cases hown
        trivial
      · cases hown
        exact hbuilds
    have hsignal : RconEvent.signal (w.rcons r) (.timer 0) = .fired 0 cause := by
      simp only [RconEvent.signal, htimer]
    have hconnecting : ∃ k', ((step env ⟨.rcon r (.timer 0), o⟩ w).2.inst r).phase =
        .connecting k' := by
      rw [follows_callback env hw htimerStep, hsignal, hp]
      cases cause <;> exact ⟨_, rfl⟩
    obtain ⟨k', hk'⟩ := hconnecting
    have hcfg := callback_cfg env o r (.timer 0) w
    obtain ⟨n, hproper, hrecovered⟩ := login_recovers env (hw.step env htimerStep)
      (o := o) hk' (hcfg ▸ hjobs)
    rw [hcfg] at hrecovered
    exact ⟨[_, _], by simp, by simp, ⟨htimerStep, hproper, trivial⟩, hrecovered⟩

end Recovering

/-- The connection was lost. -/
def lostSteps : List Step := loginSteps ++ [lostStep]

theorem lostSteps_proper : Along cronBot Proper lostSteps World.start := by decide +kernel

theorem run_recovers_lost :
    let w := run cronBot lostSteps World.start
    Along cronBot Proper lostSteps World.start ∧
      ∃ more, more.length ≤ 2 ∧ (∀ s ∈ more, ∃ e, s = ⟨.rcon firstRcon e, hourlyOracle⟩) ∧
        Along cronBot Proper more w ∧
        Recovered (hourlyOracle firstRcon) (w.rcons firstRcon).cfg
          ((run cronBot more w).inst firstRcon) := by
  intro w
  refine ⟨lostSteps_proper, run_recovers _ _ lostSteps_proper firstRcon hourlyOracle ?_ rfl ?_⟩
  · decide +kernel
  · decide +kernel

/-- **The callback of a reconnect timer.** After every proper run, the callback of a pending timer
returns exactly when `new BattleNode` and `login()` do: nothing else in it throws. It belongs to a
promise, whose rejection nobody would see. -/
theorem run_timer_returns (env : Env) (steps : List Step) (h : Along env Proper steps World.start)
    (r : RconRef) (o : RconRef → Oracle) {i : Nat} :
    let w := run env steps World.start
    i < (w.rcons r).timers.length →
      ((step env ⟨.rcon r (.timer i), o⟩ w).1 = .ok () ↔
        (o r).throws (.newNode (w.rcons r).nodes.length) = false ∧
          (o r).throws (.login (w.rcons r).nodes.length) = false) := by
  intro w hi
  have hr : (w.inst r).Steady := (run_steady h).inst r
  have hne : (w.rcons r).timers ≠ [] := List.ne_nil_of_length_pos (Nat.zero_lt_of_lt hi)
  have hdefault : (w.rcons r).defaultChannel ≠ none := hr.default (hr.link.started hne)
  exact timer_returns_iff (s := ⟨w.rcons r, []⟩) (List.getElem?_eq_getElem hi) hdefault

/-- After the connection was lost the timer returns, and it would not if `login()` threw. -/
theorem run_timer_returns_lost :
    let w := run cronBot lostSteps World.start
    let refusing : RconRef → Oracle := fun _ => ⟨fun e => e = .login 1, fun _ => true⟩
    Along cronBot Proper lostSteps World.start ∧ 0 < (w.rcons firstRcon).timers.length ∧
      (step cronBot ⟨.rcon firstRcon (.timer 0), hourlyOracle⟩ w).1 = .ok () ∧
      (step cronBot ⟨.rcon firstRcon (.timer 0), refusing⟩ w).1 ≠ .ok () := by
  intro w refusing
  have hi : 0 < (w.rcons firstRcon).timers.length := by decide +kernel
  have hiff := fun o => run_timer_returns cronBot lostSteps lostSteps_proper firstRcon o hi
  refine ⟨lostSteps_proper, hi, (hiff hourlyOracle).2 ⟨rfl, rfl⟩, fun hok => ?_⟩
  have hasked := ((hiff refusing).1 hok).2
  revert hasked
  decide +kernel

/-! ## Cron jobs -/

/-- **An instance that is down stays down.** Once an instance that was told to log in has neither a
live BattleNode nor a pending timer, no proper run makes it connect again: it never creates another
BattleNode. -/
theorem run_down_stays (env : Env) (steps more : List Step)
    (h : Along env Proper (steps ++ more) World.start) (r : RconRef)
    (hdown : ((run env steps World.start).inst r).phase = .down) :
    ((run env more (run env steps World.start)).inst r).phase = .down ∧
      ((run env more (run env steps World.start)).rcons r).nodes.length =
        ((run env steps World.start).rcons r).nodes.length := by
  let length := ((run env steps World.start).rcons r).nodes.length
  have hw := run_steady h.take
  have hrun := Along.run_inv (I := fun w => w.Steady ∧ Ended length (w.inst r))
    (fun w s hw hs => ⟨hw.1.step env hs, ?_⟩) ⟨hw, hw.inst r, hdown, rfl⟩ h.drop
  · exact ⟨hrun.2.phase, hrun.2.nodes⟩
  · refine step_inv (J := fun r' t => r' = r → Ended length t) hw.1.heap
      (fun r' hr' => hr' ▸ hw.2) ?_ ?_ r rfl
    · rintro r' e he rfl
      have hown : (r', e) ∈ s.event.own := by rw [he]; rfl
      have hturn := hw.2.steady.turned env (hs.1 (r', e) hown) (hs.2.1 (r', e) hown)
      exact hturn.ended hw.2 (hs.1 (r', e) hown).expects (hw.1.event env hs he).1
    · exact fun r' t t' htouch ht hr' => touch_ended htouch (ht hr')

/-- A timer that does not exist fires after a reload. -/
theorem reload_proper : Along sampleBot Proper
    ((joinSteps ++ reloadSteps) ++ [sampleStep (.rcon firstRcon (.timer 0))]) World.start := by
  decide +kernel

theorem run_down_stays_reload :
    let w := run sampleBot (joinSteps ++ reloadSteps) World.start
    (w.inst firstRcon).phase = .down ∧
      ((run sampleBot [sampleStep (.rcon firstRcon (.timer 0))] w).inst firstRcon).phase = .down ∧
      ((run sampleBot [sampleStep (.rcon firstRcon (.timer 0))] w).rcons firstRcon).nodes.length =
        (w.rcons firstRcon).nodes.length := by
  have hdown : ((run sampleBot (joinSteps ++ reloadSteps) World.start).inst firstRcon).phase =
      .down := by decide +kernel
  exact ⟨hdown, run_down_stays _ _ _ reload_proper firstRcon hdown⟩

/-! ## The bindings -/

/-- The instance has made a call, is bound as the given one, and has its configuration apart from
`showChannels`. -/
structure Bound (b : Rcon) (t : RconSt) : Prop where
  bound : t.rcon.bound = b.bound
  cfg : ∀ key, key ≠ lit "showChannels" → t.rcon.cfg.get key = b.cfg.get key
  calls : t.calls ≠ []

theorem Bound.after {b : Rcon} {t : RconSt} {x : RconM Unit} (ht : Bound b t)
    (hx : (x ⟨t.rcon, []⟩).2.rcon.bound = t.rcon.bound)
    (hcfg : (x ⟨t.rcon, []⟩).2.rcon.cfg = t.rcon.cfg) : Bound b (t.after x) where
  bound := hx.trans ht.bound
  cfg key hkey := (congrArg (Value.get · key) hcfg).trans (ht.cfg key hkey)
  calls := List.append_ne_nil_of_left_ne_nil ht.calls _

theorem step_bound (env : Env) (s : Step) {w : World} (hw : w.Heap) {b : Rcon} {r : RconRef}
    (hr : Bound b (w.inst r)) : Bound b ((step env s w).2.inst r) := by
  refine step_inv (J := fun r' t => r' = r → Bound b t) hw (fun r' hr' => hr' ▸ hr) ?_ ?_ r rfl
  · rintro r' e he rfl
    exact hr.after (rconStep_speaks env (s.oracle r') e _).rcon (rconStep_cfg env (s.oracle r') e _)
  · intro r' t t' htouch ht hr'
    have ht := ht hr'
    rcases htouch with ⟨-, hn⟩ | ⟨specific, message⟩ | ⟨hnew, server, specific, guild⟩ | hcfg
    · exact ht.after (close_speaks env (s.oracle r') _ _).rcon (close_cfg env (s.oracle r') _ _)
    · exact ht.after rfl rfl
    · exact absurd hnew ht.calls
    · -- the defaults are filled into the server that the instance shares
      exact ⟨ht.bound, fun key hkey => (normaliseServer_get hcfg hkey).trans (ht.cfg key hkey),
        ht.calls⟩

/-- **An instance keeps its bindings.** From its first call on, no event changes the guild, the
channels or the actions of an instance, nor a member of its configuration other than
`showChannels`: a new configuration or a renamed guild reaches the bot's instances only by new
ones. -/
theorem run_bindings (env : Env) (steps more : List Step) (r : RconRef)
    (h : (run env steps World.start).calls r ≠ []) :
    let this := (run env steps World.start).rcons r
    let this' := (run env more (run env steps World.start)).rcons r
    this'.bound = this.bound ∧
      ∀ key, key ≠ lit "showChannels" → this'.cfg.get key = this.cfg.get key := by
  have hheap : (run env steps World.start).Heap := World.Heap.start.run env steps
  have hrun := Along.run_inv (P := fun _ _ => True)
    (I := fun w => w.Heap ∧ Bound ((run env steps World.start).rcons r) (w.inst r))
    (fun _ s hw _ => ⟨hw.1.step env s, step_bound env s hw.1 hw.2⟩)
    ⟨hheap, rfl, fun _ _ => rfl, h⟩ (.of_forall (fun _ _ => trivial) more _)
  exact ⟨hrun.2.bound, hrun.2.cfg⟩

theorem join_calls : (run sampleBot joinSteps World.start).calls firstRcon ≠ [] := by
  decide +kernel

/-- The guild of a connected instance is reloaded. -/
theorem run_bindings_reload :
    let this := (run sampleBot joinSteps World.start).rcons firstRcon
    let this' := (run sampleBot reloadSteps (run sampleBot joinSteps World.start)).rcons firstRcon
    (run sampleBot joinSteps World.start).calls firstRcon ≠ [] ∧ this'.bound = this.bound ∧
      this'.cfg.get (lit "channels") = this.cfg.get (lit "channels") := by
  intro this this'
  obtain ⟨hbound, hcfg⟩ := run_bindings sampleBot joinSteps reloadSteps firstRcon join_calls
  have hchannels : lit "channels" ≠ lit "showChannels" := by decide
  exact ⟨join_calls, hbound, hcfg (lit "channels") hchannels⟩

/-- The bot starts with a server of its own, which nothing stored replaces, and is told to
reload. -/
def refillSteps : List Step :=
  [.ready [sampleGuild sampleId], .keysReply [guildKey sampleId], .mgetReply [some (lit "null")],
    .message (reloadMessage sampleId), .getReply sampleId (some (lit "null"))].map sampleStep

-- the reload fills `showChannels` into the configuration of the instance that is there
example :
    let env := { sampleEnv .null with specific := sampleConfig [sampleServer] }
    let before := (run env (refillSteps.take 4) World.start).rcons firstRcon
    let after := (run env refillSteps World.start).rcons firstRcon
    before.cfg.get (lit "showChannels") = .ok .undefined ∧
      after.cfg.get (lit "showChannels") = .ok (.obj []) := ⟨rfl, rfl⟩

end ZBot
