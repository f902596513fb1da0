import ZBot.Verify.Instances

/-!
# Cron jobs

An instance schedules its configured jobs when it has logged in, keeps their handles in `_cronJobs`,
and cancels them when the connection is lost. What carries the argument is `Rcon.Clean`: every
handle belongs to a job, and every live job has its handle there. From a clean instance the
cancellation ends every job and does not throw, so the listener of `disconnected` gets as far as the
reconnect timer.

`schedule.scheduleJob` answers `null` to a spec it does not accept, and `initCronJobs` keeps that
`null` among the handles. The instance is not clean then: the next cancellation throws at it, the
jobs behind it stay live and no timer is armed (`unhygienic_null_handle`). So a run has to meet
`Accepted`, that every job a login schedules has an accepted spec, for the jobs to be in order after
every event (`run_hygiene`).
-/

namespace ZBot

open Js RconM

/-! ## The configured jobs -/

def jobTime (job : Value) : Value := (Value.lookup job.fields (lit "time")).getD .undefined

def jobText (job : Value) : Value := (Value.lookup job.fields (lit "text")).getD .undefined

/-- The job has a time and a text. -/
def isDue (job : Value) : Bool := (jobTime job).truthy && (jobText job).truthy

/-- The jobs of a server's configuration. -/
def configuredJobs (cfg : Value) : List Value :=
  match cfg.get (lit "jobs") with
  | .ok jobs => jobs.itemsD
  | .error _ => []

/-- The texts of the jobs that a login has to leave live. -/
def expectedTexts (o : Oracle) (cfg : Value) : List Value :=
  ((configuredJobs cfg).filter fun job => isDue job && o.accepts (jobTime job)).map jobText

/-- Every job that is to be scheduled has a spec that is accepted. -/
def schedulable (o : Oracle) (cfg : Value) : Bool :=
  (configuredJobs cfg).all fun job => job.defined && (!isDue job || o.accepts (jobTime job))

/-- The live jobs after scheduling, with the ids from `count` on. -/
def scheduled : List Value → Nat → List CronJob
  | [], _ => []
  | job :: rest, count =>
    if isDue job then ⟨count, jobText job⟩ :: scheduled rest (count + 1) else scheduled rest count

theorem scheduled_texts {o : Oracle} {jobs : List Value}
    (h : ∀ job ∈ jobs, isDue job = true → o.accepts (jobTime job) = true) (count : Nat) :
    (scheduled jobs count).map CronJob.text =
      (jobs.filter fun job => isDue job && o.accepts (jobTime job)).map jobText := by
  induction jobs generalizing count with
  | nil => rfl
  | cons job rest ih =>
    have hrest := ih fun job' hjob' => h job' (List.mem_cons_of_mem job hjob')
    unfold scheduled
    by_cases hdue : isDue job = true
    · have haccepts := h job List.mem_cons_self hdue
      rw [if_pos hdue, List.filter_cons_of_pos (by rw [hdue, haccepts]; rfl), List.map_cons,
        List.map_cons, hrest]
    · rw [if_neg hdue, List.filter_cons_of_neg (by simp [hdue]), hrest]

/-! ## Cancelling and scheduling -/

/-- Every handle is a job's, and every live job has its handle. -/
structure Rcon.Clean (this : Rcon) : Prop where
  handles : none ∉ this.cronJobs
  live : ∀ job ∈ this.liveJobs, some job.id ∈ this.cronJobs

theorem forEach_cancelJob (ids : List Nat) (s : RconSt) :
    Prog.forEach (ids.map some) cancelJob s = (.ok (), { s with rcon := { s.rcon with
      liveJobs := s.rcon.liveJobs.filter fun job => !ids.contains job.id } }) := by
  induction ids generalizing s with
  | nil => simp [Prog.forEach]
  | cons id ids ih =>
    have hid : cancelJob (some id) s = (.ok (), { s with rcon := { s.rcon with
        liveJobs := s.rcon.liveJobs.filter (·.id != id) } }) := rfl
    rw [List.map_cons, Prog.forEach, Prog.bind_ok hid, ih]
    have hfilter : (s.rcon.liveJobs.filter (·.id != id)).filter (fun job => !ids.contains job.id) =
        s.rcon.liveJobs.filter fun job => !(id :: ids).contains job.id := by
      rw [List.filter_filter]
      refine List.filter_congr fun job _ => ?_
      rw [List.contains_cons, Bool.not_or, Bool.and_comm]
      rfl
    rw [hfilter]

theorem exists_ids {handles : List (Option Nat)} (h : none ∉ handles) :
    ∃ ids : List Nat, handles = ids.map some := by
  induction handles with
  | nil => exact ⟨[], rfl⟩
  | cons handle rest ih =>
    obtain ⟨ids, rfl⟩ := ih fun hmem => h (List.mem_cons_of_mem handle hmem)
    cases handle with
    | none => exact absurd List.mem_cons_self h
    | some id => exact ⟨id :: ids, rfl⟩

/-- The cancellation of a clean instance ends every job. -/
theorem cancelCronJobs_clean {s : RconSt} (h : s.rcon.Clean) :
    cancelCronJobs s =
      (.ok (), { s with rcon := { s.rcon with cronJobs := [], liveJobs := [] } }) := by
  obtain ⟨ids, hids⟩ := exists_ids h.handles
  have hnone : s.rcon.liveJobs.filter (fun job => !ids.contains job.id) = [] := by
    refine List.filter_eq_nil_iff.2 fun job hjob => ?_
    have := h.live job hjob
    rw [hids, List.mem_map] at this
    obtain ⟨id, hid, heq⟩ := this
    cases heq
    simpa using hid
  have hcancel := forEach_cancelJob ids s
  rw [hnone, ← hids] at hcancel
  change (Prog.forEach s.rcon.cronJobs cancelJob >>= fun _ => _) s = _
  rw [Prog.bind_ok hcancel]
  rfl

theorem get_time {job : Value} (h : job.defined = true) :
    job.get (lit "time") = .ok (jobTime job) := by
  rw [Value.get, if_pos h]
  rfl

theorem get_text {job : Value} (h : job.defined = true) :
    job.get (lit "text") = .ok (jobText job) := by
  rw [Value.get, if_pos h]
  rfl

/-- Jobs that are all accepted are scheduled one after the other, with their handles. -/
theorem scheduleJobs_accepted {o : Oracle} {jobs : List Value}
    (hdefined : ∀ job ∈ jobs, job.defined = true)
    (haccepts : ∀ job ∈ jobs, isDue job = true → o.accepts (jobTime job) = true)
    (handles : List (Option Nat)) (s : RconSt) :
    scheduleJobs o jobs handles s =
      (.ok (handles ++ (scheduled jobs s.rcon.jobCount).map fun job => some job.id),
        { s with rcon := { s.rcon with
          liveJobs := s.rcon.liveJobs ++ scheduled jobs s.rcon.jobCount
          jobCount := s.rcon.jobCount + (scheduled jobs s.rcon.jobCount).length } }) := by
  induction jobs generalizing handles s with
  | nil => simp [scheduleJobs, scheduled]
  | cons job rest ih =>
    have hjob := hdefined job List.mem_cons_self
    have hrest := ih (fun j hj => hdefined j (List.mem_cons_of_mem job hj))
      fun j hj => haccepts j (List.mem_cons_of_mem job hj)
    rw [scheduleJobs, Prog.lift_ok_bind (get_time hjob)]
    by_cases htime : (jobTime job).truthy = true
    · rw [if_pos htime, Prog.lift_ok_bind (get_text hjob)]
      by_cases htext : (jobText job).truthy = true
      · have hdue : isDue job = true := by rw [isDue, htime, htext]; rfl
        have haccept := haccepts job List.mem_cons_self hdue
        have hschedule : scheduleJob o (jobTime job) (jobText job) s =
            (.ok (some s.rcon.jobCount), { s with rcon := { s.rcon with
              liveJobs := s.rcon.liveJobs ++ [⟨s.rcon.jobCount, jobText job⟩]
              jobCount := s.rcon.jobCount + 1 } }) := by
          rw [scheduleJob, if_pos haccept]
          rfl
        rw [if_pos htext, Prog.bind_ok hschedule, hrest, scheduled, if_pos hdue]
        simp only [List.append_assoc, List.singleton_append, List.map_cons, List.length_cons,
          Nat.add_assoc, Nat.add_comm 1]
      · have hdue : ¬isDue job = true := by simp [isDue, htext]
        rw [if_neg htext, hrest, scheduled, if_neg hdue]
    · have hdue : ¬isDue job = true := by simp [isDue, htime]
      rw [if_neg htime, hrest, scheduled, if_neg hdue]

/-! ## Events -/

/-- The jobs and the configuration are left alone. -/
def Kept (s s' : RconSt) : Prop :=
  s'.rcon.cronJobs = s.rcon.cronJobs ∧ s'.rcon.liveJobs = s.rcon.liveJobs ∧
    s'.rcon.cfg = s.rcon.cfg

theorem Kept.frame : Prog.Frame Kept :=
  (Prog.Frame.eq fun s : RconSt => s.rcon.cronJobs).and
    ((Prog.Frame.eq fun s : RconSt => s.rcon.liveJobs).and
      (Prog.Frame.eq fun s : RconSt => s.rcon.cfg))

theorem Kept.clean {s s' : RconSt} (h : Kept s s') (hs : s.rcon.Clean) : s'.rcon.Clean :=
  ⟨by rw [h.1]; exact hs.handles, by rw [h.1, h.2.1]; exact hs.live⟩

theorem emitting_kept {α : Type} (x : Emit α) : Prog.Within Kept (emitting x) :=
  fun _ => ⟨rfl, rfl, rfl⟩

theorem update_kept {f : Rcon → Rcon} (h : ∀ this, (f this).cronJobs = this.cronJobs ∧
    (f this).liveJobs = this.liveJobs ∧ (f this).cfg = this.cfg) : Prog.Within Kept (update f) :=
  .modify fun s => h s.rcon

/-- What `Kept` says is kept. -/
def Rcon.jobs (this : Rcon) : List (Option Nat) × List CronJob × Value :=
  (this.cronJobs, this.liveJobs, this.cfg)

theorem Held.kept {P : Effect → Prop} {s s' : RconSt} (h : Held Rcon.jobs P s s') : Kept s s' := by
  obtain ⟨hcron, hrest⟩ := Prod.mk.inj h.rcon
  obtain ⟨hlive, hcfg⟩ := Prod.mk.inj hrest
  exact ⟨hcron, hlive, hcfg⟩

theorem construct_kept (env : Env) (o : Oracle) (specific : Value) :
    Prog.Within Kept (construct env o specific) := fun _ =>
  (construct_held (E := Rcon.jobs) (P := fun _ => True) (fun _ _ _ _ _ => rfl) (fun _ _ => rfl)
    (fun _ _ => rfl) (fun _ _ => trivial) (fun _ => trivial) (fun _ => trivial) specific).kept

/-- Only a login that succeeds and a lost connection touch the jobs. -/
theorem rconStep_kept (env : Env) (o : Oracle) {e : RconEvent} (h : e.reschedules = false) :
    Prog.Within Kept (rconStep env o e) := fun s =>
  (rconStep_held (E := Rcon.jobs) (fun hre => by rw [h] at hre; cases hre)
    (fun _ _ _ _ _ => rfl) (Permits.trivial _ s e)).kept

/-- After a login the jobs are exactly the configured ones, whether the login handler returned or
the configuration has no list of jobs. -/
theorem initCronJobs_clean {o : Oracle} {s : RconSt} (hs : s.rcon.Clean)
    (h : schedulable o s.rcon.cfg = true) :
    ∃ a calls, initCronJobs o s = (a, ⟨{ s.rcon with
      cronJobs := (scheduled (configuredJobs s.rcon.cfg) s.rcon.jobCount).map fun job => some job.id
      liveJobs := scheduled (configuredJobs s.rcon.cfg) s.rcon.jobCount
      jobCount := s.rcon.jobCount +
        (scheduled (configuredJobs s.rcon.cfg) s.rcon.jobCount).length }, calls⟩) := by
  let s₁ : RconSt := { s with rcon := { s.rcon with cronJobs := [], liveJobs := [] } }
  rw [initCronJobs, Prog.bind_ok (cancelCronJobs_clean hs)]
  change ∃ a calls, (Prog.lift (s.rcon.cfg.get (lit "jobs")) >>= _) s₁ = _
  cases hget : s.rcon.cfg.get (lit "jobs") with
  | error e =>
    have hjobs : configuredJobs s.rcon.cfg = [] := by rw [configuredJobs, hget]
    rw [Prog.lift_error_bind rfl, hjobs]
    exact ⟨_, _, rfl⟩
  | ok jobs =>
    rw [Prog.lift_ok_bind rfl]
    cases hitems : jobs.items with
    | error e =>
      have hjobs : configuredJobs s.rcon.cfg = [] := by
        rw [configuredJobs, hget]
        cases jobs <;> first | rfl | cases hitems
      rw [Prog.lift_error_bind rfl, hjobs]
      exact ⟨_, _, rfl⟩
    | ok items =>
      have hjobs : configuredJobs s.rcon.cfg = items := by
        rw [configuredJobs, hget]
        cases jobs <;> cases hitems
        rfl
      have hall : ∀ job ∈ items, job.defined = true ∧
          (isDue job = true → o.accepts (jobTime job) = true) := by
        rw [schedulable, hjobs, List.all_eq_true] at h
        intro job hjob
        have hjob' := h job hjob
        simp only [Bool.and_eq_true, Bool.or_eq_true, Bool.not_eq_true'] at hjob'
        exact ⟨hjob'.1, fun hdue => hjob'.2.resolve_left (by rw [hdue]; decide)⟩
      have hschedule := scheduleJobs_accepted (fun job hjob => (hall job hjob).1)
        (fun job hjob => (hall job hjob).2) [] s₁
      rw [Prog.lift_ok_bind rfl, Prog.bind_ok hschedule, hjobs]
      exact ⟨_, _, rfl⟩

/-- Jobs that were just scheduled have their handles. -/
theorem clean_scheduled {this : Rcon} {jobs : List CronJob}
    (hcron : this.cronJobs = jobs.map fun job => some job.id) (hlive : this.liveJobs = jobs) :
    this.Clean := by
  refine ⟨by simp [hcron], fun job hjob => ?_⟩
  rw [hcron]
  exact List.mem_map.2 ⟨job, hlive ▸ hjob, rfl⟩

theorem clean_empty {this : Rcon} (hcron : this.cronJobs = []) (hlive : this.liveJobs = []) :
    this.Clean := ⟨by simp [hcron], by simp [hlive]⟩

/-- No job is scheduled. -/
def Idle (s : RconSt) : Prop := s.rcon.cronJobs = [] ∧ s.rcon.liveJobs = []

theorem Idle.clean {s : RconSt} (h : Idle s) : s.rcon.Clean :=
  ⟨by simp [h.1], by simp [h.2]⟩

theorem quiet_kept {x : Emit Unit} (hx : Quiet (emitting x)) {P : RconSt → Prop}
    (hP : ∀ s s', Kept s s' → P s → P s') {E : RconSt → Prop} :
    Prog.Triple P (emitting x) (fun _ => P) E := by
  intro s hs
  have hok := hx.2 s
  have hkept := emitting_kept x s
  rcases e : emitting x s with ⟨_ | _, s'⟩ <;> rw [e] at hok hkept
  · cases hok
  · exact hP s s' hkept hs

theorem Idle.kept {s s' : RconSt} (h : Kept s s') (hs : Idle s) : Idle s' :=
  ⟨h.1.trans hs.1, h.2.1.trans hs.2⟩

/-- The listener of `disconnected` on a clean instance returns, and no job is live then. -/
theorem disconnectedAction_clean (env : Env) (extra : Option Text) {s : RconSt}
    (hs : s.rcon.Clean) :
    (disconnectedAction env extra s).1 = .ok () ∧ Idle (disconnectedAction env extra s).2 := by
  rw [disconnectedAction, Prog.bind_ok (cancelCronJobs_clean hs)]
  refine Prog.Triple.total (P := Idle) ?_ ⟨rfl, rfl⟩
  refine .read_bind fun s _ => ?_
  split
  · exact .bind (quiet_kept (logBot_quiet _ _) @Idle.kept) fun _ =>
      quiet_kept (sendTextMessage_quiet _ _) @Idle.kept
  · exact .bind (quiet_kept (logBot_quiet _ _) @Idle.kept) fun _ =>
      .bind (quiet_kept (sendTextMessage_quiet _ _) @Idle.kept) fun _ => .modify fun s hs => hs

theorem emitDisconnected_apply (env : Env) {n : Nat} (extra : Option Text) {s : RconSt}
    (hears : s.rcon.link.hears n = true) :
    emitDisconnected env n extra s = disconnectedAction env extra
      { s with rcon := s.rcon.setNode n fun node => { node with ended := true } } := by
  obtain ⟨node, hnode, hlistening⟩ := (Option.any_eq_true Node.listening _).1 hears
  have hnode' : s.rcon.nodes[n]? = some node := hnode
  simp only [emitDisconnected, this, Prog.read_bind, hnode', hlistening, Prog.when_true]
  rfl

/-- The emission of `disconnected` by a BattleNode with listeners. -/
theorem emitDisconnected_clean (env : Env) {n : Nat} (extra : Option Text) {s : RconSt}
    (hears : s.rcon.link.hears n = true) (hs : s.rcon.Clean) :
    (emitDisconnected env n extra s).1 = .ok () ∧ Idle (emitDisconnected env n extra s).2 := by
  rw [emitDisconnected_apply env extra hears]
  exact disconnectedAction_clean env extra ⟨hs.handles, hs.live⟩

/-- A login that succeeds schedules the configured jobs. -/
theorem loginAction_clean {env : Env} {o : Oracle} {s : RconSt} (hs : s.rcon.Clean)
    (h : schedulable o s.rcon.cfg = true) :
    (loginAction env o false (some true) s).2.rcon.Clean ∧
      (loginAction env o false (some true) s).2.rcon.liveJobs.map CronJob.text =
        expectedTexts o s.rcon.cfg := by
  have htrans : ∀ t t', Kept t t' → Kept s t → Kept s t' := fun _ _ h h' => Kept.frame.trans h' h
  refine Prog.Triple.snd (P := Kept s) (R := fun t => t.rcon.Clean ∧
    t.rcon.liveJobs.map CronJob.text = expectedTexts o s.rcon.cfg) ?_ (Kept.frame.refl s)
  refine .read_bind fun t _ => .bind (quiet_kept (logBot_quiet _ _) htrans) fun _ =>
    .bind (quiet_kept (sendTextMessage_quiet _ _) htrans) fun _ => ?_
  refine .bind (R := fun _ => Kept s) (.modify fun t ht => ht) fun _ =>
    .bind (R := fun _ => Kept s) (.modify fun t ht => ht) fun _ => .of_snd fun t ht => ?_
  -- the prologue has changed neither the jobs nor the configuration
  have hcfg : t.rcon.cfg = s.rcon.cfg := ht.2.2
  obtain ⟨a, calls, hinit⟩ := initCronJobs_clean (ht.clean hs) (hcfg ▸ h)
  rw [hinit]
  refine ⟨clean_scheduled rfl rfl, ?_⟩
  rw [hcfg]
  refine scheduled_texts (fun job hjob hdue => ?_) _
  have hjob' := List.all_eq_true.1 h job hjob
  rw [hdue, Bool.and_eq_true] at hjob'
  exact hjob'.2

/-! ## Runs -/

/-- A login that succeeds finds every job it schedules accepted. -/
def Accepted (w : World) (s : Step) : Prop :=
  match s.event with
  | .rcon r (.login n false (some true)) =>
    (w.rcons r).open n = true → schedulable (s.oracle r) (w.rcons r).cfg = true
  | _ => True

/-- After a lost connection no job is live and, unless it was told to stop, the instance has armed
one more reconnect timer; after a login the live jobs are the configured ones that were accepted. -/
def Hygiene (env : Env) (w : World) (s : Step) : Prop :=
  match s.event with
  | .rcon r (.disconnected n extra) => (w.rcons r).open n = true →
    ((step env s w).2.rcons r).liveJobs = [] ∧ (extra ≠ some (lit "stop") →
      ((step env s w).2.rcons r).timers = (w.rcons r).timers ++ [.disconnected])
  | .rcon r (.login n false (some true)) => (w.rcons r).open n = true →
    ((step env s w).2.rcons r).liveJobs.map CronJob.text =
      expectedTexts (s.oracle r) (w.rcons r).cfg
  | _ => True

theorem rconStep_clean {env : Env} {o : Oracle} {e : RconEvent} {t : RconSt} (ht : t.rcon.Clean)
    (h : ∀ n, e = .login n false (some true) → t.rcon.open n = true →
      schedulable o t.rcon.cfg = true) : (rconStep env o e t).2.rcon.Clean := by
  cases hre : e.reschedules with
  | false => exact (rconStep_kept env o hre t).clean ht
  | true =>
    unfold RconEvent.reschedules at hre
    split at hre
    · rename_i n
      rw [rconStep, fromNode_apply]
      split
      · rename_i hopen
        exact (loginAction_clean ht (h n rfl hopen)).1
      · exact ht
    · rename_i n extra
      rw [rconStep, fromNode_apply]
      split
      · rename_i hopen
        exact (emitDisconnected_clean env extra (hears_of_open hopen) ht).2.clean
      · exact ht
    · cases hre

theorem emitDisconnected_deaf (env : Env) {n : Nat} (extra : Option Text) {s : RconSt}
    (hears : s.rcon.link.hears n = false) : emitDisconnected env n extra s = (.ok (), s) := by
  have hany : s.rcon.nodes[n]?.any Node.listening = false := hears
  cases hnode : s.rcon.nodes[n]? with
  | none =>
    simp only [emitDisconnected, this, Prog.read_bind, hnode]
    rfl
  | some node =>
    rw [hnode, Option.any_some] at hany
    simp only [emitDisconnected, this, Prog.read_bind, hnode, hany]
    rfl

theorem closeSocket_kept (o : Oracle) (n : Nat) : Prog.Within Kept (closeSocket o n) :=
  .bind Kept.frame (emitting_kept _) fun _ => update_kept fun _ => ⟨rfl, rfl, rfl⟩

/-- The synthetic `disconnected` of a reload cancels the jobs like a real one. -/
theorem close_clean (env : Env) (o : Oracle) (n : Nat) :
    Prog.Within (fun s s' => s.rcon.Clean → s'.rcon.Clean) (close env o n) := by
  let clean : RconSt → Prop := fun s => s.rcon.Clean
  have hkept : ∀ {x : RconM Unit}, Prog.Within Kept x →
      Prog.Triple clean x (fun _ => clean) clean :=
    fun hx => .of_within hx fun _ _ hs h => h.clean hs
  have hend : Prog.Triple clean (emitDisconnected env n (some (lit "stop"))) (fun _ => clean)
      clean := by
    refine .of_snd fun s hs => ?_
    cases hears : s.rcon.link.hears n with
    | false =>
      rw [emitDisconnected_deaf env _ hears]
      exact hs
    | true => exact (emitDisconnected_clean env _ hears hs).2.clean
  exact fun s => (close_triple (fun s _ => hkept (emitting_kept _))
    (fun s _ => hkept (emitting_kept _)) (hkept (closeSocket_kept o n)) hend
    fun s hs => ⟨hs.handles, hs.live⟩).snd

theorem step_clean {env : Env} {w : World} {s : Step} (hw : w.Heap)
    (hclean : ∀ r, (w.rcons r).Clean) (hs : Accepted w s) (r : RconRef) :
    ((step env s w).2.rcons r).Clean := by
  refine step_inv (J := fun _ t => t.rcon.Clean) hw hclean ?_ ?_ r
  · intro r e he
    refine rconStep_clean (t := ⟨w.rcons r, []⟩) (hclean r) fun n hlogin hopen => ?_
    rw [Accepted, he, hlogin] at hs
    exact hs hopen
  · rintro r t t' (⟨-, hn⟩ | ⟨specific, message⟩ | ⟨hnew, server, specific, guild⟩ | hcfg) ht
    · exact close_clean env (s.oracle r) _ ⟨t.rcon, []⟩ ht
    · exact ht
    · exact (construct_kept env _ specific ⟨.blank server guild, []⟩).clean (clean_empty rfl rfl)
    · exact ⟨ht.handles, ht.live⟩

/-- A lost connection of a clean instance arms a timer. -/
theorem disconnected_timers {env : Env} {o : Oracle} {n : Nat} {extra : Option Text} {t : RconSt}
    (ht : t.rcon.Clean) (hopen : t.rcon.open n = true) (hextra : extra ≠ some (lit "stop")) :
    (rconStep env o (.disconnected n extra) t).2.rcon.timers =
      t.rcon.timers ++ [.disconnected] := by
  have hears : t.rcon.link.hears n = true := hears_of_open hopen
  have hok := (emitDisconnected_clean env extra hears ht).1
  have hlink := (emitDisconnected_link n extra).of_ok (s := t) ⟨rfl, rfl⟩ hok
  rw [if_pos hears, if_neg hextra] at hlink
  rw [rconStep, fromNode_apply, if_pos hopen]
  exact congrArg Link.timers hlink.1

theorem step_hygiene {env : Env} {w : World} {s : Step} (hclean : ∀ r, (w.rcons r).Clean)
    (hs : Accepted w s) : Hygiene env w s := by
  unfold Hygiene
  split
  · rename_i r n extra he
    intro hopen
    rw [step_rcons he]
    refine ⟨?_, disconnected_timers (t := ⟨w.rcons r, []⟩) (hclean r) hopen⟩
    rw [rconStep, fromNode_apply, if_pos hopen]
    exact (emitDisconnected_clean env extra (s := ⟨w.rcons r, []⟩) (hears_of_open hopen)
      (hclean r)).2.2
  · rename_i r n he
    intro hopen
    rw [Accepted, he] at hs
    rw [step_rcons he, rconStep, fromNode_apply, if_pos hopen]
    exact (loginAction_clean (s := ⟨w.rcons r, []⟩) (hclean r) (hs hopen)).2
  · trivial

/-- **Cron-job hygiene, when every spec is accepted.** In a run in which every login schedules
accepted jobs only, the jobs of an instance are in order after every event. -/
theorem run_hygiene (env : Env) (steps : List Step) (h : Along env Accepted steps World.start) :
    Along env (Hygiene env) steps World.start :=
  Along.imp (I := fun w => w.Heap ∧ ∀ r, (w.rcons r).Clean)
    (fun _ s hw hs => ⟨hw.1.step env s, step_clean hw.1 hw.2 hs⟩)
    (fun _ _ hw hs => step_hygiene hw.2 hs)
    ⟨World.Heap.start, fun _ => clean_empty rfl rfl⟩ h

/-- The sample server with jobs at the given times. -/
def cronServer (times : List Text) : Value :=
  .obj (Value.insert sampleServer.fields (lit "jobs") (.arr (times.map fun time =>
    .obj [(lit "time", .str time), (lit "text", .str (lit "Restart soon"))]) []))

/-- Only one spec is accepted. -/
def hourlyOracle : RconRef → Oracle := fun _ =>
  ⟨fun _ => false, fun spec => match spec with
    | .str s => s == lit "0 * * * *"
    | _ => false⟩

/-- The bot joins and logs in. -/
def loginSteps : List Step :=
  joinSteps ++ [⟨.rcon firstRcon (.login 0 false (some true)), hourlyOracle⟩]

/-- The connection is lost. -/
def lostStep : Step := ⟨.rcon firstRcon (.disconnected 0 none), hourlyOracle⟩

theorem run_hygiene_hourly :
    let env := sampleEnv (sampleConfig [cronServer [lit "0 * * * *"]])
    Along env Accepted (loginSteps ++ [lostStep]) World.start ∧
      Along env (Hygiene env) (loginSteps ++ [lostStep]) World.start := by
  intro env
  have h : Along env Accepted (loginSteps ++ [lostStep]) World.start :=
    ⟨trivial, trivial, fun _ => by decide +kernel, trivial, trivial⟩
  exact ⟨h, run_hygiene env _ h⟩

/-- The handle of a rejected spec is `null`. The second job stays live, and no timer is armed. -/
theorem unhygienic_null_handle :
    let env := sampleEnv (sampleConfig [cronServer [lit "hourly", lit "0 * * * *"]])
    ¬Along env (Hygiene env) (loginSteps ++ [lostStep]) World.start := by
  intro env h
  have hopen : ((run env loginSteps World.start).rcons firstRcon).open 0 = true := by
    decide +kernel
  have hlive : ((step env lostStep (run env loginSteps World.start)).2.rcons
      firstRcon).liveJobs.length = 1 := by decide +kernel
  obtain ⟨hempty, -⟩ := h.last hopen
  rw [hempty] at hlive
  cases hlive

end ZBot
