import ZBot.Verify.Cron

/-!
# Where an instance speaks

The constructor of an instance binds its channels; no event binds them again, and everything the
instance sends goes to one of them. An event keeps both (`rconStep_speaks`), and so does a reload
(`close_speaks`). The constructor binds channels of the guild it is given (`construct_binds`), and
sends nothing (`construct_silent`).
-/

namespace ZBot

open Js RconM

/-- An instance without its configuration, its connection and its jobs: the guild, the channels and
the actions, which the constructor sets. -/
def Rcon.bound (this : Rcon) : Rcon :=
  { this with
    cfg := .undefined, bnode := none, cronJobs := [], loginAttempts := 0, nodes := [], timers := []
    liveJobs := [], jobCount := 0 }

theorem Rcon.channels_of_bound {this that : Rcon} (h : this.bound = that.bound) :
    this.channels = that.channels := by
  change this.bound.channels = that.bound.channels
  rw [h]

theorem Rcon.defaultChannel_of_bound {this that : Rcon} (h : this.bound = that.bound) :
    this.defaultChannel = that.defaultChannel := by
  change this.bound.defaultChannel = that.bound.defaultChannel
  rw [h]

/-- A message goes to one of the channels; the other effects are no messages. -/
def Effect.Stays (channels : List Channel) : Effect → Prop
  | .send c _ => c ∈ channels
  | .reply .. => False
  | _ => True

/-- **No event binds a channel, and an event sends to bound channels only.** -/
theorem rconStep_speaks (env : Env) (o : Oracle) (e : RconEvent) (s : RconSt) :
    Held Rcon.bound (Effect.Stays s.rcon.channels) s (rconStep env o e s).2 := by
  refine rconStep_held (fun _ _ _ _ _ => rfl) (fun _ _ _ _ _ => rfl) ⟨?_, ?_, ?_, ?_, ?_, ?_, ?_⟩
  · intro this hthis c text hc
    exact Rcon.channels_of_bound hthis ▸ hc
  all_goals intros; trivial

theorem close_speaks (env : Env) (o : Oracle) (n : Nat) (s : RconSt) :
    Held Rcon.bound (Effect.Stays s.rcon.channels) s (close env o n s).2 := by
  refine close_held (fun _ _ _ _ => rfl) (fun _ _ _ _ _ => rfl) ⟨?_, fun _ _ => trivial⟩
    (fun _ _ => trivial) (fun _ _ => trivial) trivial trivial
  intro this hthis c text hc
  exact Rcon.channels_of_bound hthis ▸ Rcon.commandChannel_mem hc

/-! ## The constructor -/

section Constructor

variable {guild : Guild}

/-- The channels bound so far are channels of the guild. -/
structure Binding (guild : Guild) (s : RconSt) : Prop where
  guild_eq : s.rcon.guild = guild
  channels : ∀ c ∈ s.rcon.channels, c ∈ guild.channels

/-- A part of the constructor. -/
abbrev Binds {α : Type} (guild : Guild) (x : RconM α) : Prop :=
  Prog.Triple (Binding guild) x (fun _ => Binding guild) (Binding guild)

/-- A part that leaves the guild and the channels alone. -/
theorem binds_keeps {α : Type} {x : RconM α}
    (hx : ∀ s, Keeps (fun this => (this.guild, this.channels)) (fun _ => True) s x) :
    Binds guild x := by
  refine .of_snd fun s hs => ?_
  obtain ⟨hguild, hchannels⟩ := Prod.mk.inj (keeps_held (hx s)).rcon
  exact ⟨hguild.trans hs.guild_eq, fun c hc => hs.channels c (hchannels ▸ hc)⟩

theorem findChannel_mem {this : Rcon} {key : String} {c : Channel}
    (h : findChannel this key = .ok (some c)) : c ∈ this.guild.channels := by
  unfold findChannel at h
  cases hchannels : this.cfg.get (lit "channels") with
  | error e =>
    rw [hchannels] at h
    cases h
  | ok channels =>
    rw [hchannels] at h
    change (channels.get (lit key) >>= this.guild.findChannel) = _ at h
    cases hname : channels.get (lit key) with
    | error e =>
      rw [hname] at h
      cases h
    | ok name =>
      rw [hname] at h
      exact Guild.findChannel_mem h

theorem binds_lift {α β : Type} {y : Except Error α} {f : α → RconM β}
    (h : ∀ a, y = .ok a → Binds guild (f a)) : Binds guild (Prog.lift y >>= f) :=
  .lift_bind h fun _ hs => hs

/-- One lookup of `bindChannels`. -/
theorem binds_find {this : Rcon} (hthis : this.guild = guild) {key : String}
    {f : Option Channel → Rcon → Rcon} {g : Option Channel → RconM Unit}
    (hguild : ∀ found that, (f found that).guild = that.guild)
    (hchannels : ∀ found that c, c ∈ (f found that).channels → found = some c ∨ c ∈ that.channels)
    (hg : ∀ c, Binds guild (g c)) :
    Binds guild (Prog.lift (findChannel this key) >>= fun c => update (f c) >>= fun _ => g c) := by
  refine binds_lift fun found hfound => .bind (R := fun _ => Binding guild) ?_ fun _ => hg found
  refine .modify fun s hs => ⟨(hguild _ _).trans hs.guild_eq, fun c hc => ?_⟩
  rcases hchannels found s.rcon c hc with rfl | hc
  · rw [← hthis]
    exact findChannel_mem hfound
  · exact hs.channels c hc

theorem bindChannels_binds : Binds guild bindChannels := by
  refine .read_bind fun s hs => ?_
  iterate 9
    refine binds_find hs.guild_eq (fun _ _ => rfl) (fun found that c hc => ?_) fun _ => ?_
    · simp only [Rcon.mem_channels] at hc ⊢
      grind
  exact .when (fun _ => binds_keeps fun _ => keeps_update fun _ => rfl) fun _ _ hs => hs

/-- **A new instance is bound to channels of its guild.** -/
theorem construct_binds (env : Env) (o : Oracle) (specific : Value) :
    Binds guild (construct env o specific) := by
  have hnode : Binds guild (newBattleNode o) :=
    binds_keeps fun _ => newBattleNode_keeps (fun _ _ _ _ _ => rfl) fun _ => trivial
  have hconnect : ∀ n, Binds guild (do logLogin env; initEvents n; login o n) := fun n =>
    binds_keeps fun _ =>
      connect_keeps (fun _ _ _ _ _ => rfl) (fun _ _ => trivial) (fun _ => trivial) n
  exact construct_triple specific (fun s _ hs => ⟨hs.guild_eq, hs.channels⟩) hnode
    (fun _ => bindChannels_binds) hconnect (fun _ _ hs => hs) fun _ hs => hs

/-- The constructor sends nothing. -/
theorem construct_silent (env : Env) (o : Oracle) (specific : Value) (s : RconSt) :
    Adds (Effect.Stays []) s.calls (construct env o specific s).2.calls :=
  (construct_held (E := fun _ => ()) (fun _ _ _ _ _ => rfl) (fun _ _ => rfl) (fun _ _ => rfl)
    (fun _ _ => trivial) (fun _ => trivial) (fun _ => trivial) specific).calls

theorem binding_blank (server : Value) (guild : Guild) : Binding guild ⟨.blank server guild, []⟩ :=
  ⟨rfl, by simp [Rcon.channels, Rcon.blank]⟩

end Constructor

end ZBot
