import FtpControl.Probe
import FtpControl.Proofs.Client.Tending

/-!
# A probe that comes to its end leaves nothing open

Whatever is open at some point of a run is held either by the channel, whose life is in order,
or by a data connection that is about to be closed. A run that ends with a status has closed
the channel and every data connection.
-/

namespace FtpControl

open Effect Live

variable {σ α : Type} {chan : σ → Channel} {hs : List Handle}

/-- A thing with a channel that was connected at some time and is in order, while of data
connections and listeners at most some are open. -/
def Tidy (chan : σ → Channel) (hs : List Handle) (s : Live σ) : Prop :=
  Channel.Lifecycle ⟨chan s.self, s.net⟩ ∧ (chan s.self).state ≠ .unconnected ∧
    s.net.OpenAtMost hs

/-- What was tidy stays so, and nothing more is open. -/
def Steady (chan : σ → Channel) (s t : Live σ) : Prop :=
  ∀ hs, Tidy chan hs s → Tidy chan hs t

instance : IsPreorder (Live σ) (Steady chan) :=
  inferInstanceAs (IsPreorder (Live σ) (Upholds (Tidy chan)))

theorem Steady.meets {m : Op σ α} (hm : Keeps (Steady chan) m) (hs : List Handle) :
    Meets (Tidy chan hs) m (fun _ => Tidy chan hs) fun _ => Tidy chan hs :=
  Upholds.meets hm hs

theorem steady_of_ledger {s t : Live σ} (hchan : chan t.self = chan s.self)
    (hledger : t.net.ledger = s.net.ledger) : Steady chan s t := by
  rintro hs ⟨hlife, hstate, hopen⟩
  have haside : Channel.Aside ⟨chan s.self, s.net⟩ ⟨chan t.self, t.net⟩ := by
    rw [hchan]
    exact ⟨rfl, rfl, rfl, rfl, rfl, rfl, id, hledger⟩
  refine ⟨(haside.orderly hlife).1, hchan ▸ hstate, ?_⟩
  exact openAtMost_of_data (congrArg (Ledger.restrict fun h => !h.onControl) hledger) hopen

theorem steady_quiet {m : Net α} (hm : Net.Quiet m) : Keeps (Steady chan) (call m : Op σ α) :=
  .call hm fun _ _ h => steady_of_ledger rfl h

theorem steady_change {f : σ → σ} (hf : ∀ x, chan (f x) = chan x) :
    Keeps (Steady chan) (change f : Op σ Unit) :=
  .change fun s => steady_of_ledger (hf s.self) rfl

/-- A channel does not return to the time before its connection. -/
theorem Channel.going_of_orderly {s t : Live Channel} (h : Orderly s t)
    (hs : Lifecycle s ∧ s.self.state ≠ .unconnected) :
    Lifecycle t ∧ t.self.state ≠ .unconnected := by
  obtain ⟨ht, hadvances⟩ := h hs.1
  refine ⟨ht, fun hback => ?_⟩
  rw [hback] at hadvances
  exact hs.2 hadvances.eq_unconnected

theorem steady_channel {m : Op Channel α} (ho : Keeps Channel.Orderly m) (hc : Contained m) :
    Keeps (Steady id) m := by
  rintro s hs ⟨hlife, hstate, hopen⟩
  obtain ⟨ht, hstate'⟩ := Channel.going_of_orderly (ho s) ⟨hlife, hstate⟩
  exact ⟨ht, hstate', openAtMost_of_data (hc s) hopen⟩

namespace Channel

theorem meets_close :
    Meets (Tidy id hs) close (fun _ s => Tidy id hs s ∧ s.self.state = .closed)
      fun _ s => Tidy id hs s ∧ s.self.state = .closed := by
  have steady : Keeps (Steady id) close :=
    steady_channel orderly_close (contained_within within_close)
  suffices hclosed : Meets (Tidy id hs) close (fun _ s => s.self.state = .closed)
      fun _ s => s.self.state = .closed from
    ((Steady.meets steady hs).and hclosed).start fun _ h => ⟨h, h⟩
  apply Meets.ofLeaves
  intro s hs
  rw [state_close]
  exact if_neg hs.2.1

theorem meets_logout :
    Meets (Tidy id hs) logout (fun _ s => Tidy id hs s ∧ s.self.state = .closed)
      fun _ s => Tidy id hs s := by
  refine .bind (Steady.meets (steady_channel (orderly_aside (aside_requireConnected _))
    (contained_within (within_aside (aside_requireConnected _)))) hs) fun _ => ?_
  have steady : Keeps (Steady id) (do
      let reply ← send "QUIT"
      let _ ← ofExcept (validate ["221", "200"] reply)) :=
    .bind (steady_channel (orderly_send _) (contained_send _)) fun _ =>
      .bind (.ofExcept _) fun _ => .pure _
  exact (Meets.ensure (Steady.meets steady hs) meets_close).failing fun _ _ h => h.1

end Channel

namespace Client

theorem steady_onChannel {m : Op Channel α} (hm : Keeps (Steady id) m) :
    Keeps (Steady Client.channel) (onChannel m) :=
  .focus hm fun _ _ h hs hT => h hs hT

theorem meets_negotiation (mode : DataMode) :
    Meets (Tidy id []) (Negotiation.run mode) (fun d s => d.Fresh ∧ Tidy id d.handles s)
      fun _ => Tidy id [] := by
  have going : Meets (fun s => Channel.Lifecycle s ∧ s.self.state ≠ .unconnected)
      (Negotiation.run mode) (fun _ s => Channel.Lifecycle s ∧ s.self.state ≠ .unconnected)
      fun _ s => Channel.Lifecycle s ∧ s.self.state ≠ .unconnected :=
    .ofKeeps (Channel.orderly_negotiation mode) fun _ _ hs h => Channel.going_of_orderly h hs
  exact (going.and (Negotiation.meets_run mode)).imp (fun _ hs => ⟨⟨hs.1, hs.2.1⟩, hs.2.2⟩)
    (fun _ _ hs => ⟨hs.2.1, hs.1.1, hs.1.2, hs.2.2⟩) fun _ _ hs => ⟨hs.1.1, hs.1.2, hs.2⟩

theorem tended_tidy : Tended (Tidy Client.channel) where
  now := steady_quiet Net.quiet_now
  log _ _ _ := steady_quiet (Net.quiet_log _ _ _)
  history _ := steady_change fun _ => rfl
  send command := steady_onChannel
    (steady_channel (Channel.orderly_send command) (Channel.contained_send command))
  negotiate mode := meets_onChannel (meets_negotiation mode)

end Client

namespace Probe

def channel (p : Probe) : Channel :=
  p.client.channel

theorem steady_onClient {m : Op Client α} (hm : Keeps (Steady Client.channel) m) :
    Keeps (Steady Probe.channel) (onClient m) :=
  .focus hm fun _ _ h hs hT => h hs hT

theorem meets_onClient {P : Live Client → Prop} {Q : α → Live Client → Prop}
    {E : Failure → Live Client → Prop} {m : Op Client α} (hm : Meets P m Q E) :
    Meets (fun s => P ⟨s.self.client, s.net⟩) (onClient m)
      (fun a s => Q a ⟨s.self.client, s.net⟩) fun e s => E e ⟨s.self.client, s.net⟩ :=
  Meets.focus (fun _ _ => rfl) hm

theorem meets_onChannel {P : Live Channel → Prop} {Q : α → Live Channel → Prop}
    {E : Failure → Live Channel → Prop} {m : Op Channel α} (hm : Meets P m Q E) :
    Meets (fun s => P ⟨s.self.channel, s.net⟩) (onChannel m)
      (fun a s => Q a ⟨s.self.channel, s.net⟩) fun e s => E e ⟨s.self.channel, s.net⟩ :=
  meets_onClient (Client.meets_onChannel hm)

theorem steady_print (line : String) : Keeps (Steady Probe.channel) (print line) :=
  steady_change fun _ => rfl

theorem steady_log (level : LogLevel) (message : String) :
    Keeps (Steady Probe.channel) (log level message) :=
  steady_quiet (Net.quiet_log _ _ _)

theorem steady_checkVerb (command : String) : Keeps (Steady Probe.channel) (checkVerb command) := by
  refine .ite (.pure _) ?_
  split
  · exact steady_log _ _
  · exact steady_log _ _

theorem steady_runCommands (commands : List String) :
    Keeps (Steady Probe.channel) (runCommands commands) := by
  induction commands with
  | nil => exact .pure _
  | cons command rest ih =>
    refine .bind (steady_checkVerb command) fun _ => ?_
    refine .bind (steady_onClient (Client.tended_tidy.execute _ _)) fun reply => ?_
    exact .bind (steady_print _) fun _ => ih

theorem still_farEnd : DataConnection.Still farEnd := by
  refine .bind .this fun d => .ite DataConnection.still_localAddress ?_
  refine .bind DataConnection.still_dataSocket fun _ => ?_
  exact DataConnection.still_quiet (Net.quiet_peerAddress _)

/-- Lending a data connection for its end closes what came with it, and nothing else. -/
theorem tidy_of_close {d : DataConnection} (hd : d.Fresh) {s : Live Probe} {net : Network}
    (hs : Tidy Probe.channel d.handles s)
    (hnet : net.ledger = d.handles.foldl Ledger.close s.net.ledger) :
    Tidy Probe.channel [] { s with net } := by
  obtain ⟨hlife, hstate, hopen⟩ := hs
  have hcontrol : net.controlLedger = s.net.controlLedger := by
    rw [Network.controlLedger, hnet, Channel.restrict_foldl_close_of_not hd.afar]
    rfl
  refine ⟨Channel.lifecycle_of_control hcontrol hlife, hstate, ?_⟩
  exact openAtMost_of_close hnet hopen

theorem meets_negotiate (mode : DataMode) :
    Meets (Tidy Probe.channel []) (negotiate mode) (fun _ => Tidy Probe.channel [])
      fun _ => Tidy Probe.channel [] := by
  refine .bind (meets_onClient (Client.tended_tidy.openData mode)) fun d => ?_
  refine .ensure (I := fun s => d.Fresh ∧ Tidy Probe.channel d.handles s) ?_ ?_
  · refine .ofKeeps (R := Steady Probe.channel) ?_ fun _ _ hs h => ⟨hs.1, h _ hs.2⟩
    refine .bind (.lend still_farEnd fun _ _ h => steady_of_ledger rfl h) fun shown => ?_
    exact steady_print _
  · rintro s ⟨hd, hs⟩
    have ht := DataConnection.meets_close hd.notClosed s.net.ledger ⟨d, s.net⟩ ⟨rfl, rfl⟩
    rw [lend, run_zoom]
    rcases hr : DataConnection.close.run ⟨d, s.net⟩ with ⟨e | a, t⟩ <;> rw [hr] at ht
    · exact tidy_of_close hd hs ht.2
    · exact tidy_of_close hd hs ht

theorem meets_converse (plan : CommandLine.Plan) :
    Meets (Tidy Probe.channel []) (converse plan)
      (fun _ s => Tidy Probe.channel [] s ∧ s.self.channel.state = .closed)
      fun _ => Tidy Probe.channel [] := by
  have leave : Meets (Tidy Probe.channel []) (onChannel Channel.logout)
      (fun _ s => Tidy Probe.channel [] s ∧ s.self.channel.state = .closed)
      fun _ => Tidy Probe.channel [] := meets_onChannel Channel.meets_logout
  refine .bind (Steady.meets (steady_runCommands _) []) fun _ => .ite ?_ leave
  exact .bind (meets_negotiate plan.mode) fun _ => leave

theorem meets_giveUp :
    Meets (Tidy Probe.channel []) giveUp
      (fun _ s => Tidy Probe.channel [] s ∧ s.self.channel.state = .closed)
      fun _ s => Tidy Probe.channel [] s ∧ s.self.channel.state = .closed := by
  have close : Meets (Tidy Probe.channel []) (onChannel Channel.close)
      (fun _ s => Tidy Probe.channel [] s ∧ s.self.channel.state = .closed)
      fun _ s => Tidy Probe.channel [] s ∧ s.self.channel.state = .closed :=
    meets_onChannel Channel.meets_close
  refine .rescue close fun e => ?_
  split
  · exact fun s hs => ⟨steady_log _ _ s [] hs.1, hs.2⟩
  · exact .fail fun _ hs => hs

end Probe

def Network.AllClosed (net : Network) : Prop :=
  ∀ h, (net.sockets h).isOpen = false

theorem closed_of_controlLedger {net : Network} {l : Ledger} {k : Handle}
    (hnet : net.controlLedger = l) (hl : l.isOpen k = false) (hk : k.onControl = true) :
    (net.sockets k).isOpen = false := by
  have hsame : (k.onControl && (net.sockets k).isOpen) = l.isOpen k :=
    congrFun (congrArg Ledger.isOpen hnet) k
  rwa [hk, Bool.true_and, hl] at hsame

theorem Channel.closed_of_idle {s : Live Channel} (h : Idle s) {k : Handle}
    (hk : k.onControl = true) : (s.net.sockets k).isOpen = false := by
  obtain ⟨hlife, hstate⟩ := h
  unfold Lifecycle at hlife
  cases hs : s.self.state <;> rw [hs] at hlife
  · obtain ⟨n, -, hledger⟩ := hlife
    exact closed_of_controlLedger hledger rfl hk
  · exact absurd hs hstate
  · obtain ⟨n, k, -, hledger⟩ := hlife
    exact closed_of_controlLedger hledger rfl hk

theorem allClosed_of_idle {s : Live Channel} (h : Channel.Idle s) (hopen : s.net.OpenAtMost []) :
    s.net.AllClosed := by
  intro k
  cases hk : k.onControl with
  | true => exact Channel.closed_of_idle h hk
  | false =>
    by_contra hne
    exact List.not_mem_nil (hopen k hk (by simpa using hne))

namespace Probe

/-- A channel in order, connected or not, with no data connection behind it. -/
def Met (connected : Bool) (s : Live Probe) : Prop :=
  Channel.Lifecycle ⟨s.self.channel, s.net⟩ ∧
    (s.self.channel.state = .connected ↔ connected = true) ∧ s.net.OpenAtMost []

theorem meets_connect (peer : Target) (millis : Int) :
    Meets (fun s => s.self = {} ∧ s.net.ledger = .held []) (onChannel (Channel.connect peer millis))
      (fun _ => Met true) fun _ => Met false := by
  have start : ∀ s : Live Probe, s.self = {} ∧ s.net.ledger = .held [] →
      Channel.Underway 0 0 ⟨s.self.channel, s.net⟩ ∧ s.net.OpenAtMost [] := by
    rintro s ⟨hself, hledger⟩
    refine ⟨⟨?_, ⟨?_, ?_, ?_, ?_⟩, ?_⟩, fun k _ hopen => ?_⟩
    · rw [hself]; rfl
    · rw [hself]; rfl
    · rw [hself]; rfl
    · rw [hself]; rfl
    · rw [hself]; rfl
    · rw [Network.controlLedger, hledger, Ledger.restrict_held, List.take_zero, List.filter_nil]
    · have hclosed : (s.net.sockets k).isOpen = false := congrFun (congrArg Ledger.isOpen hledger) k
      rw [hclosed] at hopen
      cases hopen
  have connected : Meets (fun s => Channel.Underway 0 0 s ∧ s.net.OpenAtMost [])
      (Channel.connect peer millis)
      (fun _ s => (Channel.Lifecycle s ∧ s.self.state = .connected) ∧ s.net.OpenAtMost [])
      fun _ s => Channel.Idle s ∧ s.net.OpenAtMost [] :=
    (Channel.meets_connect 0 peer millis).and
      (Negotiation.meets_contained (contained_within (Channel.within_connect peer millis)))
  refine (meets_onChannel connected).imp start ?_ ?_
  · exact fun _ s hs => ⟨hs.1.1, ⟨fun _ => rfl, fun _ => hs.1.2⟩, hs.2⟩
  · exact fun _ s hs => ⟨hs.1.1, iff_of_false hs.1.2 Bool.false_ne_true, hs.2⟩

theorem allClosed_of_met {s : Live Probe} (h : Met false s) : s.net.AllClosed :=
  allClosed_of_idle ⟨h.1, fun hc => by simpa using h.2.1.1 hc⟩ h.2.2

theorem tidy_of_met {s : Live Probe} (h : Met true s) : Tidy Probe.channel [] s :=
  ⟨h.1, by rw [h.2.1.2 rfl]; simp, h.2.2⟩

theorem allClosed_of_tidy {s : Live Probe} (h : Tidy Probe.channel [] s)
    (hstate : s.self.channel.state = .closed) : s.net.AllClosed :=
  allClosed_of_idle ⟨h.1, by rw [hstate]; simp⟩ h.2.2

theorem allClosed_of_ledger {s t : Live Probe} (h : s.net.AllClosed)
    (hledger : t.net.ledger = s.net.ledger) : t.net.AllClosed :=
  fun k => (congrFun (congrArg Ledger.isOpen hledger) k).trans (h k)

/-- A run that ends with a status has closed everything. -/
theorem meets_run (plan : CommandLine.Plan) :
    Meets (fun s => s.self = {} ∧ s.net.ledger = .held []) (run plan)
      (fun _ s => s.net.AllClosed) fun _ _ => True := by
  refine .bind (Q := fun r => Met r.isOk) ?_ fun r => ?_
  · exact .attempt (meets_connect _ _) (fun _ _ hs => hs) fun _ _ hs => hs
  cases r with
  | error e =>
    cases e with
    | fault f =>
      refine .bind (Q := fun _ s => s.net.AllClosed) ?_ fun _ => ?_
      · exact fun s hs => allClosed_of_ledger (allClosed_of_met hs) (Net.quiet_log _ _ _ s.net)
      · exact .bind (Q := fun _ s => s.net.AllClosed) (.change fun s hs => hs) fun _ =>
          .pure fun _ hs => hs
    | _ => exact .fail fun _ _ => trivial
  | ok banner =>
    refine .bind (Q := fun _ => Tidy Probe.channel []) ?_ fun _ => ?_
    · exact .change fun s hs => steady_print banner.line s [] (tidy_of_met hs)
    refine .bind (Q := fun r s => Tidy Probe.channel [] s ∧
      (r = .ok () → s.self.channel.state = .closed)) ?_ fun r => ?_
    · exact .attempt (meets_converse plan) (fun _ _ hs => ⟨hs.1, fun _ => hs.2⟩)
        fun _ _ hs => ⟨hs, fun h => by cases h⟩
    cases r with
    | ok u => exact .pure fun s hs => allClosed_of_tidy hs.1 (hs.2 rfl)
    | error e =>
      cases e with
      | fault f =>
        refine .bind (Q := fun _ => Tidy Probe.channel []) ?_ fun _ => ?_
        · exact fun s hs => steady_log _ _ s [] hs.1
        refine .bind (Q := fun _ => Tidy Probe.channel []) ?_ fun _ => ?_
        · exact fun s hs => steady_print _ s [] hs
        refine .bind (meets_giveUp.imp (fun _ hs => hs)
          (fun _ s hs => allClosed_of_tidy hs.1 hs.2) fun _ _ _ => trivial) fun _ => ?_
        exact .pure fun _ hs => hs
      | _ => exact .fail fun _ _ => trivial

end Probe

end FtpControl
