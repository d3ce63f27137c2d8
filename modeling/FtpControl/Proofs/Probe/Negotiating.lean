import FtpControl.Proofs.Negotiation
import FtpControl.Proofs.Probe.Commands

/-!
# How a probe negotiates

The probe prints one end of the data connection and closes it again. A system that cannot tell
the far end is not survived, unless closing the connection ends in a fault of its own.
-/

namespace FtpControl

open Effect Live

variable {mode : DataMode} {d : DataConnection} {net : Network}

namespace Client

variable {s : Live Client} {u : Live Channel}

/-- A negotiation that ends in a data connection is recorded, which cannot fail. -/
theorem meets_openData_ok (hd : d.Fresh)
    (h : (Negotiation.run mode).run ⟨s.self.channel, s.net⟩ = (.ok d, u)) :
    Meets (· = s) (openData mode) (fun d' t => d' = d ∧ t.net.sockets = u.net.sockets)
      fun _ _ => False := by
  refine .bind (Q := fun d' t => d' = d ∧ t.net.sockets = u.net.sockets)
    (.rescue (E := fun _ _ => False) ?_ fun _ _ h => h.elim) fun d' => ?_
  · rintro _ rfl
    rw [onChannel, focus, run_zoom, h]
    exact ⟨rfl, rfl⟩
  by_cases hd' : d' = d
  swap
  · exact fun _ hs => absurd hs.1 hd'
  rw [hd']
  obtain ⟨shown, hshown⟩ := hd.masked_label mode
  have unmoved : Unmoved (record (if d.command.isEmpty then mode.verb else d.command)
      (some d.reply) none) :=
    .bind (.call (N := fun net net' => net'.sockets = net.sockets) (fun _ => rfl) fun _ _ h => h)
      fun _ => .bind (.ofExcept _) fun _ => .change fun _ => rfl
  refine .bind ((fails_record hshown _ _).keeps unmoved fun _ _ hs h => h.trans hs.2) fun _ => ?_
  refine .bind ((Fails.call (Net.fails_log _ _ _)).keeps (unmoved_log _ _ _)
    fun _ _ hs h => h.trans hs) fun _ => ?_
  exact .pure fun _ hs => ⟨rfl, hs⟩

/-- A negotiation that fails is recorded if it fails with a fault. -/
theorem meets_openData_error {e : Failure}
    (h : (Negotiation.run mode).run ⟨s.self.channel, s.net⟩ = (.error e, u)) :
    Meets (· = s) (openData mode) (fun _ _ => False) fun e' _ => e'.IsFault ↔ e.IsFault := by
  refine .bind (Q := fun _ _ => False) (.rescue (E := fun e' _ => e' = e) ?_ fun e' => ?_)
    fun _ _ h => h.elim
  · rintro _ rfl
    rw [onChannel, focus, run_zoom, h]
  by_cases he' : e' = e
  swap
  · exact fun _ hs => absurd hs he'
  rw [he']
  cases e with
  | fault f =>
    have hfault : ∀ g, Failure.IsFault (.fault g) ↔ Failure.IsFault (.fault f) := fun g =>
      iff_of_true ⟨g, rfl⟩ ⟨f, rfl⟩
    dsimp only
    split
    · refine .value (.bind (Q := fun _ _ => True) ?_ fun _ => .fail fun _ _ => hfault f)
      exact .sure (fails_record mode.masked_verb _ _).meets
    · exact .failed fun _ _ => hfault _
  | _ => exact .fail fun _ _ => Iff.rfl

end Client

namespace Probe

variable {s : Live Probe}

/-- The listener of a pending connection has told its address before. -/
theorem run_farEnd_pending {n : Nat} (hlistener : d.listener = some n) (hnet : net.Listens n) :
    ∃ own, farEnd.run ⟨d, net⟩ = (.ok own, ⟨d, net⟩) := by
  obtain ⟨hopen, own, hown⟩ := hnet
  have hown' : (net.sockets (.listener n)).ownAddress = .ok own := hown
  have hpending : d.isPending = true := by rw [DataConnection.isPending, hlistener]; rfl
  refine ⟨own, ?_⟩
  rw [farEnd, run_look, if_pos hpending, DataConnection.localAddress, run_look, hlistener]
  dsimp only
  rw [Live.call, run_zoom, Net.run_ownAddress hopen, hown']

/-- A connected data connection that was opened for this run. -/
structure Reached (d : DataConnection) (h : Handle) (net : Network) : Prop where
  notClosed : d.closed = false
  listener : d.listener = none
  socket : d.socket = some h
  isOpen : (net.sockets h).isOpen = true

theorem Reached.run_farEnd {h : Handle} (hd : Reached d h net) :
    farEnd.run ⟨d, net⟩ =
      (match (net.sockets h).peerAddress with
        | .ok peer => .ok peer
        | .error why => .error (.system why), ⟨d, net⟩) := by
  have hdata : DataConnection.dataSocket.run ⟨d, net⟩ = (.ok h, ⟨d, net⟩) := by
    rw [DataConnection.dataSocket, run_look, hd.notClosed, hd.socket]
    rfl
  have hpending : ¬ d.isPending = true := by rw [DataConnection.isPending, hd.listener]; simp
  rw [farEnd, run_look, if_neg hpending, run_bind_ok hdata, Live.call, run_zoom]
  exact congrArg (fun r => (r.1, (⟨d, r.2⟩ : Live DataConnection))) (Net.run_peerAddress hd.isOpen)

theorem meets_closeSocket_answer (h : Handle) (answer : Option String) :
    Meets (fun s => (s.net.sockets h).closeError = answer) (DataConnection.closeSocket h)
      (fun error _ => error = answer) fun _ _ => False := by
  rintro s rfl
  rw [DataConnection.closeSocket, run_bind, run_attempt, Live.call, run_zoom, Net.run_close]
  cases (s.net.sockets h).closeError <;> rfl

/-- The connection closes without a fault unless its socket objects. -/
theorem Reached.closes_iff {h : Handle} (hd : Reached d h net) :
    (DataConnection.close.run ⟨d, net⟩).1 = .ok () ↔ (net.sockets h).closeError = none := by
  generalize hanswer : (net.sockets h).closeError = answer
  have closed : Meets (fun s => s.self = d ∧ (s.net.sockets h).closeError = answer)
      DataConnection.close (fun _ _ => answer = none) fun _ _ => answer ≠ none := by
    refine .known (fun s hs => hs.1) ?_
    rw [hd.notClosed, hd.listener, hd.socket]
    refine .bind (Q := fun _ s => (s.net.sockets h).closeError = answer) (.change fun _ hs => hs.2)
      fun _ => ?_
    refine .bind (Q := fun error _ => error = answer) ?_ fun error => ?_
    · exact .bind (.sure (meets_closeSocket_answer h answer)) fun _ =>
        .value (.pure fun _ hs => hs)
    by_cases herror : error = answer
    swap
    · exact fun _ hs => absurd hs herror
    rw [herror]
    refine .bind (Q := fun _ _ => True) (.change fun _ _ => trivial) fun _ => ?_
    refine .bind (.sure (Fails.call (Net.fails_log _ _ _)).meets) fun _ => ?_
    cases answer with
    | none => exact .pure fun _ _ => rfl
    | some why => exact .fail fun _ _ => by simp
  have ht := closed ⟨d, net⟩ ⟨rfl, hanswer⟩
  rcases hr : DataConnection.close.run ⟨d, net⟩ with ⟨e | ⟨⟩, t⟩ <;> rw [hr] at ht
  · exact iff_of_false (by simp) ht
  · exact iff_of_true rfl ht

/-- The end of a negotiation that has come to a data connection. -/
def parting (mode : DataMode) (d : DataConnection) : Op Probe Unit :=
  ensure
    (do
      let shown ← lend d farEnd
      print s!"{mode.name} data connection {shown.text}")
    (lend d DataConnection.close)

theorem negotiate_eq (mode : DataMode) :
    negotiate mode = (do let d ← onClient (Client.openData mode); parting mode d) := rfl

theorem escapes_parting {r : Except Failure Address}
    (hfar : farEnd.run ⟨d, s.net⟩ = (r, ⟨d, s.net⟩)) :
    Escapes Failure.IsFault (parting mode d) s ↔
      (∃ e, r = .error e ∧ ¬ e.IsFault) ∧ (DataConnection.close.run ⟨d, s.net⟩).1 = .ok () := by
  have hlend : (lend d farEnd : Op Probe Address).run s = (r, s) := by
    rw [lend, run_zoom, hfar]
  have hclose : Fails Failure.IsFault (lend d DataConnection.close : Op Probe Unit) :=
    fun s => DataConnection.fails_close ⟨d, s.net⟩
  rw [parting, Escapes.ensure_iff hclose,
    Escapes.bind_iff_of_fails fun _ => fails_print _, run_bind, hlend]
  cases r with
  | error e =>
    rw [Escapes.iff_of_error hlend]
    simp [lend]
  | ok own =>
    have hnone : ¬ Escapes Failure.IsFault (lend d farEnd : Op Probe Address) s := by
      rintro ⟨e, he, -⟩
      rw [hlend] at he
      cases he
    simp [hnone]

/-- What a negotiation does not survive: a channel that cannot tell its own address, a
listener given up that cannot be closed, and a data connection that cannot tell its far end
and yet can be closed. -/
inductive Trips (s : Live Channel) : DataMode → Prop
  | address {n : Nat} {why : String} (hsocket : s.self.socket = some n)
      (hown : (s.net.sockets (.control n)).ownAddress = .error why) : Trips s .active
  | listener {e : Failure} {t : Live Channel} {why : String}
      (hrun : Negotiation.active.run s = (.error e, t))
      (hclose : s.net.script.nextListener.socket.closeError = some why) : Trips s .active
  | peer {d : DataConnection} {h : Handle} {t : Live Channel} {why : String}
      (hrun : Negotiation.passive.run s = (.ok d, t)) (hsocket : d.socket = some h)
      (hpeer : (t.net.sockets h).peerAddress = .error why)
      (hclose : (t.net.sockets h).closeError = none) : Trips s .passive

theorem meets_active_trips {s : Live Channel} (hlife : Channel.Lifecycle s)
    (hstate : s.self.state = .connected) :
    Meets (· = s) Negotiation.active
      (fun d t => ¬ Trips s .active ∧ ∃ n, d.listener = some n ∧ t.net.Listens n)
      fun e _ => e.IsFault ↔ ¬ Trips s .active := by
  obtain ⟨n, hsocket, hopen⟩ := Channel.open_of_lifecycle hlife hstate
  have hhost := Channel.run_localHost hstate hsocket hopen
  cases hown : (s.net.sockets (.control n)).ownAddress with
  | error why =>
    rw [hown] at hhost
    rintro _ rfl
    rw [Negotiation.active, run_bind_error hhost]
    have hsystem : Failure.IsSystem (.system why) := ⟨why, rfl⟩
    exact iff_of_false hsystem.not_isFault (not_not.2 (.address hsocket hown))
  | ok own =>
    rw [hown] at hhost
    rintro t rfl
    have ht := Negotiation.meets_active_listening hhost t rfl
    have trips_iff : Trips t .active ↔ ∃ e u, Negotiation.active.run t = (.error e, u) ∧
        t.net.script.nextListener.socket.closeError ≠ none := by
      constructor
      · rintro (⟨hsocket', hown'⟩ | ⟨hrun, hclose⟩)
        · rw [hsocket] at hsocket'
          cases hsocket'
          rw [hown] at hown'
          cases hown'
        · exact ⟨_, _, hrun, by simp [hclose]⟩
      · rintro ⟨e, u, hrun, hclose⟩
        obtain ⟨why, hwhy⟩ := Option.ne_none_iff_exists'.1 hclose
        exact .listener hrun hwhy
    rw [trips_iff]
    rcases hr : Negotiation.active.run t with ⟨e | d, u⟩ <;> rw [hr] at ht
    · simpa using ht
    · exact ⟨by simp, ht⟩

/-- A passive negotiation has one way to trip, behind its success. -/
theorem trips_passive_iff {s t : Live Channel} {h : Handle}
    (hrun : Negotiation.passive.run s = (.ok d, t)) (hsocket : d.socket = some h) :
    Trips s .passive ↔
      (∃ why, (t.net.sockets h).peerAddress = .error why) ∧
        (t.net.sockets h).closeError = none := by
  constructor
  · intro htrips
    cases htrips with
    | peer hrun' hsocket' hpeer hclose =>
      cases hrun.symm.trans hrun'
      cases hsocket.symm.trans hsocket'
      exact ⟨⟨_, hpeer⟩, hclose⟩
  · rintro ⟨⟨why, hpeer⟩, hclose⟩
    exact .peer hrun hsocket hpeer hclose

theorem escapes_parting_active {n : Nat} (hlistener : d.listener = some n)
    (hnet : s.net.Listens n) : ¬ Escapes Failure.IsFault (parting mode d) s := by
  obtain ⟨own, hfar⟩ := run_farEnd_pending hlistener hnet
  rw [escapes_parting hfar]
  rintro ⟨⟨e, he, -⟩, -⟩
  cases he

theorem escapes_parting_passive {h : Handle} (hd : Reached d h s.net) :
    Escapes Failure.IsFault (parting mode d) s ↔
      (∃ why, (s.net.sockets h).peerAddress = .error why) ∧
        (s.net.sockets h).closeError = none := by
  rw [escapes_parting hd.run_farEnd, hd.closes_iff]
  apply and_congr_left'
  cases (s.net.sockets h).peerAddress with
  | ok peer => simp
  | error why =>
    have hsystem : Failure.IsSystem (.system why) := ⟨why, rfl⟩
    exact iff_of_true ⟨_, rfl, hsystem.not_isFault⟩ ⟨why, rfl⟩

/-- A negotiation that fails trips unless it fails with a fault. -/
theorem trips_iff_of_error {s u : Live Channel} {e : Failure} (hlife : Channel.Lifecycle s)
    (hstate : s.self.state = .connected)
    (hrun : (Negotiation.run mode).run s = (.error e, u)) : Trips s mode ↔ ¬ e.IsFault := by
  cases mode with
  | active =>
    have ht := meets_active_trips hlife hstate s rfl
    rw [show Negotiation.active.run s = (.error e, u) from hrun] at ht
    exact (not_iff_comm.1 ht.symm).symm
  | passive =>
    have ht := Negotiation.meets_passive_connected s hlife
    rw [show Negotiation.passive.run s = (.error e, u) from hrun] at ht
    refine iff_of_false (fun htrips => ?_) (not_not.2 ht)
    cases htrips with
    | peer hrun' => cases hrun.symm.trans hrun'

/-- A negotiation that comes to a data connection trips if parting with it does. -/
theorem trips_iff_of_ok {c u : Live Channel} (hlife : Channel.Lifecycle c)
    (hstate : c.self.state = .connected) (hd : d.Fresh)
    (hrun : (Negotiation.run mode).run c = (.ok d, u)) (hs : s.net.sockets = u.net.sockets) :
    Escapes Failure.IsFault (parting mode d) s ↔ Trips c mode := by
  cases mode with
  | active =>
    have ht := meets_active_trips hlife hstate c rfl
    rw [show Negotiation.active.run c = (.ok d, u) from hrun] at ht
    obtain ⟨hfree, n, hlistener, hlistens⟩ := ht
    refine iff_of_false (escapes_parting_active hlistener ?_) hfree
    unfold Network.Listens Network.listening at hlistens ⊢
    rwa [hs]
  | passive =>
    have ht := Negotiation.meets_passive_connected c hlife
    rw [show Negotiation.passive.run c = (.ok d, u) from hrun] at ht
    obtain ⟨hlistener, h, hsocket, hopen⟩ := ht
    have reached : Reached d h s.net := ⟨hd.notClosed, hlistener, hsocket, by rw [hs]; exact hopen⟩
    rw [escapes_parting_passive reached, trips_passive_iff hrun hsocket, hs]

/-- On a connected channel these are the only ways to fail other than by a fault. -/
theorem escapes_negotiate (hs : Tidy Probe.channel [] s)
    (hstate : s.self.channel.state = .connected) (mode : DataMode) :
    Escapes Failure.IsFault (negotiate mode) s ↔ Trips ⟨s.self.channel, s.net⟩ mode := by
  obtain ⟨hlife, -, hopen⟩ := hs
  have fresh := Negotiation.meets_run mode ⟨s.self.channel, s.net⟩ hopen
  rcases hr : (Negotiation.run mode).run ⟨s.self.channel, s.net⟩ with ⟨e | d, u⟩ <;>
    rw [hr] at fresh
  · obtain ⟨e', t, hrun, he'⟩ :=
      (meets_onClient (Client.meets_openData_error hr)).failure (s := s) rfl
    rw [negotiate_eq, Escapes.iff_of_error (run_bind_error hrun), he',
      trips_iff_of_error hlife hstate hr]
  · obtain ⟨_, t, hrun, rfl, hsockets⟩ :=
      (meets_onClient (Client.meets_openData_ok fresh.1 hr)).result (s := s) rfl
    rw [negotiate_eq, Escapes.bind_iff_of_ok hrun]
    exact trips_iff_of_ok hlife hstate fresh.1 hr hsockets

end Probe

end FtpControl
