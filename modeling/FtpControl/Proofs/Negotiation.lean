import FtpControl.Proofs.DataConnection

/-!
# How a negotiation fails

A passive negotiation fails with faults only. An active one also fails otherwise when the
channel cannot tell its own address, and when the listener that it gives up cannot be closed.
-/

namespace FtpControl

open Effect Live

variable {σ α : Type}

def Network.listening (net : Network) (n : Nat) : Socket :=
  net.sockets (.listener n)

/-- Calls that leave the listening sockets as they are. -/
abbrev Net.Aloof (m : Net α) : Prop :=
  Keeps (fun net net' => net'.listening = net.listening) m

/-- Operations that leave the listening sockets as they are. -/
abbrev Aloof (m : Op σ α) : Prop :=
  Keeps (fun s t => t.net.listening = s.net.listening) m

theorem aloof_call {m : Net α} (hm : Net.Aloof m) : Aloof (call m : Op σ α) :=
  .call hm fun _ _ h => h

theorem aloof_change (f : σ → σ) : Aloof (change f : Op σ Unit) :=
  .change fun _ => rfl

namespace Net

theorem sockets_log (source : LogSource) (level : LogLevel) (message : String) :
    Keeps (fun net net' => net'.sockets = net.sockets) (log source level message) := by
  intro net
  obtain ⟨logs, hlog⟩ := run_log source level message net
  rw [hlog]

theorem aloof_log (source : LogSource) (level : LogLevel) (message : String) :
    Aloof (log source level message) :=
  (sockets_log source level message).imp fun _ _ h =>
    congrArg (fun sockets n => sockets (Handle.listener n)) h

theorem aloof_transmit (n : Nat) (bytes : List UInt8) : Aloof (transmit n bytes) := by
  refine .bind (.bind .state fun net => .ite ?_ (.pure _)) fun answer => ?_
  · exact .bind (.update fun _ => rfl) fun _ => .pure _
  refine .bind ?_ fun _ => .bind (.update fun _ => rfl) fun _ => .update fun _ => rfl
  cases answer.failure with
  | none => exact .pure _
  | some why => exact .fail _

theorem aloof_close {h : Handle} (hh : h.onControl = true) : Aloof (close h) := by
  intro net
  rw [run_close]
  funext n
  have hne : Handle.listener n ≠ h := by
    rintro rfl
    cases hh
  exact setAt_of_ne hne

end Net

/-- Operations that leave all sockets as they are. -/
abbrev Unmoved (m : Op σ α) : Prop :=
  Keeps (fun s t => t.net.sockets = s.net.sockets) m

theorem unmoved_log (source : LogSource) (level : LogLevel) (message : String) :
    Unmoved (call (Net.log source level message) : Op σ Unit) :=
  .call (Net.sockets_log source level message) fun _ _ h => h

namespace Channel

theorem aloof_closeResources {hs : List Handle} (h : ∀ k ∈ hs, k.onControl = true) :
    Net.Aloof (closeResources hs) := by
  induction hs with
  | nil => exact .pure _
  | cons k hs ih =>
    have first : Net.Aloof (closeResource k) := by
      refine .bind (.attempt (Net.aloof_close (h k List.mem_cons_self))) fun r => ?_
      split
      · exact .pure _
      · exact .bind (Net.aloof_log _ _ _) fun _ => .pure _
      · exact .fail _
    refine .bind first fun _ => .bind (ih fun j hj => ?_) fun _ => .pure _
    exact h j (List.mem_cons_of_mem k hj)

theorem aloof_release : Aloof release := by
  refine .bind .this fun c => ?_
  have hresources := aloof_closeResources fun k (hk : k ∈ c.resources) =>
    onControl_of_mem_resources hk
  refine .bind (aloof_call hresources) fun error => .bind (aloof_change _) fun _ => ?_
  cases c.peer with
  | none => exact keeps_report _
  | some peer => exact .bind (aloof_call (Net.aloof_log _ _ _)) fun _ => keeps_report _

theorem exchanging_aloof :
    Exchanging (fun s t : Live Channel => t.net.listening = s.net.listening) where
  log _ _ _ := aloof_call (Net.aloof_log _ _ _)
  setSource _ _ := aloof_call (.update fun _ => rfl)
  release := aloof_release
  transmit _ _ := aloof_call (Net.aloof_transmit _ _)

theorem aloof_send (command : String) : Aloof (send command) :=
  exchanging_aloof.send command

end Channel

/-! ## Active mode -/

/-- The plan of the next listener. -/
def Script.nextListener (script : Script) : ListenerPlan :=
  script.listeners.headD {}

/-- An open listener whose closing will be answered in this way. -/
def Network.Awaits (n : Nat) (answer : Option String) (net : Network) : Prop :=
  (net.listening n).isOpen = true ∧ (net.listening n).closeError = answer

theorem awaits_of_aloof {n : Nat} {answer : Option String} {net net' : Network}
    (h : net.Awaits n answer) (hnet : net'.listening = net.listening) : net'.Awaits n answer := by
  unfold Network.Awaits
  rwa [hnet]

/-- An open listener that can tell its own address. -/
def Network.Listens (n : Nat) (net : Network) : Prop :=
  (net.listening n).isOpen = true ∧ ∃ own, (net.listening n).ownAddress = .ok own

namespace Net

theorem meets_openListener {plan : ListenerPlan} :
    Meets (fun net => net.script.nextListener = plan) openListener
      (fun n net => net.Awaits n plan.socket.closeError) fun _ _ => False := by
  rintro net rfl
  have hsocket : ((openListener.run net).2.listening net.counts.listener) =
      .ofPlan net.script.nextListener.socket (.error badDescriptor) (.error badDescriptor)
        .unlimited := setAt_same _ _ _
  exact ⟨congrArg Socket.isOpen hsocket, congrArg Socket.closeError hsocket⟩

theorem meets_bind (n : Nat) (host : String) (answer : Option String) :
    Meets (Network.Awaits n answer) (bind n host) (fun _ => Network.Awaits n answer)
      fun e net => e.IsSystem ∧ net.Awaits n answer := by
  refine .bind (Q := fun _ => Network.Awaits n answer) (.update fun _ hs => hs) fun _ => ?_
  intro net ⟨hopen, hclose⟩
  rw [run_bind, run_state]
  dsimp only
  cases (net.listeners n).bindError with
  | some why => exact ⟨⟨why, rfl⟩, hopen, hclose⟩
  | none =>
    have hsocket := setAt_same net.sockets (.listener n) { net.sockets (.listener n) with
      ownAddress := (net.listeners n).socket.ownAddress.getD
        (.ok ⟨host, (net.listeners n).port.getD (40000 + n)⟩) }
    exact ⟨(congrArg Socket.isOpen hsocket).trans hopen,
      (congrArg Socket.closeError hsocket).trans hclose⟩

theorem aloof_listen (n backlog : Nat) : Aloof (listen n backlog) := by
  refine .bind (.update fun _ => rfl) fun _ => .bind .state fun net => ?_
  cases (net.listeners n).listenError with
  | none => exact .pure _
  | some why => exact .fail _

theorem run_ownAddress {h : Handle} {net : Network} (hopen : (net.sockets h).isOpen = true) :
    (ownAddress h).run net =
      (match (net.sockets h).ownAddress with
        | .ok own => .ok own
        | .error why => .error (.system why), net) := by
  have hsocket : (openSocket h).run net = (.ok (net.sockets h), net) := by
    rw [run_openSocket, if_pos hopen]
  rw [ownAddress, run_bind_ok hsocket]
  cases (net.sockets h).ownAddress <;> rfl

theorem run_peerAddress {h : Handle} {net : Network} (hopen : (net.sockets h).isOpen = true) :
    (peerAddress h).run net =
      (match (net.sockets h).peerAddress with
        | .ok peer => .ok peer
        | .error why => .error (.system why), net) := by
  have hsocket : (openSocket h).run net = (.ok (net.sockets h), net) := by
    rw [run_openSocket, if_pos hopen]
  rw [peerAddress, run_bind_ok hsocket]
  cases (net.sockets h).peerAddress <;> rfl

theorem meets_ownAddress (n : Nat) (answer : Option String) :
    Meets (Network.Awaits n answer) (ownAddress (.listener n))
      (fun _ net => net.Awaits n answer ∧ net.Listens n)
      fun e net => e.IsSystem ∧ net.Awaits n answer := by
  intro net hnet
  rw [run_ownAddress hnet.1]
  cases hown : (net.sockets (.listener n)).ownAddress with
  | ok own => exact ⟨hnet, hnet.1, own, hown⟩
  | error why => exact ⟨⟨why, rfl⟩, hnet⟩

theorem meets_dialData {limit : Timeout} (peer : Address) (hlimit : limit.isNegative = false) :
    Meets (fun _ => True) (dialData peer limit) (fun h net => (net.sockets h).isOpen = true)
      fun e _ => e.IsSystem := by
  refine .bind (Q := fun _ _ => True) (fun _ _ => trivial) fun net => ?_
  refine .bind (Q := fun _ _ => True) (.update fun _ _ => trivial) fun _ => ?_
  refine .bind (Q := fun _ _ => True) (.update fun _ _ => trivial) fun _ => ?_
  rw [checkLimit_of_not_negative hlimit]
  refine .value (.bind (fails_refuse _).meets fun _ => ?_)
  refine .bind (Q := fun _ net' => (net'.sockets (.data net.counts.data)).isOpen = true) ?_ fun _ =>
    .pure fun _ hs => hs
  exact fun _ _ => congrArg Socket.isOpen (setAt_same _ _ _)

theorem meets_close_awaited (n : Nat) (answer : Option String) :
    Meets (Network.Awaits n answer) (close (.listener n)) (fun _ _ => answer = none)
      fun e _ => e.IsSystem ∧ answer ≠ none := by
  rintro net ⟨-, hclose⟩
  rw [run_close, show (net.sockets (.listener n)).closeError = answer from hclose]
  cases answer with
  | none => rfl
  | some why => exact ⟨⟨why, rfl⟩, by simp⟩

end Net

theorem Channel.run_connectedSocket {s : Live Channel} {n : Nat}
    (hstate : s.self.state = .connected) (hsocket : s.self.socket = some n) (action : String) :
    (connectedSocket action).run s = (.ok (.control n), s) := by
  rw [connectedSocket, run_bind_ok (run_requireConnected hstate action), run_look, hsocket]
  rfl

/-- The control socket of a connected channel is asked for its address. -/
theorem Channel.run_localHost {s : Live Channel} {n : Nat} (hstate : s.self.state = .connected)
    (hsocket : s.self.socket = some n) (hopen : (s.net.sockets (.control n)).isOpen = true) :
    localHost.run s =
      (match (s.net.sockets (.control n)).ownAddress with
        | .ok own => .ok own.host
        | .error why => .error (.system why), s) := by
  rw [localHost, run_bind_ok (run_connectedSocket hstate hsocket _), run_bind, Live.call, run_zoom,
    Net.run_ownAddress hopen]
  cases (s.net.sockets (.control n)).ownAddress <;> rfl

namespace Negotiation

theorem meets_announce_listening (n : Nat) (host : String) (answer : Option String) :
    Meets (fun s => s.net.Awaits n answer) (announce n host)
      (fun d s => d.listener = some n ∧ s.net.Listens n)
      fun e s => (e.IsFault ∨ e.IsSystem) ∧ s.net.Awaits n answer := by
  have system : ∀ (e : Failure) (s : Live Channel), e.IsSystem ∧ s.net.Awaits n answer →
      (e.IsFault ∨ e.IsSystem) ∧ s.net.Awaits n answer := fun _ _ h => ⟨.inr h.1, h.2⟩
  have fault : ∀ (e : Failure) (s : Live Channel),
      e.IsFault ∧ s.net.Awaits n answer ∧ s.net.Listens n →
        (e.IsFault ∨ e.IsSystem) ∧ s.net.Awaits n answer := fun _ _ h => ⟨.inl h.1, h.2.1⟩
  have along : ∀ s t : Live Channel, s.net.Awaits n answer ∧ s.net.Listens n →
      t.net.listening = s.net.listening → t.net.Awaits n answer ∧ t.net.Listens n := by
    unfold Network.Awaits Network.Listens
    intro s t hs h
    rwa [h]
  refine .bind ((Meets.net (Net.meets_bind n host answer)).failing system) fun _ => ?_
  refine .bind (((Fails.call (Net.fails_listen n 1)).along (aloof_call (Net.aloof_listen n 1))
    fun _ _ hs h => awaits_of_aloof hs h).failing system) fun _ => ?_
  refine .bind ((Meets.net (Net.meets_ownAddress n answer)).failing system) fun own => ?_
  refine .bind ((Fails.call (Net.fails_log _ _ _)).keeps (aloof_call (Net.aloof_log _ _ _)) along)
    fun _ => ?_
  split
  · rename_i e he
    refine .value (.bind (((Channel.fails_send (Endpoint.masked_portCommand e)).along
      (Channel.aloof_send _) along).failing fault) fun answer => ?_)
    refine .given (fun _ h s hs => fault _ s ⟨Channel.isFault_of_validate h, hs⟩) fun reply _ => ?_
    refine .look fun c => .pure ?_
    rintro s ⟨⟨-, hs⟩, -⟩
    exact ⟨rfl, hs⟩
  · exact .failed fun s hs => fault _ s ⟨⟨_, rfl⟩, hs⟩

/-- A listener that cannot be used is closed, and its refusal to close hides the reason. -/
theorem meets_active_listening {s : Live Channel} {host : String}
    (hhost : Channel.localHost.run s = (.ok host, s)) :
    Meets (· = s) active (fun d t => ∃ n, d.listener = some n ∧ t.net.Listens n)
      fun e _ => e.IsFault ↔ s.net.script.nextListener.socket.closeError = none := by
  generalize hplan : s.net.script.nextListener = plan
  refine .bind (Q := fun host' t => host' = host ∧ t.net.script.nextListener = plan) ?_
    fun host' => ?_
  · rintro _ rfl
    rw [hhost]
    exact ⟨rfl, hplan⟩
  refine .bind (.sure ((Meets.net Net.meets_openListener).start fun _ hs => hs.2)) fun n => ?_
  refine .rescue ((meets_announce_listening n host' _).yields fun d s hs => ⟨n, hs⟩) fun e => ?_
  by_cases he : e.IsFault ∨ e.IsSystem
  swap
  · exact fun _ hs => absurd hs.1 he
  refine .bind ((Meets.net (Net.meets_close_awaited n _)).imp (fun _ hs => hs.2)
    (fun _ _ hs => hs) fun _ _ h => iff_of_false h.1.not_isFault h.2) fun _ => ?_
  rcases he with ⟨f, rfl⟩ | ⟨why, rfl⟩
  · exact .fail fun _ hs => iff_of_true ⟨f, rfl⟩ hs
  · exact .fail fun _ hs => iff_of_true ⟨_, rfl⟩ hs

/-! ## Passive mode -/

theorem fails_passiveEndpoint (reply : Reply) : Fails Failure.IsFault (passiveEndpoint reply) := by
  unfold passiveEndpoint
  split
  · exact .bind (.call (Net.fails_log _ _ _)) fun _ => .pure _
  · exact .fail ⟨_, rfl⟩

theorem aside_passiveEndpoint (reply : Reply) : Keeps Channel.Aside (passiveEndpoint reply) := by
  unfold passiveEndpoint
  split
  · exact .bind (Channel.aside_call (Net.quiet_log _ _ _)) fun _ => .pure _
  · exact .fail _

/-- The limit of a connected channel is one that the data socket takes. -/
theorem meets_passive_connected :
    Meets Channel.Lifecycle passive
      (fun d s => d.listener = none ∧ ∃ h, d.socket = some h ∧ (s.net.sockets h).isOpen = true)
      fun e _ => e.IsFault := by
  have hmasked : Command.masked "PASV" = .ok "PASV" := by decide +kernel
  refine .bind ((Channel.meets_send_lifecycle hmasked).yields
    fun _ _ hs => Channel.usable_of_lifecycle hs.1 hs.2) fun answer => ?_
  refine .given (fun _ h _ _ => Channel.isFault_of_validate h) fun reply _ => ?_
  refine .bind (((fails_passiveEndpoint reply).along (aside_passiveEndpoint reply)
    fun _ _ hs h => h.limit hs).failing fun _ _ h => h.1)
    fun peer => ?_
  refine .look fun c => ?_
  by_cases hc : Timeout.Usable c.timeoutMillis
  swap
  · rintro s ⟨hs, rfl⟩
    exact absurd hs hc
  obtain ⟨hmillis, limit, hlimit⟩ := hc
  dsimp only
  rw [hlimit]
  have hnegative := Timeout.isNegative_of_ofMillis hmillis hlimit
  have dialled := (Meets.net (Net.meets_dialData peer.address hnegative)).start
    fun (s : Live Channel) (_ : Timeout.Usable s.self.timeoutMillis ∧ s.self = c) => trivial
  refine .value (.bind (.rescue dialled fun e => ?_) fun h => ?_)
  · rintro s ⟨why, rfl⟩
    exact ⟨_, rfl⟩
  · refine .bind (Q := fun _ s => (s.net.sockets h).isOpen = true) ?_ fun _ => ?_
    · refine (Fails.call (Net.fails_log _ _ _)).keeps (unmoved_log _ _ _) fun s t hs h' => ?_
      rwa [h']
    · exact .pure fun s hs => ⟨rfl, h, rfl, hs⟩

end Negotiation

end FtpControl
