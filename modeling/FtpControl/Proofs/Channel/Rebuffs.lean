import FtpControl.Proofs.Channel.Faults
import FtpControl.Proofs.Channel.Operations
import FtpControl.Proofs.Channel.Wire
import FtpControl.Proofs.Endpoint.Refusal

/-!
# A channel that is not connected

Nothing can be done with a channel that is not connected but to connect it, once. All else is
refused, without a trace on the network or the channel. What takes the connection away, an error
of the transport or the end of the session, thus has the last word.
-/

namespace FtpControl

open Effect Live

/-- Faults by which a control connection comes to nothing. -/
def Fault.OfTransport : Fault → Prop
  | readFailed _ | emptyReply | truncatedReply _ | connectFailed .. | sendFailed _
  | releaseFailed _ => True
  | _ => False

theorem Fault.OfTransport.kind {f : Fault} (h : f.OfTransport) : f.kind = .io := by
  cases f with
  | readFailed why => rfl
  | emptyReply => rfl
  | truncatedReply code => rfl
  | connectFailed peer why => rfl
  | sendFailed why => rfl
  | releaseFailed why => rfl
  | _ => exact h.elim

def Failure.OfTransport (e : Failure) : Prop :=
  ∃ f, e = .fault f ∧ f.OfTransport

theorem Failure.OfTransport.isFault {e : Failure} (h : e.OfTransport) : e.IsFault := by
  obtain ⟨f, hf, -⟩ := h
  exact ⟨f, hf⟩

namespace Channel

variable {α β : Type} {s : Live Channel} {op : Operation}

/-! ## Refusals -/

/-- What can be asked of a channel that is not connected but is not open to it. -/
def Operation.Barred (state : ChannelState) : Operation → Prop
  | connect .. => state = .closed
  | setTracing _ => False
  | _ => True

/-- The answer to that. -/
def Operation.rebuff (state : ChannelState) : Operation → Except Failure Answer
  | connect .. => .error (.fault (.connectIn state))
  | send _ | negotiate .passive => .error (.fault (.notConnected "send a command" state))
  | read => .error (.fault (.notConnected "read a reply" state))
  | localHost | negotiate .active =>
    .error (.fault (.notConnected "read the local address" state))
  | remoteAddress | remoteHostName =>
    .error (.fault (.notConnected "read the remote address" state))
  | setTimeout _ => .error (.fault .noSocket)
  | logout => .error (.fault (.notConnected "logout" state))
  | close => if state = .closed then .ok .nothing else .error (.fault .neverConnected)
  | setTracing _ | leave => .ok .nothing

theorem rebuff_cases (h : op.Barred s.self.state) :
    (op.rebuff s.self.state = .ok .nothing ∧
      (op = .close ∧ s.self.state = .closed ∨ op = .leave)) ∨
        ∃ f, op.rebuff s.self.state = .error (.fault f) ∧ f.kind = .illegalState := by
  cases op with
  | setTracing on => exact h.elim
  | close =>
    by_cases hclosed : s.self.state = .closed
    · exact .inl ⟨if_pos hclosed, .inl ⟨rfl, hclosed⟩⟩
    · exact .inr ⟨_, if_neg hclosed, rfl⟩
  | leave => exact .inl ⟨rfl, .inr rfl⟩
  | negotiate mode => cases mode <;> exact .inr ⟨_, rfl, rfl⟩
  | _ => exact .inr ⟨_, rfl, rfl⟩

theorem run_send_of_idle (hstate : s.self.state ≠ .connected) (command : String) :
    (send command).run s =
      (.error (.fault (.notConnected "send a command" s.self.state)), s) :=
  run_bind_error (run_requireConnected_of_idle hstate _)

theorem run_localHost_of_idle (hstate : s.self.state ≠ .connected) :
    localHost.run s =
      (.error (.fault (.notConnected "read the local address" s.self.state)), s) :=
  run_bind_error (run_bind_error (run_requireConnected_of_idle hstate _))

theorem run_remoteAddress_of_idle (hstate : s.self.state ≠ .connected) :
    remoteAddress.run s =
      (.error (.fault (.notConnected "read the remote address" s.self.state)), s) :=
  run_bind_error (run_bind_error (run_requireConnected_of_idle hstate _))

theorem run_map_error {f : α → β} {m : Op Channel α} {e : Failure} {t : Live Channel}
    (h : m.run s = (.error e, t)) : (f <$> m).run s = (.error e, t) := by
  rw [run_map, h]
  rfl

/-- One operation that is refused. -/
theorem run_perform_of_idle (hstate : s.self.state ≠ .connected) (hsocket : s.self.socket = none)
    (h : op.Barred s.self.state) : op.perform.run s = (op.rebuff s.self.state, s) := by
  cases op with
  | connect peer millis =>
    apply run_map_error
    have hclosed : s.self.state ≠ .unconnected := by rw [show s.self.state = .closed from h]; simp
    exact run_connect_again hclosed peer millis
  | send command => exact run_map_error (run_send_of_idle hstate command)
  | read => exact run_map_error (run_bind_error (run_requireConnected_of_idle hstate _))
  | setTimeout millis =>
    apply run_bind_error
    rw [Channel.setTimeout, run_look, hsocket]
    rfl
  | setTracing on => exact h.elim
  | localHost => exact run_map_error (run_localHost_of_idle hstate)
  | remoteAddress => exact run_map_error (run_remoteAddress_of_idle hstate)
  | remoteHostName =>
    exact run_map_error (run_bind_error (run_remoteAddress_of_idle hstate))
  | negotiate mode =>
    cases mode with
    | active => exact run_map_error (run_bind_error (run_localHost_of_idle hstate))
    | passive => exact run_map_error (run_bind_error (run_send_of_idle hstate _))
  | logout => exact run_bind_error (run_bind_error (run_requireConnected_of_idle hstate _))
  | close =>
    rw [Operation.perform, Channel.close, run_bind, run_look]
    cases hclosed : s.self.state with
    | unconnected => rfl
    | connected => exact absurd hclosed hstate
    | closed => rfl
  | leave =>
    rw [Operation.perform, closing, run_ensure, run_pure]
    dsimp only
    rw [run_look, if_neg hstate]
    rfl

/-- One operation after the other, and what comes of each. -/
def performAll : List Operation → Op Channel (List (Except Failure Answer))
  | [] => pure []
  | op :: rest => do
    let first ← attempt op.perform
    let later ← performAll rest
    return first :: later

theorem run_performAll_cons (op : Operation) (rest : List Operation) (s : Live Channel) :
    (performAll (op :: rest)).run s =
      (((performAll rest).run (op.perform.run s).2).1.map ((op.perform.run s).1 :: ·),
        ((performAll rest).run (op.perform.run s).2).2) := by
  rw [performAll, run_bind, run_attempt]
  dsimp only
  rw [run_bind]
  rcases (performAll rest).run (op.perform.run s).2 with ⟨e | later, t⟩ <;> rfl

theorem run_performAll_of_idle (hstate : s.self.state ≠ .connected)
    (hsocket : s.self.socket = none) {ops : List Operation}
    (hops : ∀ op ∈ ops, op.Barred s.self.state) :
    (performAll ops).run s = (.ok (ops.map (Operation.rebuff s.self.state)), s) := by
  induction ops with
  | nil => rfl
  | cons op rest ih =>
    have hop := run_perform_of_idle hstate hsocket (hops op List.mem_cons_self)
    rw [run_performAll_cons, hop, ih fun op hmem => hops op (List.mem_cons_of_mem _ hmem)]
    rfl

/-! ## Commands are for connected channels -/

theorem mute_of_idle (hs : Reachable s) (hstate : s.self.state ≠ .connected) (op : Operation) :
    (op.perform.run s).2.net.sent = s.net.sent := by
  have hsocket := (hs.lifecycle.sound.bare hstate).1
  by_cases hbarred : op.Barred s.self.state
  · rw [run_perform_of_idle hstate hsocket hbarred]
  · cases op with
    | connect peer millis =>
      rw [Operation.perform, run_map]
      exact (within_connect peer millis s).sent
    | setTracing on => rfl
    | _ => exact absurd trivial hbarred

theorem closed_of_perform (hs : Reachable s) (hclosed : s.self.state = .closed)
    (op : Operation) : (op.perform.run s).2.self.state = .closed := by
  have hadvances := (orderly_perform op s hs.lifecycle).2
  rw [hclosed] at hadvances
  generalize (op.perform.run s).2.self.state = state at hadvances
  cases hadvances
  rfl

/-- Behind the end of a channel nothing is sent any more. -/
theorem mute_performAll_of_closed (hs : Reachable s) (hclosed : s.self.state = .closed)
    (ops : List Operation) : ((performAll ops).run s).2.net.sent = s.net.sent := by
  induction ops generalizing s with
  | nil => rfl
  | cons op rest ih =>
    have hidle : s.self.state ≠ .connected := by simp [hclosed]
    rw [run_performAll_cons]
    exact (ih (.after op hs) (closed_of_perform hs hclosed op)).trans (mute_of_idle hs hidle op)

/-! ## The end of a channel -/

/-- Operations that leave the channel closed if they fail with an error of the transport. -/
abbrev Severs (m : Op Channel α) : Prop :=
  Meets (fun _ => True) m (fun _ _ => True) fun e t => e.OfTransport → t.self.state = .closed

theorem severs_of_fails {m : Op Channel α} (hm : Fails (fun e => ¬ e.OfTransport) m) : Severs m :=
  hm.meets.failing fun _ _ hs h => absurd h hs

theorem not_ofTransport {e : Failure} (h : ¬ e.IsFault) : ¬ e.OfTransport :=
  fun he => h he.isFault

theorem severs_call {m : Net α} (hm : Fails Failure.IsSystem m) : Severs (call m) :=
  severs_of_fails (.call fun net e he => not_ofTransport (hm net e he).not_isFault)

theorem severs_pure (a : α) : Severs (pure a : Op Channel α) :=
  .pure fun _ _ => trivial

theorem severs_change (f : Channel → Channel) : Severs (change f) :=
  .change fun _ _ => trivial

theorem severs_look {f : Channel → Op Channel α} (h : ∀ c, Severs (f c)) :
    Severs (this >>= f) := by
  apply Meets.look
  intro c
  exact (h c).start fun _ _ => trivial

theorem severs_log (source : LogSource) (level : LogLevel) (message : String) :
    Severs (call (Net.log source level message)) :=
  severs_of_fails (.call (Net.fails_log _ _ _))

theorem severs_ofMillis (millis : Int) : Severs (ofExcept (Timeout.ofMillis millis)) := by
  apply severs_of_fails
  apply Fails.ofExcept
  rintro e he ⟨f, rfl, -⟩
  cases Timeout.ofMillis_error he

theorem severs_fault {f : Fault} (h : ¬ f.OfTransport) : Severs (fault f : Op Channel α) := by
  apply Meets.fail
  rintro _ - ⟨_, ⟨⟩, hf⟩
  exact absurd hf h

theorem severs_validate (expected : List String) (reply : Reply) :
    Severs (ofExcept (validate expected reply)) := by
  apply severs_of_fails
  apply Fails.ofExcept
  rintro e he ⟨f, rfl, hf⟩
  cases validate_error he
  exact hf

theorem severs_requireConnected (action : String) : Severs (requireConnected action) := by
  apply severs_look
  intro c
  split_ifs
  · exact severs_pure _
  · exact severs_fault id

theorem closes_release : Keeps (fun _ t => t.self.state = .closed) release := by
  apply keeps_release
  rintro s t ⟨ht, -⟩
  rw [ht]
  rfl

theorem closes_releaseQuietly : Keeps (fun _ t => t.self.state = .closed) releaseQuietly := by
  intro s
  obtain ⟨⟨⟩, t, hrun, ht, -⟩ := (meets_releaseQuietly s.self s.net.ledger).result ⟨rfl, rfl⟩
  rw [hrun, ht]
  rfl

/-- A failure that is reported once the channel has been released. -/
theorem severs_abandon (e : Failure) :
    Severs (do
      releaseQuietly
      fail e : Op Channel α) := by
  apply Meets.bind (Q := fun _ t => t.self.state = .closed)
  · exact (Meets.ofKeeps closes_releaseQuietly fun _ _ _ ht => ht).failing fun _ _ ht _ => ht
  intro _
  exact .fail fun _ ht _ => ht

theorem severs_readReply : Severs readReply := by
  apply Meets.bind (severs_requireConnected _)
  intro _
  apply Meets.rescue fails_receive.meets
  rintro e s ⟨f, rfl⟩
  have abandoned : Severs (do
      log .error s!"✗ Control connection lost: {f.message}"
      releaseQuietly
      fail (.fault f) : Op Channel Reply) :=
    .bind (severs_log _ _ _) fun _ => severs_abandon _
  dsimp only
  split_ifs with hkind
  · exact abandoned s trivial
  · exact severs_fault (α := Reply) (fun hf => hkind hf.kind) s trivial

theorem severs_transmit (command : String) : Severs (transmit command) := by
  apply severs_look
  intro c
  cases c.writer with
  | none => exact severs_fault id
  | some n =>
    apply Meets.rescue (Fails.call (Net.fails_transmit n _)).meets
    rintro e s ⟨why, rfl⟩
    exact severs_abandon _ s trivial

theorem not_isFault_of_masked {command : String} {e : Failure}
    (h : Command.masked command = .error e) : ¬ e.IsFault := by
  unfold Command.masked at h
  dsimp only at h
  split_ifs at h
  split at h
  · cases h
    rintro ⟨f, ⟨⟩⟩
  · cases h

theorem severs_send (command : String) : Severs (send command) := by
  apply Meets.bind (severs_requireConnected _)
  intro _
  have masked := Fails.ofExcept (σ := Live Channel) (r := Command.masked command)
    fun e he => not_ofTransport (not_isFault_of_masked he)
  apply Meets.bind (severs_of_fails masked)
  intro shown
  apply Meets.bind (severs_log _ _ _)
  intro _
  exact .bind (severs_transmit command) fun _ => severs_readReply

theorem severs_setTimeout (millis : Int) : Severs (setTimeout millis) := by
  apply severs_look
  intro c
  cases c.socket with
  | none => exact severs_fault id
  | some n =>
    exact severs_of_fails ((fails_applyTimeout n millis).imp fun _ he => not_ofTransport he.1)

theorem severs_connectedSocket (action : String) : Severs (connectedSocket action) := by
  apply Meets.bind (severs_requireConnected _)
  intro _
  apply severs_look
  intro c
  cases c.socket with
  | none => exact severs_fault id
  | some n => exact severs_pure n

theorem severs_localHost : Severs localHost := by
  apply Meets.bind (severs_connectedSocket _)
  intro h
  exact .bind (severs_call (Net.fails_ownAddress h)) fun _ => severs_pure _

theorem severs_remoteAddress : Severs remoteAddress := by
  apply Meets.bind (severs_connectedSocket _)
  intro h
  exact severs_call (Net.fails_peerAddress h)

theorem severs_remoteHostName : Severs remoteHostName := by
  apply Meets.bind severs_remoteAddress
  intro peer
  apply Meets.rescue (Fails.call (Net.fails_lookUp _)).meets
  rintro e s ⟨why, rfl⟩
  trivial

theorem severs_announce (n : Nat) (host : String) : Severs (Negotiation.announce n host) := by
  apply Meets.bind (severs_call (Net.fails_bind n host))
  intro _
  apply Meets.bind (severs_call (Net.fails_listen n 1))
  intro _
  apply Meets.bind (severs_call (Net.fails_ownAddress _))
  intro own
  apply Meets.bind (severs_log _ _ _)
  intro _
  split
  · apply Meets.value
    apply Meets.bind (severs_send _)
    intro answer
    apply Meets.bind (severs_validate _ _)
    intro reply
    exact severs_look fun _ => severs_pure _
  · next f hf =>
    have hkind : ¬ f.OfTransport := by
      unfold Endpoint.ofAddress at hf
      split at hf
      · cases hf
        exact id
      · split_ifs at hf
        cases hf
        exact id
    exact severs_fault hkind

theorem severs_active : Severs Negotiation.active := by
  apply Meets.bind severs_localHost
  intro host
  apply Meets.bind (severs_of_fails (.call Net.fails_openListener))
  intro n
  apply Meets.rescue (severs_announce n host)
  intro e
  apply Meets.bind (Q := fun _ t => e.OfTransport → t.self.state = .closed)
  · apply ((Fails.call (Net.fails_close (.listener n))).along
      (R := fun s t : Live Channel => t.self = s.self) (fun _ => rfl)
      fun _ _ hs hst => hst ▸ hs).failing
    exact fun _ _ hs h => absurd h (not_ofTransport hs.1.not_isFault)
  intro _
  split
  · apply Meets.fail
    rintro _ - ⟨_, ⟨⟩, hf⟩
    exact hf.elim
  · exact .fail fun _ hs => hs

theorem severs_passive : Severs Negotiation.passive := by
  apply Meets.bind (severs_send _)
  intro answer
  apply Meets.bind (severs_validate _ _)
  intro reply
  apply Meets.bind
  · unfold Negotiation.passiveEndpoint
    split
    · exact .bind (severs_log _ _ _) fun _ => severs_pure _
    · next f hf =>
      apply severs_fault
      intro htransport
      have hkind := Endpoint.kind_of_ofPassive_error hf
      rw [htransport.kind] at hkind
      contradiction
  intro peer
  apply severs_look
  intro c
  apply Meets.bind (severs_ofMillis c.timeoutMillis)
  intro limit
  apply Meets.bind (Q := fun _ _ => True)
  · apply Meets.rescue (Fails.call (Net.fails_dialData _ _)).meets
    intro e
    split
    · apply Meets.fail
      rintro _ - ⟨_, ⟨⟩, hf⟩
      exact hf.elim
    · exact .fail fun _ he h => absurd h (not_ofTransport he.1)
  intro h
  exact .bind (severs_log _ _ _) fun _ => severs_pure _

theorem severs_dial (peer : Target) (millis : Int) : Severs (dial peer millis) := by
  apply Meets.bind (severs_ofMillis millis)
  intro limit
  apply Meets.bind (Q := fun _ _ => True)
  · apply Meets.rescue (Fails.call (Net.fails_dialControl _ _)).meets
    intro e
    split
    · apply Meets.bind (Q := fun _ t => t.self.state = .closed) (.change fun _ _ => rfl)
      intro _
      apply Meets.bind (Q := fun _ t => t.self.state = .closed)
      · exact (fails_log _ _).keeps (R := fun s t : Live Channel => t.self = s.self)
          (fun _ => rfl) fun _ _ hs hst => hst ▸ hs
      intro _
      exact .fail fun _ hs _ => hs
    · exact .fail fun _ he h => absurd h (not_ofTransport he.1)
  intro n
  exact .bind (severs_change _) fun _ => severs_pure n

theorem severs_connect (peer : Target) (millis : Int) : Severs (connect peer millis) := by
  apply severs_look
  intro c
  split_ifs
  · exact severs_fault id
  apply Meets.bind (severs_change _)
  intro _
  apply Meets.bind (severs_log _ _ _)
  intro _
  apply Meets.bind (severs_dial peer millis)
  intro n
  apply Meets.bind (Q := fun _ _ => True)
  · apply Meets.rescue (Meets.trivial _ _)
    intro e
    apply Meets.bind (severs_log _ _ _)
    intro _
    apply Meets.bind (severs_change _)
    intro _
    exact severs_abandon e
  intro reply
  apply Meets.bind (severs_change _)
  intro _
  exact .bind (severs_log _ _ _) fun _ => severs_pure reply

theorem closed_of_close (hstate : s.self.state ≠ .unconnected) :
    (close.run s).2.self.state = .closed := by
  rw [close, run_look]
  cases hcase : s.self.state with
  | unconnected => exact absurd hcase hstate
  | connected => exact closes_release s
  | closed => exact hcase

/-- Operations that end the session. -/
def Operation.Parting (op : Operation) : Prop :=
  op = .logout ∨ op = .close ∨ op = .leave

theorem closed_of_logout (hs : Reachable s) (hstate : s.self.state = .connected) :
    (logout.run s).2.self.state = .closed := by
  rw [logout_eq, run_bind_ok (run_requireConnected hstate _), snd_run_ensure]
  apply closed_of_close
  have hadvances := (negotiating_orderly.farewell s hs.lifecycle).2
  intro hunconnected
  rw [hunconnected, hstate] at hadvances
  cases hadvances

theorem closed_of_parting (hs : Reachable s) (hstate : s.self.state = .connected)
    (hop : op.Parting) : (op.perform.run s).2.self.state = .closed := by
  have hidle : s.self.state ≠ .unconnected := by simp [hstate]
  have done : ∀ m : Op Channel Unit,
      ((do m; return .nothing : Op Channel Answer).run s).2 = (m.run s).2 := by
    intro m
    rw [run_bind]
    rcases m.run s with ⟨e | ⟨⟩, t⟩ <;> rfl
  obtain rfl | rfl | rfl := hop
  · rw [Operation.perform, done]
    exact closed_of_logout hs hstate
  · rw [Operation.perform, done]
    exact closed_of_close hidle
  · rw [Operation.perform, closing, snd_run_ensure, run_pure, run_look, if_pos hstate]
    exact closed_of_close hidle

theorem severs_perform (hop : ¬ op.Parting) : Severs op.perform := by
  cases op with
  | connect peer millis => exact .map _ (severs_connect peer millis)
  | send command => exact .map _ (severs_send command)
  | read => exact .map _ severs_readReply
  | setTimeout millis => exact .bind (severs_setTimeout millis) fun _ => severs_pure _
  | setTracing on => exact .bind (severs_change _) fun _ => severs_pure _
  | localHost => exact .map _ severs_localHost
  | remoteAddress => exact .map _ severs_remoteAddress
  | remoteHostName => exact .map _ severs_remoteHostName
  | negotiate mode =>
    cases mode with
    | active => exact .map _ severs_active
    | passive => exact .map _ severs_passive
  | logout => exact absurd (.inl rfl) hop
  | close => exact absurd (.inr (.inl rfl)) hop
  | leave => exact absurd (.inr (.inr rfl)) hop

/-- An operation that takes the connection away: it ends the session or fails with an error of
the transport. -/
def Ends (s : Live Channel) (op : Operation) : Prop :=
  (s.self.state = .connected ∧ op.Parting) ∨
    ∃ e, (op.perform.run s).1 = .error e ∧ e.OfTransport

theorem closed_of_ends (hs : Reachable s) (hends : Ends s op) :
    (op.perform.run s).2.self.state = .closed := by
  obtain ⟨hstate, hop⟩ | ⟨e, he, htransport⟩ := hends
  · exact closed_of_parting hs hstate hop
  by_cases hop : op.Parting
  · by_cases hstate : s.self.state = .connected
    · exact closed_of_parting hs hstate hop
    · -- A parting that is refused fails with an error that is none of the transport.
      have hbarred : op.Barred s.self.state := by obtain rfl | rfl | rfl := hop <;> trivial
      rw [run_perform_of_idle hstate (hs.lifecycle.sound.bare hstate).1 hbarred] at he
      obtain ⟨hnothing, -⟩ | ⟨f, hf, hkind⟩ := rebuff_cases hbarred
      · rw [hnothing] at he
        contradiction
      · rw [hf] at he
        cases he
        obtain ⟨f, ⟨⟩, hf⟩ := htransport
        rw [hf.kind] at hkind
        contradiction
  · have ht := severs_perform hop s trivial
    rcases hrun : op.perform.run s with ⟨e' | a, t⟩ <;> rw [hrun] at ht he
    · cases he
      exact ht htransport
    · contradiction

/-- On a channel that is not connected nothing happens: whatever is asked of it, but to connect a
new one, is refused, and neither the network nor the channel is touched. So commands are only sent
once the greeting has been accepted, and never behind the end of the session or an error of the
transport. -/
theorem rebuffed_of_reachable (hs : Reachable s) :
    (s.self.state ≠ .connected → ∀ ops : List Operation, (∀ op ∈ ops, op.Barred s.self.state) →
      (performAll ops).run s = (.ok (ops.map (Operation.rebuff s.self.state)), s) ∧
        ∀ op ∈ ops, (op.rebuff s.self.state = .ok .nothing ∧
          (op = .close ∧ s.self.state = .closed ∨ op = .leave)) ∨
            ∃ f, op.rebuff s.self.state = .error (.fault f) ∧ f.kind = .illegalState) ∧
      (∀ op : Operation, (op.perform.run s).2.net.sent ≠ s.net.sent →
        s.self.state = .connected ∧
          ∃ banner, s.self.banner = some banner ∧ banner.code.toString = "220") ∧
        ∀ op : Operation, Ends s op → ∀ ops : List Operation,
          ((performAll ops).run (op.perform.run s).2).2.net.sent =
            (op.perform.run s).2.net.sent := by
  have hsound := hs.lifecycle.sound
  constructor
  · intro hstate ops hops
    constructor
    · exact run_performAll_of_idle hstate (hsound.bare hstate).1 hops
    · exact fun op hop => rebuff_cases (hops op hop)
  constructor
  · intro op hsent
    by_cases hstate : s.self.state = .connected
    · exact ⟨hstate, hsound.greeted hstate⟩
    · exact absurd (mute_of_idle hs hstate op) hsent
  · intro op hends ops
    exact mute_performAll_of_closed (.after op hs) (closed_of_ends hs hends) ops

/-- A channel that has been closed lets its caller close it again, and nothing else. -/
theorem rebuffed_of_briefVisit :
    briefVisit.self.state ≠ .connected ∧
      (performAll [.send "NOOP", .negotiate .active, .close, .logout]).run briefVisit =
        (.ok [.error (.fault (.notConnected "send a command" .closed)),
          .error (.fault (.notConnected "read the local address" .closed)), .ok .nothing,
          .error (.fault (.notConnected "logout" .closed))], briefVisit) := by
  have hclosed : briefVisit.self.state = .closed := by decide +kernel
  have hidle : briefVisit.self.state ≠ .connected := by simp [hclosed]
  obtain ⟨hrebuffed, -⟩ := rebuffed_of_reachable reachable_briefVisit
  obtain ⟨hrun, -⟩ := hrebuffed hidle [.send "NOOP", .negotiate .active, .close, .logout]
    (by simp [Operation.Barred])
  rw [hclosed] at hrun
  exact ⟨hidle, hrun⟩

end Channel

end FtpControl
