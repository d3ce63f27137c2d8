import FtpControl.Session
import FtpControl.Proofs.Channel.Connecting

/-!
# Operations of a channel

All that a caller can do with a channel, in any order and on any network, including
negotiations over it and leaving a block that the channel was opened for.
-/

namespace FtpControl

open Effect Live

namespace Channel

inductive Operation where
  | connect (peer : Target) (timeoutMillis : Int)
  | send (command : String)
  | read
  | setTimeout (millis : Int)
  | setTracing (on : Bool)
  | localHost
  | remoteAddress
  | remoteHostName
  | negotiate (mode : DataMode)
  | logout
  | close
  /-- The end of a block that closes the channel unless it is not connected. -/
  | leave

def Operation.perform : Operation → Op Channel Answer
  | connect peer timeoutMillis => .reply <$> Channel.connect peer timeoutMillis
  | send command => .reply <$> Channel.send command
  | read => .reply <$> readReply
  | setTimeout millis => do
    Channel.setTimeout millis
    return .nothing
  | setTracing on => do
    change fun c => { c with tracing := on }
    return .nothing
  | localHost => .text <$> Channel.localHost
  | remoteAddress => .address <$> Channel.remoteAddress
  | remoteHostName => .text <$> Channel.remoteHostName
  | negotiate mode => .negotiated <$> Negotiation.run mode
  | logout => do
    Channel.logout
    return .nothing
  | close => do
    Channel.close
    return .nothing
  | leave => closing (pure .nothing)

/-- A new channel, on a network without a control connection as yet, after any number of its
operations, with anything done to the rest of the network in between. -/
inductive Reachable : Live Channel → Prop
  | start {net : Network} (h : net.controlLedger = .held []) : Reachable ⟨{}, net⟩
  | after (op : Operation) {s : Live Channel} (h : Reachable s) : Reachable (op.perform.run s).2
  | elsewhere {c : Channel} {net net' : Network} (h : Reachable ⟨c, net⟩)
      (hnet : net'.controlLedger = net.controlLedger) : Reachable ⟨c, net'⟩

/-! ## What operations keep -/

/-- Operations that may change what the channel knows of its server, or whether it traces. -/
def Operation.Marking : Operation → Prop
  | connect .. | setTracing _ => True
  | _ => False

/-- Relations kept by all that the other operations may involve, but for setting the time limit. -/
structure Inquiring (R : Live Channel → Live Channel → Prop) : Prop extends Negotiating R where
  peerAddress : ∀ h, Keeps R (call (Net.peerAddress h) : Op Channel Address)
  lookUp : ∀ host, Keeps R (call (Net.lookUp host) : Op Channel String)

/-- Relations kept by all that the other operations may involve. -/
structure Operating (R : Live Channel → Live Channel → Prop) : Prop extends Inquiring R where
  applyTimeout : ∀ n millis, Keeps R (applyTimeout n millis)

section Kept

variable {R : Live Channel → Live Channel → Prop} [IsPreorder (Live Channel) R]

theorem Inquiring.remoteAddress (h : Inquiring R) : Keeps R remoteAddress :=
  .bind (keeps_connectedSocket _) fun _ => h.peerAddress _

theorem Inquiring.remoteHostName (h : Inquiring R) : Keeps R remoteHostName := by
  apply Keeps.bind h.remoteAddress
  intro peer
  apply Keeps.rescue (h.lookUp _)
  intro e
  split
  · exact .pure _
  · exact .fail _

theorem Inquiring.perform (h : Inquiring R) {op : Operation} (hop : ¬ op.Marking)
    (hlimit : ∀ millis, op ≠ .setTimeout millis) : Keeps R op.perform := by
  cases op with
  | connect peer millis => exact absurd trivial hop
  | send command => exact .map _ (h.send command)
  | read => exact .map _ h.readReply
  | setTimeout millis => exact absurd rfl (hlimit millis)
  | setTracing on => exact absurd trivial hop
  | localHost => exact .map _ h.localHost
  | remoteAddress => exact .map _ h.remoteAddress
  | remoteHostName => exact .map _ h.remoteHostName
  | negotiate mode => exact .map _ (h.negotiation mode)
  | logout => exact .bind h.logout fun _ => .pure _
  | close => exact .bind h.close fun _ => .pure _
  | leave => exact .ensure (.pure _) (.bind .this fun _ => .ite h.close (.pure _))

theorem Operating.setTimeout (h : Operating R) (millis : Int) : Keeps R (setTimeout millis) := by
  apply Keeps.bind (R := R) .this
  intro c
  cases c.socket with
  | none => exact .fail _
  | some n => exact h.applyTimeout n millis

theorem Operating.perform (h : Operating R) {op : Operation} (hop : ¬ op.Marking) :
    Keeps R op.perform := by
  by_cases hlimit : ∀ millis, op ≠ .setTimeout millis
  · exact h.toInquiring.perform hop hlimit
  · obtain ⟨millis, rfl⟩ := not_forall_not.mp hlimit
    exact .bind (h.setTimeout millis) fun _ => .pure _

end Kept

theorem operating_orderly : Operating Orderly where
  toNegotiating := negotiating_orderly
  applyTimeout n millis := orderly_aside (aside_applyTimeout n millis)
  peerAddress _ := orderly_aside (aside_call (Net.quiet_peerAddress _))
  lookUp _ := orderly_aside (aside_call (Net.quiet_lookUp _))

theorem orderly_perform (op : Operation) : Keeps Orderly op.perform := by
  by_cases hop : op.Marking
  swap
  · exact operating_orderly.perform hop
  cases op with
  | connect peer millis => exact .map _ (orderly_connect peer millis)
  | setTracing on =>
    refine .bind (orderly_aside (.change fun _ => ?_)) fun _ => .pure _
    exact ⟨rfl, rfl, rfl, rfl, rfl, rfl, id, rfl⟩
  | _ => exact hop.elim

theorem Reachable.lifecycle {s : Live Channel} (h : Reachable s) : Lifecycle s := by
  induction h with
  | start hnet => exact ⟨0, ⟨rfl, rfl, rfl, rfl⟩, hnet⟩
  | after op _ ih => exact (orderly_perform op _ ih).1
  | elsewhere _ hnet ih => exact lifecycle_of_control hnet ih

/-- What a caller can rely on between two operations. -/
structure Sound (s : Live Channel) : Prop where
  connected_iff : s.self.state = .connected ↔
    (s.self.socket.isSome ∧ s.self.reader.isSome ∧ s.self.writer.isSome ∧ s.self.replies.isSome) ∧
      ∀ h ∈ s.self.resources, (s.net.sockets h).isOpen = true ∧ s.net.events.count (.close h) = 0
  greeted : s.self.state = .connected →
    ∃ banner, s.self.banner = some banner ∧ banner.code.toString = "220"
  bare : s.self.state ≠ .connected →
    s.self.socket = none ∧ s.self.reader = none ∧ s.self.writer = none ∧ s.self.replies = none
  /-- At most one control socket was ever opened, and no stream but its own. -/
  oneLine : ∃ n, s.net.opened.filter Handle.onControl <+: Handle.line n
  closedOnce : s.self.state = .closed → ∀ h ∈ s.net.opened, h.onControl = true →
    (s.net.sockets h).isOpen = false ∧ s.net.events.count (.close h) = 1

theorem nodup_line (n : Nat) : (Handle.line n).Nodup := by
  simp [Handle.line]

section Entries

variable {net : Network} {hs : List Handle} {h : Handle}

theorem entries_of_held (hnet : net.controlLedger = .held hs) (hc : h.onControl = true)
    (hh : h ∈ hs) : (net.sockets h).isOpen = true ∧ net.events.count (.close h) = 0 := by
  have hopen := congrFun (congrArg Ledger.isOpen hnet) h
  have hclosings := congrFun (congrArg Ledger.closings hnet) h
  constructor
  · simpa [Network.controlLedger, Ledger.restrict, Network.ledger, Ledger.held, hc, hh] using hopen
  · simpa [Network.controlLedger, Ledger.restrict, Network.ledger, Ledger.held, hc] using hclosings

theorem entries_of_released (hnet : net.controlLedger = .released hs) (hc : h.onControl = true)
    (hh : h ∈ net.opened) (hnodup : hs.Nodup) :
    (net.sockets h).isOpen = false ∧ net.events.count (.close h) = 1 := by
  have hopened : net.opened.filter Handle.onControl = hs := congrArg Ledger.opened hnet
  have hopen := congrFun (congrArg Ledger.isOpen hnet) h
  have hclosings := congrFun (congrArg Ledger.closings hnet) h
  have hcount : hs.count h = 1 :=
    List.count_eq_one_of_mem hnodup (hopened ▸ List.mem_filter.2 ⟨hh, hc⟩)
  constructor
  · simpa [Network.controlLedger, Ledger.restrict, Network.ledger, Ledger.released, hc] using hopen
  · simpa [Network.controlLedger, Ledger.restrict, Network.ledger, Ledger.released, hc, hcount]
      using hclosings

theorem prefix_of_entries {n k : Nat} (h : net.controlLedger.opened = (Handle.line n).take k) :
    net.opened.filter Handle.onControl <+: Handle.line n := by
  have hopened : net.opened.filter Handle.onControl = (Handle.line n).take k := h
  rw [hopened]
  exact List.take_prefix k _

end Entries

/-- The first half of soundness where the channel holds nothing. -/
theorem connected_iff_of_bare {s : Live Channel} {n : Nat} (hstate : s.self.state ≠ .connected)
    (h : s.self.Equipped n 0) :
    s.self.state = .connected ↔
      (s.self.socket.isSome ∧ s.self.reader.isSome ∧ s.self.writer.isSome ∧
        s.self.replies.isSome) ∧
      ∀ h ∈ s.self.resources, (s.net.sockets h).isOpen = true ∧
        s.net.events.count (.close h) = 0 := by
  obtain ⟨hsocket, -⟩ := h
  simp [hstate, hsocket]

theorem Lifecycle.sound {s : Live Channel} (h : Lifecycle s) : Sound s := by
  unfold Lifecycle at h
  cases hstate : s.self.state <;> rw [hstate] at h
  · obtain ⟨n, hself, hledger⟩ := h
    have hne : s.self.state ≠ .connected := by simp [hstate]
    refine ⟨connected_iff_of_bare hne hself, fun hc => absurd hc hne, fun _ => hself, ?_, ?_⟩
    · exact ⟨n, prefix_of_entries (congrArg Ledger.opened hledger)⟩
    · intro hc
      rw [hstate] at hc
      cases hc
  · obtain ⟨n, ⟨hself, hledger⟩, -, hbanner⟩ := h
    have hopen : ∀ h ∈ s.self.resources, (s.net.sockets h).isOpen = true ∧
        s.net.events.count (.close h) = 0 := by
      intro h hh
      rw [resources_of_equipped hself, List.mem_reverse] at hh
      exact entries_of_held hledger (onControl_of_mem_line (List.mem_of_mem_take hh)) hh
    obtain ⟨hsocket, hreader, hwriter, hreplies⟩ := hself
    refine ⟨⟨fun _ => ⟨?_, hopen⟩, fun _ => hstate⟩, fun _ => hbanner, ?_, ?_, ?_⟩
    · simp [hsocket, hreader, hwriter, hreplies]
    · exact fun hne => absurd hstate hne
    · exact ⟨n, prefix_of_entries (congrArg Ledger.opened hledger)⟩
    · intro hc
      rw [hstate] at hc
      cases hc
  · obtain ⟨n, k, hself, hledger⟩ := h
    have hne : s.self.state ≠ .connected := by simp [hstate]
    refine ⟨connected_iff_of_bare hne hself, fun hc => absurd hc hne, fun _ => hself, ?_, ?_⟩
    · exact ⟨n, prefix_of_entries (congrArg Ledger.opened hledger)⟩
    · intro _ h hh hc
      exact entries_of_released hledger hc hh ((nodup_line n).sublist (List.take_sublist k _))

/-- After any number of operations, whatever came of them, a channel is sound, and one more
only moves its state forward. -/
theorem sound_of_reachable {s : Live Channel} (h : Reachable s) :
    Sound s ∧ ∀ op : Operation, Advances s.self.state (op.perform.run s).2.self.state :=
  ⟨h.lifecycle.sound, fun op => (orderly_perform op s h.lifecycle).2⟩

/-- A server that greets and whose streams cannot be closed without an error. -/
def hostileServer : Network where
  script :=
    { controls := [{
        banner := Text.encodeUtf8 "220 ready\r\n".toList
        readerCloseError := some badDescriptor
        writerCloseError := some badDescriptor }] }

/-- The channel of a caller who connects to it and closes. -/
def briefVisit : Live Channel :=
  (Operation.close.perform.run
    ((Operation.connect ⟨some "ftp.test", 21⟩ 10000).perform.run ⟨{}, hostileServer⟩).2).2

theorem reachable_briefVisit : Reachable briefVisit :=
  .after _ (.after _ (.start (Ledger.restrict_held _ _)))

theorem sound_briefVisit : briefVisit.self.state = .closed ∧ Sound briefVisit :=
  ⟨by decide +kernel, (sound_of_reachable reachable_briefVisit).1⟩

end Channel

end FtpControl
