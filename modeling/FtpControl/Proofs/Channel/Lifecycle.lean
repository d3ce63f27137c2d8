import FtpControl.Proofs.Channel.Exchange
import FtpControl.Proofs.Channel.Release

/-!
# The life of a channel

What a channel holds is told by its state. An unconnected channel has opened nothing, a
connected one holds its socket, both streams and the reply reader, and a closed one holds
nothing and has closed all that it ever opened. Every operation keeps this, whatever the
network does; only connecting passes through states that are none of these.
-/

namespace FtpControl

open Effect Live

/-- Sockets and streams of control connections. -/
def Handle.onControl : Handle → Bool
  | control _ | reader _ | writer _ => true
  | data _ | listener _ | accepted _ => false

/-- A control connection, in the order in which it is opened. -/
def Handle.line (n : Nat) : List Handle :=
  [control n, reader n, writer n]

/-- The ledger of control connections. -/
def Network.controlLedger (net : Network) : Ledger :=
  net.ledger.restrict Handle.onControl

/-- The ledger of data connections and listeners. -/
def Network.dataLedger (net : Network) : Ledger :=
  net.ledger.restrict fun h => !h.onControl

namespace Channel

/-- Whether a channel holds the first `k` resources of control connection `n`. The reply
reader is made along with the last one. -/
def Equipped (n k : Nat) (c : Channel) : Prop :=
  c.socket = (if 1 ≤ k then some n else none) ∧
    c.reader = (if 2 ≤ k then some n else none) ∧
      c.writer = (if 3 ≤ k then some n else none) ∧
        c.replies = if 3 ≤ k then some n else none

/-- What the channel holds is open, and nothing else was ever opened. -/
def Custody (n k : Nat) (s : Live Channel) : Prop :=
  s.self.Equipped n k ∧ s.net.controlLedger = .held ((Handle.line n).take k)

def Lifecycle (s : Live Channel) : Prop :=
  match s.self.state with
  | .unconnected => ∃ n, Custody n 0 s
  | .connected =>
    ∃ n, Custody n 3 s ∧ Timeout.Usable s.self.timeoutMillis ∧
      ∃ banner, s.self.banner = some banner ∧ banner.code.toString = "220"
  | .closed =>
    ∃ n k, s.self.Equipped n 0 ∧ s.net.controlLedger = .released ((Handle.line n).take k)

/-- The moves that a state may make, or none. -/
inductive Advances : ChannelState → ChannelState → Prop
  | stay (state : ChannelState) : Advances state state
  | connect : Advances .unconnected .connected
  | abandon : Advances .unconnected .closed
  | close : Advances .connected .closed

theorem Advances.trans {a b c : ChannelState} (hab : Advances a b) (hbc : Advances b c) :
    Advances a c := by
  cases hab with
  | stay => exact hbc
  | connect =>
    cases hbc with
    | stay => exact .connect
    | close => exact .abandon
  | abandon =>
    cases hbc with
    | stay => exact .abandon
  | close =>
    cases hbc with
    | stay => exact .close

theorem Advances.of_unconnected (state : ChannelState) : Advances .unconnected state := by
  cases state with
  | unconnected => exact .stay _
  | connected => exact .connect
  | closed => exact .abandon

theorem Advances.eq_unconnected {state : ChannelState} (h : Advances state .unconnected) :
    state = .unconnected := by
  cases h
  rfl

/-- A run that leaves the life of the channel in order. -/
def Orderly (s t : Live Channel) : Prop :=
  Lifecycle s → Lifecycle t ∧ Advances s.self.state t.self.state

instance : IsPreorder (Live Channel) Orderly where
  refl _ hs := ⟨hs, .stay _⟩
  trans _ _ _ hst htu hs := by
    obtain ⟨ht, hadv⟩ := hst hs
    obtain ⟨hu, hadv'⟩ := htu ht
    exact ⟨hu, hadv.trans hadv'⟩

/-- A run that neither touches what the life of the channel is about nor makes any entry. -/
structure Aside (s t : Live Channel) : Prop where
  state : t.self.state = s.self.state
  banner : t.self.banner = s.self.banner
  socket : t.self.socket = s.self.socket
  reader : t.self.reader = s.self.reader
  writer : t.self.writer = s.self.writer
  replies : t.self.replies = s.self.replies
  limit : Timeout.Usable s.self.timeoutMillis → Timeout.Usable t.self.timeoutMillis
  ledger : t.net.ledger = s.net.ledger

instance : IsPreorder (Live Channel) Aside where
  refl _ := ⟨rfl, rfl, rfl, rfl, rfl, rfl, id, rfl⟩
  trans _ _ _ h h' :=
    ⟨h'.state.trans h.state, h'.banner.trans h.banner, h'.socket.trans h.socket,
      h'.reader.trans h.reader, h'.writer.trans h.writer, h'.replies.trans h.replies,
      fun hs => h'.limit (h.limit hs), h'.ledger.trans h.ledger⟩

variable {s t : Live Channel} {α : Type}

theorem Aside.controlLedger (h : Aside s t) : t.net.controlLedger = s.net.controlLedger :=
  congrArg (Ledger.restrict Handle.onControl) h.ledger

theorem Aside.equipped {n k : Nat} (h : Aside s t) (hs : s.self.Equipped n k) :
    t.self.Equipped n k := by
  obtain ⟨hsocket, hreader, hwriter, hreplies⟩ := hs
  exact ⟨h.socket.trans hsocket, h.reader.trans hreader, h.writer.trans hwriter,
    h.replies.trans hreplies⟩

theorem Aside.custody {n k : Nat} (h : Aside s t) (hs : Custody n k s) : Custody n k t :=
  ⟨h.equipped hs.1, h.controlLedger.trans hs.2⟩

theorem Aside.orderly (h : Aside s t) : Orderly s t := by
  intro hs
  refine ⟨?_, h.state ▸ .stay _⟩
  unfold Lifecycle at hs ⊢
  rw [h.state]
  cases hstate : s.self.state <;> rw [hstate] at hs
  · obtain ⟨n, hn⟩ := hs
    exact ⟨n, h.custody hn⟩
  · obtain ⟨n, hn, hlimit, hbanner⟩ := hs
    exact ⟨n, h.custody hn, h.limit hlimit, h.banner ▸ hbanner⟩
  · obtain ⟨n, k, hself, hledger⟩ := hs
    exact ⟨n, k, h.equipped hself, h.controlLedger.trans hledger⟩

/-! ## Operations aside -/

theorem aside_call {m : Net α} (hm : Net.Quiet m) : Keeps Aside (call m : Op Channel α) :=
  .call hm fun _ _ h => ⟨rfl, rfl, rfl, rfl, rfl, rfl, id, h⟩

theorem aside_log (level : LogLevel) (message : String) : Keeps Aside (log level message) :=
  aside_call (Net.quiet_log _ _ _)

theorem fails_log {E : Failure → Prop} (level : LogLevel) (message : String) :
    Fails E (log level message) :=
  .call (.update _)

theorem aside_requireConnected (action : String) : Keeps Aside (requireConnected action) :=
  keeps_requireConnected action

theorem aside_applyTimeout (n : Nat) (millis : Int) : Keeps Aside (applyTimeout n millis) := by
  by_cases hmillis : millis < 0
  · unfold applyTimeout
    rw [if_pos hmillis]
    exact .failed
  · unfold applyTimeout
    rw [if_neg hmillis]
    refine .given fun limit hlimit => .bind (aside_call (Net.quiet_setTimeout _ _)) fun _ => ?_
    refine .change fun _ => ⟨rfl, rfl, rfl, rfl, rfl, rfl, fun _ => ?_, rfl⟩
    exact ⟨not_lt.1 hmillis, limit, hlimit⟩

theorem aside_setTimeout (millis : Int) : Keeps Aside (setTimeout millis) := by
  refine .bind .this fun c => ?_
  cases c.socket with
  | none => exact .fail _
  | some n => exact aside_applyTimeout n millis

theorem aside_localHost : Keeps Aside localHost :=
  .bind (keeps_connectedSocket _) fun _ =>
    .bind (aside_call (Net.quiet_ownAddress _)) fun _ => .pure _

theorem aside_remoteAddress : Keeps Aside remoteAddress :=
  .bind (keeps_connectedSocket _) fun _ => aside_call (Net.quiet_peerAddress _)

theorem aside_remoteHostName : Keeps Aside remoteHostName := by
  refine .bind aside_remoteAddress fun peer => .rescue (aside_call (Net.quiet_lookUp _)) ?_
  intro e
  split
  · exact .pure _
  · exact .fail _

theorem aside_receive : Keeps Aside receive :=
  keeps_receive (fun _ _ _ => aside_call (Net.quiet_log _ _ _)) fun _ _ =>
    aside_call (Net.quiet_setSource _ _)

/-! ## Calls about other things -/

/-- Calls that make no entry about the handles of control connections. -/
abbrev Apart (m : Net α) : Prop :=
  Keeps (fun net net' => net'.controlLedger = net.controlLedger) m

theorem apart_opens {kind : Nat → Handle} {h : α → Handle} {m : Net α} (hm : Net.Opens kind h m)
    (hkind : ∀ n, (kind n).onControl = false) : Apart m := by
  intro net
  have ht := hm net.ledger net rfl
  rcases hr : m.run net with ⟨e | a, t⟩ <;> rw [hr] at ht
  · exact congrArg (Ledger.restrict Handle.onControl) ht
  · obtain ⟨⟨n, hn⟩, hledger⟩ := ht
    exact (congrArg (Ledger.restrict Handle.onControl) hledger).trans
      (Ledger.restrict_hand_of_not (hn ▸ hkind n) _)

theorem apart_close {h : Handle} (hh : h.onControl = false) : Apart (Net.close h) := by
  intro net
  exact (congrArg (Ledger.restrict Handle.onControl) (Net.ledger_close h net)).trans
    (Ledger.restrict_close_of_not hh _)

theorem apart_transmit (n : Nat) (bytes : List UInt8) : Apart (Net.transmit n bytes) := by
  intro net
  have ht := Net.meets_transmit n bytes net.ledger net rfl
  rcases hr : (Net.transmit n bytes).run net with ⟨e | a, t⟩ <;> rw [hr] at ht
  · exact congrArg (Ledger.restrict Handle.onControl) ht
  · exact (congrArg (Ledger.restrict Handle.onControl) ht).trans (Ledger.restrict_send _ _ _)

theorem lifecycle_of_control {c : Channel} {net net' : Network}
    (hnet : net'.controlLedger = net.controlLedger) (h : Lifecycle ⟨c, net⟩) :
    Lifecycle ⟨c, net'⟩ := by
  unfold Lifecycle Custody at h ⊢
  rw [hnet]
  exact h

theorem orderly_call {m : Net α} (hm : Apart m) : Keeps Orderly (call m : Op Channel α) :=
  fun s hs => ⟨lifecycle_of_control (hm s.net) hs, .stay _⟩

/-! ## Operations that may close the channel -/

theorem resources_of_equipped {c : Channel} {n k : Nat} (h : c.Equipped n k) :
    c.resources = ((Handle.line n).take k).reverse := by
  obtain ⟨hsocket, hreader, hwriter, -⟩ := h
  rw [resources, hsocket, hreader, hwriter]
  rcases k with _ | _ | _ | k <;> simp [Handle.line]

theorem restrict_foldl_close {p : Handle → Bool} {hs : List Handle} (h : ∀ k ∈ hs, p k = true)
    (l : Ledger) : (hs.foldl Ledger.close l).restrict p = hs.foldl Ledger.close (l.restrict p) := by
  induction hs generalizing l with
  | nil => rfl
  | cons k hs ih =>
    rw [List.foldl_cons, List.foldl_cons, ih fun j hj => h j (List.mem_cons_of_mem k hj),
      Ledger.restrict_close (h k List.mem_cons_self)]

theorem onControl_of_mem_line {n : Nat} {h : Handle} (hh : h ∈ Handle.line n) :
    h.onControl = true := by
  simp only [Handle.line, List.mem_cons, List.not_mem_nil, or_false] at hh
  rcases hh with rfl | rfl | rfl <;> rfl

theorem restrict_release {c : Channel} {n k : Nat} (hc : c.Equipped n k) {l : Ledger}
    (hl : l.restrict Handle.onControl = .held ((Handle.line n).take k)) :
    (c.resources.foldl Ledger.close l).restrict Handle.onControl =
      .released ((Handle.line n).take k) := by
  rw [resources_of_equipped hc, restrict_foldl_close, hl,
    Ledger.foldl_close_held (List.reverse_perm _)]
  intro h hh
  exact onControl_of_mem_line (List.mem_of_mem_take (List.mem_reverse.1 hh))

/-- A release ends in a proper closed state from any point of the way to a connection. -/
theorem AfterRelease.lifecycle {c : Channel} {n k : Nat} (hc : c.Equipped n k)
    {net : Network} (hnet : net.controlLedger = .held ((Handle.line n).take k))
    (h : AfterRelease c net.ledger t) : Lifecycle t ∧ t.self.state = .closed := by
  obtain ⟨hself, hledger⟩ := h
  have hstate : t.self.state = .closed := by rw [hself]; rfl
  refine ⟨?_, hstate⟩
  unfold Lifecycle
  rw [hstate]
  refine ⟨n, k, ⟨?_, ?_, ?_, ?_⟩, ?_⟩
  · rw [hself]; rfl
  · rw [hself]; rfl
  · rw [hself]; rfl
  · rw [hself]; rfl
  · rw [Network.controlLedger, hledger, restrict_release hc hnet]

theorem AfterRelease.orderly (h : AfterRelease s.self s.net.ledger t) : Orderly s t := by
  intro hs
  unfold Lifecycle at hs
  cases hstate : s.self.state <;> rw [hstate] at hs
  · obtain ⟨n, hself, hledger⟩ := hs
    obtain ⟨ht, hclosed⟩ := h.lifecycle hself hledger
    exact ⟨ht, hclosed ▸ .abandon⟩
  · obtain ⟨n, ⟨hself, hledger⟩, -⟩ := hs
    obtain ⟨ht, hclosed⟩ := h.lifecycle hself hledger
    exact ⟨ht, hclosed ▸ .close⟩
  · obtain ⟨n, k, hself, hledger⟩ := hs
    obtain ⟨hreleased, hkept⟩ := h
    have hnone : s.self.resources = [] := by
      rw [resources_of_equipped hself, List.take_zero, List.reverse_nil]
    have hclosed : t.self.state = .closed := by rw [hreleased]; rfl
    rw [hnone, List.foldl_nil] at hkept
    refine ⟨?_, hclosed ▸ .stay _⟩
    unfold Lifecycle
    rw [hclosed]
    refine ⟨n, k, ⟨?_, ?_, ?_, ?_⟩, ?_⟩
    · rw [hreleased]; rfl
    · rw [hreleased]; rfl
    · rw [hreleased]; rfl
    · rw [hreleased]; rfl
    · rw [Network.controlLedger, hkept]
      exact hledger

theorem orderly_release : Keeps Orderly release :=
  keeps_release fun _ _ h => h.orderly

theorem orderly_aside {m : Op Channel α} (hm : Keeps Aside m) : Keeps Orderly m :=
  hm.imp fun _ _ h => h.orderly

theorem negotiating_orderly : Negotiating Orderly where
  log _ _ _ := orderly_aside (aside_call (Net.quiet_log _ _ _))
  setSource _ _ := orderly_aside (aside_call (Net.quiet_setSource _ _))
  release := orderly_release
  transmit _ _ := orderly_call (apart_transmit _ _)
  ownAddress _ := orderly_aside (aside_call (Net.quiet_ownAddress _))
  openListener := orderly_call (apart_opens Net.opens_openListener fun _ => rfl)
  bind _ _ := orderly_aside (aside_call (Net.quiet_bind _ _))
  listen _ _ := orderly_aside (aside_call (Net.quiet_listen _ _))
  closeListener _ := orderly_call (apart_close rfl)
  dialData _ _ := orderly_call (apart_opens (Net.opens_dialData _ _) fun _ => rfl)

theorem orderly_close : Keeps Orderly close := negotiating_orderly.close

theorem orderly_send (command : String) : Keeps Orderly (send command) :=
  negotiating_orderly.send command

theorem orderly_logout : Keeps Orderly logout := negotiating_orderly.logout

theorem orderly_negotiation (mode : DataMode) : Keeps Orderly (Negotiation.run mode) :=
  negotiating_orderly.negotiation mode

end Channel

end FtpControl
