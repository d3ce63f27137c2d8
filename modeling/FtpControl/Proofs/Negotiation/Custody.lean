import FtpControl.Proofs.Negotiation

/-!
# Custody of new sockets

A negotiation hands out one socket at most. The data connection that it yields holds that socket
open; a failure leaves it closed.
-/

namespace FtpControl

open Effect Live

variable {σ α : Type} {before : List Handle} {h : Handle}

/-- A run that hands out nothing and leaves data connections and listeners as they are. -/
structure Spares (s t : Live σ) : Prop where
  opened : t.net.opened = s.net.opened
  data : t.net.dataLedger = s.net.dataLedger

instance : IsPreorder (Live σ) Spares where
  refl _ := ⟨rfl, rfl⟩
  trans _ _ _ h h' := ⟨h'.opened.trans h.opened, h'.data.trans h.data⟩

theorem spares_of_ledger {s t : Live σ} (h : t.net.ledger = s.net.ledger) : Spares s t :=
  ⟨congrArg Ledger.opened h, congrArg (Ledger.restrict fun h => !h.onControl) h⟩

theorem spares_quiet {m : Net α} (hm : Net.Quiet m) : Keeps Spares (call m : Op σ α) :=
  .call hm fun _ _ h => spares_of_ledger h

theorem spares_transmit (n : Nat) (bytes : List UInt8) :
    Keeps Spares (call (Net.transmit n bytes) : Op σ Unit) := by
  intro s
  have hdata := contained_transmit n bytes s
  have ht := Net.meets_transmit n bytes s.net.ledger s.net rfl
  rw [Live.call, run_zoom] at hdata ⊢
  rcases hr : (Net.transmit n bytes).run s.net with ⟨e | a, t⟩ <;> rw [hr] at ht hdata
  · exact ⟨congrArg Ledger.opened ht, hdata⟩
  · exact ⟨congrArg Ledger.opened ht, hdata⟩

namespace Channel

theorem spares_aside {m : Op Channel α} (hm : Keeps Aside m) : Keeps Spares m :=
  hm.imp fun _ _ h => spares_of_ledger h.ledger

theorem AfterRelease.spares {s t : Live Channel} (h : AfterRelease s.self s.net.ledger t) :
    Spares s t := by
  have hopened := congrArg Ledger.opened h.2
  rw [Ledger.opened_foldl_close] at hopened
  exact ⟨hopened, h.within.data⟩

theorem exchanging_spares : Exchanging Spares where
  log _ _ _ := spares_quiet (Net.quiet_log _ _ _)
  setSource _ _ := spares_quiet (Net.quiet_setSource _ _)
  release := keeps_release fun _ _ h => h.spares
  transmit _ _ := spares_transmit _ _

end Channel

/-! ## New sockets -/

/-- Only this handle was handed out since then, and it is open. -/
def Network.Added (before : List Handle) (h : Handle) (net : Network) : Prop :=
  net.opened = before ++ [h] ∧ (net.sockets h).isOpen = true

/-- All that was handed out since then is closed. -/
def Network.Spent (before : List Handle) (net : Network) : Prop :=
  ∃ hs, net.opened = before ++ hs ∧ ∀ h ∈ hs, (net.sockets h).isOpen = false

theorem spent_of_opened {net : Network} (h : net.opened = before) : net.Spent before :=
  ⟨[], by simp [h]⟩

theorem added_of_hand {net net' : Network} (hnet : net.opened = before)
    (hledger : net'.ledger = net.ledger.hand h) : net'.Added before h := by
  have hopened : net'.opened = net.opened ++ [h] := congrArg Ledger.opened hledger
  have hopen : (net'.sockets h).isOpen = setAt net.ledger.isOpen h true h :=
    congrFun (congrArg Ledger.isOpen hledger) h
  rw [hnet] at hopened
  rw [setAt_same] at hopen
  exact ⟨hopened, hopen⟩

theorem added_of_spares {s t : Live σ} (hh : h.onControl = false) (hs : s.net.Added before h)
    (hst : Spares s t) : t.net.Added before h :=
  ⟨hst.opened.trans hs.1, (isOpen_of_data hst.data hh).trans hs.2⟩

theorem spent_of_close {net : Network} (hnet : net.Added before h) :
    ((Net.close h).run net).2.Spent before := by
  refine ⟨[h], ?_, ?_⟩
  · rw [Net.run_close]
    exact hnet.1
  · rw [Net.run_close]
    simp

/-- The code of the reply that agrees to a mode. -/
def DataMode.agreement : DataMode → String
  | .active => "200"
  | .passive => "227"

/-- What a negotiation yields: a listener in active mode and a data socket in passive mode, after
a reply that agrees to the mode. -/
structure DataConnection.Bears (d : DataConnection) (mode : DataMode) (h : Handle) : Prop where
  held : match mode with
    | .active => d.socket = none ∧ ∃ n, d.listener = some n ∧ h = .listener n
    | .passive => d.listener = none ∧ d.socket = some h
  notClosed : d.closed = false
  agreed : d.reply.code.toString = mode.agreement

namespace DataConnection

variable {d : DataConnection} {mode : DataMode}

theorem handles_of_bears (hd : d.Bears mode h) : d.handles = [h] := by
  cases mode with
  | active =>
    obtain ⟨hsocket, n, hlistener, rfl⟩ := hd.held
    simp [handles, hsocket, hlistener]
  | passive =>
    obtain ⟨hlistener, hsocket⟩ := hd.held
    simp [handles, hlistener, hsocket]

theorem isPending_of_bears (hd : d.Bears mode h) : d.isPending = true ↔ mode = .active := by
  cases mode with
  | active =>
    obtain ⟨-, n, hlistener, -⟩ := hd.held
    simp [isPending, hlistener]
  | passive =>
    obtain ⟨hlistener, -⟩ := hd.held
    simp [isPending, hlistener]

end DataConnection

namespace Negotiation

section Steps

variable {m : Op Channel α}

theorem meets_opened (hm : Keeps Spares m) :
    Meets (fun s => s.net.opened = before) m (fun _ s => s.net.opened = before)
      fun _ s => s.net.Spent before :=
  (Meets.ofKeeps hm fun _ _ hs h => h.opened.trans hs).failing fun _ _ hs => spent_of_opened hs

theorem meets_added (hm : Keeps Spares m) (hh : h.onControl = false) :
    Meets (fun s => s.net.Added before h) m (fun _ s => s.net.Added before h)
      fun _ s => s.net.Added before h :=
  .ofKeeps hm fun _ _ hs hst => added_of_spares hh hs hst

/-- A call that hands out a data connection or a listener. -/
theorem meets_handed {kind : Nat → Handle} {h : α → Handle} {m : Net α} (hm : Net.Opens kind h m) :
    Meets (fun s : Live Channel => s.net.opened = before) (call m)
      (fun a s => (∃ n, h a = kind n) ∧ s.net.Added before (h a))
      fun _ s => s.net.Spent before := by
  intro s hs
  have ht := hm s.net.ledger s.net rfl
  rw [Live.call, run_zoom]
  rcases hr : m.run s.net with ⟨e | a, t⟩ <;> rw [hr] at ht
  · exact spent_of_opened ((congrArg Ledger.opened ht).trans hs)
  · exact ⟨ht.1, added_of_hand hs ht.2⟩

end Steps

theorem bears_of_announced {n : Nat} {d : DataConnection} {s : Live Channel}
    (hd : Announced n d s) : d.Bears .active (.listener n) := by
  obtain ⟨e, reply, hcode, rfl⟩ := hd
  exact ⟨⟨rfl, n, rfl, rfl⟩, rfl, hcode⟩

theorem bears_of_dialled {d : DataConnection} (hd : Dialled h d) : d.Bears .passive h := by
  obtain ⟨reply, millis, hcode, rfl⟩ := hd
  exact ⟨⟨rfl, rfl⟩, rfl, hcode⟩

theorem meets_announce_added (n : Nat) (host : String) :
    Meets (fun s => s.net.Added before (.listener n)) (announce n host)
      (fun d s => d.Bears .active (.listener n) ∧ s.net.Added before (.listener n))
      fun _ s => s.net.Added before (.listener n) := by
  apply (meets_announce_along n host (fun hm => meets_added (spares_quiet hm) rfl)
    (fun _ => meets_added (Channel.exchanging_spares.send _) rfl) (fun _ hs => hs)
    fun _ hs => hs).yields
  intro d s hs
  exact ⟨bears_of_announced hs.2, hs.1⟩

theorem meets_active_added :
    Meets (fun s => s.net.opened = before) active
      (fun d s => ∃ h, d.Bears .active h ∧ s.net.Added before h)
      fun _ s => s.net.Spent before := by
  apply Meets.bind (meets_opened (Channel.spares_aside Channel.aside_localHost))
  intro host
  apply Meets.bind (meets_handed Net.opens_openListener)
  intro n
  apply Meets.rescue (E := fun _ s => s.net.Added before (.listener n))
  · exact (meets_announce_added n host).imp (fun _ hs => hs.2) (fun _ _ hs => ⟨_, hs⟩)
      fun _ _ hs => hs
  intro e
  -- The listener is closed even if the system objects to it.
  apply Meets.bind (Q := fun _ s => s.net.Spent before)
  · exact .net (.ofLeaves fun _ hnet => spent_of_close hnet)
  intro _
  split
  · exact .fail fun _ hs => hs
  · exact .fail fun _ hs => hs

theorem meets_passive_added :
    Meets (fun s => s.net.opened = before) passive
      (fun d s => ∃ h, d.Bears .passive h ∧ s.net.Added before h)
      fun _ s => s.net.Spent before := by
  have logged : ∀ (h : Handle) (source : LogSource) (level : LogLevel) (message : String),
      Meets (fun s : Live Channel => (∃ n, h = .data n) ∧ s.net.Added before h)
        (call (Net.log source level message))
        (fun _ s => (∃ n, h = .data n) ∧ s.net.Added before h) fun _ s => s.net.Spent before := by
    intro h source level message
    apply (Fails.call (Net.fails_log _ _ _)).keeps (spares_quiet (Net.quiet_log _ _ _))
    rintro s t ⟨⟨n, rfl⟩, hs⟩ hst
    exact ⟨⟨n, rfl⟩, added_of_spares rfl hs hst⟩
  apply (meets_passive_along (L := fun _ => True) (meets_opened (Channel.exchanging_spares.send _))
    (fun hm => meets_opened (spares_quiet hm))
    (fun peer limit => meets_handed (Net.opens_dialData peer limit)) logged
    (fun _ _ => trivial) fun _ hs => spent_of_opened hs).yields
  rintro d s ⟨h, ⟨-, hs⟩, -, hd⟩
  exact ⟨h, bears_of_dialled hd, hs⟩

theorem meets_run_added (mode : DataMode) :
    Meets (fun s => s.net.opened = before) (run mode)
      (fun d s => ∃ h, d.Bears mode h ∧ s.net.Added before h)
      fun _ s => s.net.Spent before := by
  cases mode with
  | active => exact meets_active_added
  | passive => exact meets_passive_added

/-- Whatever the network does, a negotiation that fails has closed all that it opened. One that
succeeds has opened one socket, which is open and which the data connection holds. -/
theorem run_custody (mode : DataMode) (s : Live Channel) :
    match (run mode).run s with
    | (.error _, t) =>
      ∃ hs, t.net.opened = s.net.opened ++ hs ∧ ∀ h ∈ hs, (t.net.sockets h).isOpen = false
    | (.ok d, t) =>
      ∃ h, t.net.opened = s.net.opened ++ [h] ∧ (t.net.sockets h).isOpen = true ∧
        d.handles = [h] ∧ (d.isPending = true ↔ mode = .active) ∧
          d.reply.code.toString = mode.agreement := by
  have ht := meets_run_added mode s rfl
  rcases hr : (run mode).run s with ⟨e | d, t⟩ <;> rw [hr] at ht
  · exact ht
  · obtain ⟨h, hd, hopened, hopen⟩ := ht
    exact ⟨h, hopened, hopen, DataConnection.handles_of_bears hd,
      DataConnection.isPending_of_bears hd, hd.agreed⟩

/-! ## Limits -/

theorem meets_orderly {α : Type} {m : Op Channel α} (hm : Keeps Channel.Orderly m) :
    Meets Channel.Lifecycle m (fun _ => Channel.Lifecycle) fun _ _ => True :=
  (Meets.ofKeeps hm fun _ _ hs h => (h hs).1).failing fun _ _ _ => trivial

theorem meets_answered {command shown : String} (h : Command.masked command = .ok shown) :
    Meets Channel.Lifecycle (Channel.send command)
      (fun _ s => Timeout.Usable s.self.timeoutMillis) fun _ _ => True :=
  (Channel.meets_send_lifecycle h).imp (fun _ hs => hs)
    (fun _ _ hs => Channel.usable_of_lifecycle hs.1 hs.2) fun _ _ _ => trivial

theorem meets_announce_usable (n : Nat) (host : String) :
    Meets Channel.Lifecycle (announce n host) (fun d _ => Timeout.Usable d.timeoutMillis)
      fun _ _ => True := by
  apply (meets_announce_along n host
    (fun hm => meets_orderly (Channel.orderly_aside (Channel.aside_call hm)))
    (fun e => meets_answered (Endpoint.masked_portCommand e)) (fun _ _ => trivial)
    fun _ _ => trivial).yields
  rintro d s ⟨hs, e, reply, -, rfl⟩
  exact hs

theorem meets_run_usable (mode : DataMode) :
    Meets Channel.Lifecycle (run mode) (fun d _ => Timeout.Usable d.timeoutMillis)
      fun _ _ => True := by
  cases mode with
  | active =>
    apply Meets.bind (meets_orderly (Channel.orderly_aside Channel.aside_localHost))
    intro host
    apply Meets.bind (meets_orderly
      (Channel.orderly_call (Channel.apart_opens Net.opens_openListener fun _ => rfl)))
    intro n
    apply Meets.rescue (meets_announce_usable n host)
    intro e
    apply Meets.skip
    intro _
    split
    · exact .fail fun _ _ => trivial
    · exact .fail fun _ _ => trivial
  | passive =>
    have hmasked : Command.masked "PASV" = .ok "PASV" := by decide +kernel
    have quiet : ∀ {β : Type} {m : Net β}, Net.Quiet m → Meets
        (fun s : Live Channel => Timeout.Usable s.self.timeoutMillis) (call m)
          (fun _ s => Timeout.Usable s.self.timeoutMillis) fun _ _ => True := by
      intro β m hm
      exact (Meets.ofKeeps (Channel.aside_call hm) fun _ _ hs h => h.limit hs).failing
        fun _ _ _ => trivial
    apply (meets_passive_along (T := fun _ _ => True) (L := Timeout.Usable) (meets_answered hmasked)
      quiet (fun _ _ => .start (.trivial _ _) fun _ _ => trivial) (fun _ _ _ _ => .trivial _ _)
      (fun _ hs => hs) fun _ _ => trivial).yields
    rintro d s ⟨h, -, hd, -⟩
    exact hd

end Negotiation

end FtpControl
