import FtpControl.Console
import FtpControl.Proofs.Channel.Holding

/-!
# Who owns the sockets of a console

From visit to visit a console keeps nothing but its client. Between two visits whatever is open
belongs to a control connection, which the connected channel of that client holds; every data
connection has been closed by the end of the visit that negotiated it. A visit that connects or
disconnects closes all that was open before it. The front end may be any that keeps the client as
it is told, and it may break off wherever the page shows or asks something.
-/

namespace FtpControl

open Effect Live

theorem Settings.quiet_load (env : Environment) : Net.Quiet (load env) := by
  unfold load
  cases ofEnvironment env with
  | error e => exact .fail _
  | ok s => exact .bind (Net.quiet_log _ _ _) fun _ => .pure _

theorem Settings.offline_load (env : Environment) : Net.Offline (load env) := by
  unfold load
  cases ofEnvironment env with
  | error e => exact .fail _
  | ok s => exact .bind (Net.offline_log _ _ _) fun _ => .pure _

/-! ## What is relied on of a front end -/

namespace Frontend

variable {ε φ : Type}

/-- The client kept goes on to be kept. -/
def Spares (held : φ → Option Nat) (a b : φ) : Prop :=
  held b = held a

instance (held : φ → Option Nat) : IsPreorder φ (Spares held) where
  refl _ := rfl
  trans _ _ _ h h' := h'.trans h

/-- The client kept is an entry of the session state, which is a table. No element of the page
touches the entry, whether it is shown or breaks off; reading the entry yields what is there, and
what is assigned to it is there. -/
structure Lawful (F : Frontend ε φ) (held : φ → Option Nat) : Prop where
  put : ∀ e, Keeps (Spares held) (F.put e)
  button : ∀ label, Keeps (Spares held) (F.button label)
  textField : ∀ label default, Keeps (Spares held) (F.textField label default)
  numberField : ∀ label default least most step,
    Keeps (Spares held) (F.numberField label default least most step)
  radio : ∀ label default options, Keeps (Spares held) (F.radio label default options)
  rerun : Keeps (Spares held) F.rerun
  remembers : ∀ s, Spares held s (F.remembers.run s).2 ∧
    ((F.remembers.run s).1 = .ok false → held s = none)
  kept : ∀ s, Spares held s (F.kept.run s).2 ∧ (F.kept.run s).1 = .ok (held s)
  keep : ∀ client s, held ((F.keep client).run s).2 = client

end Frontend

namespace Console

variable {ε φ α β : Type} {F : Frontend ε φ} {held : φ → Option Nat}
variable {k m : Nat} {hs : List Handle} {client : Option Nat} {p : List String}
variable {s t : Live (Desk φ)}

/-! ## What is shown -/

/-- The presses that concern the connection. -/
def told (d : Desk φ) : List String :=
  d.pressed.filter fun label => label = "Connect" ∨ label = "Disconnect"

theorem mem_told {label : String} {d : Desk φ} :
    label ∈ told d ↔ label ∈ d.pressed ∧ (label = "Connect" ∨ label = "Disconnect") := by
  simp [told]

/-- A run that changes neither the clients nor what is open, and is not about the connection. -/
structure Shows (held : φ → Option Nat) (s t : Live (Desk φ)) : Prop where
  held : held t.self.front = held s.self.front
  clients : t.self.clients = s.self.clients
  told : told t.self = told s.self
  ledger : t.net.ledger = s.net.ledger
  dialled : t.net.counts.control = s.net.counts.control

instance : IsPreorder (Live (Desk φ)) (Shows held) where
  refl _ := ⟨rfl, rfl, rfl, rfl, rfl⟩
  trans _ _ _ h h' := ⟨h'.held.trans h.held, h'.clients.trans h.clients, h'.told.trans h.told,
    h'.ledger.trans h.ledger, h'.dialled.trans h.dialled⟩

theorem shows_onFront {m : Effect ε φ α} (hm : Keeps (Frontend.Spares held) m) :
    Keeps (Shows held) (onFront m) := by
  apply Keeps.rescue (R := Shows held)
  · exact fun s => ⟨hm s.self.front, rfl, rfl, rfl, rfl⟩
  · exact fun cause => .fail _

theorem shows_onNet {m : Net α} (hm : Net.Quiet m) (ho : Net.Offline m) :
    Keeps (Shows held) (onNet m : Page ε φ α) := by
  apply Keeps.rescue (R := Shows held)
  · exact fun s => ⟨rfl, rfl, rfl, hm s.net, dialled_of_wires (ho s.net)⟩
  · exact fun e => .fail _

theorem shows_log (level : LogLevel) (message : String) :
    Keeps (Shows held) (log level message : Page ε φ Unit) :=
  shows_onNet (Net.quiet_log _ _ _) (Net.offline_log _ _ _)

theorem shows_put (hF : F.Lawful held) (e : Element) : Keeps (Shows held) (put F e) :=
  shows_onFront (hF.put e)

theorem shows_putAll (hF : F.Lawful held) (es : List Element) :
    Keeps (Shows held) (putAll F es) := by
  induction es with
  | nil => exact .pure _
  | cons e rest ih => exact .bind (shows_put hF e) fun _ => ih

theorem told_press {label : String} (h : label ≠ "Connect") (h' : label ≠ "Disconnect")
    (d : Desk φ) : told { d with pressed := d.pressed ++ [label] } = told d := by
  simp [told, h, h']

/-- A button that is not about the connection. -/
theorem shows_button (hF : F.Lawful held) {label : String} (h : label ≠ "Connect")
    (h' : label ≠ "Disconnect") : Keeps (Shows held) (button F label) := by
  apply Keeps.bind (shows_onFront (hF.button label))
  intro pressed
  cases pressed with
  | false => exact .pure _
  | true => exact fun s => ⟨rfl, rfl, told_press h h' s.self, rfl, rfl⟩

theorem shows_unknownVerb (hF : F.Lawful held) (verb : String) :
    Keeps (Shows held) (unknownVerb F verb) := by
  apply Keeps.bind (shows_put hF _)
  intro _
  split
  · exact shows_put hF _
  · exact .pure _

/-! ## What is kept -/

/-- Pages that lead from `P` to `Q`, whether they break off or not. -/
abbrev Ends (P : Live (Desk φ) → Prop) (m : Page ε φ α) (Q : Live (Desk φ) → Prop) : Prop :=
  Meets P m (fun _ => Q) fun _ => Q

/-- The channel of the client kept, or a new one when there is none. -/
def channel (held : φ → Option Nat) (d : Desk φ) : Channel :=
  ((held d.front).map fun i => (d.clients i).channel).getD {}

/-- With this client kept and this told about the connection, nothing is open but what the client's
channel holds and the given data connections. -/
structure Steady (held : φ → Option Nat) (client : Option Nat) (p : List String) (k m : Nat)
    (hs : List Handle) (s : Live (Desk φ)) : Prop where
  client : held s.self.front = client
  told : told s.self = p
  kept : Kept (channel held) k m hs s

theorem kept_of_shows (h : Shows held s t) (hkept : Kept (channel held) k m hs s) :
    Kept (channel held) k m hs t := by
  have hchannel : channel held t.self = channel held s.self := by
    unfold channel
    rw [h.held, h.clients]
  exact kept_of_ledger hchannel h.ledger h.dialled hs hkept

theorem kept_client {i : Nat} (hi : held s.self.front = some i) :
    Kept (channel held) k m hs s ↔ Kept Client.channel k m hs ⟨s.self.clients i, s.net⟩ := by
  have hchannel : channel held s.self = (s.self.clients i).channel := by
    unfold channel
    rw [hi]
    rfl
  unfold Kept
  rw [hchannel]

theorem kept_none (hnone : held s.self.front = none) :
    Kept (channel held) k m [] s ↔
      Channel.Tallied (Holding k m) [] s.net ∧ s.net.OpenAtMost [] := by
  have hchannel : channel held s.self = {} := by
    unfold channel
    rw [hnone]
    rfl
  unfold Kept
  rw [hchannel]
  exact ⟨fun h => ⟨h.1.1, h.2⟩, fun h => ⟨⟨h.1, fun _ => rfl⟩, h.2⟩⟩

theorem kept_forget (h : Kept (channel held) k m hs s) : Kept (channel held) 0 m hs s := by
  obtain ⟨⟨hheld, hstate⟩, hopen⟩ := h
  exact ⟨⟨⟨hheld.held, Nat.zero_le m, hheld.reached,
    fun n hn => ⟨Nat.zero_le n, (hheld.numbered n hn).2⟩⟩, hstate⟩, hopen⟩

namespace Steady

theorem shows (hs' : Steady held client p k m hs s) (h : Shows held s t) :
    Steady held client p k m hs t :=
  ⟨h.held.trans hs'.client, h.told.trans hs'.told, kept_of_shows h hs'.kept⟩

/-- Without a client every socket of before is closed: the numbers begin anew. -/
theorem renew (h : Steady held none p k m [] s) : Steady held none p m m [] s := by
  obtain ⟨hbare, hopen⟩ := (kept_none h.client).1 h.kept
  exact ⟨h.client, h.told, (kept_none h.client).2 ⟨Holding.renew hbare, hopen⟩⟩

end Steady

theorem ends_shows {m' : Page ε φ α} (hm : Keeps (Shows held) m') :
    Ends (Steady held client p k m hs) m' (Steady held client p k m hs) :=
  .ofKeeps hm fun _ _ hs' h => hs'.shows h

theorem ends_onFault {P Q : Live (Desk φ) → Prop} {m : Page ε φ Unit} {h : Fault → Page ε φ Unit}
    (hm : Ends P m Q) (hh : ∀ f, Ends Q (h f) Q) : Ends P (onFault m h) Q := by
  apply Meets.rescue hm
  intro e
  split
  · exact hh _
  · exact .fail fun _ hs => hs

/-- The page learns which client is kept. -/
theorem meets_kept (hF : F.Lawful held) {P : Live (Desk φ) → Prop}
    {E : Halt ε → Live (Desk φ) → Prop} (hP : ∀ s t, P s → Shows held s t → P t) :
    Meets P (onFront F.kept) (fun c s => held s.self.front = c ∧ P s) E := by
  intro s hs
  have shown := shows_onFront (fun front => (hF.kept front).1) s
  obtain ⟨hspared, hr⟩ := hF.kept s.self.front
  have hrun : (onFront F.kept).run s =
      (.ok (held s.self.front),
        ⟨{ s.self with front := (F.kept.run s.self.front).2 }, s.net⟩) :=
    run_rescue_ok (Prod.ext hr rfl)
  rw [hrun] at shown ⊢
  exact ⟨hspared, hP s _ hs shown⟩

/-- The page assigns which client is kept; should that break off, it has been assigned. -/
theorem ends_keep (hF : F.Lawful held) {P Q : Live (Desk φ) → Prop}
    (h : ∀ s front, P s → held front = client → Q ⟨{ s.self with front }, s.net⟩) :
    Ends P (onFront (F.keep client)) Q := by
  apply Meets.rescue (E := fun _ => Q)
  · exact .ofLeaves fun s hs => h s _ hs (hF.keep client s.self.front)
  · exact fun cause => .fail fun _ hs => hs

/-- An operation of a client leaves whatever that client then is. -/
theorem run_onClient (i : Nat) (m : Op Client α) (s : Live (Desk φ)) :
    (onClient i m : Page ε φ α).run s =
      ((m.run ⟨s.self.clients i, s.net⟩).1.mapError .failure,
        ⟨{ s.self with
            clients := setAt s.self.clients i (m.run ⟨s.self.clients i, s.net⟩).2.self },
          (m.run ⟨s.self.clients i, s.net⟩).2.net⟩) := by
  rw [onClient, step, focus, run_rescue, run_zoom]
  rcases m.run ⟨s.self.clients i, s.net⟩ with ⟨e | a, t⟩
  · rfl
  · rfl

/-- What an operation of the client kept makes of that client. -/
theorem steady_onClient {i : Nat} {s : Live (Desk φ)} {t : Live Client} {hs' : List Handle}
    (h : Steady held (some i) p k m hs s) (ht : Kept Client.channel k m hs' t) :
    Steady held (some i) p k m hs'
      ⟨{ s.self with clients := setAt s.self.clients i t.self }, t.net⟩ := by
  refine ⟨h.client, h.told, (kept_client (i := i) ?_).2 ?_⟩
  · exact h.client
  · simpa using ht

theorem ends_onClient {i : Nat} {m' : Op Client α}
    (hm : Keeps (Upholds (Kept Client.channel k m)) m') :
    Ends (Steady held (some i) p k m []) (onClient i m' : Page ε φ α)
      (Steady held (some i) p k m []) := by
  apply Meets.ofLeaves
  intro s hs
  rw [run_onClient]
  exact steady_onClient hs (hm _ [] ((kept_client hs.client).1 hs.kept))

/-! ## Connecting and disconnecting -/

/-- Nothing is open but what the client's channel holds, and that channel is not connected. -/
def Parted (held : φ → Option Nat) (i : Nat) (p : List String) (k m : Nat)
    (s : Live (Desk φ)) : Prop :=
  Steady held (some i) p k m [] s ∧ (s.self.clients i).channel.state ≠ .connected

theorem Parted.shows {i : Nat} (h : Parted held i p k m s) (hst : Shows held s t) :
    Parted held i p k m t := by
  refine ⟨h.1.shows hst, ?_⟩
  rw [hst.clients]
  exact h.2

theorem ends_logout (i : Nat) :
    Ends (Steady held (some i) p k m [])
      (onClient i (Client.onChannel Channel.logout) : Page ε φ Unit) (Parted held i p k m) := by
  apply Meets.ofLeaves
  intro s hs
  obtain ⟨hsole, hopen⟩ := (kept_client hs.client).1 hs.kept
  rw [run_onClient]
  constructor
  · apply steady_onClient hs
    constructor
    · exact Channel.negotiating_careful.logout ⟨_, s.net⟩ k m hsole
    · exact openAtMost_of_data (Channel.exchanging_contained.logout ⟨_, s.net⟩) hopen
  · dsimp only
    rw [setAt_same]
    exact Channel.logout_state ⟨(s.self.clients i).channel, s.net⟩

/-- Whatever comes of the farewell, there is no client behind it, and nothing is open. -/
theorem ends_disconnect (hF : F.Lawful held) :
    Ends (Steady held client p k m []) (disconnect F) (Steady held none p k m []) := by
  apply Meets.bind (meets_kept hF fun _ _ hs h => hs.shows h)
  intro kept
  cases kept with
  | none => exact .pure fun _ hs => ⟨hs.1, hs.2.told, hs.2.kept⟩
  | some i =>
    apply Meets.ensure (I := Parted held i p k m)
    · apply ends_onFault
      · apply Meets.bind (Q := fun _ => Parted held i p k m)
        · exact (ends_logout i).start fun _ hs => ⟨hs.1, hs.2.told, hs.2.kept⟩
        intro _
        exact .ofKeeps (shows_put hF _) fun _ _ hs h => hs.shows h
      · intro f
        apply Meets.ofKeeps (R := Shows held) _ fun _ _ hs h => hs.shows h
        exact .bind (shows_log _ _) fun _ => shows_put hF _
    · apply ends_keep hF
      intro s front ⟨hs, hstate⟩ hfront
      obtain ⟨hsole, hopen⟩ := (kept_client hs.client).1 hs.kept
      have hbare := hsole.1
      rw [hsole.2 hstate] at hbare
      exact ⟨hfront, hs.told, (kept_none hfront).2 ⟨hbare, hopen⟩⟩

theorem meets_dial (peer : Target) (millis : Int) :
    Meets (fun s => (s.self = {} ∧ Channel.Tallied (Holding k m) [] s.net) ∧ s.net.OpenAtMost [])
      (do return (← Channel.connect peer millis, ← this) : Op Channel (Reply × Channel))
      (fun r s => Channel.Sole k m ⟨r.2, s.net⟩ ∧ s.net.OpenAtMost [])
      fun _ s => Channel.Tallied (Holding k m) [] s.net ∧ s.net.OpenAtMost [] := by
  apply Meets.bind ((Channel.meets_connect_sole peer millis).and
    (Negotiation.meets_contained (contained_within (Channel.within_connect peer millis))))
  intro banner
  apply Meets.look
  intro c
  apply Meets.pure
  rintro s ⟨hs, rfl⟩
  exact hs

/-- Nothing about the desk has changed yet, and the channel just connected holds all that is
open. -/
structure Dialled (held : φ → Option Nat) (p : List String) (k m : Nat) (c : Channel)
    (s : Live (Desk φ)) : Prop where
  absent : held s.self.front = none
  told : told s.self = p
  kept : Channel.Sole k m ⟨c, s.net⟩ ∧ s.net.OpenAtMost []

theorem meets_lend_dial (peer : Target) (millis : Int) :
    Meets (Steady held none p k m [])
      (step (lend {} do return (← Channel.connect peer millis, ← this)) :
        Page ε φ (Reply × Channel))
      (fun r => Dialled held p k m r.2) fun _ => Steady held none p k m [] := by
  have lent := Meets.lend (x := {}) (A := fun d : Desk φ => held d.front = none ∧ told d = p)
    (meets_dial (k := k) (m := m) peer millis)
  apply Meets.rescue (E := fun _ => Steady held none p k m [])
  · apply lent.imp
    · intro s hs
      obtain ⟨hbare, hopen⟩ := (kept_none hs.client).1 hs.kept
      exact ⟨⟨hs.client, hs.told⟩, ⟨rfl, hbare⟩, hopen⟩
    · intro r s ⟨⟨habsent, htold⟩, _, hkept⟩
      exact ⟨habsent, htold, hkept⟩
    · intro e s ⟨⟨habsent, htold⟩, _, hkept⟩
      exact ⟨habsent, htold, (kept_none habsent).2 hkept⟩
  · exact fun e => .fail fun _ hs => hs

/-- Without a client, a new one is kept as soon as it is connected. -/
theorem ends_connect (hF : F.Lawful held) (host : String) (port millis : Int) :
    Ends (Steady held none p k m []) (connect F host port millis)
      fun s => ∃ client, Steady held client p k m [] s := by
  have along : ∀ s t : Live (Desk φ), (∃ client, Steady held client p k m [] s) →
      Shows held s t → ∃ client, Steady held client p k m [] t :=
    fun _ _ ⟨client, hs⟩ h => ⟨client, hs.shows h⟩
  apply ends_onFault
  · apply Meets.bind ((ends_shows (shows_log _ _)).failing fun _ _ hs => ⟨none, hs⟩)
    intro _
    apply Meets.bind ((meets_lend_dial _ _).failing fun _ _ hs => ⟨none, hs⟩)
    intro (banner, c)
    -- The new client has its number before it is kept.
    apply Meets.bind (Q := fun i s => told s.self = p ∧
      Kept Client.channel k m [] ⟨s.self.clients i, s.net⟩)
    · intro s hs
      refine ⟨hs.told, ?_⟩
      simpa [Kept] using hs.kept
    intro i
    apply Meets.bind (Q := fun _ s => ∃ client, Steady held client p k m [] s)
    · apply ends_keep hF
      exact fun s front hs hfront => ⟨some i, hfront, hs.1, (kept_client hfront).2 hs.2⟩
    intro _
    exact .ofKeeps (shows_put hF _) along
  · intro f
    exact .ofKeeps (.bind (shows_log _ _) fun _ => shows_put hF _) along

/-! ## The other parts of the page -/

theorem ends_runCommand (hF : F.Lawful held) (command : List Char) :
    Ends (Steady held client p k m []) (runCommand F client command)
      (Steady held client p k m []) := by
  cases client with
  | none => exact ends_shows (shows_put hF _)
  | some i =>
    unfold runCommand
    dsimp only
    split_ifs
    · apply ends_onFault
      · apply Meets.bind (ends_onClient ((tended_kept k m).execute _ _))
        intro reply
        exact ends_shows (shows_put hF _)
      · intro f
        exact ends_shows (.bind (shows_log _ _) fun _ => shows_put hF _)
    · exact ends_shows (shows_unknownVerb hF _)

theorem still_announcement : DataConnection.Still announcement := by
  refine .bind .this fun d => ?_
  split_ifs
  · exact .bind DataConnection.still_localAddress fun _ => .pure _
  · apply Keeps.bind DataConnection.still_dataSocket
    intro h
    exact .bind (DataConnection.still_quiet (Net.quiet_peerAddress h)) fun _ => .pure _

theorem offline_announcement : Offline announcement := by
  refine .bind .this fun d => ?_
  split_ifs
  · exact .bind DataConnection.offline_localAddress fun _ => .pure _
  · apply Keeps.bind DataConnection.offline_dataSocket
    intro h
    exact .bind (offline_call (Net.offline_peerAddress h)) fun _ => .pure _

theorem shows_lend {d : DataConnection} {m : Op DataConnection α} (hm : DataConnection.Still m)
    (ho : Offline m) : Keeps (Shows held) (step (lend d m) : Page ε φ α) := by
  apply Keeps.rescue (R := Shows held)
  · intro s
    exact ⟨rfl, rfl, rfl, hm ⟨d, s.net⟩, dialled_of_wires (ho ⟨d, s.net⟩)⟩
  · exact fun e => .fail _

/-- The data connection takes with it what was open for it, and nothing else. -/
theorem ends_close (d : DataConnection) :
    Ends (fun s => d.Fresh ∧ Steady held client p k m d.handles s)
      (step (lend d DataConnection.close) : Page ε φ Unit) (Steady held client p k m []) := by
  apply Meets.rescue (E := fun _ => Steady held client p k m [])
  · apply Meets.ofLeaves
    intro s ⟨hd, hs⟩
    obtain ⟨hsole, hopen⟩ := hs.kept
    have hdialled := dialled_of_wires (DataConnection.offline_close ⟨d, s.net⟩)
    have hledger : (DataConnection.close.run ⟨d, s.net⟩).2.net.ledger =
        d.handles.foldl Ledger.close s.net.ledger :=
      ((DataConnection.meets_close hd.notClosed s.net.ledger).failing fun _ _ h => h.2).leaves
        (s := ⟨d, s.net⟩) ⟨rfl, rfl⟩
    refine ⟨hs.client, hs.told, ?_, openAtMost_of_close hledger hopen⟩
    apply Channel.sole_of_control hsole _ hdialled
    exact (congrArg (Ledger.restrict Handle.onControl) hledger).trans
      (Channel.restrict_foldl_close_of_not hd.afar _)
  · exact fun e => .fail fun _ hs => hs

theorem ends_openData {i : Nat} (mode : DataMode) :
    Meets (Steady held (some i) p k m []) (onClient i (Client.openData mode))
      (fun d s => d.Fresh ∧ Steady held (some i) p k m d.handles s)
      fun (_ : Halt ε) => Steady held (some i) p k m [] := by
  intro s hs
  have ht := (tended_kept k m).openData mode _ ((kept_client hs.client).1 hs.kept)
  rw [run_onClient]
  rcases hr : (Client.openData mode).run ⟨s.self.clients i, s.net⟩ with ⟨e | d, t⟩ <;>
    rw [hr] at ht
  · exact steady_onClient hs ht
  · exact ⟨ht.1, steady_onClient hs ht.2⟩

/-- Whether or not the data connection can be told of, it is closed. -/
theorem ends_negotiated (hF : F.Lawful held) (d : DataConnection) :
    Ends (fun s => d.Fresh ∧ Steady held client p k m d.handles s)
      (ensure (do put F (.success (← step (lend d announcement))))
        (step (lend d DataConnection.close))) (Steady held client p k m []) := by
  apply Meets.ensure _ (ends_close d)
  apply Meets.ofKeeps (R := Shows held) _ fun _ _ hs h => ⟨hs.1, hs.2.shows h⟩
  apply Keeps.bind (shows_lend still_announcement offline_announcement)
  intro shown
  exact shows_put hF _

theorem ends_negotiate (hF : F.Lawful held) (mode : String) :
    Ends (Steady held client p k m []) (negotiate F client mode)
      (Steady held client p k m []) := by
  cases client with
  | none => exact ends_shows (shows_put hF _)
  | some i =>
    apply ends_onFault
    · cases Settings.mode mode with
      | error e => exact .failed fun _ hs => hs
      | ok mode => exact .bind (ends_openData mode) (ends_negotiated hF)
    · intro f
      exact ends_shows (shows_put hF _)

theorem ends_terminal (hF : F.Lawful held) (settings : Settings) :
    Ends (Steady held client p k m []) (terminal F settings client)
      (Steady held client p k m []) := by
  apply Meets.bind (ends_shows (shows_put hF _))
  intro _
  apply Meets.bind (ends_shows (shows_onFront (hF.textField _ _)))
  intro command
  apply Meets.bind (ends_shows (shows_button hF (by decide) (by decide)))
  intro pressed
  have negotiating : Ends (Steady held client p k m []) (do
      put F (.subheader "Data connection")
      let mode ← onFront
        (F.radio "Mode" settings.dataMode.value (DataMode.all.map DataMode.value))
      if ← button F "Negotiate" then
        negotiate F client mode) (Steady held client p k m []) := by
    apply Meets.bind (ends_shows (shows_put hF _))
    intro _
    apply Meets.bind (ends_shows (shows_onFront (hF.radio _ _ _)))
    intro mode
    apply Meets.bind (ends_shows (shows_button hF (by decide) (by decide)))
    intro negotiates
    cases negotiates with
    | false => exact .pure fun _ hs => hs
    | true => exact ends_negotiate hF mode
  split_ifs
  · exact .bind (ends_runCommand hF _) fun _ => negotiating
  · exact negotiating

theorem ends_historyPanel (hF : F.Lawful held) :
    Ends (Steady held client p k m []) (historyPanel F client)
      (Steady held client p k m []) := by
  apply Meets.bind (ends_shows (shows_put hF _))
  intro _
  cases client with
  | none => exact ends_shows (shows_put hF _)
  | some i =>
    have shown : Ends (Steady held (some i) p k m []) (do
        let history := ((← this).clients i).history
        putAll F ((history.reverse.take shownEntries).flatMap entryElements))
        (Steady held (some i) p k m []) :=
      ends_shows (.bind .this fun _ => shows_putAll hF _)
    apply Meets.bind (ends_shows (shows_button hF (by decide) (by decide)))
    intro clears
    dsimp only
    split_ifs
    · apply Meets.bind (ends_onClient (tended_kept k m).clearHistory)
      intro _
      exact .bind (ends_shows (shows_onFront hF.rerun)) fun _ => shown
    · exact shown

/-! ## A visit -/

/-- What has been told about the connection has been done once `m` connections were dialled. -/
structure Settled (held : φ → Option Nat) (m : Nat) (s : Live (Desk φ)) : Prop where
  owns : Kept (channel held) 0 m [] s
  renewed : told s.self ≠ [] → Kept (channel held) m m [] s
  parted : "Disconnect" ∈ told s.self → held s.self.front = none

theorem Settled.shows (h : Settled held m s) (hst : Shows held s t) : Settled held m t where
  owns := kept_of_shows hst h.owns
  renewed htold := kept_of_shows hst (h.renewed (hst.told ▸ htold))
  parted htold := hst.held.trans (h.parted (hst.told ▸ htold))

theorem settled_of_untold (h : Steady held client [] 0 m [] s) : Settled held m s where
  owns := h.kept
  renewed htold := absurd h.told htold
  parted htold := by
    rw [h.told] at htold
    cases htold

theorem settled_of_gone (h : Steady held none p k m [] s) : Settled held m s where
  owns := kept_forget h.kept
  renewed _ := h.renew.kept
  parted _ := h.client

theorem settled_of_connected (h : Steady held client ["Connect"] m m [] s) : Settled held m s where
  owns := kept_forget h.kept
  renewed _ := h.kept
  parted htold := by
    rw [h.told] at htold
    simp at htold

/-- A part of the page for the client that is kept when the connection is settled. -/
theorem ends_settled {m' : Page ε φ α}
    (hm : ∀ p k, Ends (Steady held client p k m []) m' (Steady held client p k m [])) :
    Ends (fun s => held s.self.front = client ∧ Settled held m s) m'
      (fun s => held s.self.front = client ∧ Settled held m s) := by
  apply Meets.ofLeaves
  intro s ⟨hclient, hs⟩
  have ht := (hm _ 0).leaves ⟨hclient, rfl, hs.owns⟩
  refine ⟨ht.client, ht.kept, fun htold => ?_, fun htold => ?_⟩
  · rw [ht.told] at htold
    exact ((hm _ m).leaves ⟨hclient, rfl, hs.renewed htold⟩).kept
  · rw [ht.told] at htold
    exact (ht.client.trans hclient.symm).trans (hs.parted htold)

/-- A button about the connection. Nothing has been done yet about its being pressed. -/
theorem meets_button (hF : F.Lawful held) {label : String}
    (hlabel : label = "Connect" ∨ label = "Disconnect") :
    Meets (fun s => told s.self = p ∧ Settled held m s) (button F label)
      (fun pressed s => if pressed then told s.self = p ++ [label] ∧ Kept (channel held) 0 m [] s
        else told s.self = p ∧ Settled held m s)
      fun _ => Settled held m := by
  have asked : Ends (fun s => told s.self = p ∧ Settled held m s) (onFront (F.button label))
      fun s => told s.self = p ∧ Settled held m s :=
    .ofKeeps (shows_onFront (hF.button label)) fun _ _ hs h => ⟨h.told.trans hs.1, hs.2.shows h⟩
  apply Meets.bind (asked.failing fun _ _ hs => hs.2)
  intro pressed
  cases pressed with
  | false => exact .pure fun _ hs => hs
  | true =>
    intro s ⟨htold, hs⟩
    refine ⟨?_, hs.owns⟩
    rw [← htold]
    simp [told, hlabel]

theorem ends_disconnectButton (hF : F.Lawful held) :
    Ends (Settled held m) (do if ← button F "Disconnect" then disconnect F) (Settled held m) := by
  intro s hs
  apply Meets.bind (meets_button hF (p := told s.self) (.inr rfl)) _ s ⟨rfl, hs⟩
  intro pressed
  cases pressed with
  | false => exact .pure fun _ ht => ht.2
  | true =>
    intro t ht
    apply (ends_disconnect hF).imp (fun _ h => h) (fun _ _ h => settled_of_gone h)
      (fun _ _ h => settled_of_gone h) t
    exact ⟨rfl, ht.1, ht.2⟩

theorem ends_sidebar (hF : F.Lawful held) (settings : Settings) :
    Ends (Steady held client [] 0 m []) (sidebar F settings) (Settled held m) := by
  have early {γ : Type} {m' : Page ε φ γ} (hm : Keeps (Shows held) m') :
      Meets (Steady held client [] 0 m []) m' (fun _ => Steady held client [] 0 m [])
        fun _ => Settled held m :=
    (ends_shows hm).failing fun _ _ hs => settled_of_untold hs
  apply Meets.bind (early (shows_put hF _))
  intro _
  apply Meets.bind (early (shows_onFront (hF.textField _ _)))
  intro host
  apply Meets.bind (early (shows_onFront (hF.numberField _ _ _ _ _)))
  intro port
  apply Meets.bind (early (shows_onFront (hF.numberField _ _ _ _ _)))
  intro millis
  apply Meets.bind ((meets_button hF (.inl rfl)).start
    fun s hs => ⟨hs.told, settled_of_untold hs⟩)
  intro pressed
  cases pressed with
  | false => exact (ends_disconnectButton hF).start fun _ hs => hs.2
  | true =>
    apply Meets.bind (Q := fun _ => Steady held none ["Connect"] 0 m [])
    · intro s hs
      exact (ends_disconnect hF).failing (fun _ _ h => settled_of_gone h) s
        ⟨rfl, hs.1, hs.2⟩
    intro _
    apply Meets.bind (Q := fun _ => Settled held m)
    · apply (ends_connect hF host port millis).imp (fun _ hs => hs.renew)
      · exact fun _ s ⟨_, hs⟩ => settled_of_connected hs
      · exact fun _ s ⟨_, hs⟩ => settled_of_connected hs
    intro _
    exact ends_disconnectButton hF

/-- Where no client is known of, none is kept. -/
theorem ends_recollect (hF : F.Lawful held) :
    Ends (Steady held client p k m []) (recollect F) (Steady held client p k m []) := by
  apply Meets.bind (Q := fun known s =>
    (known = false → client = none) ∧ Steady held client p k m [] s)
  · intro s hs
    have shown := shows_onFront (fun front => (hF.remembers front).1) s
    have hnone := (hF.remembers s.self.front).2
    rw [onFront, run_rescue, run_zoom] at shown ⊢
    rcases hr : F.remembers.run s.self.front with ⟨cause | known, front⟩ <;>
      rw [hr] at shown hnone
    · exact hs.shows shown
    · refine ⟨?_, hs.shows shown⟩
      rintro rfl
      exact hs.client.symm.trans (hnone rfl)
  intro known
  cases known with
  | true => exact .pure fun _ hs => hs.2
  | false =>
    apply ends_keep hF
    intro s front ⟨hclient, hs⟩ hfront
    obtain rfl := hclient rfl
    exact ⟨hfront, hs.told, (kept_none hfront).2 ((kept_none hs.client).1 hs.kept)⟩

theorem ends_visit (hF : F.Lawful held) (env : Environment) :
    Ends (Steady held client [] 0 m []) (visit F env) (Settled held m) := by
  have early {γ : Type} {m' : Page ε φ γ}
      (hm : Ends (Steady held client [] 0 m []) m' (Steady held client [] 0 m [])) :
      Meets (Steady held client [] 0 m []) m' (fun _ => Steady held client [] 0 m [])
        fun _ => Settled held m :=
    hm.failing fun _ _ hs => settled_of_untold hs
  apply Meets.bind (early (ends_shows
    (shows_onNet (Settings.quiet_load env) (Settings.offline_load env))))
  intro s
  apply Meets.bind (early (ends_shows (shows_onNet (fun _ => rfl) fun _ => rfl)))
  intro _
  apply Meets.bind (early (ends_shows (shows_put hF _)))
  intro _
  apply Meets.bind (early (ends_recollect hF))
  intro _
  apply Meets.bind (early (ends_shows (shows_put hF _)))
  intro _
  apply Meets.bind (ends_sidebar hF s)
  intro _
  apply Meets.bind (meets_kept hF fun _ _ hs h => hs.shows h)
  intro kept
  have below : ∀ p k, Ends (Steady held kept p k m [])
      (do
        put F (.columns 3 1)
        terminal F s kept
        historyPanel F kept
        put F (.markdown "---")
        put F (.caption "ftpctl console — commands are recorded with PASS masked."))
      (Steady held kept p k m []) := by
    intro p k
    apply Meets.bind (ends_shows (shows_put hF _))
    intro _
    apply Meets.bind (ends_terminal hF s)
    intro _
    apply Meets.bind (ends_historyPanel hF)
    intro _
    exact ends_shows (.bind (shows_put hF _) fun _ => shows_put hF _)
  exact (ends_settled below).imp (fun _ hs => hs) (fun _ _ hs => hs.2) fun _ _ hs => hs.2

theorem settled_run (hF : F.Lawful held) (env : Environment)
    (h : Kept (channel held) 0 m [] s) : Settled held m (run F env s).2 := by
  have hsteady : Steady held (held s.self.front) [] 0 m []
      ⟨{ s.self with pressed := [] }, s.net.forgetJournal⟩ := by
    obtain ⟨⟨hheld, hstate⟩, hopen⟩ := h
    exact ⟨rfl, rfl, ⟨⟨hheld.held, hheld.order, hheld.reached, hheld.numbered⟩, hstate⟩, hopen⟩
  exact (ends_visit hF env).leaves hsteady

/-! ## Every visit -/

/-- What may come of the visits to a page, from a network on where nothing is open. Between two
visits the front end may change in every respect but the client kept. -/
inductive Reachable (F : Frontend ε φ) (held : φ → Option Nat) : Live (Desk φ) → Prop
  | start (front : φ) (net : Network) (hfront : held front = none)
      (hclosed : ∀ h, (net.sockets h).isOpen = false) : Reachable F held ⟨{ front }, net⟩
  | between (front : φ) {s : Live (Desk φ)} (h : Reachable F held s)
      (hfront : held front = held s.self.front) :
      Reachable F held ⟨{ s.self with front }, s.net⟩
  | visited (env : Environment) {s : Live (Desk φ)} (h : Reachable F held s) :
      Reachable F held (run F env s).2

/-- Of all sockets at most one is open, and it belongs to the connected channel of the client that
is kept. -/
structure Owned (held : φ → Option Nat) (s : Live (Desk φ)) : Prop where
  data : ∀ h, h.onControl = false → (s.net.sockets h).isOpen = false
  owner : ∀ h, (s.net.sockets h).isOpen = true → ∃ i, held s.self.front = some i ∧
    (s.self.clients i).channel.state = .connected ∧ h ∈ (s.self.clients i).channel.resources
  sole : ∀ i j, (s.net.sockets (.control i)).isOpen = true →
    (s.net.sockets (.control j)).isOpen = true → i = j

theorem kept_of_reachable (hF : F.Lawful held) (h : Reachable F held s) :
    Kept (channel held) 0 0 [] s := by
  induction h with
  | start front net hfront hclosed =>
    have still : ∀ h, net.controlLedger.isOpen h ≠ true := by
      intro h hopen
      have hboth : h.onControl = true ∧ (net.sockets h).isOpen = true := by
        simpa [Network.controlLedger, Ledger.restrict, Network.ledger] using hopen
      rw [hclosed h] at hboth
      cases hboth.2
    refine (kept_none hfront).2 ⟨⟨?_, le_refl 0, Nat.zero_le _, ?_⟩, ?_⟩
    · exact fun h hopen => absurd hopen (still h)
    · exact fun n hopen => absurd hopen (still _)
    · intro h _ hopen
      rw [hclosed h] at hopen
      cases hopen
  | between front _ hfront ih => exact kept_of_shows ⟨hfront, rfl, rfl, rfl, rfl⟩ ih
  | visited env _ ih => exact (settled_run hF env ih).owns

theorem held_of_kept (h : Kept (channel held) k m [] s) {j : Handle} (hj : j.onControl = true)
    (hopen : (s.net.sockets j).isOpen = true) : j ∈ (channel held s.self).resources := by
  apply h.1.1.held
  change (j.onControl && (s.net.sockets j).isOpen) = true
  rw [hj, hopen]
  rfl

theorem owned_of_kept (h : Kept (channel held) k m [] s) : Owned held s := by
  have data : ∀ j, j.onControl = false → (s.net.sockets j).isOpen = false := by
    intro j hj
    by_contra hopen
    exact List.not_mem_nil (h.2 j hj (by simpa using hopen))
  have owner : ∀ j, (s.net.sockets j).isOpen = true → ∃ i, held s.self.front = some i ∧
      (s.self.clients i).channel.state = .connected ∧
        j ∈ (s.self.clients i).channel.resources := by
    intro j hopen
    have hj : j.onControl = true := by
      by_contra hnot
      rw [data j (by simpa using hnot)] at hopen
      cases hopen
    have hheld := held_of_kept h hj hopen
    have hstate : (channel held s.self).state = .connected := by
      by_contra hstate
      have hbare : (channel held s.self).resources = [] := h.1.2 hstate
      rw [hbare] at hheld
      exact List.not_mem_nil hheld
    unfold channel at hheld hstate
    cases hi : held s.self.front with
    | none =>
      rw [hi] at hstate
      cases hstate
    | some i =>
      rw [hi] at hheld hstate
      exact ⟨i, rfl, hstate, hheld⟩
  have socket : ∀ n, (s.net.sockets (.control n)).isOpen = true →
      (channel held s.self).socket = some n := by
    intro n hopen
    simpa [Channel.resources] using held_of_kept h rfl hopen
  refine ⟨data, owner, fun i j hi hj => ?_⟩
  exact Option.some.inj ((socket i hi).symm.trans (socket j hj))

theorem lawful_scripted : Frontend.scripted.Lawful fun b => b.client.join where
  put _ _ := rfl
  button _ _ := rfl
  textField _ _ _ := rfl
  numberField _ _ _ _ _ _ := rfl
  radio _ _ _ _ := rfl
  rerun _ := rfl
  remembers b := by
    refine ⟨rfl, fun h => ?_⟩
    have hnone : b.client = none := by
      simpa using Except.ok.inj h
    rw [hnone]
    rfl
  kept _ := ⟨rfl, rfl⟩
  keep _ _ := rfl

/-- A server that takes two connections; the socket of the first objects to being closed. -/
def reluctantServer : Network where
  script :=
    { controls := [
        { socket := { closeError := some "[Errno 104] Connection reset by peer" }
          banner := Text.encodeUtf8 "220 ready\r\n".toList },
        { banner := Text.encodeUtf8 "220 ready\r\n".toList }] }

/-- A visitor who presses one button, on the page as it was left. -/
def pressing (label : String) (s : Live Console) : Live Console :=
  ⟨{ s.self with front := { s.self.front with visit := { clicks := [label] } } }, s.net⟩

/-- A console that has been connected to that server. -/
def connected : Live Console :=
  (run .scripted [] (pressing "Connect" ⟨{ front := {} }, reluctantServer⟩)).2

end Console

end FtpControl
