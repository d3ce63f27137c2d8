import FtpControl.Proofs.Channel.Lifecycle
import FtpControl.Proofs.Offline

/-!
# Connecting

On its way to a connection a channel holds one resource after the other, still unconnected.
Wherever the way ends, what has been opened by then is closed again. Whoever keeps a tally of the
handles that are opened on the way knows at its end what the channel holds.
-/

namespace FtpControl

open Effect Live

namespace Net

/-- Every connection dialled is counted, also one that is refused, and its number is the count
before it. -/
theorem meets_dialControl_counted (peer : Target) (limit : Timeout) (n : Nat) :
    Meets (fun net => net.counts.control = n) (dialControl peer limit)
      (fun k net => k = n ∧ net.counts.control = n + 1)
      fun _ net => net.counts.control = n + 1 := by
  apply Meets.bind (Q := fun next net => next.1 = n ∧ net.counts.control = n + 1)
  · intro net hnet
    exact ⟨hnet, congrArg (· + 1) hnet⟩
  intro next
  have along : ∀ {β : Type} {m : Net β}, Offline m →
      Meets (fun net => next.1 = n ∧ net.counts.control = n + 1) m
        (fun _ net => next.1 = n ∧ net.counts.control = n + 1)
        fun _ net => net.counts.control = n + 1 := by
    intro β m hm
    apply (Meets.ofKeeps hm fun _ _ hnet h => _).failing
    · exact fun _ _ hnet => hnet.2
    · exact fun _ _ hnet h => ⟨hnet.1, (dialled_of_wires h).trans hnet.2⟩
  apply Meets.bind (along (offline_record _))
  intro _
  apply Meets.bind (along (offline_checkLimit limit))
  intro _
  apply Meets.bind (along (offline_refuse _))
  intro _
  apply Meets.bind (along (offline_handOut _ _))
  intro _
  apply Meets.bind (Q := fun _ net => next.1 = n ∧ net.counts.control = n + 1)
  · exact .update fun _ hnet => hnet
  intro _
  exact .pure fun _ hnet => hnet

end Net

namespace Channel

/-- An unconnected channel that holds the first `k` resources of a connection. -/
def Underway (n k : Nat) (s : Live Channel) : Prop :=
  s.self.state = .unconnected ∧ Custody n k s

/-- A channel in order that is not connected. -/
def Idle (s : Live Channel) : Prop :=
  Lifecycle s ∧ s.self.state ≠ .connected

/-- What a tally says of some handles, of the entries about control connections and of the number
of connections dialled, where it says so again after each step of the way. -/
structure Tally (L : List Handle → Ledger → Nat → Prop) : Prop where
  refused : ∀ l n, L [] l n → L [] l (n + 1)
  dialled : ∀ l n, L [] l n → L [.control n] (l.hand (.control n)) (n + 1)
  opened : ∀ hs h l n, (∀ k, h ≠ .control k) → L hs l n → L (hs ++ [h]) (l.hand h) n

section Way

variable {α : Type} {L : List Handle → Ledger → Nat → Prop} {n k : Nat}

def Tallied (L : List Handle → Ledger → Nat → Prop) (hs : List Handle) (net : Network) : Prop :=
  L hs net.controlLedger net.counts.control

/-- An unconnected channel that holds the first `k` resources of a connection, as many as the
tally has. -/
def Way (L : List Handle → Ledger → Nat → Prop) (n k : Nat) (s : Live Channel) : Prop :=
  s.self.state = .unconnected ∧ s.self.Equipped n k ∧ Tallied L ((Handle.line n).take k) s.net

/-- A channel that has given up its way and closed what the tally had. -/
structure GivenUp (L : List Handle → Ledger → Nat → Prop) (s : Live Channel) : Prop where
  bare : ∃ n, s.self.Equipped n 0
  closed : ∃ n k l, L ((Handle.line n).take k) l s.net.counts.control ∧
    s.net.controlLedger = ((Handle.line n).take k).reverse.foldl Ledger.close l ∧
      (s.self.state = .closed ∨ s.self.state = .unconnected ∧ k = 0)

/-- A connected channel that holds all that the tally has. -/
structure Arrived (L : List Handle → Ledger → Nat → Prop) (banner : Reply) (s : Live Channel) :
    Prop where
  state : s.self.state = .connected
  held : ∃ n, s.self.Equipped n 3 ∧ Tallied L (Handle.line n) s.net
  limit : Timeout.Usable s.self.timeoutMillis
  banner : s.self.banner = some banner ∧ banner.code.toString = "220"

theorem tallied_of_aside {hs : List Handle} {s t : Live Channel} (hnet : Tallied L hs s.net)
    (h : Aside s t) (hdialled : t.net.counts.control = s.net.counts.control) :
    Tallied L hs t.net := by
  unfold Tallied
  rw [h.controlLedger, hdialled]
  exact hnet

theorem Way.givenUp {s : Live Channel} (h : Way L n 0 s) : GivenUp L s :=
  ⟨⟨n, h.2.1⟩, n, 0, _, h.2.2, rfl, .inr ⟨h.1, rfl⟩⟩

theorem dialsNone_log (level : LogLevel) (message : String) : DialsNone (log level message) :=
  dialsNone_of_offline (offline_log level message)

theorem GivenUp.aside {s t : Live Channel} (hs : GivenUp L s) (h : Aside s t)
    (hdialled : t.net.counts.control = s.net.counts.control) : GivenUp L t := by
  obtain ⟨⟨i, hself⟩, n, k, l, hl, hledger, hstate⟩ := hs
  refine ⟨⟨i, h.equipped hself⟩, n, k, l, ?_, h.controlLedger.trans hledger, ?_⟩
  · rw [hdialled]
    exact hl
  · rw [h.state]
    exact hstate

theorem meets_way {m : Op Channel α} (hm : Keeps Aside m) (hd : DialsNone m) :
    Meets (Way L n k) m (fun _ => Way L n k) fun _ => Way L n k := by
  apply Meets.ofLeaves
  intro s ⟨hstate, hself, hnet⟩
  have h := hm s
  exact ⟨h.state.trans hstate, h.equipped hself, tallied_of_aside hnet h (hd s)⟩

/-- A call that opens a stream of the control connection and leaves the channel as it is. -/
theorem meets_open (hL : Tally L) {C : Channel → Prop} {kind : Nat → Handle} {h : α → Handle}
    {m : Net α} (hm : Net.Opens kind h m) (ho : Net.Offline m)
    (hkind : ∀ n, (kind n).onControl = true) (hnot : ∀ n k, kind n ≠ .control k)
    (hs : List Handle) :
    Meets (fun s => C s.self ∧ Tallied L hs s.net) (call m)
      (fun a s => C s.self ∧ Tallied L (hs ++ [h a]) s.net)
      fun _ s => C s.self ∧ Tallied L hs s.net := by
  intro s ⟨hself, hnet⟩
  have ht := hm s.net.ledger s.net rfl
  have hdialled := dialled_of_wires (ho s.net)
  rw [Live.call, run_zoom]
  rcases hr : m.run s.net with ⟨e | a, t⟩ <;> rw [hr] at ht hdialled
  · refine ⟨hself, ?_⟩
    rw [Tallied, Network.controlLedger, ht, hdialled]
    exact hnet
  · obtain ⟨⟨i, hi⟩, ht⟩ := ht
    refine ⟨hself, ?_⟩
    rw [Tallied, Network.controlLedger, ht, Ledger.restrict_hand (hi ▸ hkind i), hdialled]
    exact hL.opened _ _ _ _ (hi ▸ hnot i) hnet

theorem meets_dialControl_way (hL : Tally L) (peer : Target) (limit : Timeout) :
    Meets (Way L n 0) (call (Net.dialControl peer limit))
      (fun i s => (s.self.state = .unconnected ∧ s.self.Equipped n 0) ∧
        Tallied L [.control i] s.net)
      fun _ => Way L n 0 := by
  intro s ⟨hstate, hself, hnet⟩
  have ht := Net.opens_dialControl peer limit s.net.ledger s.net rfl
  have hcount := Net.meets_dialControl_counted peer limit s.net.counts.control s.net rfl
  rw [Live.call, run_zoom]
  rcases hr : (Net.dialControl peer limit).run s.net with ⟨e | i, t⟩ <;> rw [hr] at ht hcount
  · refine ⟨hstate, hself, ?_⟩
    rw [Tallied, Network.controlLedger, ht, hcount]
    exact hL.refused _ _ hnet
  · obtain ⟨rfl, hcount⟩ := hcount
    refine ⟨⟨hstate, hself⟩, ?_⟩
    rw [Tallied, Network.controlLedger, ht.2, Ledger.restrict_hand rfl, hcount]
    exact hL.dialled _ _ hnet

theorem meets_dial_along (hL : Tally L) (peer : Target) (millis : Int) :
    Meets (Way L n 0) (dial peer millis) (fun n => Way L n 1) fun _ => GivenUp L := by
  apply Meets.given (fun _ _ _ hs => hs.givenUp)
  intro limit _
  apply Meets.bind (Q := fun i s => (s.self.state = .unconnected ∧ s.self.Equipped n 0) ∧
    Tallied L [.control i] s.net)
  · apply Meets.rescue (meets_dialControl_way hL peer limit)
    intro e
    split
    · apply Meets.bind (Q := fun _ => GivenUp L)
      · exact .change fun s hs => ⟨⟨n, hs.2.1⟩, n, 0, _, hs.2.2, rfl, .inl rfl⟩
      intro _
      apply Meets.bind (Q := fun _ => GivenUp L)
      · apply Meets.ofLeaves
        intro s hs
        exact hs.aside (aside_log _ _ s) (dialsNone_log _ _ s)
      intro _
      exact .fail fun _ hs => hs
    · exact .fail fun _ hs => hs.givenUp
  intro i
  apply Meets.bind (Q := fun _ => Way L i 1)
  · apply Meets.change
    rintro s ⟨⟨hstate, -, hreader, hwriter, hreplies⟩, hnet⟩
    exact ⟨hstate, ⟨rfl, hreader, hwriter, hreplies⟩, hnet⟩
  intro _
  exact .pure fun _ hs => hs

theorem meets_applyTimeout (n : Nat) (millis : Int) :
    Meets (fun _ => True) (applyTimeout n millis)
      (fun _ s => Timeout.Usable s.self.timeoutMillis) fun _ _ => True := by
  unfold applyTimeout
  by_cases hmillis : millis < 0
  · rw [if_pos hmillis]
    exact .fail fun _ _ => trivial
  · rw [if_neg hmillis]
    refine .given (fun _ _ _ _ => trivial) fun limit hlimit => .skip fun _ => ?_
    exact .change fun _ _ => ⟨not_lt.1 hmillis, limit, hlimit⟩

theorem meets_greet_along (hL : Tally L) (n : Nat) (millis : Int) :
    Meets (Way L n 1) (greet n millis)
      (fun banner s => Way L n 3 s ∧ Timeout.Usable s.self.timeoutMillis ∧
        banner.code.toString = "220")
      fun _ s => ∃ k, Way L n k s := by
  let Ready (k : Nat) (c : Channel) : Prop :=
    c.state = .unconnected ∧ c.Equipped n k ∧ Timeout.Usable c.timeoutMillis
  have forget : ∀ k (s : Live Channel), Ready k s.self ∧
      Tallied L ((Handle.line n).take k) s.net → ∃ k, Way L n k s :=
    fun k s hs => ⟨k, hs.1.1, hs.1.2.1, hs.2⟩
  apply Meets.bind (Q := fun _ s => Ready 1 s.self ∧ Tallied L [.control n] s.net)
  · apply ((meets_way (aside_applyTimeout n millis)
      (dialsNone_of_offline (offline_applyTimeout n millis))).and (meets_applyTimeout n millis)).imp
      (fun _ hs => ⟨hs, trivial⟩) _ fun _ _ hs => ⟨1, hs.1⟩
    rintro _ s ⟨⟨hstate, hself, hnet⟩, hlimit⟩
    exact ⟨⟨hstate, hself, hlimit⟩, hnet⟩
  intro _
  apply Meets.bind ((meets_open hL (Net.opens_openReader n) (Net.offline_openReader n)
    (fun _ => rfl) (by simp) _).failing fun _ s => forget 1 s)
  intro _
  apply Meets.bind (Q := fun _ s => Ready 2 s.self ∧ Tallied L [.control n, .reader n] s.net)
  · apply Meets.change
    rintro s ⟨⟨hstate, ⟨hsocket, -, hwriter, hreplies⟩, hlimit⟩, hnet⟩
    exact ⟨⟨hstate, ⟨hsocket, rfl, hwriter, hreplies⟩, hlimit⟩, hnet⟩
  intro _
  apply Meets.bind ((meets_open hL (Net.opens_openWriter n) (Net.offline_openWriter n)
    (fun _ => rfl) (by simp) _).failing fun _ s => forget 2 s)
  intro _
  apply Meets.bind (Q := fun _ s => Way L n 3 s ∧ Timeout.Usable s.self.timeoutMillis)
  · apply Meets.change
    rintro s ⟨⟨hstate, ⟨hsocket, hreader, -, -⟩, hlimit⟩, hnet⟩
    exact ⟨⟨hstate, ⟨hsocket, hreader, rfl, rfl⟩, hnet⟩, hlimit⟩
  intro _
  apply Meets.bind (Q := fun _ s => Way L n 3 s ∧ Timeout.Usable s.self.timeoutMillis)
  · have received := (meets_way (L := L) (n := n) (k := 3) aside_receive dialsNone_receive).and
      (.ofKeeps aside_receive fun _ _ hs h => h.limit hs)
    exact received.failing fun _ _ hs => ⟨3, hs.1⟩
  intro reply
  cases hvalid : validate ["220"] reply with
  | error e => exact .fail fun _ hs => ⟨3, hs.1⟩
  | ok banner =>
    obtain ⟨rfl, hcode⟩ := validate_ok hvalid
    exact .pure fun s hs => ⟨hs.1, hs.2, List.mem_singleton.1 hcode⟩

theorem meets_giveUp (n : Nat) :
    Meets (fun s => ∃ k, Way L n k s) releaseQuietly (fun _ => GivenUp L) fun _ => GivenUp L := by
  intro s ⟨k, _, hself, hnet⟩
  have ht := meets_releaseQuietly s.self s.net.ledger s ⟨rfl, rfl⟩
  have hdialled := dialsNone_of_offline offline_releaseQuietly s
  rcases hr : releaseQuietly.run s with ⟨e | a, t⟩ <;> rw [hr] at ht hdialled
  · exact ht.elim
  · obtain ⟨hreleased, hledger⟩ := ht
    rw [resources_of_equipped hself] at hledger
    refine ⟨⟨n, ?_⟩, n, k, s.net.controlLedger, ?_, ?_, .inl ?_⟩
    · rw [hreleased]
      exact ⟨rfl, rfl, rfl, rfl⟩
    · rw [hdialled]
      exact hnet
    · rw [Network.controlLedger, hledger, restrict_foldl_close]
      · rfl
      · intro h hh
        exact onControl_of_mem_line (List.mem_of_mem_take (List.mem_reverse.1 hh))
    · rw [hreleased]
      rfl

theorem meets_connect_along (hL : Tally L) (n : Nat) (peer : Target) (millis : Int) :
    Meets (Way L n 0) (connect peer millis) (Arrived L) fun _ => GivenUp L := by
  apply Meets.look
  intro c
  by_cases hc : c.state = .unconnected
  swap
  · rintro s ⟨hs, rfl⟩
    exact absurd hs.1 hc
  rw [if_neg (not_not.2 hc)]
  apply Meets.bind (Q := fun _ => Way L n 0) (.change fun s hs => hs.1)
  intro _
  apply Meets.bind ((meets_way (aside_log _ _) (dialsNone_log _ _)).failing
    fun _ _ hs => hs.givenUp)
  intro _
  apply Meets.bind (meets_dial_along hL peer millis)
  intro i
  apply Meets.bind (Q := fun banner s => Way L i 3 s ∧ Timeout.Usable s.self.timeoutMillis ∧
    banner.code.toString = "220")
  · apply Meets.rescue (meets_greet_along hL i millis)
    intro e
    apply Meets.bind (Q := fun _ s => ∃ k, Way L i k s)
    · intro s ⟨k, hs⟩
      exact ⟨k, (meets_way (aside_log _ _) (dialsNone_log _ _)).leaves hs⟩
    intro _
    apply Meets.bind (Q := fun _ s => ∃ k, Way L i k s)
    · exact .change fun s hs => hs
    intro _
    exact .bind (meets_giveUp i) fun _ => .fail fun _ hs => hs
  intro banner
  apply Meets.bind (Q := fun _ => Arrived L banner)
  · apply Meets.change
    intro s ⟨⟨_, hself, hnet⟩, hlimit, hcode⟩
    exact ⟨rfl, ⟨i, hself, hnet⟩, hlimit, rfl, hcode⟩
  intro _
  apply Meets.bind (Q := fun _ => Arrived L banner)
  · intro s hs
    have h := aside_log .info s!"✓ Connected to {peer.text}" s
    obtain ⟨i, hself, hnet⟩ := hs.held
    constructor
    · exact h.state.trans hs.state
    · exact ⟨i, h.equipped hself, tallied_of_aside hnet h (dialsNone_log _ _ s)⟩
    · exact h.limit hs.limit
    · exact ⟨h.banner.trans hs.banner.1, hs.banner.2⟩
  intro _
  exact .pure fun _ hs => hs

end Way

/-- The tally of a network where nothing but these handles was ever opened. -/
def heldTally (hs : List Handle) (l : Ledger) (_ : Nat) : Prop :=
  l = .held hs

theorem tally_held : Tally heldTally where
  refused _ _ h := h
  dialled l n h := by
    unfold heldTally at h ⊢
    rw [h, Ledger.held_hand, List.nil_append]
  opened hs h l n _ hl := by
    unfold heldTally at hl ⊢
    rw [hl, Ledger.held_hand]

theorem idle_of_givenUp {s : Live Channel} (h : GivenUp heldTally s) : Idle s := by
  obtain ⟨⟨i, hself⟩, n, k, l, rfl, hledger, hstate⟩ := h
  rw [Ledger.foldl_close_held (List.reverse_perm _)] at hledger
  unfold Idle Lifecycle
  rcases hstate with hstate | ⟨hstate, rfl⟩ <;> rw [hstate]
  · exact ⟨⟨n, k, hself, hledger⟩, by simp⟩
  · exact ⟨⟨i, hself, hledger⟩, by simp⟩

theorem meets_connect (n : Nat) (peer : Target) (millis : Int) :
    Meets (Underway n 0) (connect peer millis)
      (fun _ s => Lifecycle s ∧ s.self.state = .connected) fun _ => Idle := by
  apply (meets_connect_along tally_held n peer millis).imp (fun _ hs => hs) _
    fun _ _ => idle_of_givenUp
  intro banner s hs
  obtain ⟨i, hself, hnet⟩ := hs.held
  unfold Lifecycle
  rw [hs.state]
  exact ⟨⟨i, ⟨hself, hnet⟩, hs.limit, banner, hs.banner⟩, rfl⟩

/-- A channel connects once. -/
theorem run_connect_again {s : Live Channel} (hstate : s.self.state ≠ .unconnected) (peer : Target)
    (millis : Int) :
    (connect peer millis).run s = (.error (.fault (.connectIn s.self.state)), s) := by
  rw [connect, run_look, if_pos hstate]
  rfl

theorem orderly_connect (peer : Target) (millis : Int) : Keeps Orderly (connect peer millis) := by
  intro s hs
  by_cases hstate : s.self.state = .unconnected
  · unfold Lifecycle at hs
    rw [hstate] at hs
    obtain ⟨n, hn⟩ := hs
    have ht := meets_connect n peer millis s ⟨hstate, hn⟩
    rw [hstate]
    rcases hr : (connect peer millis).run s with ⟨e | a, t⟩ <;> rw [hr] at ht
    · exact ⟨ht.1, .of_unconnected _⟩
    · exact ⟨ht.1, .of_unconnected _⟩
  · rw [run_connect_again hstate]
    exact ⟨hs, .stay _⟩

end Channel

end FtpControl
