import FtpControl.Proofs.Client.Tending

/-!
# All that is open

A network sees many control connections when one channel follows another. All of them that are
open at a time are held by the channel of that time, and when it is not connected it holds none.
Connections are numbered in the order in which they are dialled, so that a later one is not taken
for an earlier one.
-/

namespace FtpControl

open Effect Live

variable {σ α : Type} {k m : Nat} {hs : List Handle}

/-- Of control connections at most these handles are open. At least `m` connections were dialled,
and those whose sockets are open have numbers from `k` on. -/
structure Holding (k m : Nat) (hs : List Handle) (l : Ledger) (dialled : Nat) : Prop where
  held : ∀ h, l.isOpen h = true → h ∈ hs
  order : k ≤ m
  reached : m ≤ dialled
  numbered : ∀ n, l.isOpen (.control n) = true → k ≤ n ∧ n < dialled

namespace Holding

variable {l : Ledger} {n : Nat}

theorem mono {hs' : List Handle} (h : Holding k m hs l n) (hsub : ∀ j ∈ hs, j ∈ hs') :
    Holding k m hs' l n :=
  { h with held := fun j hj => hsub j (h.held j hj) }

theorem close (h : Holding k m hs l n) : Holding k m [] (hs.foldl Ledger.close l) n := by
  have still : ∀ j, (hs.foldl Ledger.close l).isOpen j = true → l.isOpen j = true ∧ j ∉ hs := by
    intro j hj
    simpa using hj
  constructor
  · intro j hj
    exact absurd (h.held j (still j hj).1) (still j hj).2
  · exact h.order
  · exact h.reached
  · exact fun i hi => h.numbered i (still _ hi).1

/-- With nothing open, all numbers up to here belong to the past. -/
theorem renew (h : Holding k m [] l n) : Holding m m [] l n where
  held := h.held
  order := le_refl m
  reached := h.reached
  numbered _ hi := absurd (h.held _ hi) List.not_mem_nil

end Holding

namespace Channel

theorem tally_holding (k m : Nat) : Tally (Holding k m) where
  refused l n h := by
    have hreached := h.reached
    constructor
    · exact h.held
    · exact h.order
    · omega
    · exact fun i hi => absurd (h.held _ hi) List.not_mem_nil
  dialled l n h := by
    have horder := h.order
    have hreached := h.reached
    have only : ∀ j, (l.hand (.control n)).isOpen j = true → j = .control n := by
      intro j hj
      by_contra hne
      have hold : l.isOpen j = true := (setAt_of_ne hne).symm.trans hj
      exact List.not_mem_nil (h.held j hold)
    constructor
    · exact fun j hj => List.mem_singleton.2 (only j hj)
    · exact horder
    · omega
    · intro i hi
      obtain rfl : i = n := by simpa using only _ hi
      omega
  opened hs h l n hnot hl := by
    have old : ∀ j, j ≠ h → (l.hand h).isOpen j = true → l.isOpen j = true :=
      fun j hj hopen => (setAt_of_ne hj).symm.trans hopen
    constructor
    · intro j hj
      by_cases hjh : j = h
      · simp [hjh]
      · exact List.mem_append_left _ (hl.held j (old j hjh hj))
    · exact hl.order
    · exact hl.reached
    · exact fun i hi => hl.numbered i (old _ (hnot i).symm hi)

/-- The channel holds all that is open of control connections, which is nothing if it is not
connected. -/
def Sole (k m : Nat) (s : Live Channel) : Prop :=
  Tallied (Holding k m) s.self.resources s.net ∧
    (s.self.state ≠ .connected → s.self.resources = [])

theorem sole_of_arrived {banner : Reply} {s : Live Channel} (h : Arrived (Holding k m) banner s) :
    Sole k m s := by
  obtain ⟨n, hself, hnet⟩ := h.held
  refine ⟨hnet.mono ?_, fun hstate => absurd h.state hstate⟩
  intro j hj
  rw [resources_of_equipped hself]
  exact List.mem_reverse.2 hj

theorem holding_of_givenUp {s : Live Channel} (h : GivenUp (Holding k m) s) :
    Tallied (Holding k m) [] s.net := by
  obtain ⟨-, n, j, l, hl, hledger, -⟩ := h
  unfold Tallied
  rw [hledger]
  exact (hl.mono fun h hh => List.mem_reverse.2 hh).close

/-- A run that lets the channel go on to hold all that is open. -/
def Careful (s t : Live Channel) : Prop :=
  ∀ k m, Sole k m s → Sole k m t

instance : IsPreorder (Live Channel) Careful where
  refl _ _ _ h := h
  trans _ _ _ h h' k m hs := h' k m (h k m hs)

theorem sole_of_control {c : Channel} {net net' : Network} (h : Sole k m ⟨c, net⟩)
    (hcontrol : net'.controlLedger = net.controlLedger)
    (hdialled : net'.counts.control = net.counts.control) : Sole k m ⟨c, net'⟩ := by
  unfold Sole Tallied at h ⊢
  rw [hcontrol, hdialled]
  exact h

theorem careful_call {m : Net α} (hm : Apart m) (hd : DialsNone (call m : Op Channel α)) :
    Keeps Careful (call m : Op Channel α) :=
  fun s _ _ hs => sole_of_control hs (hm s.net) (hd s)

theorem careful_quiet {m : Net α} (hm : Net.Quiet m) (hd : DialsNone (call m : Op Channel α)) :
    Keeps Careful (call m : Op Channel α) :=
  careful_call (hm.imp fun _ _ h => congrArg (Ledger.restrict Handle.onControl) h) hd

theorem careful_offline {m : Net α} (hm : Apart m) (ho : Net.Offline m) :
    Keeps Careful (call m : Op Channel α) :=
  careful_call hm (dialsNone_of_offline (offline_call ho))

theorem careful_release : Keeps Careful release := by
  intro s k m ⟨hheld, _⟩
  have hdialled := dialsNone_of_offline offline_release s
  obtain ⟨hself, hledger⟩ : AfterRelease s.self s.net.ledger (release.run s).2 :=
    (keeps_release fun _ _ h => h : Keeps (fun s => AfterRelease s.self s.net.ledger) release) s
  have hresources : ((release.run s).2).self.resources = [] := by
    rw [hself]
    rfl
  refine ⟨?_, fun _ => hresources⟩
  rw [hresources, Tallied, Network.controlLedger, hledger, hdialled, restrict_foldl_close]
  · exact hheld.close
  · exact fun h hh => onControl_of_mem_resources hh

theorem negotiating_careful : Negotiating Careful where
  log _ _ _ := careful_quiet (Net.quiet_log _ _ _)
    (dialsNone_of_offline (offline_call (Net.offline_log _ _ _)))
  setSource _ _ := careful_quiet (Net.quiet_setSource _ _) (dialsNone_setSource _ _)
  release := careful_release
  transmit _ _ := careful_call (apart_transmit _ _) (dialsNone_transmit _ _)
  ownAddress _ := careful_quiet (Net.quiet_ownAddress _)
    (dialsNone_of_offline (offline_call (Net.offline_ownAddress _)))
  openListener := careful_offline (apart_opens Net.opens_openListener fun _ => rfl)
    Net.offline_openListener
  bind _ _ := careful_quiet (Net.quiet_bind _ _)
    (dialsNone_of_offline (offline_call (Net.offline_bind _ _)))
  listen _ _ := careful_quiet (Net.quiet_listen _ _)
    (dialsNone_of_offline (offline_call (Net.offline_listen _ _)))
  closeListener _ := careful_offline (apart_close rfl) (Net.offline_close _)
  dialData _ _ := careful_offline (apart_opens (Net.opens_dialData _ _) fun _ => rfl)
    (Net.offline_dialData _ _)

/-- Whatever comes of the farewell, the channel is not connected behind it. -/
theorem logout_state (s : Live Channel) : ((logout.run s).2).self.state ≠ .connected := by
  by_cases hstate : s.self.state = .connected
  · have hlast : Meets (fun _ => True) (farewell.ensure close)
        (fun _ t => t.self.state ≠ .connected) fun _ t => t.self.state ≠ .connected := by
      apply Meets.ensure (I := fun _ => True) (.trivial _ _)
      apply Meets.ofLeaves
      intro t _
      rw [state_close]
      split_ifs <;> simp
    rw [logout_eq, run_bind_ok (run_requireConnected hstate _)]
    exact hlast.leaves trivial
  · rw [logout, run_bind_error (run_requireConnected_of_idle hstate _)]
    exact hstate

/-- A new channel where nothing is open of earlier ones. -/
theorem meets_connect_sole (peer : Target) (millis : Int) :
    Meets (fun s => s.self = {} ∧ Tallied (Holding k m) [] s.net) (connect peer millis)
      (fun _ => Sole k m) fun _ s => Tallied (Holding k m) [] s.net := by
  apply (meets_connect_along (tally_holding k m) 0 peer millis).imp
  · rintro s ⟨hself, hnet⟩
    refine ⟨?_, ?_, hnet⟩
    · rw [hself]
    · rw [hself]
      exact ⟨rfl, rfl, rfl, rfl⟩
  · exact fun banner s hs => sole_of_arrived hs
  · exact fun e s hs => holding_of_givenUp hs

end Channel

/-! ## Clients and data connections -/

/-- A thing whose channel holds all that is open of control connections, while of data connections
and listeners at most some are open. -/
def Kept (chan : σ → Channel) (k m : Nat) (hs : List Handle) (s : Live σ) : Prop :=
  Channel.Sole k m ⟨chan s.self, s.net⟩ ∧ s.net.OpenAtMost hs

variable {chan : σ → Channel}

theorem kept_of_ledger {s t : Live σ} (hchan : chan t.self = chan s.self)
    (hledger : t.net.ledger = s.net.ledger)
    (hdialled : t.net.counts.control = s.net.counts.control) :
    Upholds (Kept chan k m) s t := by
  intro hs ⟨hsole, hopen⟩
  rw [Kept, hchan]
  constructor
  · exact Channel.sole_of_control hsole (congrArg (Ledger.restrict _) hledger) hdialled
  · exact openAtMost_of_data (congrArg (Ledger.restrict _) hledger) hopen

theorem kept_call {m : Net α} {i j : Nat} (hm : Net.Quiet m) (ho : Net.Offline m) :
    Keeps (Upholds (Kept chan i j)) (call m : Op σ α) :=
  fun s => kept_of_ledger rfl (hm s.net) (dialled_of_wires (ho s.net))

theorem tended_kept (k m : Nat) : Client.Tended (Kept Client.channel k m) where
  now := kept_call Net.quiet_now fun _ => rfl
  log _ _ _ := kept_call (Net.quiet_log _ _ _) (Net.offline_log _ _ _)
  history _ := .change fun _ => kept_of_ledger rfl rfl rfl
  send command := by
    have steady : Keeps (Upholds (Kept id k m)) (Channel.send command) := fun s hs h =>
      ⟨Channel.negotiating_careful.send command s k m h.1,
        openAtMost_of_data (Channel.contained_send command s) h.2⟩
    exact .focus steady fun _ _ h hs hK => h hs hK
  negotiate mode := by
    have negotiated : Meets (Kept id k m []) (Negotiation.run mode)
        (fun d s => d.Fresh ∧ Kept id k m d.handles s) fun _ => Kept id k m [] := by
      have sole := Meets.ofKeeps (Channel.negotiating_careful.negotiation mode)
        fun s t (hs : Channel.Sole k m s) h => h k m hs
      exact (sole.and (Negotiation.meets_run mode)).imp (fun _ hs => hs)
        (fun _ _ hs => ⟨hs.2.1, hs.1, hs.2.2⟩) fun _ _ hs => hs
    exact Client.meets_onChannel negotiated

end FtpControl
