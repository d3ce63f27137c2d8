import FtpControl.Proofs.Channel.Connecting

/-!
# What a channel leaves alone

No operation of a channel by itself opens or closes anything but its own control connection.
Those that carry no command send nothing either.
-/

namespace FtpControl

open Effect Live

variable {σ α : Type}

/-- A run that sends nothing and leaves data connections and listeners alone. -/
structure Within (s t : Live σ) : Prop where
  sent : t.net.sent = s.net.sent
  data : t.net.dataLedger = s.net.dataLedger

instance : IsPreorder (Live σ) Within where
  refl _ := ⟨rfl, rfl⟩
  trans _ _ _ h h' := ⟨h'.sent.trans h.sent, h'.data.trans h.data⟩

/-- Operations that leave data connections and listeners alone. -/
abbrev Contained (m : Op σ α) : Prop :=
  Keeps (fun s t => t.net.dataLedger = s.net.dataLedger) m

theorem contained_within {m : Op σ α} (hm : Keeps Within m) : Contained m :=
  hm.imp fun _ _ h => h.data

theorem within_change (f : σ → σ) : Keeps Within (change f : Op σ Unit) :=
  .change fun _ => ⟨rfl, rfl⟩

theorem within_quiet {m : Net α} (hm : Net.Quiet m) : Keeps Within (call m : Op σ α) :=
  .call hm fun _ _ h =>
    ⟨congrArg Ledger.sent h, congrArg (Ledger.restrict fun h => !h.onControl) h⟩

/-- Opening a part of a control connection. -/
theorem within_opens {kind : Nat → Handle} {h : α → Handle} {m : Net α} (hm : Net.Opens kind h m)
    (hkind : ∀ n, (kind n).onControl = true) : Keeps Within (call m : Op σ α) := by
  refine .call (N := fun net net' => net'.sent = net.sent ∧ net'.dataLedger = net.dataLedger) ?_
    fun _ _ h => ⟨h.1, h.2⟩
  intro net
  have ht := hm net.ledger net rfl
  rcases hr : m.run net with ⟨e | a, t⟩ <;> rw [hr] at ht
  · exact ⟨congrArg Ledger.sent ht, congrArg (Ledger.restrict fun h => !h.onControl) ht⟩
  · obtain ⟨⟨n, hn⟩, hledger⟩ := ht
    refine ⟨congrArg Ledger.sent hledger, ?_⟩
    exact (congrArg (Ledger.restrict fun h => !h.onControl) hledger).trans
      (Ledger.restrict_hand_of_not (by simp [hn, hkind]) _)

theorem contained_transmit (n : Nat) (bytes : List UInt8) :
    Contained (call (Net.transmit n bytes) : Op σ Unit) := by
  refine .call (N := fun net net' => net'.dataLedger = net.dataLedger) ?_ fun _ _ h => h
  intro net
  have ht := Net.meets_transmit n bytes net.ledger net rfl
  rcases hr : (Net.transmit n bytes).run net with ⟨e | a, t⟩ <;> rw [hr] at ht
  · exact congrArg (Ledger.restrict fun h => !h.onControl) ht
  · exact (congrArg (Ledger.restrict fun h => !h.onControl) ht).trans (Ledger.restrict_send _ _ _)

namespace Channel

theorem within_aside {m : Op Channel α} (hm : Keeps Aside m) : Keeps Within m :=
  hm.imp fun _ _ h =>
    ⟨congrArg Ledger.sent h.ledger, congrArg (Ledger.restrict fun h => !h.onControl) h.ledger⟩

theorem onControl_of_mem_resources {c : Channel} {h : Handle} (hh : h ∈ c.resources) :
    h.onControl = true := by
  simp only [resources, List.mem_append, Option.mem_toList,
    Option.map_eq_some_iff] at hh
  rcases hh with (⟨n, -, rfl⟩ | ⟨n, -, rfl⟩) | ⟨n, -, rfl⟩ <;> rfl

theorem restrict_foldl_close_of_not {p : Handle → Bool} {hs : List Handle}
    (h : ∀ k ∈ hs, p k = false) (l : Ledger) :
    (hs.foldl Ledger.close l).restrict p = l.restrict p := by
  induction hs generalizing l with
  | nil => rfl
  | cons k hs ih =>
    rw [List.foldl_cons, ih fun j hj => h j (List.mem_cons_of_mem k hj),
      Ledger.restrict_close_of_not (h k List.mem_cons_self)]

theorem AfterRelease.within {s t : Live Channel} (h : AfterRelease s.self s.net.ledger t) :
    Within s t := by
  constructor
  · have hsent := congrArg Ledger.sent h.2
    rwa [Ledger.sent_foldl_close] at hsent
  · have hdata := congrArg (Ledger.restrict fun h => !h.onControl) h.2
    rwa [restrict_foldl_close_of_not fun k hk => by simp [onControl_of_mem_resources hk]] at hdata

theorem within_release : Keeps Within release :=
  keeps_release fun _ _ h => h.within

theorem reading_within : Reading Within where
  log _ _ _ := within_quiet (Net.quiet_log _ _ _)
  setSource _ _ := within_quiet (Net.quiet_setSource _ _)
  release := within_release

theorem within_releaseQuietly : Keeps Within releaseQuietly := reading_within.releaseQuietly

theorem within_close : Keeps Within close := reading_within.close

theorem within_readReply : Keeps Within readReply := reading_within.readReply

theorem within_dial (peer : Target) (millis : Int) : Keeps Within (dial peer millis) := by
  refine .bind (.ofExcept _) fun limit => ?_
  have opened := within_opens (σ := Channel) (Net.opens_dialControl peer limit) fun _ => rfl
  refine .bind (.rescue opened fun e => ?_) ?_
  · split
    · refine .bind (within_change _) fun _ => ?_
      exact .bind (within_aside (aside_log _ _)) fun _ => .fail _
    · exact .fail _
  · exact fun n => .bind (within_change _) fun _ => .pure _

theorem within_greet (n : Nat) (millis : Int) : Keeps Within (greet n millis) := by
  refine .bind (within_aside (aside_applyTimeout n millis)) fun _ => ?_
  refine .bind (within_opens (Net.opens_openReader n) fun _ => rfl) fun _ => ?_
  refine .bind (within_change _) fun _ => ?_
  refine .bind (within_opens (Net.opens_openWriter n) fun _ => rfl) fun _ => ?_
  refine .bind (within_change _) fun _ => ?_
  exact .bind (within_aside aside_receive) fun _ => .ofExcept _

theorem within_connect (peer : Target) (millis : Int) : Keeps Within (connect peer millis) := by
  refine .bind .this fun c => .ite .failed (.bind (within_change _) fun _ => ?_)
  refine .bind (within_aside (aside_log _ _)) fun _ => .bind (within_dial peer millis) fun n => ?_
  refine .bind (.rescue (within_greet n millis) fun e => ?_) fun reply => ?_
  · refine .bind (within_aside (aside_log _ _)) fun _ => .bind (within_change _) fun _ => ?_
    exact .bind within_releaseQuietly fun _ => .fail _
  · refine .bind (within_change _) fun _ => ?_
    exact .bind (within_aside (aside_log _ _)) fun _ => .pure _

theorem exchanging_contained :
    Exchanging (fun s t : Live Channel => t.net.dataLedger = s.net.dataLedger) where
  log _ _ _ := contained_within (within_quiet (Net.quiet_log _ _ _))
  setSource _ _ := contained_within (within_quiet (Net.quiet_setSource _ _))
  release := contained_within within_release
  transmit _ _ := contained_transmit _ _

theorem contained_send (command : String) : Contained (send command) :=
  exchanging_contained.send command

end Channel

end FtpControl
