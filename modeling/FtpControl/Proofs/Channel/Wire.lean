import FtpControl.Proofs.Channel.Within

/-!
# What a channel sends

An operation either sends nothing at all, or it sends one command line, unless it fails
before it comes to that. Connecting, reading and closing are of the first kind, commands and
negotiations of the second.
-/

namespace FtpControl

open Effect Live

section Judgements

variable {ε ε' σ τ α β : Type} {C : String → Prop}

/-- Effects that send nothing. -/
abbrev Mute (m : Effect ε (Live σ) α) : Prop :=
  Keeps (fun s t => t.net.sent = s.net.sent) m

/-- Effects that fail and send nothing. -/
def Balks (m : Effect ε (Live σ) α) : Prop :=
  ∀ w, Meets (fun s => s.net.sent = w) m (fun _ _ => False) fun _ t => t.net.sent = w

/-- One of the commands `C` was sent behind `w`. -/
def Uttered (C : String → Prop) (w : List (List UInt8)) (t : Live σ) : Prop :=
  ∃ c, C c ∧ t.net.sent = w ++ [Text.encodeUtf8 c.toList ++ [13, 10]]

/-- Effects that send one of the commands `C`, once, or fail before that. -/
def Utters (C : String → Prop) (m : Effect ε (Live σ) α) : Prop :=
  ∀ w, Meets (fun s => s.net.sent = w) m (fun _ => Uttered C w)
    fun _ t => t.net.sent = w ∨ Uttered C w t

theorem Mute.meets {m : Effect ε (Live σ) α} (hm : Mute m) (w : List (List UInt8)) :
    Meets (fun s => s.net.sent = w) m (fun _ t => t.net.sent = w) fun _ t => t.net.sent = w :=
  .ofKeeps hm fun _ _ hs h => h.trans hs

theorem Mute.uttered {m : Effect ε (Live σ) α} (hm : Mute m) (w : List (List UInt8)) :
    Meets (Uttered C w) m (fun _ => Uttered C w) fun _ => Uttered C w :=
  .ofKeeps hm fun _ _ ⟨c, hc, hs⟩ h => ⟨c, hc, h.trans hs⟩

theorem Balks.fail (e : ε) : Balks (Effect.fail e : Effect ε (Live σ) α) :=
  fun _ => .fail fun _ hs => hs

theorem Balks.after {m : Effect ε (Live σ) β} {f : β → Effect ε (Live σ) α} (hm : Mute m)
    (hf : ∀ b, Balks (f b)) : Balks (m >>= f) :=
  fun w => .bind (hm.meets w) fun b => hf b w

namespace Utters

theorem imp {C' : String → Prop} {m : Effect ε (Live σ) α} (hm : Utters C m)
    (hC : ∀ c, C c → C' c) : Utters C' m := by
  have huttered : ∀ w (t : Live σ), Uttered C w t → Uttered C' w t :=
    fun w t ⟨c, hc, ht⟩ => ⟨c, hC c hc, ht⟩
  intro w
  exact (hm w).imp (fun _ hs => hs) (fun _ t ht => huttered w t ht)
    fun _ t ht => ht.imp (fun h => h) (huttered w t)

theorem fail (e : ε) : Utters C (Effect.fail e : Effect ε (Live σ) α) :=
  fun _ => .fail fun _ hs => .inl hs

theorem after {m : Effect ε (Live σ) β} {f : β → Effect ε (Live σ) α} (hm : Mute m)
    (hf : ∀ b, Utters C (f b)) : Utters C (m >>= f) :=
  fun w => .bind ((hm.meets w).failing fun _ _ ht => .inl ht)
    fun b => hf b w

theorem before {m : Effect ε (Live σ) β} {f : β → Effect ε (Live σ) α} (hm : Utters C m)
    (hf : ∀ b, Mute (f b)) : Utters C (m >>= f) :=
  fun w => .bind (hm w) fun b =>
    ((hf b).uttered w).failing fun _ _ ht => .inr ht

theorem map {m : Effect ε (Live σ) α} (f : α → β) (hm : Utters C m) : Utters C (f <$> m) := by
  rw [map_eq_pure_bind]
  exact hm.before fun _ => .pure _

theorem given {a : β} {f : β → Effect ε (Live σ) α} (hf : Utters C (f a)) :
    Utters C (pure a >>= f) := hf

/-- A handler that balks does not change what was sent. -/
theorem rescue {m : Effect ε (Live σ) α} {h : ε → Effect ε' (Live σ) α} (hm : Utters C m)
    (hh : ∀ e, Balks (h e)) : Utters C (m.rescue h) := by
  intro w
  refine .rescue (hm w) fun e => ?_
  intro s hs
  have ht := hh e s.net.sent s rfl
  rcases hr : (h e).run s with ⟨e' | a, t⟩ <;> rw [hr] at ht
  · rcases hs with hs | ⟨c, hc, hs⟩
    · exact .inl (ht.trans hs)
    · exact .inr ⟨c, hc, ht.trans hs⟩
  · exact ht.elim

theorem ensure {m : Effect ε (Live σ) α} {last : Effect ε (Live σ) Unit} (hm : Utters C m)
    (hl : Mute last) : Utters C (m.ensure last) := by
  intro w s hs
  have ht := hm w s hs
  have hsent := hl (m.run s).2
  rw [run_ensure]
  rcases hr : m.run s with ⟨e | a, t⟩ <;> rw [hr] at ht hsent <;>
    rcases hr' : last.run t with ⟨e' | a', t'⟩ <;> rw [hr'] at hsent
  · exact ht.imp hsent.trans fun ⟨c, hc, h⟩ => ⟨c, hc, hsent.trans h⟩
  · exact ht.imp hsent.trans fun ⟨c, hc, h⟩ => ⟨c, hc, hsent.trans h⟩
  · exact .inr (ht.imp fun c h => ⟨h.1, hsent.trans h.2⟩)
  · exact ht.imp fun c h => ⟨h.1, hsent.trans h.2⟩

theorem focus {get : σ → τ} {put : σ → τ → σ} {m : Effect ε (Live τ) α} (hm : Utters C m) :
    Utters C (focus get put m) := by
  intro w s hs
  have ht := hm w ⟨get s.self, s.net⟩ hs
  rw [Live.focus, run_zoom]
  rcases hr : m.run ⟨get s.self, s.net⟩ with ⟨e | a, t⟩ <;> rw [hr] at ht <;> exact ht

end Utters

theorem mute_focus {get : σ → τ} {put : σ → τ → σ} {m : Effect ε (Live τ) α} (hm : Mute m) :
    Mute (focus get put m) :=
  .focus hm fun _ _ h => h

theorem mute_change (f : σ → σ) : Mute (change f : Effect ε (Live σ) Unit) :=
  .change fun _ => rfl

theorem mute_within {m : Op σ α} (hm : Keeps Within m) : Mute m :=
  hm.imp fun _ _ h => h.sent

theorem mute_quiet {m : Net α} (hm : Net.Quiet m) : Mute (call m : Op σ α) :=
  mute_within (within_quiet hm)

theorem mute_opens {kind : Nat → Handle} {h : α → Handle} {m : Net α} (hm : Net.Opens kind h m) :
    Mute (call m : Op σ α) := by
  refine .call (N := fun net net' => net'.sent = net.sent) ?_ fun _ _ h => h
  intro net
  have ht := hm net.ledger net rfl
  rcases hr : m.run net with ⟨e | a, t⟩ <;> rw [hr] at ht
  · exact congrArg Ledger.sent ht
  · exact congrArg Ledger.sent ht.2

theorem mute_closeCall (h : Handle) : Mute (call (Net.close h) : Op σ Unit) :=
  .call (N := fun net net' => net'.sent = net.sent)
    (fun net => congrArg Ledger.sent (Net.ledger_close h net)) fun _ _ h => h

end Judgements

namespace Channel

variable {α : Type}

theorem mute_aside {m : Op Channel α} (hm : Keeps Aside m) : Mute m :=
  mute_within (within_aside hm)

theorem utters_call (n : Nat) (command : String) :
    Utters (· = command) (call (Net.transmit n (Command.bytes command)) : Op Channel Unit) := by
  rw [Command.bytes_eq]
  rintro w s rfl
  have ht := Net.meets_transmit n (Text.encodeUtf8 command.toList ++ [13, 10]) s.net.ledger s.net
    rfl
  rw [call, run_zoom]
  rcases hr : (Net.transmit n (Text.encodeUtf8 command.toList ++ [13, 10])).run s.net
    with ⟨e | a, t⟩ <;> rw [hr] at ht
  · exact .inl (congrArg Ledger.sent ht)
  · exact ⟨command, rfl, congrArg Ledger.sent ht⟩

theorem utters_transmit (command : String) : Utters (· = command) (transmit command) := by
  refine .after .this fun c => ?_
  split
  · exact .fail _
  · refine .rescue (utters_call _ command) fun e => ?_
    split
    · exact .after (mute_within within_releaseQuietly) fun _ => .fail _
    · exact .fail _

theorem utters_send (command : String) : Utters (· = command) (send command) := by
  refine .after (keeps_requireConnected _) fun _ => .after (.ofExcept _) fun shown => ?_
  refine .after (mute_aside (aside_log _ _)) fun _ => ?_
  exact .before (utters_transmit command) fun _ => (mute_within within_readReply)

theorem utters_logout : Utters (· = "QUIT") logout := by
  refine .after (keeps_requireConnected _) fun _ => .ensure ?_ (mute_within within_close)
  exact .before (utters_send _) fun reply => .bind (.ofExcept _) fun _ => .pure _

/-- The commands by which a data connection is negotiated. -/
inductive Negotiates : DataMode → String → Prop
  | active (e : Endpoint) : Negotiates .active e.portCommand
  | passive : Negotiates .passive "PASV"

theorem exists_negotiates (mode : DataMode) : ∃ command, Negotiates mode command := by
  cases mode with
  | active => exact ⟨_, .active ⟨⟨0, 0, 0, 0⟩, 0⟩⟩
  | passive => exact ⟨_, .passive⟩

theorem utters_announce (n : Nat) (host : String) :
    Utters (Negotiates .active) (Negotiation.announce n host) := by
  refine .after (mute_quiet (Net.quiet_bind n host)) fun _ => ?_
  refine .after (mute_quiet (Net.quiet_listen n 1)) fun _ => ?_
  refine .after (mute_quiet (Net.quiet_ownAddress _)) fun own => ?_
  refine .after (mute_quiet (Net.quiet_log _ _ _)) fun _ => ?_
  split
  · refine .given (.before (.imp (utters_send _) ?_) fun answer => ?_)
    · rintro _ rfl
      exact .active _
    · exact .bind (.ofExcept _) fun reply => .bind .this fun _ => .pure _
  · exact .fail _

theorem utters_active : Utters (Negotiates .active) Negotiation.active := by
  refine .after (mute_aside aside_localHost) fun host => ?_
  refine .after (mute_opens Net.opens_openListener) fun n => ?_
  refine .rescue (utters_announce n host) fun e => .after (mute_closeCall _) fun _ => ?_
  split
  · exact .fail _
  · exact .fail _

theorem utters_passive : Utters (Negotiates .passive) Negotiation.passive := by
  refine .before (.imp (utters_send _) ?_) fun answer => .bind (.ofExcept _) fun reply => ?_
  · rintro _ rfl
    exact .passive
  refine .bind (?_ : Mute (Negotiation.passiveEndpoint reply)) fun peer => ?_
  · unfold Negotiation.passiveEndpoint
    split
    · exact .bind (mute_quiet (Net.quiet_log _ _ _)) fun _ => .pure _
    · exact .fail _
  refine .bind .this fun c => .bind (.ofExcept _) fun limit => ?_
  refine .bind (.rescue (mute_opens (Net.opens_dialData _ _)) fun e => ?_) fun handle => ?_
  · split
    · exact .fail _
    · exact .fail _
  · exact .bind (mute_quiet (Net.quiet_log _ _ _)) fun _ => .pure _

theorem utters_negotiation (mode : DataMode) :
    Utters (Negotiates mode) (Negotiation.run mode) := by
  cases mode with
  | active => exact utters_active
  | passive => exact utters_passive

end Channel

end FtpControl
