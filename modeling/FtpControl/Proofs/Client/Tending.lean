import FtpControl.Client
import FtpControl.Proofs.DataConnection

/-!
# What a client leaves as it finds it

A client adds a history to its channel and touches nothing else. What holds of it along with some
open data connections still holds after whatever it does, if it does after an exchange, and after
a negotiation along with the data connection that this yields.
-/

namespace FtpControl

open Effect Live

variable {σ : Type} {K : List Handle → Live σ → Prop}

/-- What holds along with some open handles goes on to hold along with them. -/
def Upholds (K : List Handle → Live σ → Prop) (s t : Live σ) : Prop :=
  ∀ hs, K hs s → K hs t

instance : IsPreorder (Live σ) (Upholds K) where
  refl _ _ h := h
  trans _ _ _ h h' hs hK := h' hs (h hs hK)

theorem Upholds.meets {α : Type} {m : Op σ α} (hm : Keeps (Upholds K) m) (hs : List Handle) :
    Meets (K hs) m (fun _ => K hs) fun _ => K hs :=
  .ofKeeps hm fun _ _ h hst => hst hs h

theorem DataMode.masked_verb (mode : DataMode) : Command.masked mode.verb = .ok mode.verb := by
  cases mode with
  | active => decide +kernel
  | passive => decide +kernel

/-- The command that a negotiation is recorded with can be masked. -/
theorem DataConnection.Fresh.masked_label {d : DataConnection} (hd : d.Fresh) (mode : DataMode) :
    ∃ shown, Command.masked (if d.command.isEmpty then mode.verb else d.command) = .ok shown := by
  split_ifs
  · exact ⟨mode.verb, mode.masked_verb⟩
  · exact ⟨d.command, hd.shown⟩

namespace Client

theorem meets_onChannel {α : Type} {P : Live Channel → Prop} {Q : α → Live Channel → Prop}
    {E : Failure → Live Channel → Prop} {m : Op Channel α} (hm : Meets P m Q E) :
    Meets (fun s => P ⟨s.self.channel, s.net⟩) (onChannel m)
      (fun a s => Q a ⟨s.self.channel, s.net⟩) fun e s => E e ⟨s.self.channel, s.net⟩ :=
  Meets.focus (fun _ _ => rfl) hm

theorem fails_record {E : Failure → Prop} {command shown : String}
    (h : Command.masked command = .ok shown) (reply : Option Reply) (error : Option Fault) :
    Fails E (record command reply error) := by
  unfold record
  rw [h]
  exact .bind (.call (.bind .state fun _ => .bind (.update _) fun _ => .pure _)) fun _ =>
    .bind (.pure _) fun _ => .change _

/-- Conditions on a client that neither its history nor an exchange changes. -/
structure Tended (K : List Handle → Live Client → Prop) : Prop where
  now : Keeps (Upholds K) (call Net.now : Op Client Nat)
  log : ∀ source level message,
    Keeps (Upholds K) (call (Net.log source level message) : Op Client Unit)
  history : ∀ f : List Entry → List Entry,
    Keeps (Upholds K) (change fun c => { c with history := f c.history } : Op Client Unit)
  send : ∀ command, Keeps (Upholds K) (onChannel (Channel.send command))
  negotiate : ∀ mode, Meets (K []) (onChannel (Negotiation.run mode))
    (fun d s => d.Fresh ∧ K d.handles s) fun _ => K []

namespace Tended

variable {K : List Handle → Live Client → Prop}

theorem record (hK : Tended K) (command : String) (reply : Option Reply) (error : Option Fault) :
    Keeps (Upholds K) (record command reply error) := by
  apply Keeps.bind hK.now
  intro time
  apply Keeps.bind (R := Upholds K) (.ofExcept _)
  intro shown
  exact hK.history (· ++ [⟨time, shown, reply, error⟩])

theorem clearHistory (hK : Tended K) : Keeps (Upholds K) clearHistory :=
  hK.history fun _ => []

theorem execute (hK : Tended K) (command : String) (expected : Option (List String)) :
    Keeps (Upholds K) (execute command expected) := by
  apply Keeps.bind (R := Upholds K)
  · apply Keeps.rescue (hK.send command)
    intro e
    split
    · exact .bind (hK.record _ _ _) fun _ => .fail _
    · exact .fail _
  intro reply
  split
  · exact .bind (hK.record _ _ _) fun _ => .failed
  · exact .failed
  · exact .bind (hK.record _ _ _) fun _ => .pure _

/-- Recording a new data connection cannot fail, so it is not lost. -/
theorem openData (hK : Tended K) (mode : DataMode) :
    Meets (K []) (openData mode) (fun d s => d.Fresh ∧ K d.handles s) fun _ => K [] := by
  apply Meets.bind (Q := fun d s => d.Fresh ∧ K d.handles s)
  · apply Meets.rescue (hK.negotiate mode)
    intro e
    split
    · split
      · exact .value (.bind (Upholds.meets (hK.record _ _ _) []) fun _ => .fail fun _ hs => hs)
      · exact .failed fun _ hs => hs
    · exact .fail fun _ hs => hs
  intro d
  by_cases hd : d.Fresh
  swap
  · exact fun s hs => absurd hs.1 hd
  obtain ⟨shown, hshown⟩ := hd.masked_label mode
  have along : ∀ s t, d.Fresh ∧ K d.handles s → Upholds K s t → d.Fresh ∧ K d.handles t :=
    fun _ _ hs h => ⟨hs.1, h d.handles hs.2⟩
  apply Meets.bind ((fails_record hshown _ _).keeps (hK.record _ _ _) along)
  intro _
  apply Meets.bind ((Fails.call (Net.fails_log _ _ _)).keeps (hK.log _ _ _) along)
  intro _
  exact .pure fun _ hs => hs

end Tended

end Client

end FtpControl
