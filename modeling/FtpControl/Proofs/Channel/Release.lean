import FtpControl.Channel
import FtpControl.Proofs.Network.Ledger

/-!
# Releasing a channel

A release closes all that the channel holds, each resource once and in order, also behind a
close that fails. Only the report of such an error can make it fail, and a quiet release does
not even report it to its caller.
-/

namespace FtpControl

open Effect Live

/-- The channel when it holds nothing any more. -/
def Channel.released (c : Channel) : Channel :=
  { c with writer := none, reader := none, socket := none, replies := none, state := .closed }

/-- A network with this ledger. -/
abbrev Network.Keeping (l : Ledger) (net : Network) : Prop :=
  net.ledger = l

theorem Net.meets_close (h : Handle) (l : Ledger) :
    Meets (Network.Keeping l) (Net.close h) (fun _ => Network.Keeping (l.close h))
      fun e net => (∃ why, e = .system why) ∧ net.Keeping (l.close h) := by
  rintro net rfl
  have hledger := ledger_close h net
  rw [run_close] at hledger ⊢
  cases (net.sockets h).closeError with
  | none => exact hledger
  | some why => exact ⟨⟨why, rfl⟩, hledger⟩

namespace Channel

/-- What a channel and a ledger become by a release. -/
def AfterRelease (c : Channel) (l : Ledger) (t : Live Channel) : Prop :=
  t.self = c.released ∧ t.net.ledger = c.resources.foldl Ledger.close l

theorem meets_closeResource (h : Handle) (l : Ledger) :
    Meets (Network.Keeping l) (closeResource h) (fun _ => Network.Keeping (l.close h))
      fun _ _ => False := by
  refine .bind (Q := fun r net => (∀ e, r = .error e → ∃ why, e = .system why) ∧
    net.Keeping (l.close h)) ?_ fun r => ?_
  · refine .attempt (Net.meets_close h l) (fun a net hnet => ⟨by simp, hnet⟩) ?_
    rintro e net ⟨he, hnet⟩
    exact ⟨fun e' h' => by cases h'; exact he, hnet⟩
  · rcases r with e | ⟨⟩
    · rintro net ⟨he, hnet⟩
      obtain ⟨why, rfl⟩ := he e rfl
      exact (Net.quiet_log _ _ _ net).trans hnet
    · exact .pure fun net hnet => hnet.2

theorem meets_closeResources (hs : List Handle) (l : Ledger) :
    Meets (Network.Keeping l) (closeResources hs)
      (fun _ => Network.Keeping (hs.foldl Ledger.close l)) fun _ _ => False := by
  induction hs generalizing l with
  | nil => exact .pure fun net hnet => hnet
  | cons h hs ih =>
    refine .bind (meets_closeResource h l) fun first => .bind (ih (l.close h)) fun later => ?_
    exact .pure fun net hnet => hnet

theorem meets_report (c : Channel) (l : Ledger) (error : Option String) :
    Meets (AfterRelease c l)
      (match error with
        | some why => fault (.releaseFailed why)
        | none => pure () : Op Channel Unit)
      (fun _ => AfterRelease c l)
      fun e t => (∃ why, e = .fault (.releaseFailed why)) ∧ AfterRelease c l t := by
  cases error with
  | none => exact .pure fun _ hs => hs
  | some why => exact .fail fun _ hs => ⟨⟨why, rfl⟩, hs⟩

theorem meets_release (c : Channel) (l : Ledger) :
    Meets (fun s => s.self = c ∧ s.net.ledger = l) release (fun _ => AfterRelease c l)
      fun e t => (∃ why, e = .fault (.releaseFailed why)) ∧ AfterRelease c l t := by
  refine .known (fun s hs => hs.1) ?_
  refine .bind (Q := fun _ s => s.self = c ∧ s.net.ledger = c.resources.foldl Ledger.close l)
    ?_ fun error => ?_
  · exact .sure (.call (meets_closeResources c.resources l) (fun s hs => ⟨hs.2, hs.1⟩)
      (fun _ net hnet => ⟨rfl, hnet⟩) fun _ _ h => h.elim)
  refine .bind (Q := fun _ => AfterRelease c l) ?_ fun _ => ?_
  · exact .change fun s hs => ⟨by rw [hs.1]; rfl, hs.2⟩
  cases c.peer with
  | none => exact meets_report c l error
  | some peer =>
    refine .bind (Q := fun _ => AfterRelease c l) ?_ fun _ => meets_report c l error
    exact fun s hs => ⟨hs.1, (Net.quiet_log _ _ _ s.net).trans hs.2⟩

theorem meets_release_from (s : Live Channel) :
    Meets (· = s) release (fun _ => AfterRelease s.self s.net.ledger)
      fun e t => (∃ why, e = .fault (.releaseFailed why)) ∧ AfterRelease s.self s.net.ledger t :=
  (meets_release s.self s.net.ledger).start fun _ hs => by rw [hs]; exact ⟨rfl, rfl⟩

theorem keeps_release {R : Live Channel → Live Channel → Prop}
    (hR : ∀ s t, AfterRelease s.self s.net.ledger t → R s t) : Keeps R release :=
  .ofMeets fun s => (meets_release_from s).imp (fun _ hs => hs) (fun _ t h => hR s t h)
    fun _ t h => hR s t h.2

/-- A channel that was connected once is closed behind its close. -/
theorem state_close (s : Live Channel) :
    ((close.run s).2).self.state =
      if s.self.state = .unconnected then .unconnected else .closed := by
  rw [close, run_look]
  cases hstate : s.self.state with
  | unconnected => exact hstate
  | connected =>
    have ht := keeps_release (R := fun _ t => t.self.state = .closed) fun _ t h => by rw [h.1]; rfl
    exact ht s
  | closed => exact hstate

theorem meets_releaseQuietly (c : Channel) (l : Ledger) :
    Meets (fun s => s.self = c ∧ s.net.ledger = l) releaseQuietly (fun _ => AfterRelease c l)
      fun _ _ => False := by
  refine .rescue (meets_release c l) fun e => ?_
  rintro s ⟨⟨why, rfl⟩, hs⟩
  exact ⟨hs.1, (Net.quiet_log _ _ _ s.net).trans hs.2⟩

end Channel

end FtpControl
