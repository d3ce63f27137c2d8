import FtpControl.Client
import FtpControl.Proofs.Effect

/-!
# What recording leaves alone

To record an exchange a client reads the clock and adds to its history. It does nothing else, also
when the command cannot be masked.
-/

namespace FtpControl.Client

open Effect Live

/-- The channel is the same, and of the network only the clock has gone on. -/
structure Recorded (s t : Live Client) : Prop where
  channel : t.self.channel = s.self.channel
  net : t.net = { s.net with ticks := t.net.ticks }

variable {s t : Live Client}

theorem Recorded.events (h : Recorded s t) : t.net.events = s.net.events := by
  rw [h.net]

theorem Recorded.lines (h : Recorded s t) : t.net.lines = s.net.lines := by
  rw [h.net]

theorem Recorded.sockets (h : Recorded s t) : t.net.sockets = s.net.sockets := by
  rw [h.net]

theorem recorded_record (command : String) (reply : Option Reply) (error : Option Fault) :
    Keeps Recorded (record command reply error) := by
  intro s
  unfold record
  cases Command.masked command with
  | ok shown => exact ⟨rfl, rfl⟩
  | error e => exact ⟨rfl, rfl⟩

end FtpControl.Client
