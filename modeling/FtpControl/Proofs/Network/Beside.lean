import FtpControl.Proofs.Effect

/-!
# Two networks side by side

Two runs on the same network part when one sends other bytes or writes another line to the
log. Neither is looked at again: from there on the calls of both runs have the same outcomes,
and whatever is logged is logged by both.
-/

namespace FtpControl

open Effect Live

variable {σ α : Type} {p p' : List LogRecord}

/-- Networks that differ at most in the calls noted and in the first records of the log, `p`
in the one and `p'` in the other. -/
def Network.Beside (p p' : List LogRecord) (net net' : Network) : Prop :=
  ∃ events rest, net.logs = p ++ rest ∧ net' = { net with events, logs := p' ++ rest }

theorem Network.beside_self (net : Network) : net.Beside net.logs net.logs net :=
  ⟨net.events, [], by simp, by simp⟩

/-- Logs that are equal in the end were equal where the runs parted. -/
theorem Network.Beside.logs_eq_iff {net net' : Network} (h : net.Beside p p' net') :
    net.logs = net'.logs ↔ p = p' := by
  obtain ⟨events, rest, hlogs, rfl⟩ := h
  rw [hlogs]
  exact List.append_left_inj rest

/-- The runs part with what each of them adds to the log. -/
theorem Network.Beside.parted {net net' : Network} (h : net.Beside p p' net')
    (added added' : List LogRecord) :
    Network.Beside (net.logs ++ added) (net'.logs ++ added')
      { net with logs := net.logs ++ added } { net' with logs := net'.logs ++ added' } := by
  obtain ⟨events, rest, -, rfl⟩ := h
  exact ⟨events, [], by simp, by simp⟩

namespace Net

/-- Calls that go on alike on such networks. -/
abbrev Abreast (p p' : List LogRecord) (m m' : Net α) : Prop :=
  Alike (Network.Beside p p') m m'

/-- What is looked up is the same on both networks. -/
theorem abreast_read {f : Network → Net α}
    (hf : ∀ net events logs, f { net with events, logs } = f net)
    (h : ∀ net, Abreast p p' (f net) (f net)) : Abreast p p' (state >>= f) (state >>= f) := by
  rintro net _ ⟨events, rest, hlogs, rfl⟩
  rw [run_bind, run_bind, run_state, run_state]
  dsimp only
  rw [hf net events (p' ++ rest)]
  exact h net _ _ ⟨events, rest, hlogs, rfl⟩

theorem abreast_update {f : Network → Network}
    (hf : ∀ net events logs, f { net with events, logs } = { f net with events, logs })
    (hlogs : ∀ net, (f net).logs = net.logs) :
    Abreast p p' (.update f : Net Unit) (.update f) := by
  apply Alike.update
  rintro net _ ⟨events, rest, h, rfl⟩
  exact ⟨events, rest, (hlogs net).trans h, hf _ _ _⟩

/-- Each network notes its own call. -/
theorem abreast_record (e e' : Event) : Abreast p p' (record e) (record e') := by
  apply Alike.update
  rintro net _ ⟨events, rest, hlogs, rfl⟩
  exact ⟨events ++ [e'], rest, hlogs, rfl⟩

theorem abreast_log (source : LogSource) (level : LogLevel) (message : String) :
    Abreast p p' (log source level message) (log source level message) := by
  apply Alike.update
  rintro net _ ⟨events, rest, hlogs, rfl⟩
  by_cases hlevel : net.threshold.rank ≤ level.rank
  · rw [if_pos hlevel, if_pos hlevel]
    refine ⟨events, rest ++ [⟨source, level, message⟩], ?_, ?_⟩
    · simp [hlogs]
    · simp
  · rw [if_neg hlevel, if_neg hlevel]
    exact ⟨events, rest, hlogs, rfl⟩

theorem abreast_now : Abreast p p' now now :=
  abreast_read (fun _ _ _ => rfl) fun _ =>
    .bind (abreast_update (fun _ _ _ => rfl) fun _ => rfl) fun _ => .pure _

theorem abreast_refuse (why : Option String) : Abreast p p' (refuse why) (refuse why) := by
  cases why with
  | none => exact .pure _
  | some why => exact .fail _

theorem abreast_checkLimit (limit : Timeout) :
    Abreast p p' (checkLimit limit) (checkLimit limit) :=
  .ite (.fail _) (.pure _)

theorem abreast_setSocket (h : Handle) (s : Socket) :
    Abreast p p' (setSocket h s) (setSocket h s) :=
  abreast_update (fun _ _ _ => rfl) fun _ => rfl

theorem abreast_handOut (h : Handle) (s : Socket) : Abreast p p' (handOut h s) (handOut h s) :=
  .bind (abreast_update (fun _ _ _ => rfl) fun _ => rfl) fun _ => abreast_setSocket h s

theorem abreast_openSocket (h : Handle) : Abreast p p' (openSocket h) (openSocket h) :=
  abreast_read (fun _ _ _ => rfl) fun _ => .ite (.pure _) (.fail _)

theorem abreast_ownAddress (h : Handle) : Abreast p p' (ownAddress h) (ownAddress h) := by
  refine .bind (abreast_openSocket h) fun s => ?_
  cases s.ownAddress with
  | ok a => exact .pure _
  | error why => exact .fail _

theorem abreast_peerAddress (h : Handle) : Abreast p p' (peerAddress h) (peerAddress h) := by
  refine .bind (abreast_openSocket h) fun s => ?_
  cases s.peerAddress with
  | ok a => exact .pure _
  | error why => exact .fail _

theorem abreast_close (h : Handle) : Abreast p p' (close h) (close h) := by
  refine .bind (abreast_record _ _) fun _ => abreast_read (fun _ _ _ => rfl) fun net => ?_
  exact .bind (abreast_setSocket _ _) fun _ => abreast_refuse _

theorem abreast_shutdown (h : Handle) : Abreast p p' (shutdown h) (shutdown h) :=
  .bind (abreast_openSocket h) fun _ => .bind (abreast_record _ _) fun _ => abreast_refuse _

theorem abreast_source (n : Nat) : Abreast p p' (source n) (source n) :=
  abreast_read (fun _ _ _ => rfl) fun _ => .pure _

theorem abreast_setSource (n : Nat) (src : Source) :
    Abreast p p' (setSource n src) (setSource n src) :=
  abreast_update (fun _ _ _ => rfl) fun _ => rfl

theorem abreast_nextExchange (n : Nat) : Abreast p p' (nextExchange n) (nextExchange n) := by
  refine abreast_read (fun _ _ _ => rfl) fun net => .ite ?_ (.pure _)
  exact .bind (abreast_update (fun _ _ _ => rfl) fun _ => rfl) fun _ => .pure _

/-- The server's answer does not depend on what it is sent. -/
theorem abreast_transmit (n : Nat) (bytes bytes' : List UInt8) :
    Abreast p p' (transmit n bytes) (transmit n bytes') := by
  refine .bind (abreast_nextExchange n) fun answer => .bind (abreast_refuse _) fun _ => ?_
  exact .bind (abreast_record _ _) fun _ => abreast_update (fun _ _ _ => rfl) fun _ => rfl

theorem abreast_dialData (peer : Address) (limit : Timeout) :
    Abreast p p' (dialData peer limit) (dialData peer limit) := by
  refine abreast_read (fun _ _ _ => rfl) fun net => ?_
  refine .bind (abreast_update (fun _ _ _ => rfl) fun _ => rfl) fun _ => ?_
  refine .bind (abreast_record _ _) fun _ => .bind (abreast_checkLimit _) fun _ => ?_
  exact .bind (abreast_refuse _) fun _ => .bind (abreast_handOut _ _) fun _ => .pure _

theorem abreast_openListener : Abreast p p' openListener openListener := by
  refine abreast_read (fun _ _ _ => rfl) fun net => ?_
  refine .bind (abreast_update (fun _ _ _ => rfl) fun _ => rfl) fun _ => ?_
  exact .bind (abreast_handOut _ _) fun _ => .pure _

theorem abreast_bind (n : Nat) (host : String) : Abreast p p' (bind n host) (bind n host) := by
  refine .bind (abreast_record _ _) fun _ => abreast_read (fun _ _ _ => rfl) fun net => ?_
  exact .bind (abreast_refuse _) fun _ => abreast_setSocket _ _

theorem abreast_listen (n backlog : Nat) :
    Abreast p p' (listen n backlog) (listen n backlog) :=
  .bind (abreast_record _ _) fun _ => abreast_read (fun _ _ _ => rfl) fun _ => abreast_refuse _

end Net

/-- Operations that go on alike on such networks. -/
abbrev Abreast (p p' : List LogRecord) (m m' : Op σ α) : Prop :=
  Alike (Alike.On (Network.Beside p p')) m m'

end FtpControl
