import FtpControl.Proofs.Channel.Within

/-!
# How a channel fails

Faults are the failures that a caller of the library is told to expect. Sending, reading and
closing fail in no other way, as long as the command can be masked; the errors of the system
that they meet are turned into faults.
-/

namespace FtpControl

open Effect Live

def Failure.IsFault (e : Failure) : Prop :=
  ∃ f, e = .fault f

def Failure.IsSystem (e : Failure) : Prop :=
  ∃ why, e = .system why

theorem Failure.IsSystem.not_isFault {e : Failure} (h : e.IsSystem) : ¬ e.IsFault := by
  obtain ⟨why, rfl⟩ := h
  rintro ⟨f, hf⟩
  cases hf

/-- How something fails that is subject to a time limit: as the system has it, or else because
the limit is none that a socket could have. -/
def Failure.OfLimit (usable : Prop) (e : Failure) : Prop :=
  ¬ e.IsFault ∧ (e.IsSystem ↔ usable)

namespace Net

variable {α : Type} {E : Failure → Prop}

theorem fails_log (source : LogSource) (level : LogLevel) (message : String) :
    Fails E (log source level message) := .update _

theorem fails_record (e : Event) : Fails E (record e) := .update _

theorem fails_refuse (why : Option String) : Fails Failure.IsSystem (refuse why) := by
  cases why with
  | none => exact .pure _
  | some why => exact .fail ⟨why, rfl⟩

theorem fails_openSocket (h : Handle) : Fails Failure.IsSystem (openSocket h) :=
  .bind .state fun _ => .ite (.pure _) (.fail ⟨_, rfl⟩)

theorem fails_nextExchange (n : Nat) : Fails E (nextExchange n) :=
  .bind .state fun _ => .ite (.bind (.update _) fun _ => .pure _) (.pure _)

theorem fails_transmit (n : Nat) (bytes : List UInt8) :
    Fails Failure.IsSystem (transmit n bytes) := by
  refine .bind (fails_nextExchange n) fun _ => .bind (fails_refuse _) fun _ => ?_
  exact .bind (fails_record _) fun _ => .update _

theorem fails_listen (n backlog : Nat) : Fails Failure.IsSystem (listen n backlog) :=
  .bind (fails_record _) fun _ => .bind .state fun _ => fails_refuse _

theorem fails_shutdown (h : Handle) : Fails Failure.IsSystem (shutdown h) :=
  .bind (fails_openSocket h) fun _ => .bind (fails_record _) fun _ => fails_refuse _

theorem fails_ownAddress (h : Handle) : Fails Failure.IsSystem (ownAddress h) := by
  apply Fails.bind (fails_openSocket h)
  intro s
  split
  · exact .pure _
  · exact .fail ⟨_, rfl⟩

theorem fails_peerAddress (h : Handle) : Fails Failure.IsSystem (peerAddress h) := by
  apply Fails.bind (fails_openSocket h)
  intro s
  split
  · exact .pure _
  · exact .fail ⟨_, rfl⟩

theorem fails_lookUp (host : String) : Fails Failure.IsSystem (lookUp host) := by
  refine .bind (fails_record _) fun _ => .bind .state fun net => ?_
  split
  · exact .pure _
  · exact .fail ⟨_, rfl⟩

theorem fails_bind (n : Nat) (host : String) : Fails Failure.IsSystem (bind n host) :=
  .bind (fails_record _) fun _ => .bind .state fun _ => .bind (fails_refuse _) fun _ => .update _

theorem fails_close (h : Handle) : Fails Failure.IsSystem (close h) :=
  .bind (fails_record _) fun _ => .bind .state fun _ => .bind (.update _) fun _ => fails_refuse _

theorem fails_handOut (h : Handle) (s : Socket) : Fails E (handOut h s) :=
  .bind (.update _) fun _ => .update _

theorem fails_openReader (n : Nat) : Fails Failure.IsSystem (openReader n) :=
  .bind .state fun _ => .bind (fails_refuse _) fun _ => fails_handOut _ _

theorem fails_openWriter (n : Nat) : Fails Failure.IsSystem (openWriter n) :=
  .bind .state fun _ => .bind (fails_refuse _) fun _ => fails_handOut _ _

theorem fails_openListener : Fails E openListener :=
  .bind .state fun _ => .bind (.update _) fun _ => .bind (fails_handOut _ _) fun _ => .pure _

theorem fails_accept (n : Nat) : Fails Failure.IsSystem (accept n) := by
  refine .bind (fails_openSocket _) fun s => .bind (fails_record _) fun _ => ?_
  refine .bind .state fun net => ?_
  split
  · exact .fail ⟨_, rfl⟩
  · exact .fail ⟨_, rfl⟩
  · exact .bind (.update _) fun _ => .bind (fails_handOut _ _) fun _ => .pure _

theorem fails_checkLimit (limit : Timeout) : Fails (fun e => ¬ e.IsFault) (checkLimit limit) := by
  apply Fails.ite
  · apply Fails.fail
    rintro ⟨f, ⟨⟩⟩
  · exact .pure _

/-- A limit that no socket takes is no error of the system, and any other is let pass. -/
theorem fails_limited {limit : Timeout} {m : Net α} (hm : Fails Failure.IsSystem m) :
    Fails (Failure.OfLimit (limit.isNegative = false)) (checkLimit limit >>= fun _ => m) := by
  unfold checkLimit
  cases limit.isNegative with
  | true =>
    rintro net _ ⟨⟩
    exact ⟨by rintro ⟨f, ⟨⟩⟩, iff_of_false (by rintro ⟨why, ⟨⟩⟩) (by simp)⟩
  | false => exact fun net e he => ⟨(hm net e he).not_isFault, iff_of_true (hm net e he) rfl⟩

theorem fails_setTimeout (h : Handle) (limit : Timeout) :
    Fails (Failure.OfLimit (limit.isNegative = false)) (setTimeout h limit) := by
  apply fails_limited
  refine .bind .state fun _ => .bind (.update _) fun _ => ?_
  refine .bind (fails_openSocket h) fun s => .bind (.update _) fun _ => ?_
  exact .bind (fails_refuse _) fun _ => fails_record _

theorem fails_dialControl (peer : Target) (limit : Timeout) :
    Fails (Failure.OfLimit (limit.isNegative = false)) (dialControl peer limit) := by
  refine .bind (.bind .state fun _ => .bind (.update _) fun _ => .pure _) fun next => ?_
  refine .bind (fails_record _) fun _ => fails_limited ?_
  refine .bind (fails_refuse _) fun _ => .bind (fails_handOut _ _) fun _ => ?_
  exact .bind (.update _) fun _ => .pure _

theorem fails_dialData (peer : Address) (limit : Timeout) :
    Fails (Failure.OfLimit (limit.isNegative = false)) (dialData peer limit) := by
  refine .bind .state fun net => .bind (.update _) fun _ => .bind (fails_record _) fun _ => ?_
  refine fails_limited (.bind (fails_refuse _) fun _ => ?_)
  exact .bind (fails_handOut _ _) fun _ => .pure _

end Net

namespace Channel

variable {α : Type} {E : Failure → Prop}

theorem fails_fault (f : Fault) : Fails Failure.IsFault (fault f : Op Channel α) :=
  .fail ⟨f, rfl⟩

theorem fails_requireConnected (action : String) :
    Fails Failure.IsFault (requireConnected action) :=
  .bind .this fun _ => .ite (.pure _) (fails_fault _)

theorem isFault_of_validate {expected : List String} {reply : Reply} {e : Failure}
    (h : validate expected reply = .error e) : e.IsFault :=
  ⟨_, validate_error h⟩

theorem fails_applyTimeout (n : Nat) (millis : Int) :
    Fails (Failure.OfLimit (Timeout.Usable millis)) (applyTimeout n millis) := by
  unfold applyTimeout
  split_ifs with hmillis
  · apply Fails.failed
    refine ⟨by rintro ⟨f, ⟨⟩⟩, iff_of_false (by rintro ⟨why, ⟨⟩⟩) fun h => ?_⟩
    exact absurd h.1 (not_le.2 hmillis)
  apply Fails.given
  · intro e he
    obtain rfl := Timeout.ofMillis_error he
    refine ⟨by rintro ⟨f, ⟨⟩⟩, iff_of_false (by rintro ⟨why, ⟨⟩⟩) ?_⟩
    rintro ⟨-, limit, hlimit⟩
    rw [he] at hlimit
    cases hlimit
  intro limit hlimit
  have hnonneg := Timeout.isNegative_of_ofMillis (not_lt.1 hmillis) hlimit
  have limited := (Net.fails_setTimeout (.control n) limit).imp fun e he =>
    (⟨he.1, iff_of_true (he.2.2 hnonneg) ⟨not_lt.1 hmillis, limit, hlimit⟩⟩ :
      e.OfLimit (Timeout.Usable millis))
  exact .bind (.call limited) fun _ => .change _

theorem fails_release : Fails Failure.IsFault release :=
  .ofMeets fun s => (meets_release_from s).imp (fun _ hs => hs) (fun _ _ _ => trivial)
    fun _ _ ⟨⟨_, he⟩, _⟩ => ⟨_, he⟩

theorem fails_releaseQuietly : Fails E releaseQuietly := by
  refine .rescue fails_release ?_
  rintro _ ⟨f, rfl⟩
  exact fails_log _ _

theorem fails_close : Fails Failure.IsFault close := by
  refine .bind .this fun c => ?_
  cases c.state with
  | unconnected => exact fails_fault _
  | connected => exact fails_release
  | closed => exact .pure _

theorem fails_trace (lines : List Line) : Fails E (trace lines) := by
  induction lines with
  | nil => exact .pure _
  | cons line rest ih => exact .bind (.call (Net.fails_log _ _ _)) fun _ => ih

theorem fails_receive : Fails Failure.IsFault receive := by
  refine .bind .this fun c => ?_
  split
  · exact fails_fault _
  · refine .bind (.call (.bind .state fun _ => .pure _)) fun src => ?_
    refine .bind (.call (.update _)) fun _ => ?_
    refine .ite (.bind (fails_trace _) fun _ => ?_) ?_
    all_goals
      split
      · exact .pure _
      · exact fails_fault _

theorem fails_readReply : Fails Failure.IsFault readReply := by
  refine .bind (fails_requireConnected _) fun _ => .rescue fails_receive ?_
  rintro _ ⟨f, rfl⟩
  refine .ite (.bind (fails_log _ _) fun _ => ?_) (fails_fault _)
  exact .bind fails_releaseQuietly fun _ => fails_fault _

theorem fails_transmit (command : String) : Fails Failure.IsFault (transmit command) := by
  refine .bind .this fun c => ?_
  cases c.writer with
  | none => exact fails_fault _
  | some n =>
    refine .rescue (.call (Net.fails_transmit n _)) ?_
    rintro _ ⟨why, rfl⟩
    exact .bind fails_releaseQuietly fun _ => fails_fault _

theorem fails_send {command shown : String} (h : Command.masked command = .ok shown) :
    Fails Failure.IsFault (send command) := by
  unfold send
  rw [h]
  refine .bind (fails_requireConnected _) fun _ => .bind (.pure _) fun shown => ?_
  refine .bind (fails_log _ _) fun _ => ?_
  exact .bind (fails_transmit command) fun _ => fails_readReply

theorem fails_logout : Fails Failure.IsFault logout := by
  have hmasked : Command.masked "QUIT" = .ok "QUIT" := by decide +kernel
  refine .bind (fails_requireConnected _) fun _ => .ensure ?_ fails_close
  refine .bind (fails_send hmasked) fun reply => ?_
  exact .bind (.ofExcept fun e => isFault_of_validate) fun _ => .pure _

/-- A command is answered only while the channel is connected. -/
theorem meets_readReply :
    Meets (fun _ => True) readReply (fun _ t => t.self.state = .connected) fun _ _ => True := by
  refine .bind (Q := fun _ s => s.self.state = .connected) ?_ fun _ => ?_
  · refine .look fun c => ?_
    split_ifs with hstate
    · exact .pure fun s hs => hs.2 ▸ hstate
    · exact .fail fun _ _ => trivial
  · refine .rescue (.ofKeeps aside_receive fun _ _ hs h => h.state.trans hs) fun e => ?_
    split
    · refine .ite (.skip fun _ => .skip fun _ => ?_) ?_
      · exact .fail fun _ _ => trivial
      · exact .fail fun _ _ => trivial
    · exact .fail fun _ _ => trivial

theorem meets_send (command : String) :
    Meets (fun _ => True) (send command) (fun _ t => t.self.state = .connected)
      fun _ _ => True := by
  refine .skip fun _ => .skip fun _ => ?_
  exact .skip fun _ => .skip fun _ => meets_readReply

/-- A command that is not masked in vain leaves a channel in order, and connected if it was
answered. -/
theorem meets_send_lifecycle {command shown : String} (h : Command.masked command = .ok shown) :
    Meets Lifecycle (send command) (fun _ t => Lifecycle t ∧ t.self.state = .connected)
      fun e _ => e.IsFault := by
  have along := (fails_send h).along (orderly_send command)
    fun s t (hs : Lifecycle s) hst => (hst hs).1
  exact (along.and (meets_send command)).imp (fun _ hs => ⟨hs, trivial⟩) (fun _ _ hs => hs)
    fun _ _ hs => hs.1.1

theorem usable_of_lifecycle {s : Live Channel} (h : Lifecycle s)
    (hstate : s.self.state = .connected) : Timeout.Usable s.self.timeoutMillis := by
  unfold Lifecycle at h
  rw [hstate] at h
  obtain ⟨n, -, hlimit, -⟩ := h
  exact hlimit

theorem open_of_lifecycle {s : Live Channel} (h : Lifecycle s)
    (hstate : s.self.state = .connected) :
    ∃ n, s.self.socket = some n ∧ (s.net.sockets (.control n)).isOpen = true := by
  unfold Lifecycle at h
  rw [hstate] at h
  obtain ⟨n, ⟨hself, hledger⟩, -⟩ := h
  have hopen : (s.net.sockets (.control n)).isOpen = decide (.control n ∈ Handle.line n) :=
    congrFun (congrArg Ledger.isOpen hledger) (.control n)
  exact ⟨n, hself.1, hopen.trans (by simp [Handle.line])⟩

end Channel

end FtpControl
