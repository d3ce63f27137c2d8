import FtpControl.Proofs.Channel.SettingUp

/-!
# A server that answers for a while

A server that greets, answers a number of commands and then falls silent. A channel connects
to it, each command uses up one answer, and the first command behind the last answer fails.
-/

namespace FtpControl

open Effect Live

variable {α : Type}

def greeting : List UInt8 :=
  Text.encodeUtf8 "220 hi\r\n".toList

/-- A server that greets and answers one command after the other. -/
def ControlPlan.answering (answers : List String) : ControlPlan where
  banner := greeting
  exchanges := answers.map fun line => { bytes := Text.encodeUtf8 line.toList }

def Network.answering (answers : List String) : Network where
  script := { controls := [.answering answers] }

/-- The usual answer. -/
def Exchange.ok : Exchange where
  bytes := Text.encodeUtf8 "200 ok\r\n".toList

namespace Network

/-- A network on which a control connection has these bytes to read, and answers to come. Of
the log it takes warnings only. -/
structure Serves (n : Nat) (bytes : List UInt8) (answers : List Exchange) (net : Network) :
    Prop where
  source : (net.lines n).source = ⟨bytes, .silent, none⟩
  exchanges : (net.lines n).exchanges = answers
  threshold : net.threshold = .warning

theorem Serves.congr {n : Nat} {bytes : List UInt8} {answers : List Exchange}
    {net net' : Network} (h : net.Serves n bytes answers) (hlines : net'.lines = net.lines)
    (hthreshold : net'.threshold = net.threshold) : net'.Serves n bytes answers := by
  constructor
  · rw [hlines, h.source]
  · rw [hlines, h.exchanges]
  · rw [hthreshold, h.threshold]

end Network

namespace Net

variable {n : Nat} {bytes : List UInt8} {answers : List Exchange} {net : Network}

/-- What is below a warning leaves no trace. -/
theorem run_log_of_serves (h : net.Serves n bytes answers) {level : LogLevel}
    (hlevel : level.rank < LogLevel.warning.rank) (source : LogSource) (message : String) :
    (log source level message).run net = (.ok (), net) := by
  rw [log, run_update, h.threshold, if_neg (not_le.2 hlevel)]

/-- A command draws the next answer, or none behind the last. -/
theorem run_transmit_of_serves {answer : Exchange} (h : net.Serves n [] answers)
    (hanswer : answers.headD {} = answer) (hfailure : answer.failure = none)
    (hending : answer.ending = none) (command : List UInt8) :
    ∃ net', (transmit n command).run net = (.ok (), net') ∧
      net'.Serves n answer.bytes answers.tail := by
  have hnext : ∃ net', (nextExchange n).run net = (.ok answer, net') ∧
      net'.Serves n [] answers.tail := by
    simp only [nextExchange, run_bind, run_state, h.source, if_true, h.exchanges, hanswer]
    refine ⟨_, rfl, ?_, ?_, h.threshold⟩
    · simp
    · simp
  obtain ⟨net', hnext, h'⟩ := hnext
  rw [transmit, run_bind_ok hnext, hfailure]
  refine ⟨_, rfl, ?_, ?_, h'.threshold⟩
  · simp [h'.source, hending]
  · simp [h'.exchanges]

variable {lines : List String}

theorem run_openReader_answering (h : net.lines n = .ofPlan (.answering lines)) :
    ∃ net', (openReader n).run net = (.ok (), net') ∧ net'.lines = net.lines ∧
      net'.threshold = net.threshold := by
  have hreader : (net.lines n).readerError = none := by rw [h]; rfl
  simp only [openReader, run_bind, run_state, hreader]
  exact ⟨_, rfl, rfl, rfl⟩

theorem run_openWriter_answering (h : net.lines n = .ofPlan (.answering lines)) :
    ∃ net', (openWriter n).run net = (.ok (), net') ∧ net'.lines = net.lines ∧
      net'.threshold = net.threshold := by
  have hwriter : (net.lines n).writerError = none := by rw [h]; rfl
  simp only [openWriter, run_bind, run_state, hwriter]
  exact ⟨_, rfl, rfl, rfl⟩

end Net

namespace Channel

/-- A connected channel to a server that still answers a number of commands. -/
structure Attended (n answers : Nat) (s : Live Channel) : Prop where
  state : s.self.state = .connected
  writer : s.self.writer = some n
  replies : s.self.replies = some n
  serves : s.net.Serves n [] (List.replicate answers .ok)

variable {n : Nat} {bytes : List UInt8} {answers : List Exchange} {c : Channel} {net : Network}

theorem run_call {m : Net α} {r : Except Failure α} {net' : Network} (h : m.run net = (r, net')) :
    (call m : Op Channel α).run ⟨c, net⟩ = (r, ⟨c, net'⟩) := by
  rw [call, run_zoom, h]

theorem run_log_of_serves (h : net.Serves n bytes answers) {level : LogLevel}
    (hlevel : level.rank < LogLevel.warning.rank) (message : String) :
    (log level message).run ⟨c, net⟩ = (.ok (), ⟨c, net⟩) :=
  run_call (Net.run_log_of_serves h hlevel _ _)

theorem run_trace_of_serves (h : net.Serves n bytes answers) (lines : List Line) :
    (trace lines).run ⟨c, net⟩ = (.ok (), ⟨c, net⟩) := by
  induction lines with
  | nil => rfl
  | cons line rest ih =>
    rw [trace, run_bind_ok (run_call (Net.run_log_of_serves h (by decide) _ _)), ih]

/-- What there is to read is read, whether the channel traces or not. -/
theorem run_receive_of_serves (outcome : Except Fault Reply) (h : net.Serves n bytes answers)
    (hreplies : c.replies = some n)
    (houtcome : (Reply.read .utf8 ⟨bytes, .silent, none⟩).outcome = outcome)
    (hrest : (Reply.read .utf8 ⟨bytes, .silent, none⟩).rest = ⟨[], .silent, none⟩) :
    ∃ net', receive.run ⟨c, net⟩ = (outcome.mapError Failure.fault, ⟨c, net'⟩) ∧
      net'.Serves n [] answers := by
  have hset : ∃ net', (Net.setSource n ⟨[], .silent, none⟩).run net = (.ok (), net') ∧
      net'.Serves n [] answers := by
    refine ⟨_, rfl, ?_, ?_, h.threshold⟩
    · simp
    · simp [h.exchanges]
  obtain ⟨net', hset, h'⟩ := hset
  refine ⟨net', ?_, h'⟩
  have hsource : (Net.source n).run net = (.ok ⟨bytes, .silent, none⟩, net) := by
    rw [← h.source]
    rfl
  rw [receive, run_look]
  dsimp only
  rw [hreplies]
  dsimp only
  rw [run_bind_ok (run_call hsource), hrest, run_bind_ok (run_call hset), houtcome]
  split_ifs
  · rw [run_bind_ok (run_trace_of_serves h' _)]
    cases outcome <;> rfl
  · cases outcome <;> rfl

/-- Sending comes down to reading the answer that the command draws. -/
theorem run_send_of_serves (answer : Exchange) {command shown : String}
    (hshown : Command.masked command = .ok shown) (hstate : c.state = .connected)
    (hwriter : c.writer = some n) (h : net.Serves n [] answers)
    (hanswer : answers.headD {} = answer) (hfailure : answer.failure = none)
    (hending : answer.ending = none) :
    ∃ net', (send command).run ⟨c, net⟩ = readReply.run ⟨c, net'⟩ ∧
      net'.Serves n answer.bytes answers.tail := by
  obtain ⟨net', htransmit, h'⟩ := Net.run_transmit_of_serves h hanswer hfailure hending
    (Command.bytes command)
  refine ⟨net', ?_, h'⟩
  have hsending : (transmit command).run ⟨c, net⟩ = (.ok (), ⟨c, net'⟩) := by
    rw [transmit, run_look]
    dsimp only
    rw [hwriter]
    exact run_rescue_ok (run_call htransmit)
  have hmasked : (ofExcept (.ok shown) : Op Channel String).run ⟨c, net⟩ =
      (.ok shown, ⟨c, net⟩) := rfl
  rw [send, hshown, run_bind_ok (run_requireConnected hstate _), run_bind_ok hmasked,
    run_bind_ok (run_log_of_serves h (by decide) _), run_bind_ok hsending]

/-- Each command uses up one answer. -/
theorem run_send_of_attended {s : Live Channel} {k : Nat} (h : Attended n (k + 1) s)
    {command shown : String} (hshown : Command.masked command = .ok shown) :
    ∃ t, (send command).run s = (.ok ⟨⟨2, 0, 0⟩, "ok"⟩, t) ∧ Attended n k t := by
  obtain ⟨hstate, hwriter, hreplies, hserves⟩ := h
  obtain ⟨net₁, hsend, h₁⟩ := run_send_of_serves .ok hshown hstate hwriter hserves
    rfl rfl rfl
  obtain ⟨net₂, hreceive, h₂⟩ := run_receive_of_serves (.ok ⟨⟨2, 0, 0⟩, "ok"⟩) h₁
    hreplies (by decide +kernel) (by decide +kernel)
  refine ⟨⟨s.self, net₂⟩, ?_, hstate, hwriter, hreplies, h₂⟩
  rw [hsend, readReply, run_bind_ok (run_requireConnected hstate _)]
  exact run_rescue_ok hreceive

/-- Behind the last answer a command fails. -/
theorem run_send_of_silence {s : Live Channel} (h : Attended n 0 s) {command shown : String}
    (hshown : Command.masked command = .ok shown) :
    ∃ f t, (send command).run s = (.error (.fault f), t) := by
  obtain ⟨hstate, hwriter, hreplies, hserves⟩ := h
  obtain ⟨net₁, hsend, h₁⟩ := run_send_of_serves {} hshown hstate hwriter hserves
    rfl rfl rfl
  obtain ⟨net₂, hreceive, h₂⟩ := run_receive_of_serves (.error (.readFailed timedOut)) h₁
    hreplies (by decide +kernel) (by decide +kernel)
  have lost : ∀ f : Fault, Meets (fun _ => True) (do
      if f.kind = .io then
        log .error s!"✗ Control connection lost: {f.message}"
        releaseQuietly
      fault f : Op Channel Reply) (fun _ _ => False) fun e _ => e.IsFault := by
    intro f
    refine .ite (.bind (.sure (fails_log _ _).meets) fun _ => ?_) (.fail fun _ _ => ⟨f, rfl⟩)
    exact .bind (.sure fails_releaseQuietly.meets) fun _ => .fail fun _ _ => ⟨f, rfl⟩
  obtain ⟨_, t, hlost, f, rfl⟩ := (lost (.readFailed timedOut)).failure
    (s := ⟨s.self, net₂⟩) trivial
  refine ⟨f, t, ?_⟩
  rw [hsend, readReply, run_bind_ok (run_requireConnected hstate _), run_rescue_error hreceive]
  exact hlost

/-! ## Connecting -/

variable {peer : Target} {millis : Int} {limit : Timeout}

/-- Without a usable time limit no connection comes about. -/
theorem meets_connect_unusable (h : ¬ Timeout.Usable millis) :
    Meets (fun _ => True) (connect peer millis) (fun _ _ => False) fun _ _ => True := by
  have limited : ∀ n, Meets (fun _ => True) (applyTimeout n millis) (fun _ _ => False)
      fun _ _ => True := by
    intro n
    unfold applyTimeout
    by_cases hmillis : millis < 0
    · rw [if_pos hmillis]
      exact .failed fun _ _ => trivial
    · rw [if_neg hmillis]
      refine .given (fun _ _ _ _ => trivial) fun limit hlimit => ?_
      exact absurd ⟨not_lt.1 hmillis, limit, hlimit⟩ h
  have greeted : ∀ n, Meets (fun _ => True) (greet n millis) (fun _ _ => False) fun _ _ => True :=
    fun n => .bind (limited n) fun _ _ hs => hs.elim
  refine .skip fun c => .ite (.failed fun _ _ => trivial) ?_
  refine .skip fun _ => .skip fun _ => ?_
  refine .skip fun n => .bind (Q := fun _ _ => False) ?_ fun _ _ hs => hs.elim
  refine .rescue (greeted n |>.start fun _ _ => trivial) fun e => ?_
  refine .skip fun _ => .skip fun _ => ?_
  exact .skip fun _ => .fail fun _ _ => trivial

section Answering

variable (hmillis : 0 ≤ millis) (hlimit : Timeout.ofMillis millis = .ok limit)
  {lines : List String}

include hmillis hlimit

theorem run_dial_answering (peer : Target) (c : Channel) (lines : List String) :
    ∃ net, (dial peer millis).run ⟨c, .answering lines⟩ =
        (.ok 0, ⟨{ c with socket := some 0, peer := some peer }, net⟩) ∧
      Net.Prepared (.answering lines) 0 net ∧ net.threshold = .warning := by
  have hdial : ∃ net, (Net.dialControl peer limit).run (.answering lines) = (.ok 0, net) ∧
      Net.Prepared (.answering lines) 0 net ∧ net.threshold = .warning := by
    unfold Net.dialControl
    rw [Net.checkLimit_of_not_negative (Timeout.isNegative_of_ofMillis hmillis hlimit)]
    exact ⟨_, rfl, ⟨rfl, rfl, rfl⟩, rfl⟩
  obtain ⟨net, hrun, hnet⟩ := hdial
  refine ⟨net, ?_, hnet⟩
  unfold dial
  rw [hlimit]
  exact run_bind_ok (run_rescue_ok (run_call hrun))

theorem run_applyTimeout_answering (h : Net.Prepared (.answering lines) n net) :
    ∃ net', (applyTimeout n millis).run ⟨c, net⟩ =
        (.ok (), ⟨{ c with timeoutMillis := millis }, net'⟩) ∧
      net'.lines n = .ofPlan (.answering lines) ∧ net'.threshold = net.threshold := by
  obtain ⟨hopen, herrors, hline⟩ := h
  have hset := Net.run_setTimeout (Timeout.isNegative_of_ofMillis hmillis hlimit) hopen
  rw [herrors] at hset
  unfold applyTimeout
  rw [if_neg (not_lt.2 hmillis), hlimit]
  exact ⟨_, run_bind_ok (run_call hset), hline, rfl⟩

theorem run_greet_answering (h : Net.Prepared (.answering lines) n net)
    (hthreshold : net.threshold = .warning) :
    ∃ net', (greet n millis).run ⟨c, net⟩ = (.ok ⟨⟨2, 2, 0⟩, "hi"⟩,
        ⟨{ c with
          timeoutMillis := millis, reader := some n, writer := some n, replies := some n }, net'⟩) ∧
      net'.Serves n [] (ControlPlan.answering lines).exchanges := by
  obtain ⟨net₁, hlimited, hline, hsame⟩ := run_applyTimeout_answering hmillis hlimit h (c := c)
  obtain ⟨net₂, hreader, hlines₂, hsame₂⟩ := Net.run_openReader_answering hline
  obtain ⟨net₃, hwriter, hlines₃, hsame₃⟩ := Net.run_openWriter_answering
    ((congrFun hlines₂ n).trans hline)
  have hserves : net₃.Serves n greeting (ControlPlan.answering lines).exchanges := by
    constructor
    · rw [hlines₃, hlines₂, hline]
      rfl
    · rw [hlines₃, hlines₂, hline]
      rfl
    · rw [hsame₃, hsame₂, hsame, hthreshold]
  obtain ⟨net₄, hreceive, h₄⟩ := run_receive_of_serves (c := { c with
    timeoutMillis := millis, reader := some n, writer := some n, replies := some n })
    (.ok ⟨⟨2, 2, 0⟩, "hi"⟩) hserves rfl (by decide +kernel) (by decide +kernel)
  refine ⟨net₄, ?_, h₄⟩
  rw [greet, run_bind_ok hlimited, run_bind_ok (run_call hreader), run_bind_ok (run_change _ _),
    run_bind_ok (run_call hwriter), run_bind_ok (run_change _ _), run_bind_ok hreceive]
  rfl

end Answering

theorem run_connect_answering (peer : Target) (h : Timeout.Usable millis) (k : Nat) :
    ∃ t, (connect peer millis).run ⟨{}, .answering (List.replicate k "200 ok\r\n")⟩ =
      (.ok ⟨⟨2, 2, 0⟩, "hi"⟩, t) ∧ Attended 0 k t := by
  obtain ⟨hmillis, limit, hlimit⟩ := h
  obtain ⟨net₁, hdial, hprepared, hthreshold⟩ := run_dial_answering hmillis hlimit peer
    { tracing := true } (List.replicate k "200 ok\r\n")
  obtain ⟨net₂, hgreet, hserves⟩ := run_greet_answering hmillis hlimit hprepared hthreshold
    (c := { tracing := true, socket := some 0, peer := some peer })
  have hstart : (Network.answering (List.replicate k "200 ok\r\n")).Serves 0 [] [] :=
    ⟨rfl, rfl, rfl⟩
  have hanswers : (ControlPlan.answering (List.replicate k "200 ok\r\n")).exchanges =
      List.replicate k .ok := List.map_replicate
  rw [hanswers] at hserves
  refine ⟨⟨{
    state := .connected, banner := some ⟨⟨2, 2, 0⟩, "hi"⟩, socket := some 0, reader := some 0
    writer := some 0, replies := some 0, timeoutMillis := millis, peer := some peer }, net₂⟩, ?_,
    rfl, rfl, rfl, hserves⟩
  rw [connect, run_look, if_neg (by simp), run_bind_ok (run_change _ _),
    run_bind_ok (run_log_of_serves hstart (by decide) _), run_bind_ok hdial,
    run_bind_ok (run_rescue_ok hgreet), run_bind_ok (run_change _ _),
    run_bind_ok (run_log_of_serves hserves (by decide) _)]
  rfl

end Channel

end FtpControl
