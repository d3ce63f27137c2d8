import FtpControl.Proofs.Channel.Attended
import FtpControl.Proofs.Negotiation.Custody
import FtpControl.Proofs.Channel.Operations
import FtpControl.Proofs.Reply.Stream

/-!
# Turns of a conversation

In a turn the client sends a command and reads the reply, or just reads on. What comes of it is
settled by what the server sends: a turn without an end to its reply closes the channel, and any
other leaves the channel as it was, behind the lines that were read.
-/

namespace FtpControl

open Effect Live Reply

theorem setAt_eq_self {κ ν : Type} [DecidableEq κ] (table : κ → ν) (key : κ) :
    setAt table key (table key) = table := by
  funext k
  by_cases hk : k = key <;> simp [setAt, hk]

namespace ControlLine

/-- The answer that the next command draws. -/
def next (line : ControlLine) : Exchange :=
  if line.source.ending = .silent then line.exchanges.headD {} else {}

/-- The line when that answer is on its way. -/
def drawn (line : ControlLine) : ControlLine :=
  if line.source.ending = .silent then { line with exchanges := line.exchanges.tail } else line

/-- The line when the answer has come in, unless the command cannot be sent. -/
def answered (line : ControlLine) : Except String ControlLine :=
  match line.next.failure with
  | some why => .error why
  | none =>
    .ok { line.drawn with
      source := line.source.extend line.next.bytes (line.next.ending.getD line.source.ending) }

/-- What comes of reading. -/
def outcome (line : ControlLine) : Except Fault Reply :=
  (Reply.read .utf8 line.source).outcome

/-- The line behind what is read. -/
def behind (line : ControlLine) : ControlLine :=
  { line with source := (Reply.read .utf8 line.source).rest }

end ControlLine

namespace Net

theorem run_nextExchange (n : Nat) (net : Network) :
    (nextExchange n).run net =
      (.ok (net.lines n).next, { net with lines := setAt net.lines n (net.lines n).drawn }) := by
  simp only [nextExchange, run_bind, run_state, ControlLine.next, ControlLine.drawn]
  split_ifs
  · rfl
  · rw [setAt_eq_self]
    rfl

theorem run_transmit_of_answered {n : Nat} {net : Network} {line : ControlLine}
    (h : (net.lines n).answered = .ok line) (bytes : List UInt8) :
    ∃ net', (transmit n bytes).run net = (.ok (), net') ∧ net'.lines = setAt net.lines n line ∧
      net'.sockets = net.sockets := by
  unfold ControlLine.answered at h
  cases hfailure : (net.lines n).next.failure with
  | some why => simp [hfailure] at h
  | none =>
    rw [hfailure] at h
    cases h
    rw [transmit, run_bind_ok (run_nextExchange n net), hfailure]
    refine ⟨_, rfl, ?_, rfl⟩
    have hsource : (net.lines n).drawn.source = (net.lines n).source := by
      unfold ControlLine.drawn
      split_ifs <;> rfl
    simp [setAt_setAt, hsource, Source.extend]

theorem run_transmit_of_failure {n : Nat} {net : Network} {why : String}
    (h : (net.lines n).answered = .error why) (bytes : List UInt8) :
    ∃ net', (transmit n bytes).run net = (.error (.system why), net') := by
  unfold ControlLine.answered at h
  cases hfailure : (net.lines n).next.failure with
  | none => simp [hfailure] at h
  | some why' =>
    rw [hfailure] at h
    cases h
    rw [transmit, run_bind_ok (run_nextExchange n net), hfailure]
    exact ⟨_, rfl⟩

end Net

namespace Channel

variable {n : Nat} {line line' : ControlLine} {s t u : Live Channel}

/-- The channel as it was, on a network of which one line has gone on. -/
structure Moved (n : Nat) (line : ControlLine) (s t : Live Channel) : Prop where
  self : t.self = s.self
  lines : t.net.lines = setAt s.net.lines n line
  sockets : t.net.sockets = s.net.sockets

theorem Moved.trans (h : Moved n line s t) (h' : Moved n line' t u) : Moved n line' s u := by
  constructor
  · exact h'.self.trans h.self
  · rw [h'.lines, h.lines, setAt_setAt]
  · exact h'.sockets.trans h.sockets

/-- What a record in the log leaves as it is. -/
structure Noted (s t : Live Channel) : Prop where
  self : t.self = s.self
  lines : t.net.lines = s.net.lines
  sockets : t.net.sockets = s.net.sockets

theorem Noted.then (h : Noted s t) (h' : Moved n line t u) : Moved n line s u := by
  constructor
  · exact h'.self.trans h.self
  · rw [h'.lines, h.lines]
  · exact h'.sockets.trans h.sockets

theorem Moved.noted (h : Moved n line s t) (h' : Noted t u) : Moved n line s u := by
  constructor
  · exact h'.self.trans h.self
  · exact h'.lines.trans h.lines
  · exact h'.sockets.trans h.sockets

theorem run_log (source : LogSource) (level : LogLevel) (message : String) (s : Live Channel) :
    ∃ t, (call (Net.log source level message) : Op Channel Unit).run s = (.ok (), t) ∧
      Noted s t := by
  obtain ⟨logs, hlog⟩ := Net.run_log source level message s.net
  exact ⟨_, run_call hlog, rfl, rfl, rfl⟩

theorem run_trace (lines : List Line) (s : Live Channel) :
    ∃ t, (trace lines).run s = (.ok (), t) ∧ Noted s t := by
  induction lines generalizing s with
  | nil => exact ⟨s, rfl, rfl, rfl, rfl⟩
  | cons line rest ih =>
    obtain ⟨t, hlog, hst⟩ := run_log .reply .debug (Reply.received line) s
    obtain ⟨u, htrace, htu⟩ := ih t
    refine ⟨u, ?_, htu.self.trans hst.self, htu.lines.trans hst.lines,
      htu.sockets.trans hst.sockets⟩
    rw [trace, run_bind_ok hlog, htrace]

theorem run_outcome (outcome : Except Fault Reply) (s : Live Channel) :
    (match outcome with
      | .ok reply => pure reply
      | .error f => fault f : Op Channel Reply).run s = (outcome.mapError .fault, s) := by
  cases outcome <;> rfl

theorem run_receive (h : s.self.replies = some n) :
    ∃ t, receive.run s = ((s.net.lines n).outcome.mapError .fault, t) ∧
      Moved n (s.net.lines n).behind s t := by
  rw [receive, run_look, h]
  dsimp only
  have hsource : (call (Net.source n) : Op Channel Source).run s =
      (.ok (s.net.lines n).source, s) := rfl
  rw [run_bind_ok hsource]
  have hset : ∃ t, (call (Net.setSource n (Reply.read .utf8 (s.net.lines n).source).rest) :
      Op Channel Unit).run s = (.ok (), t) ∧ Moved n (s.net.lines n).behind s t :=
    ⟨_, rfl, rfl, rfl, rfl⟩
  obtain ⟨t, hset, hst⟩ := hset
  rw [run_bind_ok hset]
  by_cases htracing : s.self.tracing = true
  · obtain ⟨u, htrace, htu⟩ := run_trace (Reply.read .utf8 (s.net.lines n).source).lines t
    rw [if_pos htracing, run_bind_ok htrace]
    exact ⟨u, run_outcome _ _, hst.noted htu⟩
  · rw [if_neg htracing]
    exact ⟨t, run_outcome _ _, hst⟩

theorem run_releaseQuietly (s : Live Channel) :
    ∃ t, releaseQuietly.run s = (.ok (), t) ∧ t.self = s.self.released := by
  obtain ⟨⟨⟩, t, hrun, ht, -⟩ := (meets_releaseQuietly s.self s.net.ledger).result ⟨rfl, rfl⟩
  exact ⟨t, hrun, ht⟩

/-- Whatever comes of releasing the channel, the read error is what is reported. -/
theorem run_readReply (hstate : s.self.state = .connected) (hreplies : s.self.replies = some n) :
    ∃ t, readReply.run s = ((s.net.lines n).outcome.mapError .fault, t) ∧
      (Settled (s.net.lines n).outcome → Moved n (s.net.lines n).behind s t) ∧
        (¬ Settled (s.net.lines n).outcome → t.self = s.self.released) := by
  obtain ⟨t, hreceive, hst⟩ := run_receive hreplies
  rw [readReply, run_bind_ok (run_requireConnected hstate _)]
  cases houtcome : (s.net.lines n).outcome with
  | ok reply =>
    rw [houtcome] at hreceive
    exact ⟨t, run_rescue_ok hreceive, fun _ => hst, fun h => absurd (settled_ok reply) h⟩
  | error f =>
    rw [houtcome] at hreceive
    by_cases hkind : f.kind = .io
    · obtain ⟨u, hlog, htu⟩ : ∃ u, (log .error s!"✗ Control connection lost: {f.message}").run t =
          (.ok (), u) ∧ Noted t u := run_log _ _ _ t
      obtain ⟨v, hrelease, hv⟩ := run_releaseQuietly u
      refine ⟨v, ?_, fun h => absurd hkind (settled_error_iff.1 h), fun _ => ?_⟩
      · rw [run_rescue_error hreceive]
        dsimp only
        rw [if_pos hkind, run_bind_ok hlog, run_bind_ok hrelease]
        rfl
      · rw [hv, htu.self, hst.self]
    · refine ⟨t, ?_, fun _ => hst, fun h => absurd (settled_error_iff.2 hkind) h⟩
      rw [run_rescue_error hreceive]
      dsimp only
      rw [if_neg hkind]
      rfl

/-- The two ways to a reply: a command that can be masked, and reading on. -/
inductive Turn where
  | send (command shown : String) (h : Command.masked command = .ok shown)
  | read

namespace Turn

def perform : Turn → Op Channel Reply
  | send command _ _ => Channel.send command
  | read => readReply

/-- The line that is read from, unless the command cannot be sent. -/
def draws : Turn → ControlLine → Except String ControlLine
  | send _ _ _, line => line.answered
  | read, line => .ok line

/-- What comes of a turn on a line. -/
def outcome (turn : Turn) (line : ControlLine) : Except Fault Reply :=
  match turn.draws line with
  | .error why => .error (.sendFailed why)
  | .ok line => line.outcome

theorem outcome_of_failure (turn : Turn) {why : String} (h : turn.draws line = .error why) :
    turn.outcome line = .error (.sendFailed why) := by
  rw [outcome, h]

theorem outcome_of_draws (turn : Turn) (h : turn.draws line = .ok line') :
    turn.outcome line = line'.outcome := by
  rw [outcome, h]

end Turn

/-- A command that cannot be written closes the channel. -/
theorem run_transmit_of_failure (command : String) {why : String} (hwriter : s.self.writer = some n)
    (h : (s.net.lines n).answered = .error why) :
    ∃ t, (transmit command).run s = (.error (.fault (.sendFailed why)), t) ∧
      t.self = s.self.released := by
  obtain ⟨net, htransmit⟩ := Net.run_transmit_of_failure h (Command.bytes command)
  obtain ⟨t, hrelease, ht⟩ := run_releaseQuietly ⟨s.self, net⟩
  refine ⟨t, ?_, ht⟩
  rw [transmit, run_look, hwriter]
  dsimp only
  rw [run_rescue_error (run_call htransmit)]
  dsimp only
  rw [run_bind_ok hrelease]
  rfl

theorem run_transmit_of_answered (command : String) (hwriter : s.self.writer = some n)
    (h : (s.net.lines n).answered = .ok line) :
    ∃ t, (transmit command).run s = (.ok (), t) ∧ Moved n line s t := by
  obtain ⟨net, htransmit, hlines, hsockets⟩ :=
    Net.run_transmit_of_answered h (Command.bytes command)
  refine ⟨⟨s.self, net⟩, ?_, rfl, hlines, hsockets⟩
  rw [transmit, run_look, hwriter]
  exact run_rescue_ok (run_call htransmit)

/-- Before anything is sent, only the log changes. -/
theorem run_send {command shown : String} (hshown : Command.masked command = .ok shown)
    (hstate : s.self.state = .connected) :
    ∃ t, Noted s t ∧ t.net.events = s.net.events ∧
      (send command).run s = (do transmit command; readReply : Op Channel Reply).run t := by
  obtain ⟨logs, hlog⟩ := Net.run_log .channel .debug s!"→ SEND: {shown}" s.net
  have hlog : (log .debug s!"→ SEND: {shown}").run s = (.ok (), ⟨s.self, { s.net with logs }⟩) :=
    run_call hlog
  have hmasked : (ofExcept (.ok shown) : Op Channel String).run s = (.ok shown, s) := rfl
  refine ⟨⟨s.self, { s.net with logs }⟩, ⟨rfl, rfl, rfl⟩, rfl, ?_⟩
  rw [send, hshown, run_bind_ok (run_requireConnected hstate _), run_bind_ok hmasked,
    run_bind_ok hlog]

/-- The outcome of a turn does not depend on what comes of releasing the channel. -/
theorem run_turn (turn : Turn) (hstate : s.self.state = .connected)
    (hwriter : s.self.writer = some n) (hreplies : s.self.replies = some n) :
    ∃ t, turn.perform.run s = ((turn.outcome (s.net.lines n)).mapError .fault, t) ∧
      (Settled (turn.outcome (s.net.lines n)) →
        ∃ line, turn.draws (s.net.lines n) = .ok line ∧
          turn.outcome (s.net.lines n) = line.outcome ∧ Moved n line.behind s t) ∧
        (¬ Settled (turn.outcome (s.net.lines n)) → t.self = s.self.released) := by
  cases turn with
  | read =>
    obtain ⟨t, hrun, hkept, hlost⟩ := run_readReply hstate hreplies
    exact ⟨t, hrun, fun h => ⟨_, rfl, rfl, hkept h⟩, hlost⟩
  | send command shown hshown =>
    obtain ⟨t, hst, -, hsend⟩ := run_send hshown hstate
    rw [Turn.perform, hsend]
    rw [← hst.self] at hstate hwriter hreplies ⊢
    rw [← hst.lines]
    cases hanswered : (t.net.lines n).answered with
    | error why =>
      obtain ⟨u, htransmit, hu⟩ := run_transmit_of_failure command hwriter hanswered
      rw [Turn.outcome_of_failure (.send command shown hshown) hanswered]
      exact ⟨u, run_bind_error htransmit, fun h => (h _ rfl rfl).elim, fun _ => hu⟩
    | ok line =>
      obtain ⟨u, htransmit, htu⟩ := run_transmit_of_answered command hwriter hanswered
      have hline : u.net.lines n = line := by rw [htu.lines, setAt_same]
      obtain ⟨v, hread, hkept, hlost⟩ := run_readReply (n := n) (s := u)
        (by rw [htu.self, hstate]) (by rw [htu.self, hreplies])
      rw [hline] at hread hkept hlost
      rw [Turn.outcome_of_draws (.send command shown hshown) hanswered]
      refine ⟨v, (run_bind_ok htransmit).trans hread, fun h => ?_, fun h => ?_⟩
      · exact ⟨line, hanswered, rfl, hst.then (htu.trans (hkept h))⟩
      · rw [hlost h, htu.self]

/-! ## Turns of a connected channel -/

theorem Turn.kind_of_outcome {turn : Turn} {f : Fault} (h : turn.outcome line = .error f) :
    f.kind = .io ∨ f.kind = .protocol := by
  cases hdraws : turn.draws line with
  | error why =>
    rw [outcome_of_failure turn hdraws] at h
    cases h
    exact .inl rfl
  | ok line =>
    rw [outcome_of_draws turn hdraws] at h
    exact kind_of_read h

theorem equipped_of_connected (h : Lifecycle s) (hstate : s.self.state = .connected) :
    ∃ n, s.self.Equipped n 3 ∧ ∀ k ∈ s.self.resources, k ∈ s.net.opened := by
  unfold Lifecycle at h
  rw [hstate] at h
  obtain ⟨n, ⟨hself, hledger⟩, -⟩ := h
  refine ⟨n, hself, fun k hk => ?_⟩
  have hopened : s.net.opened.filter Handle.onControl = (Handle.line n).take 3 :=
    congrArg Ledger.opened hledger
  rw [resources_of_equipped hself, List.mem_reverse, ← hopened] at hk
  exact List.mem_of_mem_filter hk

theorem exchanging_turn {R : Live Channel → Live Channel → Prop} [IsPreorder (Live Channel) R]
    (h : Exchanging R) (turn : Turn) : Keeps R turn.perform := by
  cases turn with
  | send command shown hshown => exact h.send command
  | read => exact h.readReply

/-- A channel without its transport: it holds nothing any more, and all that it held has been
closed once. -/
structure Lost (c : Channel) (t : Live Channel) : Prop where
  self : t.self = c.released
  closed : ∀ h ∈ c.resources,
    (t.net.sockets h).isOpen = false ∧ t.net.events.count (.close h) = 1

/-- The channel as it was, with all sockets as they were, behind the lines that were read. -/
structure Kept (n : Nat) (line : ControlLine) (s t : Live Channel) : Prop where
  self : t.self = s.self
  sockets : t.net.sockets = s.net.sockets
  behind : ∃ raws,
    CutsOff (line.source.ending = .eof) line.source.bytes raws (t.net.lines n).source.bytes ∧
      (Reply.read .utf8 line.source).lines = raws.map (Source.lineOf .utf8)

theorem Moved.kept (h : Moved n line.behind s t) (hsettled : Settled line.outcome) :
    Kept n line s t where
  self := h.self
  sockets := h.sockets
  behind := by
    rw [h.lines, setAt_same]
    exact cutsOff_of_read hsettled

theorem lost_of_released (hs : Lifecycle s) (hstate : s.self.state = .connected)
    (ht : Lifecycle t) (hopened : t.net.opened = s.net.opened)
    (hself : t.self = s.self.released) : Lost s.self t := by
  obtain ⟨n, -, hresources⟩ := equipped_of_connected hs hstate
  refine ⟨hself, fun k hk => ?_⟩
  apply ht.sound.closedOnce (by rw [hself]; rfl) k (hopened ▸ hresources k hk)
  exact onControl_of_mem_resources hk

/-- A turn either fails with an error of the transport and loses it, or does neither. -/
theorem run_turn_cases (hs : Lifecycle s) (hstate : s.self.state = .connected) (turn : Turn) :
    ∃ n t, s.self.Equipped n 3 ∧
      turn.perform.run s = ((turn.outcome (s.net.lines n)).mapError .fault, t) ∧
        ((∃ f, turn.outcome (s.net.lines n) = .error f ∧ f.kind = .io ∧ Lost s.self t) ∨
          (∀ f, turn.outcome (s.net.lines n) = .error f → f.kind = .protocol) ∧
            ∃ line, turn.draws (s.net.lines n) = .ok line ∧ Kept n line s t) := by
  obtain ⟨n, hequipped, -⟩ := equipped_of_connected hs hstate
  obtain ⟨t, hrun, hkept, hreleased⟩ := run_turn turn hstate hequipped.2.2.1 hequipped.2.2.2
  have hopened := (exchanging_turn exchanging_spares turn s).opened
  have hlife := (exchanging_turn negotiating_orderly.toExchanging turn s hs).1
  rw [hrun] at hopened hlife
  refine ⟨n, t, hequipped, hrun, ?_⟩
  by_cases hsettled : Settled (turn.outcome (s.net.lines n))
  · obtain ⟨line, hdraws, houtcome, hmoved⟩ := hkept hsettled
    refine .inr ⟨fun f hf => ?_, line, hdraws, hmoved.kept (houtcome ▸ hsettled)⟩
    exact (Turn.kind_of_outcome hf).resolve_left (hsettled f hf)
  · obtain ⟨f, hf, hkind⟩ := not_settled_iff.1 hsettled
    exact .inl ⟨f, hf, hkind, lost_of_released hs hstate hlife hopened (hreleased hsettled)⟩

/-- A turn closes the channel if and only if it fails with an error of the transport, which is then
reported whatever comes of closing what the channel held. With a reply, or with a line that is
none, the channel stays as it was and the next turn begins behind the lines read. -/
theorem turn_of_reachable (hs : Reachable s) (hstate : s.self.state = .connected) (turn : Turn) :
    let result := (turn.perform.run s).1
    let t := (turn.perform.run s).2
    (Lost s.self t ↔ ∃ f, result = .error (.fault f) ∧ f.kind = .io) ∧
      (t.self.state = .closed ↔ Lost s.self t) ∧
        ((∃ reply, result = .ok reply) ∨
          ∃ f, result = .error (.fault f) ∧ (f.kind = .io ∨ f.kind = .protocol)) ∧
          ∃ n, s.self.resources = [.writer n, .reader n, .control n] ∧
            result = (turn.outcome (s.net.lines n)).mapError .fault ∧
              ((∃ reply, result = .ok reply) ∨
                (∃ f, result = .error (.fault f) ∧ f.kind = .protocol) →
                t.self.state = .connected ∧
                  ∃ line, turn.draws (s.net.lines n) = .ok line ∧ Kept n line s t) := by
  obtain ⟨n, t, hequipped, hrun, hcases⟩ := run_turn_cases hs.lifecycle hstate turn
  have hresources : s.self.resources = [.writer n, .reader n, .control n] := by
    rw [resources_of_equipped hequipped]
    rfl
  rw [hrun]
  obtain ⟨f, hf, hkind, hlost⟩ | ⟨hprotocol, line, hdraws, hkept⟩ := hcases
  · have hclosed : t.self.state = .closed := by rw [hlost.self]; rfl
    rw [hf]
    refine ⟨iff_of_true hlost ⟨f, rfl, hkind⟩, iff_of_true hclosed hlost,
      .inr ⟨f, rfl, .inl hkind⟩, n, hresources, by rw [hf], ?_⟩
    rintro (⟨reply, ⟨⟩⟩ | ⟨g, ⟨⟩, hg⟩)
    simp [hkind] at hg
  · have hconnected : t.self.state = .connected := by rw [hkept.self, hstate]
    have hopen : t.self.state ≠ .closed := by simp [hconnected]
    have hfound : ¬ Lost s.self t := fun hlost => hopen (by rw [hlost.self]; rfl)
    cases houtcome : turn.outcome (s.net.lines n) with
    | ok reply =>
      refine ⟨iff_of_false hfound ?_, iff_of_false hopen hfound, .inl ⟨reply, rfl⟩, n, hresources,
        by rw [houtcome], fun _ => ⟨hconnected, line, hdraws, hkept⟩⟩
      rintro ⟨f, ⟨⟩, -⟩
    | error f =>
      have hf := hprotocol f houtcome
      refine ⟨iff_of_false hfound ?_, iff_of_false hopen hfound, .inr ⟨f, rfl, .inr hf⟩, n,
        hresources, by rw [houtcome], fun _ => ⟨hconnected, line, hdraws, hkept⟩⟩
      rintro ⟨g, ⟨⟩, hg⟩
      simp [hf] at hg

/-- The channel of a caller who has connected to a server that cannot be left without errors. -/
def hostileVisit : Live Channel :=
  ((Operation.connect ⟨some "ftp.test", 21⟩ 10000).perform.run ⟨{}, hostileServer⟩).2

theorem reachable_hostileVisit : Reachable hostileVisit :=
  .after _ (.start (Ledger.restrict_held _ _))

/-- The reply that does not come is what is reported, and not the two streams that cannot be
closed without an error. -/
theorem turn_of_hostileVisit :
    hostileVisit.self.state = .connected ∧
      (Turn.read.perform.run hostileVisit).1 = .error (.fault (.readFailed timedOut)) ∧
        Lost hostileVisit.self (Turn.read.perform.run hostileVisit).2 := by
  have hstate : hostileVisit.self.state = .connected := by decide +kernel
  have hresult : (Turn.read.perform.run hostileVisit).1 =
      .error (.fault (.readFailed timedOut)) := by
    decide +kernel
  obtain ⟨hlost, -⟩ := turn_of_reachable reachable_hostileVisit hstate .read
  exact ⟨hstate, hresult, hlost.2 ⟨_, hresult, rfl⟩⟩

end Channel

end FtpControl
