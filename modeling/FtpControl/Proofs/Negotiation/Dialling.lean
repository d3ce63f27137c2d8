import FtpControl.Proofs.Channel.Noting
import FtpControl.Proofs.Client.Recording
import FtpControl.Proofs.Client.Tending
import FtpControl.Proofs.Timeout

/-!
# Where a client connects to

A negotiation in passive mode sends one command and attempts one connection, to the peer that the
reply names, or none when it names no peer. Unless the transport fails, the control channel is left
as it was, behind that reply.
-/

namespace FtpControl

open Effect Live Reply

/-! ## The data socket -/

/-- What is of interest to a control channel is the same on both networks. -/
structure Network.Idle (net net' : Network) : Prop where
  events : net'.events = net.events
  lines : net'.lines = net.lines
  sockets : net'.sockets = net.sockets

instance : IsPreorder Network Network.Idle where
  refl _ := ⟨rfl, rfl, rfl⟩
  trans _ _ _ h h' :=
    ⟨h'.events.trans h.events, h'.lines.trans h.lines, h'.sockets.trans h.sockets⟩

namespace Net

theorem idle_log (source : LogSource) (level : LogLevel) (message : String) :
    Keeps Network.Idle (log source level message) := by
  intro net
  obtain ⟨logs, hlog⟩ := run_log source level message net
  rw [hlog]
  exact ⟨rfl, rfl, rfl⟩

/-- What a dial is noted as, whatever comes of it, and what it leaves as it is. -/
structure Dialled (peer : Address) (limit : Timeout) (net net' : Network) : Prop where
  events : ∃ k, net'.events = net.events ++ [.connect (.data k) peer.target limit]
  lines : net'.lines = net.lines
  sockets : ∀ h, h.onControl = true → net'.sockets h = net.sockets h

theorem dialled_dialData (peer : Address) (limit : Timeout) :
    Keeps (Dialled peer limit) (dialData peer limit) := by
  intro net
  simp only [dialData, record, checkLimit, run_bind, run_state, run_update]
  split_ifs
  · exact ⟨⟨_, rfl⟩, rfl, fun _ _ => rfl⟩
  · cases (net.script.datas.headD { failure := some connectionRefused }).failure with
    | some why => exact ⟨⟨_, rfl⟩, rfl, fun _ _ => rfl⟩
    | none =>
      refine ⟨⟨_, rfl⟩, rfl, fun h hh => setAt_of_ne ?_⟩
      rintro rfl
      cases hh

end Net

namespace Negotiation

/-- Where the outcome of reading a reply says to connect to. -/
def destination? (outcome : Except Fault Reply) : Option Endpoint :=
  match outcome with
  | .ok reply =>
    if reply.code.toString = "227" then (Endpoint.ofPassive reply.text).toOption else none
  | .error _ => none

/-- The attempts at a data connection: one to the peer, if there is one. -/
def attempts (k : Nat) (limit : Timeout) (peer? : Option Endpoint) : List Event :=
  (peer?.map fun peer => .connect (.data k) peer.address.target limit).toList

/-- The control channel as it was, behind the lines of one reply. -/
structure Resumed (n : Nat) (line : ControlLine) (s t : Live Channel) : Prop where
  self : t.self = s.self
  lines : t.net.lines = setAt s.net.lines n line.behind
  sockets : ∀ h, h.onControl = true → t.net.sockets h = s.net.sockets h
  unread : ∃ raws,
    CutsOff (line.source.ending = .eof) line.source.bytes raws (t.net.lines n).source.bytes ∧
      (Reply.read .utf8 line.source).lines = raws.map (Source.lineOf .utf8)

/-- A negotiation in passive mode as it is noted: the command, an attempt at the peer that the reply
names, and what is closed when the transport fails. Otherwise the control channel goes on. -/
def Dialling (n : Nat) (limit : Timeout) (line : ControlLine) (s t : Live Channel) : Prop :=
  ∃ k closings, Closings closings ∧
    t.net.events = s.net.events ++ [.send (.writer n) (Text.encodeUtf8 "PASV\r\n".toList)] ++
      attempts k limit (destination? line.outcome) ++ closings ∧
    (Settled line.outcome → closings = [] ∧ Resumed n line s t)

variable {n : Nat} {limit : Timeout} {line : ControlLine} {s t u : Live Channel} {reply : Reply}
  {peer : Endpoint}

theorem destination?_eq_some_iff {outcome : Except Fault Reply} :
    destination? outcome = some peer ↔ ∃ reply, outcome = .ok reply ∧
      reply.code.toString = "227" ∧ Endpoint.ofPassive reply.text = .ok peer := by
  cases outcome with
  | error f => simp [destination?]
  | ok reply =>
    by_cases hcode : reply.code.toString = "227"
    · cases hpeer : Endpoint.ofPassive reply.text with
      | error f => simp [destination?, hpeer, Except.toOption]
      | ok found => simp [destination?, hcode, hpeer, Except.toOption]
    · simp [destination?, hcode]

theorem destination?_of_refused (h : reply.code.toString ≠ "227") :
    destination? (.ok reply) = none :=
  if_neg h

theorem destination?_of_malformed {f : Fault} (h : Endpoint.ofPassive reply.text = .error f) :
    destination? (.ok reply) = none := by
  simp [destination?, h, Except.toOption]

/-- A channel that has heard the reply to its command. -/
structure Heard (n : Nat) (line : ControlLine) (s t : Live Channel) : Prop
    extends Resumed n line s t where
  events : t.net.events = s.net.events ++ [.send (.writer n) (Text.encodeUtf8 "PASV\r\n".toList)]

theorem Resumed.idle (h : Resumed n line s t) (hself : u.self = t.self)
    (hnet : t.net.Idle u.net) : Resumed n line s u where
  self := hself.trans h.self
  lines := hnet.lines.trans h.lines
  sockets k hk := (congrFun hnet.sockets k).trans (h.sockets k hk)
  unread := by
    rw [hnet.lines]
    exact h.unread

theorem Dialling.idle (h : Dialling n limit line s t) (hself : u.self = t.self)
    (hnet : t.net.Idle u.net) : Dialling n limit line s u := by
  obtain ⟨k, closings, hclosings, hevents, hresumed⟩ := h
  refine ⟨k, closings, hclosings, hnet.events.trans hevents, fun hsettled => ?_⟩
  obtain ⟨hnil, h⟩ := hresumed hsettled
  exact ⟨hnil, h.idle hself hnet⟩

theorem Heard.idle (h : Heard n line s t) (hself : u.self = t.self) (hnet : t.net.Idle u.net) :
    Heard n line s u :=
  ⟨h.toResumed.idle hself hnet, hnet.events.trans h.events⟩

/-- Without a peer to connect to, that is all. -/
theorem Heard.dialling (h : Heard n line s t) (hnone : destination? line.outcome = none) :
    Dialling n limit line s t := by
  refine ⟨0, [], closings_nil, ?_, fun _ => ⟨rfl, h.toResumed⟩⟩
  rw [hnone, h.events]
  simp [attempts]

theorem Heard.dialled (h : Heard n line s t) (hpeer : destination? line.outcome = some peer)
    (hself : u.self = t.self) (hnet : Net.Dialled peer.address limit t.net u.net) :
    Dialling n limit line s u := by
  obtain ⟨k, hevents⟩ := hnet.events
  refine ⟨k, [], closings_nil, ?_, fun _ => ⟨rfl, ?_⟩⟩
  · rw [hpeer, hevents, h.events]
    simp [attempts]
  · constructor
    · exact hself.trans h.self
    · exact hnet.lines.trans h.lines
    · exact fun k hk => (hnet.sockets k hk).trans (h.sockets k hk)
    · rw [hnet.lines]
      exact h.unread

theorem meets_log_heard (source : LogSource) (level : LogLevel) (message : String)
    {E : Failure → Live Channel → Prop} :
    Meets (Heard n line s) (call (Net.log source level message)) (fun _ => Heard n line s) E :=
  fun t ht => ht.idle rfl (Net.idle_log source level message t.net)

theorem meets_log_dialling (source : LogSource) (level : LogLevel) (message : String)
    {E : Failure → Live Channel → Prop} :
    Meets (Dialling n limit line s) (call (Net.log source level message))
      (fun _ => Dialling n limit line s) E :=
  fun t ht => ht.idle rfl (Net.idle_log source level message t.net)

/-! ## The reply -/

section Replying

variable (hstate : s.self.state = .connected) (hwriter : s.self.writer = some n)
  (hreplies : s.self.replies = some n) (hanswered : (s.net.lines n).answered = .ok line)
include hstate hwriter hreplies hanswered

/-- The reply is heard, or there is none and nothing to connect to. -/
theorem meets_send_heard :
    Meets (· = s) (Channel.send "PASV")
      (fun reply t => line.outcome = .ok reply ∧ Heard n line s t)
      fun _ => Dialling n limit line s := by
  intro u hu
  rw [hu]
  have hmasked : Command.masked "PASV" = .ok "PASV" := DataMode.masked_verb .passive
  obtain ⟨t, hrun, hkept, -⟩ :=
    Channel.run_turn (.send "PASV" "PASV" hmasked) hstate hwriter hreplies
  obtain ⟨⟨closings, hclosings, hsince⟩, hconnected⟩ :=
    Channel.events_send_of_answered hmasked hstate hwriter hanswered
  rw [Channel.Turn.outcome_of_draws (.send "PASV" "PASV" hmasked) hanswered] at hrun hkept
  replace hrun : (Channel.send "PASV").run s = (line.outcome.mapError .fault, t) := hrun
  rw [hrun] at hsince hconnected ⊢
  have heard : Settled line.outcome → Heard n line s t := by
    intro hsettled
    obtain ⟨line', hdraws, -, hmoved⟩ := hkept hsettled
    obtain rfl : line' = line := Except.ok.inj (hdraws.symm.trans hanswered)
    refine ⟨?_, hconnected (by rw [hmoved.self, hstate])⟩
    exact ⟨hmoved.self, hmoved.lines, fun h _ => congrFun hmoved.sockets h,
      (hmoved.kept hsettled).behind⟩
  cases houtcome : line.outcome with
  | ok reply =>
    refine ⟨rfl, heard ?_⟩
    rw [houtcome]
    exact settled_ok reply
  | error f =>
    have hnone : destination? line.outcome = none := by rw [houtcome]; rfl
    by_cases hsettled : Settled line.outcome
    · exact (heard hsettled).dialling hnone
    · refine ⟨0, closings, hclosings, ?_, fun h => absurd h hsettled⟩
      rw [hsince, hnone]
      exact congrArg (· ++ closings) (List.append_nil _).symm

/-- One attempt is made when the reply names a peer, and none otherwise. -/
theorem meets_passive_dialling (hlimit : Timeout.ofMillis s.self.timeoutMillis = .ok limit) :
    Meets (· = s) passive
      (fun _ t => destination? line.outcome ≠ none ∧ Dialling n limit line s t)
      fun _ => Dialling n limit line s := by
  apply Meets.bind (meets_send_heard hstate hwriter hreplies hanswered)
  intro reply
  apply Meets.assuming
  intro houtcome
  by_cases hcode : reply.code.toString = "227"
  swap
  · have hvalid : Channel.validate ["227"] reply = .error (.fault (.refused reply)) :=
      if_neg (by simpa using hcode)
    rw [hvalid]
    apply Meets.failed
    intro t ht
    apply ht.dialling
    rw [houtcome, destination?_of_refused hcode]
  have hvalid : Channel.validate ["227"] reply = .ok reply := if_pos (by simpa using hcode)
  rw [hvalid]
  apply Meets.value
  cases hpeer : Endpoint.ofPassive reply.text with
  | error f =>
    unfold passiveEndpoint
    rw [hpeer]
    apply Meets.failed
    intro t ht
    apply ht.dialling
    rw [houtcome, destination?_of_malformed hpeer]
  | ok peer =>
    have hdestination : destination? line.outcome = some peer :=
      destination?_eq_some_iff.2 ⟨reply, houtcome, hcode, hpeer⟩
    apply Meets.bind (Q := fun found t => found = peer ∧ Heard n line s t)
    · unfold passiveEndpoint
      rw [hpeer]
      apply Meets.bind (meets_log_heard _ _ _)
      exact fun _ => .pure fun t ht => ⟨rfl, ht⟩
    intro found
    apply Meets.assuming
    rintro rfl
    apply Meets.known fun t ht => ht.self
    dsimp only
    rw [hlimit]
    apply Meets.value
    apply Meets.bind (Q := fun _ => Dialling n limit line s)
    · apply Meets.rescue (E := fun _ => Dialling n limit line s)
      · apply Meets.ofLeaves
        intro t ht
        exact ht.dialled hdestination rfl (Net.dialled_dialData found.address limit t.net)
      intro e
      split
      · exact .fail fun _ ht => ht
      · exact .fail fun _ ht => ht
    intro handle
    apply Meets.bind (meets_log_dialling _ _ _)
    exact fun _ => .pure fun t ht => ⟨by simp [hdestination], ht⟩

end Replying

end Negotiation

/-! ## The client -/

namespace Client

/-- The channel and the network as a negotiation left them, but for what a client remembers. -/
def Remembering (t : Live Channel) (u : Live Client) : Prop :=
  u.self.channel = t.self ∧ t.net.Idle u.net

variable {t : Live Channel}

theorem meets_record_remembering (command : String) (reply : Option Reply)
    (error : Option Fault) :
    Meets (Remembering t) (record command reply error) (fun _ => Remembering t)
      fun _ => Remembering t := by
  apply Meets.ofKeeps (recorded_record command reply error)
  rintro s u ⟨hself, hnet⟩ h
  exact ⟨h.channel.trans hself, trans_of Network.Idle hnet ⟨h.events, h.lines, h.sockets⟩⟩

/-- A client that negotiates adds nothing to what its channel does. -/
theorem openData_remembering (mode : DataMode) (s : Live Client) :
    Remembering ((Negotiation.run mode).run ⟨s.self.channel, s.net⟩).2
      ((openData mode).run s).2 := by
  generalize hnegotiated : ((Negotiation.run mode).run ⟨s.self.channel, s.net⟩).2 = t
  have run : Meets (· = s) (onChannel (Negotiation.run mode)) (fun _ => Remembering t)
      fun _ => Remembering t := by
    apply Meets.ofLeaves
    intro u hu
    rw [hu, onChannel, Live.focus, run_zoom, ← hnegotiated]
    exact ⟨rfl, refl_of Network.Idle _⟩
  refine Meets.leaves (P := (· = s)) ?_ rfl
  apply Meets.bind (Q := fun _ => Remembering t)
  · apply Meets.rescue run
    intro e
    split
    · split
      · exact .value (.bind (meets_record_remembering _ _ _) fun _ => .fail fun _ h => h)
      · exact .failed fun _ h => h
    · exact .fail fun _ h => h
  intro d
  apply Meets.bind (meets_record_remembering _ _ _)
  intro _
  apply Meets.bind (Q := fun _ => Remembering t)
  · rintro u ⟨hself, hnet⟩
    exact ⟨hself, trans_of Network.Idle hnet (Net.idle_log _ _ _ u.net)⟩
  exact fun _ => .pure fun _ h => h

end Client

namespace Negotiation

/-- The channel of a caller who has connected to a server that names a peer at which nobody
listens. -/
def guidedVisit : Live Channel :=
  ((Channel.Operation.connect ⟨some "ftp.test", 21⟩ 10000).perform.run
    ⟨{}, .answering ["227 ok (10,0,0,1,0,21)\r\n"]⟩).2

end Negotiation

end FtpControl
