import FtpControl.Proofs.Channel.Turns
import FtpControl.Proofs.Offline

/-!
# What an operation hears

An operation of a connected channel takes one reply from its line or none, and its result reports
what it took. Only an error of the network can come in between, which closes the channel.
-/

namespace FtpControl

open Effect Live Reply

/-- An error of a socket, whether it is reported as a fault or as it is. -/
def Failure.OfNetwork (e : Failure) : Prop :=
  e.IsSystem ∨ ∃ f, e = .fault f ∧ f.kind = .io

namespace Channel

variable {α : Type} {n : Nat} {line : ControlLine} {s t : Live Channel}

/-- A reply or a line that is none, as the caller sees it who accepts some codes only. -/
def verdict (expected : List String) (outcome : Except Fault Reply) : Except Failure Reply :=
  (outcome.mapError .fault).bind (validate expected)

/-- Operations that have nothing to do with the server's replies. -/
def Operation.Wordless : Operation → Prop
  | connect .. | send _ | read | negotiate _ | logout => False
  | setTimeout _ | setTracing _ | localHost | remoteAddress | remoteHostName | close | leave => True

/-- A failure that blames the protocol for nothing but the client's own address. -/
def Unspoken (e : Failure) : Prop :=
  ∀ f, e = .fault f → f.kind = .protocol → ∃ host port, Endpoint.ofAddress host port = .error f

/-- How the result of an operation reports what it has read. -/
inductive Reports : Operation → Except Failure Answer → List (Except Fault Reply) → Prop
  | wordless {op : Operation} (h : op.Wordless) (result : Except Failure Answer) :
      Reports op result []
  | greeted (peer : Target) (millis : Int) (outcome : Except Fault Reply) :
      Reports (.connect peer millis) ((verdict ["220"] outcome).map .reply) [outcome]
  /-- A channel connects once. -/
  | again (peer : Target) (millis : Int) :
      Reports (.connect peer millis) (.error (.fault (.connectIn .connected))) []
  | sent (command : String) (outcome : Except Fault Reply) :
      Reports (.send command) ((outcome.mapError .fault).map .reply) [outcome]
  /-- A command that cannot be masked is not sent. -/
  | unsendable {command : String} {e : Failure} (h : Command.masked command = .error e) :
      Reports (.send command) (.error e) []
  | read (outcome : Except Fault Reply) :
      Reports .read ((outcome.mapError .fault).map .reply) [outcome]
  | left (outcome : Except Fault Reply) :
      Reports .logout ((verdict ["221", "200"] outcome).map fun _ => .nothing) [outcome]
  | unannounced {e : Failure} (h : Unspoken e) : Reports (.negotiate .active) (.error e) []
  | agreed {mode : DataMode} {d : DataConnection}
      (h : verdict [mode.agreement] (.ok d.reply) = .ok d.reply) :
      Reports (.negotiate mode) (.ok (.negotiated d)) [.ok d.reply]
  | declined {mode : DataMode} {outcome : Except Fault Reply} {e : Failure}
      (h : verdict [mode.agreement] outcome = .error e) :
      Reports (.negotiate mode) (.error e) [outcome]
  /-- An error met on closing the listener takes the place of the outcome. -/
  | concealed {outcome : Except Fault Reply} {e : Failure}
      (h : verdict [DataMode.active.agreement] outcome = .error e) (why : String) :
      Reports (.negotiate .active) (.error (.system why)) [outcome]
  /-- A reply that agrees to the mode without saying where to connect. -/
  | misread {reply : Reply} {f : Fault}
      (h : verdict [DataMode.passive.agreement] (.ok reply) = .ok reply)
      (hf : Endpoint.ofPassive reply.text = .error f) :
      Reports (.negotiate .passive) (.error (.fault f)) [.ok reply]
  /-- A reply that says where to connect, to no avail. -/
  | unreached {reply : Reply} {peer : Endpoint} {e : Failure}
      (h : verdict [DataMode.passive.agreement] (.ok reply) = .ok reply)
      (hpeer : Endpoint.ofPassive reply.text = .ok peer)
      (he : ∀ f, e = .fault f → f.kind ≠ .protocol) :
      Reports (.negotiate .passive) (.error e) [.ok reply]

/-- What is taken from a line, and the line behind it. -/
inductive Hears (line : ControlLine) : List (Except Fault Reply) → ControlLine → Prop
  | nothing : Hears line [] line
  | outcome (turn : Turn) {drawn : ControlLine} (hdraws : turn.draws line = .ok drawn)
      (h : Settled drawn.outcome) : Hears line [drawn.outcome] drawn.behind

/-- A connected channel on a line in this condition. -/
structure Tuned (n : Nat) (line : ControlLine) (s : Live Channel) : Prop where
  state : s.self.state = .connected
  writer : s.self.writer = some n
  replies : s.self.replies = some n
  line : s.net.lines n = line

/-- A channel that is closed by an error of the network. -/
def Broken (e : Failure) (t : Live Channel) : Prop :=
  e.OfNetwork ∧ t.self.state = .closed

/-- A connected channel that has heard this on its line. -/
def Heard (n : Nat) (line : ControlLine) (outcome : Except Fault Reply) (t : Live Channel) : Prop :=
  Hears line [outcome] (t.net.lines n) ∧ Tuned n (t.net.lines n) t

/-- What an operation heard is what its result reports, unless the network failed it. -/
def Accounted (n : Nat) (line : ControlLine) (op : Operation) (result : Except Failure Answer)
    (t : Live Channel) : Prop :=
  (∃ heard, Reports op result heard ∧ Hears line heard (t.net.lines n) ∧
      (Tuned n (t.net.lines n) t ∨ t.self.state = .closed)) ∨
    ∃ e, result = .error e ∧ Broken e t

theorem Broken.accounted {op : Operation} {e : Failure} (h : Broken e t) :
    Accounted n line op (.error e) t :=
  .inr ⟨e, rfl, h⟩

theorem Heard.accounted {op : Operation} {result : Except Failure Answer}
    {outcome : Except Fault Reply} (h : Heard n line outcome t)
    (hop : Reports op result [outcome]) : Accounted n line op result t :=
  .inl ⟨[outcome], hop, h.1, .inl h.2⟩

theorem Tuned.accounted {op : Operation} {result : Except Failure Answer}
    (h : Tuned n line t) (hop : Reports op result []) : Accounted n line op result t := by
  obtain rfl := h.line
  exact .inl ⟨[], hop, .nothing, .inl h⟩

/-! ## Without a word -/

/-- A run that leaves the channel and all lines as they are, whatever else it does. -/
def Silent (s t : Live Channel) : Prop :=
  t.self = s.self ∧ t.net.lines = s.net.lines

theorem silent_call {m : Net α} (hm : Net.Offline m) : Keeps Silent (call m : Op Channel α) :=
  .call hm fun _ _ h => ⟨rfl, lines_of_wires h⟩

theorem silent_log (source : LogSource) (level : LogLevel) (message : String) :
    Keeps Silent (call (Net.log source level message) : Op Channel Unit) :=
  silent_call (Net.offline_log source level message)

theorem fails_note {E : Failure → Prop} (source : LogSource) (level : LogLevel) (message : String) :
    Fails E (call (Net.log source level message) : Op Channel Unit) :=
  .call (Net.fails_log source level message)

theorem Tuned.congr (h : Tuned n line s) (hst : Silent s t) : Tuned n line t := by
  obtain ⟨hself, hlines⟩ := hst
  constructor
  · rw [hself, h.state]
  · rw [hself, h.writer]
  · rw [hself, h.replies]
  · rw [hlines, h.line]

theorem Heard.congr {outcome : Except Fault Reply} (h : Heard n line outcome s)
    (hst : Silent s t) : Heard n line outcome t := by
  unfold Heard
  rw [hst.2]
  exact ⟨h.1, h.2.congr hst⟩

theorem meets_tuned {m : Op Channel α} (hm : Keeps Aside m) (ho : Offline m) :
    Meets (Tuned n line) m (fun _ => Tuned n line) fun _ => Tuned n line := by
  apply Meets.ofLeaves
  intro s hs
  have haside := hm s
  constructor
  · exact haside.state.trans hs.state
  · exact haside.writer.trans hs.writer
  · exact haside.replies.trans hs.replies
  · rw [lines_of_wires (ho s), hs.line]

theorem offline_of_wordless (op : Operation) (h : op.Wordless) : Offline op.perform := by
  cases op with
  | connect peer millis => exact h.elim
  | send command => exact h.elim
  | read => exact h.elim
  | setTimeout millis => exact .bind (offline_setTimeout millis) fun _ => .pure _
  | setTracing on => exact .bind (offline_change _) fun _ => .pure _
  | localHost => exact .map _ offline_localHost
  | remoteAddress => exact .map _ offline_remoteAddress
  | remoteHostName => exact .map _ offline_remoteHostName
  | negotiate mode => exact h.elim
  | logout => exact h.elim
  | close => exact .bind offline_close fun _ => .pure _
  | leave => exact .ensure (.pure _) (.bind .this fun _ => .ite offline_close (.pure _))

theorem meets_wordless (op : Operation) (h : op.Wordless) (hm : Keeps Aside op.perform) :
    Meets (Tuned n line) op.perform (fun a => Accounted n line op (.ok a))
      fun e => Accounted n line op (.error e) :=
  (meets_tuned hm (offline_of_wordless op h)).imp (fun _ hs => hs)
    (fun _ _ hs => hs.accounted (.wordless h _)) fun _ _ hs => hs.accounted (.wordless h _)

/-- Leaving a channel closes it, and all that has been received stays where it is. -/
theorem meets_close_tuned :
    Meets (Tuned n line) close
      (fun _ t => t.net.lines n = line ∧ t.self.state = .closed)
      fun e t => t.net.lines n = line ∧ Broken e t := by
  intro s hs
  have hlines := offline_close s
  have hrelease := meets_release_from s s rfl
  have hrun : close.run s = release.run s := by
    rw [close, run_look, hs.state]
  rw [hrun] at hlines ⊢
  replace hlines := congrFun (lines_of_wires hlines) n
  rcases hr : release.run s with ⟨e | a, t⟩ <;> rw [hr] at hrelease hlines
  · obtain ⟨⟨why, rfl⟩, hself, -⟩ := hrelease
    exact ⟨hlines.trans hs.line, .inr ⟨_, rfl, rfl⟩, by rw [hself]; rfl⟩
  · exact ⟨hlines.trans hs.line, by rw [hrelease.1]; rfl⟩

/-! ## A reply and no more -/

theorem meets_turn (turn : Turn) :
    Meets (Tuned n line) turn.perform (fun reply => Heard n line (.ok reply))
      fun e t => Broken e t ∨ ∃ f, e = .fault f ∧ Heard n line (.error f) t := by
  intro s hs
  obtain ⟨t, hrun, hkept, hreleased⟩ := run_turn turn hs.state hs.writer hs.replies
  rw [hs.line] at hrun hkept hreleased
  rw [hrun]
  by_cases hsettled : Settled (turn.outcome line)
  · obtain ⟨drawn, hdraws, houtcome, hmoved⟩ := hkept hsettled
    have hline : t.net.lines n = drawn.behind := by rw [hmoved.lines, setAt_same]
    have hheard : Heard n line (turn.outcome line) t := by
      unfold Heard
      rw [houtcome] at hsettled ⊢
      rw [hline]
      refine ⟨.outcome turn hdraws hsettled, ?_, ?_, ?_, hline⟩
      · rw [hmoved.self, hs.state]
      · rw [hmoved.self, hs.writer]
      · rw [hmoved.self, hs.replies]
    cases hresult : turn.outcome line with
    | ok reply =>
      rw [hresult] at hheard
      exact hheard
    | error f =>
      rw [hresult] at hheard
      exact .inr ⟨f, rfl, hheard⟩
  · obtain ⟨f, hf, hkind⟩ := not_settled_iff.1 hsettled
    rw [hf]
    exact .inl ⟨.inr ⟨f, rfl, hkind⟩, by rw [hreleased hsettled]; rfl⟩

/-- What follows a reply whose code is one of those expected. -/
theorem meets_turn_verdict (turn : Turn) (expected : List String) {k : Reply → Op Channel α}
    {Q : α → Live Channel → Prop} {E : Failure → Live Channel → Prop}
    (hk : ∀ reply, verdict expected (.ok reply) = .ok reply →
      Meets (Heard n line (.ok reply)) (k reply) Q E)
    (hE : ∀ e t, (∃ outcome, verdict expected outcome = .error e ∧ Heard n line outcome t) → E e t)
    (hbroken : ∀ e t, Broken e t → E e t) :
    Meets (Tuned n line) (turn.perform >>= fun reply => ofExcept (validate expected reply) >>= k)
      Q E := by
  apply Meets.bind ((meets_turn turn).failing _)
  · intro reply
    cases hvalid : validate expected reply with
    | error e => exact .failed fun t ht => hE e t ⟨.ok reply, hvalid, ht⟩
    | ok accepted =>
      obtain ⟨rfl, -⟩ := validate_ok hvalid
      exact .value (hk reply hvalid)
  · rintro e t (hlost | ⟨f, rfl, ht⟩)
    · exact hbroken e t hlost
    · exact hE _ t ⟨.error f, rfl, ht⟩

theorem isFault_of_verdict {expected : List String} {outcome : Except Fault Reply}
    {e : Failure} (h : verdict expected outcome = .error e) : e.IsFault := by
  cases outcome with
  | ok reply => exact isFault_of_validate h
  | error f =>
    cases h
    exact ⟨f, rfl⟩

/-- A failure that does not blame the protocol. -/
def Blameless (e : Failure) : Prop :=
  ∀ f, e = .fault f → f.kind ≠ .protocol

theorem blameless_of_not_isFault {e : Failure} (h : ¬ e.IsFault) : Blameless e :=
  fun f hf => absurd ⟨f, hf⟩ h

theorem unspoken_of_not_isFault {e : Failure} (h : ¬ e.IsFault) : Unspoken e :=
  fun f hf _ => absurd ⟨f, hf⟩ h

theorem unspoken_of_kind {f : Fault} (h : f.kind ≠ .protocol) : Unspoken (.fault f) := by
  rintro _ ⟨⟩ hf
  exact absurd hf h

/-! ## Negotiations -/

theorem fails_localHost : Fails Unspoken localHost := by
  have socket : Fails Unspoken (connectedSocket "read the local address") := by
    refine .bind (.bind .this fun c => .ite (.pure _) (.fail ?_)) fun _ => .bind .this fun c => ?_
    · exact unspoken_of_kind (by simp [Fault.kind])
    · split
      · exact .pure _
      · exact .fail (unspoken_of_kind (by simp [Fault.kind]))
  apply Fails.bind socket
  intro h
  refine .bind (.call fun net e he => ?_) fun _ => .pure _
  exact unspoken_of_not_isFault (Net.fails_ownAddress h net e he).not_isFault

/-- A call before the command, which can fail as sockets do. -/
theorem meets_unspoken {m : Net α} (hm : Net.Offline m) (hf : Fails Failure.IsSystem m) :
    Meets (Tuned n line) (call m) (fun _ => Tuned n line)
      fun e t => Unspoken e ∧ Tuned n line t :=
  ((Fails.call hf).along (silent_call hm) fun _ _ hs h => hs.congr h).failing
    fun _ _ hs => ⟨unspoken_of_not_isFault hs.1.not_isFault, hs.2⟩

/-- How far a negotiation in active mode has come by its failure. -/
def Balked (n : Nat) (line : ControlLine) (e : Failure) (t : Live Channel) : Prop :=
  Broken e t ∨ (Unspoken e ∧ Tuned n line t) ∨
    ∃ outcome, verdict [DataMode.active.agreement] outcome = .error e ∧ Heard n line outcome t

theorem Balked.congr {e : Failure} (h : Balked n line e s) (hst : Silent s t) :
    Balked n line e t := by
  obtain ⟨he, hstate⟩ | ⟨he, hs⟩ | ⟨outcome, he, hs⟩ := h
  · exact .inl ⟨he, hst.1 ▸ hstate⟩
  · exact .inr (.inl ⟨he, hs.congr hst⟩)
  · exact .inr (.inr ⟨outcome, he, hs.congr hst⟩)

theorem Balked.accounted {e : Failure} (h : Balked n line e t) :
    Accounted n line (.negotiate .active) (.error e) t := by
  obtain hlost | ⟨he, ht⟩ | ⟨outcome, he, ht⟩ := h
  · exact hlost.accounted
  · exact ht.accounted (.unannounced he)
  · exact ht.accounted (.declined he)

/-- An error met on closing the listener takes the place of the one before. -/
theorem Balked.concealed {e : Failure} (h : Balked n line e t) (why : String) :
    Accounted n line (.negotiate .active) (.error (.system why)) t := by
  obtain ⟨-, hclosed⟩ | ⟨-, ht⟩ | ⟨outcome, he, ht⟩ := h
  · exact Broken.accounted ⟨.inl ⟨why, rfl⟩, hclosed⟩
  · apply ht.accounted (.unannounced (unspoken_of_not_isFault _))
    rintro ⟨f, ⟨⟩⟩
  · exact ht.accounted (.concealed he why)

theorem Balked.listenFailed {why : String} (h : Balked n line (.system why) t) :
    Accounted n line (.negotiate .active) (.error (.fault (.listenFailed why))) t := by
  obtain ⟨-, hclosed⟩ | ⟨-, ht⟩ | ⟨outcome, he, ht⟩ := h
  · exact Broken.accounted ⟨.inr ⟨_, rfl, rfl⟩, hclosed⟩
  · exact ht.accounted (.unannounced (unspoken_of_kind (by simp [Fault.kind])))
  · obtain ⟨f, ⟨⟩⟩ := isFault_of_verdict he

theorem meets_announce_heard (m : Nat) (host : String) :
    Meets (Tuned n line) (Negotiation.announce m host)
      (fun d t => verdict [DataMode.active.agreement] (.ok d.reply) = .ok d.reply ∧
        Heard n line (.ok d.reply) t)
      (Balked n line) := by
  have before : ∀ e (t : Live Channel), Unspoken e ∧ Tuned n line t → Balked n line e t :=
    fun e t ht => .inr (.inl ht)
  apply Meets.bind
    ((meets_unspoken (Net.offline_bind m host) (Net.fails_bind m host)).failing before)
  intro _
  apply Meets.bind ((meets_unspoken (Net.offline_listen m 1) (Net.fails_listen m 1)).failing before)
  intro _
  apply Meets.bind
    ((meets_unspoken (Net.offline_ownAddress _) (Net.fails_ownAddress _)).failing before)
  intro own
  apply Meets.bind ((fails_note _ _ _).keeps (silent_log _ _ _) fun _ _ hs h => hs.congr h)
  intro _
  cases haddress : Endpoint.ofAddress host own.port with
  | error f =>
    apply Meets.failed
    intro t ht
    apply before _ t ⟨_, ht⟩
    rintro _ ⟨⟩ -
    exact ⟨host, own.port, haddress⟩
  | ok peer =>
    apply Meets.value
    apply meets_turn_verdict (.send _ _ (Endpoint.masked_portCommand peer)) ["200"]
    · intro reply hreply
      apply Meets.look
      intro c
      exact .pure fun t ht => ⟨hreply, ht.1⟩
    · rintro e t ⟨outcome, he, ht⟩
      exact .inr (.inr ⟨outcome, he, ht⟩)
    · exact fun e t ht => .inl ht

theorem meets_active_accounted :
    Meets (Tuned n line) Negotiation.active
      (fun d => Accounted n line (.negotiate .active) (.ok (.negotiated d)))
      fun e => Accounted n line (.negotiate .active) (.error e) := by
  apply Meets.bind (Q := fun _ => Tuned n line)
  · apply ((meets_tuned aside_localHost offline_localHost).and fails_localHost.meets).imp
    · exact fun _ hs => ⟨hs, trivial⟩
    · exact fun _ _ hs => hs.1
    · exact fun _ _ hs => hs.1.accounted (.unannounced hs.2)
  intro host
  apply Meets.bind ((Fails.call Net.fails_openListener).keeps (silent_call Net.offline_openListener)
    fun _ _ hs h => hs.congr h)
  intro m
  apply Meets.rescue (E := Balked n line)
  · apply (meets_announce_heard m host).yields
    rintro d t ⟨hd, ht⟩
    exact ht.accounted (.agreed hd)
  intro e
  apply Meets.bind (Q := fun _ => Balked n line e)
  · apply ((Fails.call (Net.fails_close (.listener m))).along (silent_call (Net.offline_close _))
      fun _ _ hs h => hs.congr h).failing
    rintro _ t ⟨⟨why, rfl⟩, ht⟩
    exact ht.concealed why
  intro _
  split
  · exact .fail fun _ ht => ht.listenFailed
  · exact .fail fun _ ht => ht.accounted

theorem meets_passiveEndpoint_heard {reply : Reply} {peer : Endpoint}
    (hpeer : Endpoint.ofPassive reply.text = .ok peer) {E : Failure → Live Channel → Prop} :
    Meets (Heard n line (.ok reply)) (Negotiation.passiveEndpoint reply)
      (fun found t => found = peer ∧ Heard n line (.ok reply) t) E := by
  unfold Negotiation.passiveEndpoint
  rw [hpeer]
  apply Meets.bind ((fails_note _ _ _).keeps (silent_log _ _ _) fun _ _ hs h => hs.congr h)
  intro _
  exact .pure fun t ht => ⟨rfl, ht⟩

/-- The reply has been heard, whatever becomes of the connection that it tells of. -/
theorem meets_dialData_heard {reply : Reply} (peer : Endpoint) (limit : Timeout) :
    Meets (Heard n line (.ok reply))
      ((call (Net.dialData peer.address limit)).rescue fun
        | .system why => fail (.fault (.dataConnectFailed peer why))
        | e => fail e : Op Channel Handle)
      (fun _ => Heard n line (.ok reply))
      fun e t => Blameless e ∧ Heard n line (.ok reply) t := by
  apply Meets.rescue (E := fun e t => ¬ e.IsFault ∧ Heard n line (.ok reply) t)
  · exact ((Fails.call (Net.fails_dialData _ _)).imp fun _ he => he.1).along
      (silent_call (Net.offline_dialData _ _)) fun _ _ hs h => hs.congr h
  intro e
  split
  · apply Meets.fail
    rintro t ⟨-, ht⟩
    refine ⟨?_, ht⟩
    rintro f ⟨⟩
    simp [Fault.kind]
  · exact .fail fun t ht => ⟨blameless_of_not_isFault ht.1, ht.2⟩

theorem meets_passive_accounted :
    Meets (Tuned n line) Negotiation.passive
      (fun d => Accounted n line (.negotiate .passive) (.ok (.negotiated d)))
      fun e => Accounted n line (.negotiate .passive) (.error e) := by
  have hmasked : Command.masked "PASV" = .ok "PASV" := by decide +kernel
  apply meets_turn_verdict (.send "PASV" "PASV" hmasked) ["227"]
  · intro reply hreply
    cases hpeer : Endpoint.ofPassive reply.text with
    | error f =>
      unfold Negotiation.passiveEndpoint
      rw [hpeer]
      exact .failed fun t ht => ht.accounted (.misread hreply hpeer)
    | ok peer =>
      apply Meets.bind (meets_passiveEndpoint_heard hpeer)
      intro found
      apply Meets.look
      intro c
      apply Meets.given
      · rintro e he t ⟨⟨-, ht⟩, -⟩
        obtain rfl := Timeout.ofMillis_error he
        apply ht.accounted (.unreached hreply hpeer (blameless_of_not_isFault _))
        rintro ⟨f, ⟨⟩⟩
      intro limit _
      apply Meets.bind (Q := fun _ => Heard n line (.ok reply))
      · apply (meets_dialData_heard found limit).imp
        · exact fun _ hs => hs.1.2
        · exact fun _ _ ht => ht
        · exact fun _ _ ht => ht.2.accounted (.unreached hreply hpeer ht.1)
      intro h
      apply Meets.bind ((fails_note _ _ _).keeps (silent_log _ _ _) fun _ _ hs h => hs.congr h)
      intro _
      exact .pure fun t ht => ht.accounted (.agreed hreply)
  · rintro e t ⟨outcome, he, ht⟩
    exact ht.accounted (.declined he)
  · exact fun e t ht => ht.accounted

/-! ## Operations -/

theorem meets_send_accounted (command : String) :
    Meets (Tuned n line) (Operation.send command).perform
      (fun a => Accounted n line (.send command) (.ok a))
      fun e => Accounted n line (.send command) (.error e) := by
  apply Meets.map
  cases hshown : Command.masked command with
  | error e =>
    intro s hs
    have hmasked : (ofExcept (.error e) : Op Channel String).run s = (.error e, s) := rfl
    rw [send, hshown, run_bind_ok (run_requireConnected hs.state _), run_bind_error hmasked]
    exact hs.accounted (.unsendable hshown)
  | ok shown =>
    apply (meets_turn (.send command shown hshown)).imp (fun _ hs => hs)
    · exact fun reply t ht => ht.accounted (.sent command (.ok reply))
    · rintro e t (hlost | ⟨f, rfl, ht⟩)
      · exact hlost.accounted
      · exact ht.accounted (.sent command (.error f))

theorem meets_read_accounted :
    Meets (Tuned n line) Operation.read.perform (fun a => Accounted n line .read (.ok a))
      fun e => Accounted n line .read (.error e) := by
  apply Meets.map
  apply (meets_turn .read).imp (fun _ hs => hs)
  · exact fun reply t ht => ht.accounted (.read (.ok reply))
  · rintro e t (hlost | ⟨f, rfl, ht⟩)
    · exact hlost.accounted
    · exact ht.accounted (.read (.error f))

theorem masked_quit : Command.masked "QUIT" = .ok "QUIT" := by
  decide +kernel

/-- The farewell as a turn of the conversation. -/
def Turn.quit : Turn :=
  .send "QUIT" "QUIT" masked_quit

theorem meets_farewell :
    Meets (Tuned n line) farewell
      (fun _ t => ∃ reply, verdict ["221", "200"] (.ok reply) = .ok reply ∧
        Heard n line (.ok reply) t)
      fun e t => Broken e t ∨
        ∃ outcome, verdict ["221", "200"] outcome = .error e ∧ Heard n line outcome t := by
  apply meets_turn_verdict .quit ["221", "200"]
  · exact fun reply hreply => .pure fun t ht => ⟨reply, hreply, ht⟩
  · exact fun e t ht => .inr ht
  · exact fun e t ht => .inl ht

/-- Once a reply has been heard, the channel is closed on purpose. -/
theorem accounted_of_close {op : Operation} {outcome : Except Fault Reply}
    {result : Except Failure Answer} (ht : Heard n line outcome t)
    (hop : Reports op result [outcome]) {closing : Except Failure Unit} {u : Live Channel}
    (hrun : close.run t = (closing, u)) :
    Accounted n line op (closing.bind fun _ => result) u := by
  have hu := meets_close_tuned t ht.2
  rw [hrun] at hu
  rcases closing with e | ⟨⟩
  · exact hu.2.accounted
  · refine .inl ⟨[outcome], hop, ?_, .inr hu.2⟩
    rw [hu.1]
    exact ht.1

/-- The reply to the farewell is heard before the channel is closed. -/
theorem meets_logout_accounted :
    Meets (Tuned n line) logout (fun _ => Accounted n line .logout (.ok .nothing))
      fun e => Accounted n line .logout (.error e) := by
  intro s hs
  have ht := meets_farewell s hs
  rw [logout_eq, run_bind_ok (run_requireConnected hs.state _), run_ensure]
  rcases hrun : farewell.run s with ⟨e | ⟨⟩, t⟩ <;> rw [hrun] at ht
  · obtain ht | ⟨outcome, he, ht⟩ := ht
    · have hclose : close.run t = (.ok (), t) := by
        rw [close, run_look, ht.2]
        rfl
      rw [hclose]
      exact ht.accounted
    · rcases hclose : close.run t with ⟨e' | ⟨⟩, u⟩ <;> dsimp only
      · exact accounted_of_close ht (.left outcome) hclose
      · have hu := accounted_of_close ht (.left outcome) hclose
        rw [he] at hu
        exact hu
  · obtain ⟨reply, hreply, ht⟩ := ht
    rcases hclose : close.run t with ⟨e' | ⟨⟩, u⟩ <;> dsimp only
    · exact accounted_of_close ht (.left (.ok reply)) hclose
    · have hu := accounted_of_close ht (.left (.ok reply)) hclose
      rw [hreply] at hu
      exact hu

/-- What has been received stays where it is when the channel is closed. -/
theorem meets_parting (op : Operation) (h : op.Wordless) :
    Meets (Tuned n line) close (fun _ => Accounted n line op (.ok .nothing))
      fun e => Accounted n line op (.error e) := by
  apply meets_close_tuned.imp (fun _ hs => hs)
  · rintro - t ⟨rfl, hclosed⟩
    exact .inl ⟨[], .wordless h _, .nothing, .inr hclosed⟩
  · exact fun e t ht => ht.2.accounted

theorem meets_leave_accounted :
    Meets (Tuned n line) Operation.leave.perform (fun a => Accounted n line .leave (.ok a))
      fun e => Accounted n line .leave (.error e) := by
  intro s hs
  have ht := meets_parting .leave trivial s hs
  have hlast : (do if (← this).state = .connected then close : Op Channel Unit).run s =
      close.run s := by
    rw [run_look, if_pos hs.state]
  have hrun : Operation.leave.perform.run s = ((close.run s).1.map fun _ => .nothing,
      (close.run s).2) := by
    rw [Operation.perform, closing, run_ensure, run_pure]
    dsimp only
    rw [hlast]
    rcases close.run s with ⟨e | a, t⟩ <;> rfl
  rw [hrun]
  rcases hclose : close.run s with ⟨e | a, t⟩ <;> rw [hclose] at ht
  · exact ht
  · exact ht

/-- Every operation of a connected channel reports what it has heard. -/
theorem meets_perform_accounted (op : Operation) :
    Meets (Tuned n line) op.perform (fun a => Accounted n line op (.ok a))
      fun e => Accounted n line op (.error e) := by
  cases op with
  | connect peer millis =>
    apply Meets.map
    intro s hs
    rw [run_connect_again (by simp [hs.state]), hs.state]
    exact hs.accounted (.again peer millis)
  | send command => exact meets_send_accounted command
  | read => exact meets_read_accounted
  | setTimeout millis =>
    apply meets_wordless (.setTimeout millis) trivial
    exact .bind (aside_setTimeout millis) fun _ => .pure _
  | setTracing on =>
    apply meets_wordless (.setTracing on) trivial
    exact .bind (.change fun _ => ⟨rfl, rfl, rfl, rfl, rfl, rfl, id, rfl⟩) fun _ => .pure _
  | localHost => exact meets_wordless _ trivial (.map _ aside_localHost)
  | remoteAddress => exact meets_wordless _ trivial (.map _ aside_remoteAddress)
  | remoteHostName => exact meets_wordless _ trivial (.map _ aside_remoteHostName)
  | negotiate mode =>
    apply Meets.map
    cases mode with
    | active => exact meets_active_accounted
    | passive => exact meets_passive_accounted
  | logout => exact .bind meets_logout_accounted fun _ => .pure fun _ hs => hs
  | close => exact .bind (meets_parting .close trivial) fun _ => .pure fun _ hs => hs
  | leave => exact meets_leave_accounted

end Channel

end FtpControl
