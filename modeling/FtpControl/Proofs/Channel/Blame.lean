import FtpControl.Proofs.Channel.Operations
import FtpControl.Proofs.Endpoint.Bijection
import FtpControl.Proofs.Network.Blame

/-!
# What a failure tells of

An error of the system, bare or told of by a fault, is never made up: no operation of a channel, of
a negotiation or of a data connection fails with one that it has not met.
-/

namespace FtpControl

open Effect Live Reply

variable {α : Type}

/-! ## Operations of a channel -/

namespace Channel

variable {known : List String}

theorem candid_requireConnected (action : String) : Op.Candid known (requireConnected action) := by
  apply Candid.next candid_this
  intro c
  exact .ite (.result _) (.untold rfl)

theorem candid_connectedSocket (action : String) : Op.Candid known (connectedSocket action) := by
  apply Candid.next (candid_requireConnected action)
  intro _
  apply Candid.next candid_this
  intro c
  cases c.socket with
  | none => exact .untold rfl
  | some n => exact .result _

theorem candid_closeResource (h : Handle) :
    Candid id known Option.toList (closeResource h) := by
  apply Candid.bind (.attempt (.ofCall (.close h)))
  intro r
  split
  · exact .pure (by simp)
  · exact .next (.ofCall (.log _ _ _)) fun _ => .pure (by simp [heard, Failure.accounts])
  · exact .fail fun why hwhy => List.mem_append_right _ hwhy

theorem candid_closeResources (hs : List Handle) :
    Candid id known Option.toList (closeResources hs) := by
  induction hs generalizing known with
  | nil => exact .pure (by simp)
  | cons h hs ih =>
    apply Candid.bind (candid_closeResource h)
    intro first
    apply Candid.bind ih
    intro later
    apply Candid.pure
    cases later <;> simp +contextual

theorem candid_report (error : Option String) : Op.Candid (known ++ error.toList) (match error with
    | some why => fault (.releaseFailed why)
    | none => pure () : Op Channel Unit) := by
  cases error with
  | none => exact .result _
  | some why => exact .fail (by simp [Failure.accounts, Fault.account?])

theorem candid_release : Op.Candid known release := by
  apply Candid.next candid_this
  intro c
  apply Candid.bind (candid_net (candid_closeResources c.resources))
  intro error
  apply Candid.next (candid_change _)
  intro _
  cases c.peer with
  | none => exact candid_report error
  | some peer => exact .next (candid_log _ _ _) fun _ => candid_report error

theorem candid_releaseQuietly : Op.Candid known releaseQuietly := by
  apply Candid.rescue candid_release
  intro e
  split
  · exact candid_log _ _ _
  · exact .told rfl

theorem candid_close : Op.Candid known close := by
  apply Candid.next candid_this
  intro c
  cases c.state with
  | unconnected => exact .untold rfl
  | connected => exact candid_release
  | closed => exact .result _

theorem accounts_of_ofMillis {millis : Int} {e : Failure} (h : Timeout.ofMillis millis = .error e) :
    e.accounts = [] := by
  rw [Timeout.ofMillis_error h]
  rfl

theorem candid_applyTimeout (n : Nat) (millis : Int) :
    Op.Candid known (applyTimeout n millis) := by
  unfold applyTimeout
  split_ifs
  · exact .failed rfl
  · apply Candid.given fun e => accounts_of_ofMillis
    intro limit
    exact .next (candid_call (.setTimeout _ _)) fun _ => candid_change _

theorem candid_setTimeout (millis : Int) : Op.Candid known (setTimeout millis) := by
  apply Candid.next candid_this
  intro c
  cases c.socket with
  | none => exact .untold rfl
  | some n => exact candid_applyTimeout n millis

theorem candid_localHost : Op.Candid known localHost := by
  apply Candid.next (candid_connectedSocket _)
  intro h
  exact .next (candid_call (.ownAddress h)) fun _ => .result _

theorem candid_remoteAddress : Op.Candid known remoteAddress :=
  .next (candid_connectedSocket _) fun h => candid_call (.peerAddress h)

theorem candid_remoteHostName : Op.Candid known remoteHostName := by
  apply Candid.next candid_remoteAddress
  intro peer
  apply Candid.rescue (candid_call (.lookUp _))
  intro e
  split
  · exact .result _
  · exact .told rfl

theorem candid_trace (lines : List Line) : Op.Candid known (trace lines) := by
  induction lines with
  | nil => exact .result _
  | cons line rest ih => exact .next (candid_log _ _ _) fun _ => ih

/-- What follows a reading from a line. -/
theorem candid_reading {n : Nat} {f : Source → Op Channel α}
    (hf : ∀ src, Op.Candid (known ++ (Reply.read .utf8 src).accounts) (f src)) :
    Op.Candid known (do
      let src ← call (Net.source n)
      call (Net.setSource n (Reply.read .utf8 src).rest)
      f src) := by
  intro s
  obtain ⟨whys, hsuffers, htold⟩ := suffered_read .utf8 n s.net
  obtain ⟨whys', hsuffers', htold'⟩ := hf (s.net.lines n).source
    ⟨s.self, s.net.feed n (Reply.read .utf8 (s.net.lines n).source).rest⟩
  refine ⟨whys ++ whys', hsuffers.trans hsuffers', fun why hwhy => ?_⟩
  have hlater := htold' why hwhy
  have hhere := htold why
  simp only [List.mem_append] at hlater ⊢
  tauto

theorem candid_outcome (reading : Reply.Reading Reply) : Op.Candid (known ++ reading.accounts)
    (match reading.outcome with
      | .ok reply => pure reply
      | .error f => fault f : Op Channel Reply) := by
  unfold Reply.Reading.accounts
  cases reading.outcome with
  | ok reply => exact .result reply
  | error f => exact .fail (by simp +contextual [Failure.accounts])

theorem candid_receive : Op.Candid known receive := by
  apply Candid.next candid_this
  intro c
  cases c.replies with
  | none => exact .untold rfl
  | some n =>
    refine candid_reading fun src => ?_
    exact .ite (.next (candid_trace _) fun _ => candid_outcome _) (candid_outcome _)

theorem candid_readReply : Op.Candid known readReply := by
  apply Candid.next (candid_requireConnected _)
  intro _
  apply Candid.rescue candid_receive
  intro e
  split
  · apply Candid.ite
    · exact .next (candid_log _ _ _) fun _ => .next candid_releaseQuietly fun _ => .told rfl
    · exact .told rfl
  · exact .told rfl

theorem candid_transmit (command : String) : Op.Candid known (transmit command) := by
  apply Candid.next candid_this
  intro c
  cases c.writer with
  | none => exact .untold rfl
  | some n =>
    apply Candid.rescue (candid_call (.transmit n _))
    intro e
    split
    · apply Candid.next candid_releaseQuietly
      exact fun _ => .told rfl
    · exact .told rfl

theorem accounts_of_masked {command : String} {e : Failure}
    (h : Command.masked command = .error e) : e.accounts = [] := by
  unfold Command.masked at h
  dsimp only at h
  split_ifs at h
  split at h <;> cases h
  rfl

theorem candid_send (command : String) : Op.Candid known (send command) := by
  apply Candid.next (candid_requireConnected _)
  intro _
  apply Candid.given fun e => accounts_of_masked
  intro shown
  apply Candid.next (candid_log _ _ _)
  intro _
  exact .next (candid_transmit command) fun _ => candid_readReply

theorem accounts_of_validate {expected : List String} {reply : Reply} {e : Failure}
    (h : validate expected reply = .error e) : e.accounts = [] := by
  rw [validate_error h]
  rfl

theorem candid_logout : Op.Candid known logout := by
  apply Candid.next (candid_requireConnected _)
  intro _
  apply Candid.ensure _ candid_close
  apply Candid.next (candid_send _)
  intro reply
  exact .given (fun e => accounts_of_validate) fun _ => .result _

theorem candid_greet (n : Nat) (millis : Int) : Op.Candid known (greet n millis) := by
  apply Candid.next (candid_applyTimeout n millis)
  intro _
  apply Candid.next (candid_call (.openReader n))
  intro _
  apply Candid.next (candid_change _)
  intro _
  apply Candid.next (candid_call (.openWriter n))
  intro _
  apply Candid.next (candid_change _)
  intro _
  apply Candid.next candid_receive
  intro reply
  cases hvalid : validate ["220"] reply with
  | ok reply => exact .result reply
  | error e => exact .untold (accounts_of_validate hvalid)

theorem candid_dial (peer : Target) (millis : Int) : Op.Candid known (dial peer millis) := by
  apply Candid.given fun e => accounts_of_ofMillis
  intro limit
  apply Candid.next
  · apply Candid.rescue (candid_call (.dialControl peer limit))
    intro e
    split
    · apply Candid.next (candid_change _)
      intro _
      apply Candid.next (candid_log _ _ _)
      exact fun _ => .told rfl
    · exact .told rfl
  intro n
  exact .next (candid_change _) fun _ => .result _

theorem candid_connect (peer : Target) (millis : Int) : Op.Candid known (connect peer millis) := by
  apply Candid.next candid_this
  intro c
  have connected : Op.Candid known (do
      change fun c => { c with tracing := true }
      log .info s!"Connecting to {peer.text} (timeout={millis}ms)"
      let n ← dial peer millis
      let reply ← (greet n millis).rescue fun e => do
        log .error s!"✗ Greeting from {peer.text} rejected, closing control socket"
        change fun c => { c with tracing := false }
        releaseQuietly
        fail e
      change fun c => { c with banner := some reply, state := .connected, tracing := false }
      log .info s!"✓ Connected to {peer.text}"
      return reply) := by
    apply Candid.next (candid_change _)
    intro _
    apply Candid.next (candid_log _ _ _)
    intro _
    apply Candid.next (candid_dial peer millis)
    intro n
    apply Candid.next
    · apply Candid.rescue (candid_greet n millis)
      intro e
      apply Candid.next (candid_log _ _ _)
      intro _
      apply Candid.next (candid_change _)
      intro _
      exact .next candid_releaseQuietly fun _ => .told rfl
    intro reply
    apply Candid.next (candid_change _)
    intro _
    exact .next (candid_log _ _ _) fun _ => .result _
  exact .ite (.failed rfl) connected

end Channel

/-! ## Negotiations -/

namespace Negotiation

variable {known : List String}

theorem candid_announce (n : Nat) (host : String) : Op.Candid known (announce n host) := by
  apply Candid.next (candid_call (.bind n host))
  intro _
  apply Candid.next (candid_call (.listen n 1))
  intro _
  apply Candid.next (candid_call (.ownAddress _))
  intro near
  apply Candid.next (candid_log _ _ _)
  intro _
  cases he : Endpoint.ofAddress host near.port with
  | error f => exact .failed (Failure.accounts_of_protocol (Endpoint.kind_of_ofAddress_error he))
  | ok e =>
    apply Candid.next (m := pure _) (.result _)
    intro command
    apply Candid.next (Channel.candid_send command)
    intro answer
    apply Candid.given fun e => Channel.accounts_of_validate
    intro reply
    exact .next candid_this fun _ => .result _

theorem candid_active : Op.Candid known active := by
  apply Candid.next Channel.candid_localHost
  intro host
  apply Candid.next (candid_call .openListener)
  intro n
  apply Candid.rescue (candid_announce n host)
  intro e
  apply Candid.next (candid_call (.close _))
  intro _
  split
  · exact .told rfl
  · exact .told rfl

theorem candid_passiveEndpoint (reply : Reply) : Op.Candid known (passiveEndpoint reply) := by
  unfold passiveEndpoint
  cases he : Endpoint.ofPassive reply.text with
  | ok e => exact .next (candid_log _ _ _) fun _ => .result _
  | error f => exact .untold (Failure.accounts_of_protocol (Endpoint.kind_of_ofPassive_error he))

theorem candid_passive : Op.Candid known passive := by
  apply Candid.next (Channel.candid_send _)
  intro answer
  apply Candid.given fun e => Channel.accounts_of_validate
  intro reply
  apply Candid.next (candid_passiveEndpoint reply)
  intro peer
  apply Candid.next candid_this
  intro c
  apply Candid.given fun e => Channel.accounts_of_ofMillis
  intro limit
  apply Candid.next
  · apply Candid.rescue (candid_call (.dialData _ limit))
    intro e
    split
    · exact .told rfl
    · exact .told rfl
  intro h
  exact .next (candid_log _ _ _) fun _ => .result _

end Negotiation

/-- Whatever an operation of a channel fails with. -/
theorem Channel.candid_perform {known : List String} (op : Channel.Operation) :
    Op.Candid known op.perform := by
  cases op with
  | connect peer millis => exact .map _ (candid_connect peer millis)
  | send command => exact .map _ (candid_send command)
  | read => exact .map _ candid_readReply
  | setTimeout millis => exact .next (candid_setTimeout millis) fun _ => .result _
  | setTracing on => exact .next (candid_change _) fun _ => .result _
  | localHost => exact .map _ candid_localHost
  | remoteAddress => exact .map _ candid_remoteAddress
  | remoteHostName => exact .map _ candid_remoteHostName
  | negotiate mode =>
    cases mode with
    | active => exact .map _ Negotiation.candid_active
    | passive => exact .map _ Negotiation.candid_passive
  | logout => exact .next candid_logout fun _ => .result _
  | close => exact .next candid_close fun _ => .result _
  | leave =>
    apply Candid.ensure (.result _)
    exact .next candid_this fun _ => .ite candid_close (.result _)

/-! ## Calls of a data connection -/

namespace DataConnection

variable {known : List String}

theorem candid_dataSocket : Op.Candid known dataSocket := by
  apply Candid.next candid_this
  intro d
  apply Candid.ite (.failed rfl)
  cases d.socket with
  | none => exact .untold rfl
  | some h => exact .result _

theorem candid_localAddress : Op.Candid known localAddress := by
  apply Candid.next candid_this
  intro d
  cases d.listener with
  | none => exact .next candid_dataSocket fun h => candid_call (.ownAddress h)
  | some n => exact candid_call (.ownAddress _)

theorem candid_await (n : Nat) (millis : Int) : Op.Candid known (await n millis) := by
  have arriving : Op.Candid known (do
      let limit ← ofExcept (Timeout.ofMillis millis)
      call (Net.setTimeout (.listener n) limit)
      call (Net.accept n) : Op DataConnection (Handle × Address)) := by
    apply Candid.given fun e => Channel.accounts_of_ofMillis
    intro limit
    exact .next (candid_call (.setTimeout _ _)) fun _ => candid_call (.accept n)
  refine Candid.ensure (arriving.rescue fun e => ?_) (candid_call (.close _))
  split
  · apply Candid.next (candid_change _)
    exact fun _ => .told rfl
  · exact .told rfl

theorem candid_accept (waitMillis : Option Int) : Op.Candid known (accept waitMillis) := by
  apply Candid.next candid_this
  intro d
  apply Candid.ite (.failed rfl)
  cases d.listener with
  | none => exact .untold rfl
  | some n =>
    apply Candid.next (candid_await n _)
    intro arrived
    apply Candid.next (candid_change _)
    intro _
    apply Candid.given fun e => Channel.accounts_of_ofMillis
    intro limit
    apply Candid.next (candid_call (.setTimeout _ _))
    intro _
    apply Candid.next (candid_change _)
    intro _
    exact .next (candid_log _ _ _) fun _ => .result _

theorem candid_shutdownListener (n : Nat) : Op.Candid known (shutdownListener n) := by
  apply Candid.rescue (candid_call (.shutdown _))
  intro e
  split
  · exact candid_log _ _ _
  · exact .told rfl

theorem candid_closeSocket (h : Handle) :
    Candid Live.net known Option.toList (closeSocket h) := by
  apply Candid.bind (.attempt (candid_call (.close h)))
  intro r
  split
  · exact .pure (by simp)
  · exact .next (candid_log _ _ _) fun _ => .pure (by simp [heard, Failure.accounts])
  · exact .fail fun why hwhy => List.mem_append_right _ hwhy

theorem candid_closeSockets (hs : List Handle) :
    Candid Live.net known Option.toList (closeSockets hs) := by
  induction hs generalizing known with
  | nil => exact .pure (by simp)
  | cons h hs ih =>
    apply Candid.bind (candid_closeSocket h)
    intro first
    apply Candid.bind ih
    intro later
    apply Candid.pure
    cases later <;> simp +contextual

theorem candid_close : Op.Candid known close := by
  apply Candid.next candid_this
  intro d
  apply Candid.ite (.result _)
  apply Candid.next (candid_change _)
  intro _
  split
  on_goal 1 => refine .next (candid_shutdownListener _) fun _ => ?_
  all_goals
    refine .bind (candid_closeSockets _) fun error => ?_
    refine .next (candid_change _) fun _ => .next (candid_log _ _ _) fun _ => ?_
    cases error with
    | none => exact .result _
    | some why => exact .fail (by simp [Failure.accounts, Fault.account?])

end DataConnection

end FtpControl
