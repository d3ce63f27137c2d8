import FtpControl.Proofs.Channel.Turns
import FtpControl.Proofs.Negotiation

/-!
# When a listener can be announced

Whether a negotiation in active mode succeeds is settled beforehand: by what the network has in
store for the next listener, and by the answer that the next command on the line draws.
-/

namespace FtpControl

open Effect Live

/-- The address that a listener has once it is tied to a host. -/
def ListenerPlan.address (plan : ListenerPlan) (n : Nat) (host : String) : Except String Address :=
  plan.socket.ownAddress.getD (.ok ⟨host, plan.port.getD (40000 + n)⟩)

/-- The next listener can be tied to the host, listens, and has an address that can be spelt. The
next command on the line goes out and is answered by a 200. -/
structure Network.Announceable (net : Network) (m : Nat) (host : String) : Prop where
  bound : net.script.nextListener.bindError = none
  listening : net.script.nextListener.listenError = none
  placed : ∃ near e, net.script.nextListener.address net.counts.listener host = .ok near ∧
    Endpoint.ofAddress host near.port = .ok e
  approved : ∃ line reply, (net.lines m).answered = .ok line ∧ line.outcome = .ok reply ∧
    reply.code.toString = "200"

namespace Negotiation

variable {s t : Live Channel} {m : Nat} {own : Address} {host : String}

/-- A listener has been opened for the channel, and nothing else has been done. -/
structure Opened (s t : Live Channel) : Prop where
  self : t.self = s.self
  lines : t.net.lines = s.net.lines
  plan : t.net.listeners s.net.counts.listener = s.net.script.nextListener
  isOpen : (t.net.sockets (.listener s.net.counts.listener)).isOpen = true

/-- The listener has been tied to a host. -/
structure Tied (s : Live Channel) (host : String) (t : Live Channel) : Prop extends Opened s t where
  address : (t.net.sockets (.listener s.net.counts.listener)).ownAddress =
    s.net.script.nextListener.address s.net.counts.listener host

theorem meets_openListener_opened :
    Meets (· = s) (call Net.openListener) (fun n t => n = s.net.counts.listener ∧ Opened s t)
      fun (_ : Failure) _ => False := by
  rintro _ rfl
  exact ⟨rfl, rfl, rfl, setAt_same _ _ _, congrArg Socket.isOpen (setAt_same _ _ _)⟩

theorem meets_bind_tied (host : String) :
    Meets (Opened s) (call (Net.bind s.net.counts.listener host))
      (fun _ t => s.net.script.nextListener.bindError = none ∧ Tied s host t)
      fun _ _ => s.net.script.nextListener.bindError ≠ none := by
  intro t ht
  have hplan := ht.plan
  simp only [call, run_zoom, Net.bind, Net.record, run_bind, run_update, run_state]
  rw [hplan]
  cases hbind : s.net.script.nextListener.bindError with
  | some why => simp [Net.refuse]
  | none =>
    refine ⟨rfl, ⟨ht.self, ht.lines, hplan, ?_⟩, ?_⟩
    · exact (congrArg Socket.isOpen (setAt_same _ _ _)).trans ht.isOpen
    · exact congrArg Socket.ownAddress (setAt_same _ _ _)

theorem meets_listen_tied (host : String) :
    Meets (Tied s host) (call (Net.listen s.net.counts.listener 1))
      (fun _ t => s.net.script.nextListener.listenError = none ∧ Tied s host t)
      fun _ _ => s.net.script.nextListener.listenError ≠ none := by
  intro t ht
  have hplan := ht.plan
  simp only [call, run_zoom, Net.listen, Net.record, run_bind, run_update, run_state]
  rw [hplan]
  cases hlisten : s.net.script.nextListener.listenError with
  | some why => simp [Net.refuse]
  | none => exact ⟨rfl, ⟨ht.self, ht.lines, hplan, ht.isOpen⟩, ht.address⟩

theorem meets_ownAddress_tied (host : String) :
    Meets (Tied s host) (call (Net.ownAddress (.listener s.net.counts.listener)))
      (fun near t =>
        s.net.script.nextListener.address s.net.counts.listener host = .ok near ∧ Tied s host t)
      fun _ _ => ∀ near,
        s.net.script.nextListener.address s.net.counts.listener host ≠ .ok near := by
  intro t ht
  rw [call, run_zoom, Net.run_ownAddress ht.isOpen, ht.address]
  cases s.net.script.nextListener.address s.net.counts.listener host with
  | ok near => exact ⟨rfl, ht⟩
  | error why => simp

theorem meets_log_tied (source : LogSource) (level : LogLevel) (message : String)
    {E : Failure → Live Channel → Prop} :
    Meets (Tied s host) (call (Net.log source level message)) (fun _ => Tied s host) E := by
  intro t ht
  obtain ⟨logs, hlog⟩ := Net.run_log source level message t.net
  rw [Channel.run_call hlog]
  exact ⟨⟨ht.self, ht.lines, ht.plan, ht.isOpen⟩, ht.address⟩

section Announcing

variable (hstate : s.self.state = .connected) (hwriter : s.self.writer = some m)
  (hreplies : s.self.replies = some m)
include hstate hwriter hreplies

theorem meets_send_tied (e : Endpoint) :
    Meets (Tied s host) (Channel.send e.portCommand)
      (fun reply _ => ∃ line, (s.net.lines m).answered = .ok line ∧ line.outcome = .ok reply)
      fun _ _ => ∀ line reply, (s.net.lines m).answered = .ok line → line.outcome ≠ .ok reply := by
  intro t ht
  rw [← ht.self] at hstate hwriter hreplies
  rw [← ht.lines]
  have hshown := Endpoint.masked_portCommand e
  obtain ⟨u, hrun, -⟩ := Channel.run_turn (.send _ _ hshown) hstate hwriter hreplies
  rw [show (Channel.send e.portCommand).run t = _ from hrun]
  cases hanswered : (t.net.lines m).answered with
  | error why =>
    rw [Channel.Turn.outcome_of_failure (.send _ _ hshown) hanswered]
    simp [Except.mapError]
  | ok line =>
    rw [Channel.Turn.outcome_of_draws (.send _ _ hshown) hanswered]
    cases houtcome : line.outcome with
    | ok reply => exact ⟨line, rfl, houtcome⟩
    | error f =>
      rintro _ reply ⟨⟩ hreply
      cases houtcome.symm.trans hreply

theorem meets_announce_iff (host : String) :
    Meets (Opened s) (announce s.net.counts.listener host)
      (fun _ _ => s.net.Announceable m host) fun _ _ => ¬ s.net.Announceable m host := by
  apply Meets.bind ((meets_bind_tied host).failing fun _ _ hnot h => hnot h.bound)
  intro _
  apply Meets.assuming
  intro hbind
  apply Meets.bind ((meets_listen_tied host).failing fun _ _ hnot h => hnot h.listening)
  intro _
  apply Meets.assuming
  intro hlisten
  apply Meets.bind ((meets_ownAddress_tied host).failing _)
  swap
  · rintro _ _ hnot ⟨-, -, ⟨near, e, hnear, -⟩, -⟩
    exact hnot near hnear
  intro near
  apply Meets.assuming
  intro hnear
  apply Meets.bind (meets_log_tied _ _ _)
  intro _
  cases haddress : Endpoint.ofAddress host near.port with
  | error f =>
    apply Meets.failed
    rintro _ _ ⟨-, -, ⟨near', e, hnear', he⟩, -⟩
    cases hnear.symm.trans hnear'
    cases haddress.symm.trans he
  | ok e =>
    apply Meets.value
    apply Meets.bind ((meets_send_tied hstate hwriter hreplies e).failing _)
    swap
    · rintro _ _ hnot ⟨-, -, -, line, reply, hline, hreply, -⟩
      exact hnot line reply hline hreply
    intro answer
    cases hvalid : Channel.validate ["200"] answer with
    | error f =>
      apply Meets.failed
      rintro _ ⟨line, hline, hanswer⟩ ⟨-, -, -, line', reply, hline', hreply, hcode⟩
      cases hline.symm.trans hline'
      cases hanswer.symm.trans hreply
      simp [Channel.validate, hcode] at hvalid
    | ok reply =>
      obtain ⟨rfl, -⟩ := Channel.validate_ok hvalid
      apply Meets.value
      apply Meets.look
      intro c
      apply Meets.pure
      rintro _ ⟨⟨line, hline, hanswer⟩, -⟩
      exact ⟨hbind, hlisten, ⟨near, e, hnear, haddress⟩, line, answer, hline, hanswer,
        Channel.code_of_validate hvalid⟩

/-- A negotiation in active mode fails exactly if the listener cannot be announced. -/
theorem active_error_iff (hhost : Channel.localHost.run s = (.ok host, s)) :
    (∃ e, (active.run s).1 = .error e) ↔ ¬ s.net.Announceable m host := by
  have settled : Meets (· = s) active (fun _ _ => s.net.Announceable m host)
      fun _ _ => ¬ s.net.Announceable m host := by
    apply Meets.bind (Q := fun host' t => host' = host ∧ t = s)
    · rintro _ rfl
      rw [hhost]
      exact ⟨rfl, rfl⟩
    intro host'
    apply Meets.assuming
    rintro rfl
    apply Meets.bind (.sure meets_openListener_opened)
    intro n
    apply Meets.assuming
    rintro rfl
    apply Meets.rescue (meets_announce_iff hstate hwriter hreplies host')
    intro e
    apply Meets.bind (Q := fun _ _ => ¬ s.net.Announceable m host')
    · exact .ofLeaves fun _ hnot => hnot
    intro _
    split
    · exact .fail fun _ hnot => hnot
    · exact .fail fun _ hnot => hnot
  have ht := settled s rfl
  rcases hr : active.run s with ⟨e | d, t⟩ <;> rw [hr] at ht
  · exact iff_of_true ⟨e, rfl⟩ ht
  · exact iff_of_false (by simp) (not_not.2 ht)

end Announcing

end Negotiation

end FtpControl
