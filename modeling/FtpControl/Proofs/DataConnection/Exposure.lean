import FtpControl.Proofs.Channel.Exposure
import FtpControl.Proofs.DataConnection.Ownership

/-!
# Calls that expose errors of the system

A data connection expects errors of the system while it waits and while it closes. It does not
expect them from closing the listener behind a wait, from limiting the socket that has arrived, and
from the question for its own address.
-/

namespace FtpControl

open Effect Live

variable {σ : Type} {n : Nat} {millis : Int} {plan : IncomingPlan}

/-- What a wait comes to, if it comes to a connection. -/
structure Network.Admits (net : Network) (n : Nat) (millis : Int) (plan : IncomingPlan) :
    Prop where
  usable : Timeout.Usable millis
  isOpen : (net.sockets (.listener n)).isOpen = true
  limited : (net.sockets (.listener n)).timeoutErrors.headD none = none
  incoming : (net.listeners n).incoming = some (.ok plan)

/-- A socket that cannot tell its own address. -/
def Network.Untold (net : Network) (h : Handle) : Prop :=
  (net.sockets h).isOpen = false ∨ ∃ why, (net.sockets h).ownAddress = .error why

theorem tags_ownAddress (sensible : Prop) (h : Handle) (s : Live σ) :
    Tags sensible (s.net.Untold h) (call (Net.ownAddress h)) s := by
  cases hopen : (s.net.sockets h).isOpen with
  | false =>
    have hsocket : (Net.openSocket h).run s.net = (.error (.system badDescriptor), s.net) := by
      rw [Net.run_openSocket, if_neg (by simp [hopen])]
    have hrun : ((call (Net.ownAddress h) : Op σ Address).run s).1 =
        .error (.system badDescriptor) := by
      rw [Live.call, run_zoom, Net.ownAddress, run_bind_error hsocket]
    exact tags_of_bare hrun (.inl hopen)
  | true =>
    have hrun := congrArg Prod.fst (Net.run_ownAddress hopen)
    cases hown : (s.net.sockets h).ownAddress with
    | ok own =>
      rw [hown] at hrun
      exact tags_of_ok hrun (by simp [Network.Untold, hopen, hown])
    | error why =>
      rw [hown] at hrun
      exact tags_of_bare hrun (.inr ⟨why, hown⟩)

namespace Net

/-- An open listener at which a connection arrives. -/
def Awaited (n : Nat) (plan : IncomingPlan) (net : Network) : Prop :=
  (net.sockets (.listener n)).isOpen = true ∧ (net.listeners n).incoming = some (.ok plan)

theorem meets_setTimeout_admitted {limit : Timeout} (hlimit : limit.isNegative = false) :
    Meets (fun net => net.Admits n millis plan) (setTimeout (.listener n) limit)
      (fun _ => Awaited n plan) fun _ _ => False := by
  intro net h
  rw [run_setTimeout hlimit h.isOpen, h.limited]
  exact ⟨by simp [h.isOpen], h.incoming⟩

theorem meets_accept_awaited :
    Meets (Awaited n plan) (accept n) (fun _ _ => True) fun _ _ => False := by
  rintro net ⟨hopen, hincoming⟩
  have hsocket : (openSocket (.listener n)).run net = (.ok (net.sockets (.listener n)), net) := by
    rw [run_openSocket, if_pos hopen]
  rw [accept, run_bind_ok hsocket]
  simp only [record, run_bind, run_update, run_state, hincoming]
  trivial

/-- A limit that the socket takes is one that is set for it. -/
theorem meets_setTimeout_taken (k : Handle) (limit : Timeout) (net : Network) :
    Meets (· = net) (setTimeout k limit)
      (fun _ _ => limit.isNegative = false ∧ (net.sockets k).timeoutErrors.headD none = none)
      fun _ _ => True := by
  rintro net rfl
  cases hlimit : limit.isNegative with
  | true => simp [run_setTimeout_of_negative hlimit]
  | false =>
    cases hopen : (net.sockets k).isOpen with
    | false => simp [run_setTimeout_of_closed hlimit hopen]
    | true =>
      rw [run_setTimeout hlimit hopen]
      cases (net.sockets k).timeoutErrors.headD none with
      | none => exact ⟨rfl, rfl⟩
      | some why => trivial

end Net

namespace DataConnection

variable {s t : Live DataConnection}

/-! ## Waiting -/

theorem meets_wait_admitted :
    Meets (fun s => s.net.Admits n millis plan) (wait n millis) (fun _ _ => True)
      fun _ _ => False := by
  apply Meets.given
  · intro e he s h
    obtain ⟨-, limit, hlimit⟩ := h.usable
    rw [he] at hlimit
    cases hlimit
  intro limit hlimit
  by_cases hmillis : 0 ≤ millis
  swap
  · exact fun s h => absurd h.usable.1 hmillis
  have hnonneg := Timeout.isNegative_of_ofMillis hmillis hlimit
  apply Meets.bind (.net (Net.meets_setTimeout_admitted hnonneg))
  intro _
  exact .net Net.meets_accept_awaited

theorem meets_wait_limited (n : Nat) (millis : Int) (s : Live DataConnection) :
    Meets (· = s) (wait n millis)
      (fun _ _ => Timeout.Usable millis ∧
        (s.net.sockets (.listener n)).timeoutErrors.headD none = none) fun _ _ => True := by
  apply Meets.given
  · exact fun _ _ _ _ => trivial
  intro limit hlimit
  apply Meets.bind (Q := fun _ _ => limit.isNegative = false ∧
    (s.net.sockets (.listener n)).timeoutErrors.headD none = none)
  · apply (Meets.net (Net.meets_setTimeout_taken (.listener n) limit s.net)).start
    rintro _ rfl
    rfl
  rintro - t ⟨hnonneg, hlimited⟩
  rw [Timeout.isNegative_eq_of_ofMillis hlimit] at hnonneg
  have husable : Timeout.Usable millis := ⟨by simpa using hnonneg, limit, hlimit⟩
  split
  · exact ⟨husable, hlimited⟩
  · trivial

/-- A wait succeeds exactly if a connection is admitted. -/
theorem wait_iff_admits (s : Live DataConnection) :
    (∃ r t, (wait n millis).run s = (.ok r, t)) ↔ ∃ plan, s.net.Admits n millis plan := by
  constructor
  · rintro ⟨r, t, hrun⟩
    have harrival := (meets_wait_arrival n millis s).of_ok rfl hrun
    obtain ⟨husable, hlimited⟩ := (meets_wait_limited n millis s).of_ok rfl hrun
    obtain ⟨plan, hincoming, -⟩ := harrival.2.plan
    exact ⟨plan, husable, harrival.2.isOpen, hlimited, hincoming⟩
  · rintro ⟨plan, h⟩
    obtain ⟨r, t, hrun, -⟩ := meets_wait_admitted.result h
    exact ⟨r, t, hrun⟩

/-! ## Accepting -/

/-- What the system has to say on closing the listener does not change while it is waited on. -/
theorem keeps_attend (n : Nat) (millis : Int) :
    Keeps (fun s t => (t.net.sockets (.listener n)).closeError =
      (s.net.sockets (.listener n)).closeError) (attend n millis) := by
  have waited : Keeps (fun s t : Live DataConnection =>
      (t.net.sockets (.listener n)).closeError = (s.net.sockets (.listener n)).closeError)
      (wait n millis) := by
    apply Keeps.given
    intro limit _
    apply Keeps.bind
    · exact .call (Net.poised_setTimeout _ _) fun _ _ h => h.closeError _
    · intro _
      exact .call (Net.aloof_accept n) fun _ _ h => congrArg Socket.closeError (congrFun h n)
  apply Keeps.rescue waited
  intro e
  split
  · exact .bind (.change fun _ => rfl) fun _ => .fail _
  · exact .fail _

/-- An error met on closing the listener takes the place of what came of the wait. -/
theorem run_await {r : Except Failure (Handle × Address)}
    (h : (attend n millis).run s = (r, t)) :
    ∃ u, (await n millis).run s =
      (match (s.net.sockets (.listener n)).closeError with
        | none => r
        | some why => .error (.system why), u) := by
  have hkept := keeps_attend n millis s
  rw [h] at hkept
  rw [await_eq, run_ensure_close h, hkept]
  exact ⟨_, rfl⟩

theorem fails_wait (n : Nat) (millis : Int) :
    Fails (fun e => Timeout.Usable millis → e.IsSystem) (wait n millis) := by
  apply Fails.given
  · rintro e he ⟨-, limit, hlimit⟩
    rw [he] at hlimit
    cases hlimit
  intro limit hlimit
  have limited : Fails (fun e => Timeout.Usable millis → e.IsSystem)
      (Net.setTimeout (.listener n) limit) :=
    (Net.fails_setTimeout _ _).imp fun e he h =>
      he.2.2 (Timeout.isNegative_of_ofMillis h.1 hlimit)
  exact .bind (.call limited) fun _ => .call ((Net.fails_accept n).imp fun _ he _ => he)

/-- What goes wrong with a wait is a fault, unless the limit makes no sense. -/
theorem fails_attend (n : Nat) (millis : Int) :
    Fails (fun e => ¬ e.IsSystem ∧ (Timeout.Usable millis → e.IsFault)) (attend n millis) := by
  refine .rescue (fails_wait n millis) fun e he => ?_
  split
  · refine .bind (.change _) fun _ => .fail ⟨?_, fun _ => ⟨_, rfl⟩⟩
    rintro ⟨why, ⟨⟩⟩
  · next hother =>
    have hnot : ¬ e.IsSystem := by
      rintro ⟨why, rfl⟩
      exact hother why rfl
    exact .fail ⟨hnot, fun h => absurd (he h) hnot⟩

/-- Behind a wait, with the listener closed, the socket that has arrived is limited. -/
theorem run_accept_of_landed {h : Handle} {peer : Address} {waitMillis : Option Int}
    (hclosed : s.self.closed = false) (hlistener : s.self.listener = some n)
    (husable : Timeout.Usable s.self.timeoutMillis)
    (hrun : (await n (waitMillis.getD s.self.timeoutMillis)).run s = (.ok (h, peer), t))
    (ht : Landed n s h plan t) :
    ((accept waitMillis).run s).1 =
      match plan.socket.timeoutErrors.headD none with
      | none => .ok h
      | some why => .error (.system why) := by
  obtain ⟨hmillis, limit, hlimit⟩ := husable
  have hnonneg := Timeout.isNegative_of_ofMillis hmillis hlimit
  obtain ⟨net, -, hset⟩ := Net.exists_run_setTimeout hnonneg ht.hand_isOpen
  rw [ht.limits] at hset
  rw [accept, run_look, hclosed, hlistener]
  dsimp only
  rw [if_neg (by simp), run_bind_ok hrun, run_bind, run_change]
  dsimp only
  rw [hlimit, Effect.ofExcept, pure_bind, run_bind, Live.call, run_zoom, hset]
  cases plan.socket.timeoutErrors.headD none with
  | none => rfl
  | some why => rfl

theorem run_accept_of_error {e : Failure} {waitMillis : Option Int}
    (hclosed : s.self.closed = false) (hlistener : s.self.listener = some n)
    (hrun : (await n (waitMillis.getD s.self.timeoutMillis)).run s = (.error e, t)) :
    ((accept waitMillis).run s).1 = .error e := by
  rw [accept, run_look, hclosed, hlistener]
  dsimp only
  rw [if_neg (by simp), run_bind_error hrun]

/-- The errors that accepting does not expect. -/
def Unexpected (s : Live DataConnection) (n : Nat) (millis : Int) : Prop :=
  (s.net.sockets (.listener n)).closeError ≠ none ∨
    ∃ plan, s.net.Admits n millis plan ∧ plan.socket.timeoutErrors.headD none ≠ none

section Pending

variable {waitMillis : Option Int} (hclosed : s.self.closed = false)
  (hlistener : s.self.listener = some n)
  (hmillis : waitMillis.getD s.self.timeoutMillis = millis)

include hclosed hlistener hmillis

/-- The listener cannot be closed without an error, which takes the place of all else. -/
theorem tags_accept_jammed {why : String} (sensible : Prop)
    (hclose : (s.net.sockets (.listener n)).closeError = some why) :
    Tags sensible (Unexpected s n millis) (accept waitMillis) s := by
  rcases hattend : (attend n millis).run s with ⟨r, t⟩
  obtain ⟨u, hawait⟩ := run_await hattend
  rw [hclose, ← hmillis] at hawait
  apply tags_of_bare (run_accept_of_error hclosed hlistener hawait)
  left
  rw [hclose]
  exact Option.some_ne_none why

/-- The listener is closed behind a wait that has failed. -/
theorem tags_accept_vain (hclose : (s.net.sockets (.listener n)).closeError = none)
    (hnot : ¬ ∃ plan, s.net.Admits n millis plan) :
    Tags (Timeout.Usable millis) (Unexpected s n millis) (accept waitMillis) s := by
  have hexpected : ¬ Unexpected s n millis := by
    rintro (h | ⟨plan, h, -⟩)
    · exact h hclose
    · exact hnot ⟨plan, h⟩
  have hfails := fails_attend n millis s
  rw [← wait_iff_admits] at hnot
  rcases hwait : (wait n millis).run s with ⟨e | r, t⟩
  swap
  · exact absurd ⟨r, t, hwait⟩ hnot
  obtain ⟨e', u, hattend, -⟩ := run_attend_of_error hwait
  rw [hattend] at hfails
  obtain ⟨v, hawait⟩ := run_await hattend
  rw [hclose, ← hmillis] at hawait
  have hrun := run_accept_of_error hclosed hlistener hawait
  obtain ⟨hsystem, hfault⟩ := hfails e' rfl
  by_cases husable : Timeout.Usable millis
  · apply tags_of_faults _ hexpected
    rw [hrun]
    rintro _ ⟨⟩
    exact hfault husable
  · apply tags_of_refusal husable _ hexpected
    rw [hrun]
    rintro _ ⟨⟩
    exact hsystem

/-- The listener is closed, and the socket that has arrived is limited. -/
theorem tags_accept_admitted (hclose : (s.net.sockets (.listener n)).closeError = none)
    (husable : Timeout.Usable s.self.timeoutMillis) (sensible : Prop)
    (hadmits : ∃ plan, s.net.Admits n millis plan) :
    Tags sensible (Unexpected s n millis) (accept waitMillis) s := by
  obtain ⟨plan, hplan⟩ := hadmits
  obtain ⟨⟨h, peer⟩, t, hwait⟩ := (wait_iff_admits s).2 ⟨plan, hplan⟩
  have hattend : (attend n millis).run s = (.ok (h, peer), t) := run_rescue_ok hwait
  obtain ⟨u, hawait⟩ := run_await hattend
  rw [hclose] at hawait
  obtain ⟨plan', hlanded, -⟩ := (meets_await_landed n _ s).of_ok rfl hawait
  rw [← hmillis] at hawait
  have hrun := run_accept_of_landed hclosed hlistener husable hawait hlanded
  have hsame := hlanded.incoming.symm.trans hplan.incoming
  cases hsame
  cases hrefused : plan.socket.timeoutErrors.headD none with
  | none =>
    rw [hrefused] at hrun
    apply tags_of_ok hrun
    rintro (h | ⟨plan', hplan', h⟩)
    · exact h hclose
    · cases hplan.incoming.symm.trans hplan'.incoming
      exact h hrefused
  | some why =>
    rw [hrefused] at hrun
    apply tags_of_bare hrun
    right
    exact ⟨plan, hplan, by rw [hrefused]; exact Option.some_ne_none why⟩

theorem tags_accept_pending (husable : Timeout.Usable s.self.timeoutMillis) :
    Tags (Timeout.Usable millis) (Unexpected s n millis) (accept waitMillis) s := by
  cases hclose : (s.net.sockets (.listener n)).closeError with
  | some why => exact tags_accept_jammed hclosed hlistener hmillis _ hclose
  | none =>
    by_cases hadmits : ∃ plan, s.net.Admits n millis plan
    · exact tags_accept_admitted hclosed hlistener hmillis hclose husable _ hadmits
    · exact tags_accept_vain hclosed hlistener hmillis hclose hadmits

end Pending

/-! ## All calls -/

def Call.perform : Call → Op DataConnection Unit
  | accept waitMillis => (fun _ => ()) <$> DataConnection.accept waitMillis
  | close => DataConnection.close
  | dataSocket => (fun _ => ()) <$> DataConnection.dataSocket
  | localAddress => (fun _ => ()) <$> DataConnection.localAddress

/-- Arguments that a call can do something with. -/
def Call.Sensible : Call → Prop
  | accept waitMillis => Fit waitMillis
  | _ => True

/-- Where an error of the system reaches the caller bare: the listener cannot be closed, the socket
that has arrived does not take its limit, or an address cannot be told. -/
def Call.Exposed (s : Live DataConnection) : Call → Prop
  | accept waitMillis =>
    ∃ n, s.self.listener = some n ∧ Unexpected s n (waitMillis.getD s.self.timeoutMillis)
  | localAddress =>
    (∃ n, s.self.listener = some n ∧ s.net.Untold (.listener n)) ∨
      s.self.listener = none ∧ ∃ h, s.self.socket = some h ∧ s.net.Untold h
  | _ => False

variable {past lost : List Handle}

theorem tags_accept (h : Owned past lost s) (waitMillis : Option Int) :
    Tags (Fit waitMillis)
      (∃ n, s.self.listener = some n ∧ Unexpected s n (waitMillis.getD s.self.timeoutMillis))
      (accept waitMillis) s := by
  cases hlistener : s.self.listener with
  | none =>
    apply tags_of_faults _ (by simp)
    intro e he
    rw [accept, run_look, hlistener] at he
    cases hclosed : s.self.closed <;> rw [hclosed] at he <;> cases he <;> exact ⟨_, rfl⟩
  | some n =>
    obtain ⟨-, hclosed, -⟩ := h.awaiting n hlistener
    have ht := tags_accept_pending hclosed hlistener
      (rfl : waitMillis.getD s.self.timeoutMillis = _) h.usable
    rw [fit_iff h.usable]
    simpa using ht

theorem tags_localAddress (h : Owned past lost s) (sensible : Prop) :
    Tags sensible
      ((∃ n, s.self.listener = some n ∧ s.net.Untold (.listener n)) ∨
        s.self.listener = none ∧ ∃ h, s.self.socket = some h ∧ s.net.Untold h)
      localAddress s := by
  cases hlistener : s.self.listener with
  | some n =>
    have hrun : localAddress.run s = (call (Net.ownAddress (.listener n))).run s := by
      rw [localAddress, run_look, hlistener]
    have ht := (tags_ownAddress sensible (.listener n) s).of_run (congrArg Prod.fst hrun)
    simpa using ht
  | none =>
    cases hsocket : s.self.socket with
    | none =>
      obtain ⟨f, hdata⟩ : ∃ f, dataSocket.run s = (.error (.fault f), s) := by
        rw [dataSocket, run_look, hsocket]
        cases s.self.closed <;> exact ⟨_, rfl⟩
      have hrun : (localAddress.run s).1 = .error (.fault f) := by
        rw [localAddress, run_look, hlistener]
        exact congrArg Prod.fst (run_bind_error hdata)
      exact tags_of_fault hrun (by simp)
    | some k =>
      have hdata : dataSocket.run s = (.ok k, s) := by
        rw [dataSocket, run_look, hsocket, h.connected k hsocket]
        rfl
      have hrun : localAddress.run s = (call (Net.ownAddress k)).run s := by
        rw [localAddress, run_look, hlistener]
        exact run_bind_ok hdata
      have ht := (tags_ownAddress sensible k s).of_run (congrArg Prod.fst hrun)
      simpa using ht

theorem fails_dataSocket : Fails Failure.IsFault dataSocket := by
  refine .bind .this fun d => .ite (.failed ⟨_, rfl⟩) ?_
  cases d.socket with
  | none => exact .fail ⟨_, rfl⟩
  | some h => exact .pure _

theorem tags_call (h : Owned past lost s) (call : Call) :
    Tags call.Sensible (call.Exposed s) call.perform s := by
  cases call with
  | accept waitMillis => exact (tags_accept h waitMillis).map _
  | close => exact tags_of_faults (fails_close s) id
  | dataSocket => exact .map _ (tags_of_faults (fails_dataSocket s) id)
  | localAddress => exact (tags_localAddress h _).map _

theorem candid_perform {known : List String} (call : Call) : Op.Candid known call.perform := by
  cases call with
  | accept waitMillis => exact .map _ (candid_accept waitMillis)
  | close => exact candid_close
  | dataSocket => exact .map _ candid_dataSocket
  | localAddress => exact .map _ candid_localAddress

end DataConnection

/-- How the operations of a channel fail, and the calls of a data connection that was negotiated
over one, whatever came before and whatever the system does. The errors of the system that come out
are those of calls that failed. -/
theorem tags_of_reachable {s : Live Channel} {past lost : List Handle} {t : Live DataConnection}
    (hs : Channel.Reachable s) (ht : DataConnection.Obtained past lost t) :
    (∀ op : Channel.Operation,
      Tags op.Sensible (op.Exposed s) op.perform s ∧ op.perform.Traced s) ∧
      ∀ call : DataConnection.Call,
        Tags call.Sensible (call.Exposed t) call.perform t ∧ call.perform.Traced t := by
  constructor
  · exact fun op => ⟨Channel.tags_perform hs op, (Channel.candid_perform op).traced s⟩
  · intro call
    have htags := DataConnection.tags_call (DataConnection.owned_of_obtained ht) call
    exact ⟨htags, (DataConnection.candid_perform call).traced t⟩

/-- A server that greets, to a client that has no stream left to read the greeting from. -/
def crampedServer : Network where
  script :=
    { controls := [{
        banner := Text.encodeUtf8 "220 ready\r\n".toList
        readerError := some "[Errno 24] Too many open files" }] }

/-- The channel is not set up, and the listener not closed, without an error of the system, and the
caller is told of no fault. -/
theorem tags_of_mishaps :
    ∃ s past lost t, Channel.Reachable s ∧ DataConnection.Obtained past lost t ∧
      (∃ why, ((Channel.Operation.connect ⟨some "ftp.test", 21⟩ 10000).perform.run s).1 =
        .error (.system why)) ∧
      ∃ why, ((DataConnection.Call.accept none).perform.run t).1 = .error (.system why) := by
  have hreachable : Channel.Reachable ⟨{}, crampedServer⟩ := .start (Ledger.restrict_held _ _)
  have hconnect : (Channel.Operation.connect ⟨some "ftp.test", 21⟩ 10000).Exposed
      ⟨{}, crampedServer⟩ := by
    refine ⟨rfl, ⟨by decide, _, rfl⟩, rfl, .inr (.inl ?_)⟩
    exact Option.some_ne_none _
  have hcheck : (match (Negotiation.run .active).run DataConnection.jammedVisit with
      | (.ok d, e) =>
        d.listener = some 0 && (e.net.sockets (.listener 0)).closeError.isSome
      | (.error _, _) => false) = true := by decide +kernel
  rcases hrun : (Negotiation.run .active).run DataConnection.jammedVisit with ⟨f | d, e⟩ <;>
    rw [hrun] at hcheck
  · contradiction
  simp only [Bool.and_eq_true, decide_eq_true_eq] at hcheck
  obtain ⟨hlistener, hclose⟩ := hcheck
  have hobtained := DataConnection.Obtained.negotiated DataConnection.reachable_jammedVisit hrun
  have haccept : (DataConnection.Call.accept none).Exposed ⟨d, e.net⟩ :=
    ⟨0, hlistener, .inl (Option.isSome_iff_ne_none.1 hclose)⟩
  obtain ⟨hop, hcall⟩ := tags_of_reachable hreachable hobtained
  exact ⟨_, _, _, _, hreachable, hobtained, (hop _).1.bare_iff.2 hconnect,
    (hcall _).1.bare_iff.2 haccept⟩

end FtpControl
