import FtpControl.Proofs.DataConnection.Standing

/-!
# Sockets that a data connection owns

A data connection closes in the end all that it ever obtained, whatever the network does, but for
one case: a socket that has arrived is only stored once the listener has been closed and the
socket has taken its time limit. If either fails, accepting fails, and the socket is lost.
-/

namespace FtpControl

open Effect Live

namespace Net

variable {n : Nat} {net net' : Network} {k : Handle}

/-- A connection that has arrived at a listener. -/
structure Arrival (n : Nat) (net : Network) (h : Handle) (net' : Network) : Prop where
  isOpen : (net.sockets (.listener n)).isOpen = true
  accepted : ∃ k, h = .accepted k
  ledger : net'.ledger = net.ledger.hand h
  closeError : (net'.sockets (.listener n)).closeError = (net.sockets (.listener n)).closeError
  plan : ∃ plan, (net.listeners n).incoming = some (.ok plan) ∧
    (net'.sockets h).timeoutErrors = plan.socket.timeoutErrors

/-- What a new time limit leaves as it is. -/
structure Poised (net net' : Network) : Prop where
  ledger : net'.ledger = net.ledger
  closeError : ∀ h, (net'.sockets h).closeError = (net.sockets h).closeError
  listeners : net'.listeners = net.listeners

theorem Arrival.after {before : Network} (hbefore : Poised before net)
    (h : Arrival n net k net') : Arrival n before k net' where
  isOpen := (isOpen_of_ledger hbefore.ledger _).symm.trans h.isOpen
  accepted := h.accepted
  ledger := by rw [h.ledger, hbefore.ledger]
  closeError := h.closeError.trans (hbefore.closeError _)
  plan := by
    rw [← hbefore.listeners]
    exact h.plan

theorem poised_setTimeout (k : Handle) (limit : Timeout) :
    Keeps Poised (setTimeout k limit) := by
  intro net
  have hquiet := quiet_setTimeout k limit net
  have same : ∀ (s : Socket) (h : Handle), s.closeError = (net.sockets k).closeError →
      (setAt net.sockets k s h).closeError = (net.sockets h).closeError := by
    intro s h hs
    by_cases hk : h = k
    · rw [hk, setAt_same, hs]
    · rw [setAt_of_ne hk]
  cases hlimit : limit.isNegative with
  | true =>
    rw [run_setTimeout_of_negative hlimit]
    exact ⟨rfl, fun _ => rfl, rfl⟩
  | false =>
    cases hopen : (net.sockets k).isOpen with
    | false =>
      rw [run_setTimeout_of_closed hlimit hopen] at hquiet ⊢
      exact ⟨hquiet, fun h => same _ h rfl, rfl⟩
    | true =>
      rw [run_setTimeout hlimit hopen] at hquiet ⊢
      cases herror : (net.sockets k).timeoutErrors.headD none with
      | none =>
        rw [herror] at hquiet
        exact ⟨hquiet, fun h => same _ h rfl, rfl⟩
      | some why =>
        rw [herror] at hquiet
        exact ⟨hquiet, fun h => same _ h rfl, rfl⟩

/-- Whether an open socket takes a new limit is settled by what the script has for it. -/
theorem exists_run_setTimeout {limit : Timeout} (hlimit : limit.isNegative = false)
    (hopen : (net.sockets k).isOpen = true) :
    ∃ net', net'.ledger = net.ledger ∧ (setTimeout k limit).run net =
      (match (net.sockets k).timeoutErrors.headD none with
        | none => .ok ()
        | some why => .error (.system why), net') := by
  refine ⟨((setTimeout k limit).run net).2, quiet_setTimeout k limit net, ?_⟩
  rw [run_setTimeout hlimit hopen]
  cases (net.sockets k).timeoutErrors.headD none <;> rfl

/-- What the script has for the socket that arrives. -/
theorem planned_of_accept {r : Handle × Address} (hrun : (accept n).run net = (.ok r, net')) :
    (net.sockets (.listener n)).isOpen = true ∧
      ∃ plan, (net.listeners n).incoming = some (.ok plan) ∧
        (net'.sockets r.1).timeoutErrors = plan.socket.timeoutErrors := by
  by_cases hopen : (net.sockets (.listener n)).isOpen = true
  swap
  · have hsocket : (openSocket (.listener n)).run net = (.error (.system badDescriptor), net) := by
      rw [run_openSocket, if_neg hopen]
    rw [accept, run_bind_error hsocket] at hrun
    cases hrun
  refine ⟨hopen, ?_⟩
  have hsocket : (openSocket (.listener n)).run net = (.ok (net.sockets (.listener n)), net) := by
    rw [run_openSocket, if_pos hopen]
  rw [accept, run_bind_ok hsocket] at hrun
  simp only [record, run_bind, run_update, run_state] at hrun
  cases hincoming : (net.listeners n).incoming with
  | none =>
    rw [hincoming] at hrun
    cases hrun
  | some arriving =>
    rw [hincoming] at hrun
    cases arriving with
    | error why => cases hrun
    | ok plan =>
      cases hrun
      exact ⟨plan, rfl, by simp [Socket.ofPlan]⟩

theorem meets_accept_arrival (n : Nat) (net : Network) :
    Meets (· = net) (accept n) (fun r => Arrival n net r.1)
      fun _ net' => net'.ledger = net.ledger := by
  rintro net rfl
  have hopens := opens_accept n net.ledger net rfl
  have haloof := aloof_accept n net
  rcases hrun : (accept n).run net with ⟨e | r, net'⟩ <;> rw [hrun] at hopens haloof
  · exact hopens
  · obtain ⟨hopen, hplan⟩ := planned_of_accept hrun
    have hlistener : net'.sockets (.listener n) = net.sockets (.listener n) := congrFun haloof n
    exact ⟨hopen, hopens.1, hopens.2, by rw [hlistener], hplan⟩

end Net

namespace DataConnection

variable {past lost : List Handle} {n : Nat} {h : Handle} {s t : Live DataConnection}

theorem meets_wait_arrival (n : Nat) (millis : Int) (s : Live DataConnection) :
    Meets (· = s) (wait n millis) (fun r t => t.self = s.self ∧ Net.Arrival n s.net r.1 t.net)
      fun _ t => t.self = s.self ∧ t.net.ledger = s.net.ledger := by
  apply Meets.given
  · rintro e - _ rfl
    exact ⟨rfl, rfl⟩
  intro limit _
  apply Meets.bind (Q := fun _ t => t.self = s.self ∧ Net.Poised s.net t.net)
  · have poised : Keeps (fun s t : Live DataConnection => t.self = s.self ∧ Net.Poised s.net t.net)
        (call (Net.setTimeout (.listener n) limit)) :=
      .call (Net.poised_setTimeout _ _) fun _ _ h => ⟨rfl, h⟩
    apply (Meets.ofKeeps poised _).failing
    · exact fun _ _ ht => ⟨ht.1, ht.2.ledger⟩
    · rintro _ t rfl ht
      exact ht
  rintro - t ⟨hself, hpoised⟩
  have ht := Net.meets_accept_arrival n t.net t.net rfl
  rw [Live.call, run_zoom]
  rcases hrun : (Net.accept n).run t.net with ⟨e | r, net⟩ <;> rw [hrun] at ht
  · exact ⟨hself, ht.trans hpoised.ledger⟩
  · exact ⟨hself, ht.after hpoised⟩

/-! ## What comes of accepting -/

/-- Whether a socket that has arrived gets lost. -/
def Hindered (n : Nat) (net : Network) (plan : IncomingPlan) : Prop :=
  (net.sockets (.listener n)).closeError ≠ none ∨ plan.socket.timeoutErrors.headD none ≠ none

/-- What comes of accepting. The listener is closed in any case; a socket that has arrived is held,
unless closing the listener failed or the socket did not take its limit. -/
inductive Accepts (n : Nat) (s : Live DataConnection) :
    Except Failure Handle → Live DataConnection → Prop
  | nothing {t : Live DataConnection} (e : Failure)
      (hself : t.self = s.self ∨ t.self = s.self.forsaken)
      (hledger : t.net.ledger = s.net.ledger.close (.listener n)) : Accepts n s (.error e) t
  | lost {t : Live DataConnection} (e : Failure) {h : Handle} {plan : IncomingPlan}
      (hself : t.self = s.self ∨ t.self = { s.self with listener := none })
      (hopen : (s.net.sockets (.listener n)).isOpen = true) (hh : ∃ k, h = .accepted k)
      (hledger : t.net.ledger = (s.net.ledger.hand h).close (.listener n))
      (hplan : (s.net.listeners n).incoming = some (.ok plan)) (hlost : Hindered n s.net plan) :
      Accepts n s (.error e) t
  | held {t : Live DataConnection} {h : Handle} {plan : IncomingPlan}
      (hself : t.self = { s.self with listener := none, socket := some h })
      (hopen : (s.net.sockets (.listener n)).isOpen = true) (hh : ∃ k, h = .accepted k)
      (hledger : t.net.ledger = (s.net.ledger.hand h).close (.listener n))
      (hplan : (s.net.listeners n).incoming = some (.ok plan)) (hheld : ¬ Hindered n s.net plan) :
      Accepts n s (.ok h) t

/-- A socket that has arrived by the time the listener has been closed. -/
structure Landed (n : Nat) (s : Live DataConnection) (h : Handle) (plan : IncomingPlan)
    (t : Live DataConnection) : Prop where
  self : t.self = s.self
  isOpen : (s.net.sockets (.listener n)).isOpen = true
  accepted : ∃ k, h = .accepted k
  ledger : t.net.ledger = (s.net.ledger.hand h).close (.listener n)
  incoming : (s.net.listeners n).incoming = some (.ok plan)
  limits : (t.net.sockets h).timeoutErrors = plan.socket.timeoutErrors

/-- An error met on closing the listener takes the place of what came before. -/
theorem run_ensure_close {α : Type} {m : Op DataConnection α} {r : Except Failure α}
    (hm : m.run s = (r, t)) (k : Handle) :
    (m.ensure (call (Net.close k))).run s =
      (match (t.net.sockets k).closeError with
        | none => r
        | some why => .error (.system why),
      ⟨t.self, ((Net.close k).run t.net).2⟩) := by
  rw [run_ensure, hm]
  dsimp only
  rw [Live.call, run_zoom, Net.run_close]
  cases (t.net.sockets k).closeError <;> rfl

/-- The wait before the listener is closed. If the system refuses it, the connection lets go of the
listener. -/
def attend (n : Nat) (millis : Int) : Op DataConnection (Handle × Address) :=
  (wait n millis).rescue fun
    | .system why => do
      change forsaken
      fault (.acceptFailed why)
    | e => fail e

theorem await_eq (n : Nat) (millis : Int) :
    await n millis = (attend n millis).ensure (call (Net.close (.listener n))) := rfl

theorem run_attend_of_error {millis : Int} {e : Failure}
    (hwait : (wait n millis).run s = (.error e, t)) :
    ∃ e' u, (attend n millis).run s = (.error e', u) ∧
      (u.self = t.self ∨ u.self = t.self.forsaken) ∧ u.net = t.net := by
  rw [attend, run_rescue_error hwait]
  cases e with
  | system why => exact ⟨_, _, rfl, .inr rfl, rfl⟩
  | _ => exact ⟨_, _, rfl, .inl rfl, rfl⟩

/-- Closing the listener does not touch the socket that has arrived. -/
theorem landed_of_close {net : Network} (hself : t.self = s.self)
    (ht : Net.Arrival n s.net h t.net) (hnet : ((Net.close (.listener n)).run t.net).2 = net) :
    ∃ plan, Landed n s h plan ⟨t.self, net⟩ := by
  obtain ⟨plan, hincoming, hlimits⟩ := ht.plan
  obtain ⟨k, hk⟩ := ht.accepted
  have hne : h ≠ .listener n := by simp [hk]
  refine ⟨plan, hself, ht.isOpen, ht.accepted, ?_, hincoming, ?_⟩
  · rw [← hnet, Net.ledger_close, ht.ledger]
  · rw [← hnet, Net.run_close]
    dsimp only
    rw [setAt_of_ne hne, hlimits]

/-- The wait is over, and the listener closed. -/
theorem meets_await_landed (n : Nat) (millis : Int) (s : Live DataConnection) :
    Meets (· = s) (await n millis)
      (fun r t => ∃ plan, Landed n s r.1 plan t ∧
        (s.net.sockets (.listener n)).closeError = none)
      fun e t => Accepts n s (.error e) t := by
  rintro s rfl
  have ht := meets_wait_arrival n millis s s rfl
  rcases hwait : (wait n millis).run s with ⟨e | ⟨h, peer⟩, t⟩ <;> rw [hwait] at ht
  · obtain ⟨hself, hledger⟩ := ht
    obtain ⟨e', u, hattend, hu, hnet⟩ := run_attend_of_error hwait
    have hclosed : ((Net.close (.listener n)).run u.net).2.ledger =
        s.net.ledger.close (.listener n) := by
      rw [Net.ledger_close, hnet, hledger]
    rw [hself] at hu
    rw [await_eq, run_ensure_close hattend]
    cases (u.net.sockets (.listener n)).closeError with
    | none => exact .nothing e' hu hclosed
    | some why => exact .nothing _ hu hclosed
  · obtain ⟨hself, harrival⟩ := ht
    obtain ⟨plan, hlanded⟩ := landed_of_close hself harrival rfl
    have hsame := harrival.closeError
    have hattend : (attend n millis).run s = (.ok (h, peer), t) := run_rescue_ok hwait
    rw [await_eq, run_ensure_close hattend]
    cases herror : (t.net.sockets (.listener n)).closeError with
    | none =>
      rw [herror] at hsame
      exact ⟨plan, hlanded, hsame.symm⟩
    | some why =>
      rw [herror] at hsame
      exact .lost _ (.inl hself) hlanded.isOpen hlanded.accepted hlanded.ledger hlanded.incoming
        (.inl (by simp [← hsame]))

theorem Landed.hand_isOpen {plan : IncomingPlan} (ht : Landed n s h plan t) :
    (t.net.sockets h).isOpen = true := by
  obtain ⟨k, rfl⟩ := ht.accepted
  have hopen := congrFun (congrArg Ledger.isOpen ht.ledger) (.accepted k)
  exact hopen.trans (by simp [Ledger.close, Ledger.hand, setAt])

/-- The listener has been let go of; the socket either takes its time limit or is lost. -/
theorem meets_limit {plan : IncomingPlan} {limit : Timeout} (ht : Landed n s h plan t)
    (hlimit : limit.isNegative = false) :
    Meets (· = ⟨{ s.self with listener := none }, t.net⟩) (call (Net.setTimeout h limit))
      (fun _ u => u.self = { s.self with listener := none } ∧ u.net.ledger = t.net.ledger ∧
        plan.socket.timeoutErrors.headD none = none)
      fun e u => Accepts n s (.error e) u := by
  rintro _ rfl
  obtain ⟨net, hquiet, hset⟩ := Net.exists_run_setTimeout hlimit ht.hand_isOpen
  rw [ht.limits] at hset
  rw [Live.call, run_zoom, hset]
  cases hrefused : plan.socket.timeoutErrors.headD none with
  | none => exact ⟨rfl, hquiet, rfl⟩
  | some why =>
    apply Accepts.lost _ (.inr rfl) ht.isOpen ht.accepted (hquiet.trans ht.ledger) ht.incoming
    right
    rw [hrefused]
    exact Option.some_ne_none why

/-- A socket that has arrived is stored if it takes its time limit. -/
theorem meets_store {plan : IncomingPlan} (peer : Address) (ht : Landed n s h plan t)
    (herror : (s.net.sockets (.listener n)).closeError = none)
    (hlimit : Timeout.Usable s.self.timeoutMillis) :
    Meets (· = t)
      (do
        change fun d => { d with listener := none }
        let limit ← ofExcept (Timeout.ofMillis s.self.timeoutMillis)
        call (Net.setTimeout h limit)
        change fun d => { d with socket := some h }
        log .info s!"[DATA] Accepted connection from {peer.text}"
        return h)
      (fun h u => Accepts n s (.ok h) u) fun e u => Accepts n s (.error e) u := by
  obtain ⟨hmillis, limit, hlimit⟩ := hlimit
  have hnonneg := Timeout.isNegative_of_ofMillis hmillis hlimit
  apply Meets.bind (Q := fun _ u => u = ⟨{ s.self with listener := none }, t.net⟩)
  · apply Meets.change
    rintro _ rfl
    rw [ht.self]
  intro _
  rw [hlimit]
  apply Meets.value
  apply Meets.bind (meets_limit ht hnonneg)
  intro _
  apply Meets.bind (Q := fun _ u => u.self = { s.self with listener := none, socket := some h } ∧
    u.net.ledger = t.net.ledger ∧ plan.socket.timeoutErrors.headD none = none)
  · apply Meets.change
    rintro u ⟨hself, hu⟩
    exact ⟨congrArg (fun d : DataConnection => { d with socket := some h }) hself, hu⟩
  intro _
  apply Meets.bind (Q := fun _ u => u.self = { s.self with listener := none, socket := some h } ∧
    u.net.ledger = t.net.ledger ∧ plan.socket.timeoutErrors.headD none = none)
  · rintro u ⟨hself, hledger, htaken⟩
    exact ⟨hself, (Net.quiet_log _ _ _ u.net).trans hledger, htaken⟩
  intro _
  apply Meets.pure
  rintro u ⟨hself, hledger, htaken⟩
  apply Accepts.held hself ht.isOpen ht.accepted (hledger.trans ht.ledger) ht.incoming
  rw [Hindered, herror, htaken]
  simp

/-- A pending connection that accepts. -/
theorem accepts_of_run (waitMillis : Option Int) (hclosed : s.self.closed = false)
    (hlistener : s.self.listener = some n) (hlimit : Timeout.Usable s.self.timeoutMillis) :
    Accepts n s ((accept waitMillis).run s).1 ((accept waitMillis).run s).2 := by
  have ht := meets_await_landed n (waitMillis.getD s.self.timeoutMillis) s s rfl
  rw [accept, run_look, hclosed, hlistener]
  dsimp only
  rcases hawait : (await n (waitMillis.getD s.self.timeoutMillis)).run s with
    ⟨e | ⟨h, peer⟩, t⟩ <;> rw [hawait] at ht
  · rw [if_neg (by simp), run_bind_error hawait]
    exact ht
  · obtain ⟨plan, hlanded, herror⟩ := ht
    have hu := meets_store peer hlanded herror hlimit t rfl
    rw [if_neg (by simp), run_bind_ok hawait]
    rcases hstore : Effect.run _ t with ⟨e | k, u⟩ <;> rw [hstore] at hu
    · exact hu
    · exact hu

/-! ## What is owned -/

/-- What was handed out between two states. -/
def arrivals (s t : Live DataConnection) : List Handle :=
  t.net.opened.drop s.net.opened.length

/-- What is lost if it came in with this result. -/
def mislaid : Except Failure Handle → List Handle → List Handle
  | .ok _, _ => []
  | .error _, arrived => arrived

/-- The connections that a negotiation over a channel yields, after accepting and closing any number
of times, with all that they ever obtained and what of it came in with a call that failed. In
between, anything may happen to the rest of the network. -/
inductive Obtained : List Handle → List Handle → Live DataConnection → Prop
  | negotiated {mode : DataMode} {c e : Live Channel} {d : DataConnection}
      (h : Channel.Reachable c) (hrun : (Negotiation.run mode).run c = (.ok d, e)) :
      Obtained d.handles [] ⟨d, e.net⟩
  | accept (waitMillis : Option Int) {past lost : List Handle} {s t : Live DataConnection}
      {result : Except Failure Handle} (h : Obtained past lost s)
      (hrun : (DataConnection.accept waitMillis).run s = (result, t)) :
      Obtained (past ++ arrivals s t) (lost ++ mislaid result (arrivals s t)) t
  | close {past lost : List Handle} {s : Live DataConnection} (h : Obtained past lost s) :
      Obtained past lost (DataConnection.close.run s).2
  | meanwhile {past lost : List Handle} {d : DataConnection} {net net' : Network}
      (h : Obtained past lost ⟨d, net⟩) (hnet : ∀ k ∈ past, net'.sockets k = net.sockets k) :
      Obtained past lost ⟨d, net'⟩

/-- What is known of a connection between two calls. -/
structure Owned (past lost : List Handle) (s : Live DataConnection) : Prop where
  listed : ∀ k ∈ s.self.handles, k ∈ past
  /-- What the connection has let go of is closed, unless it is lost. -/
  released : ∀ k ∈ past, k ∉ s.self.handles → ((s.net.sockets k).isOpen = true ↔ k ∈ lost)
  mislaid : ∀ k ∈ lost, k ∈ past ∧ k ∉ s.self.handles
  /-- As long as the listener is open, there was nothing else. -/
  awaiting : ∀ n, s.self.listener = some n → s.self.socket = none ∧ s.self.closed = false ∧
    ((s.net.sockets (.listener n)).isOpen = true → lost = [] ∧ ∀ k ∈ past, k = .listener n)
  connected : ∀ k, s.self.socket = some k → s.self.closed = false
  usable : Timeout.Usable s.self.timeoutMillis

theorem Owned.handles_of_closed (h : Owned past lost s) (hclosed : s.self.closed = true) :
    s.self.handles = [] := by
  have hlistener : s.self.listener = none := by
    by_contra hne
    obtain ⟨n, hn⟩ := Option.ne_none_iff_exists'.1 hne
    simp [(h.awaiting n hn).2.1] at hclosed
  have hsocket : s.self.socket = none := by
    by_contra hne
    obtain ⟨k, hk⟩ := Option.ne_none_iff_exists'.1 hne
    simp [h.connected k hk] at hclosed
  simp [handles, hlistener, hsocket]

theorem owned_of_sockets {d : DataConnection} {net net' : Network} (h : Owned past lost ⟨d, net⟩)
    (hnet : ∀ k ∈ past, net'.sockets k = net.sockets k) : Owned past lost ⟨d, net'⟩ where
  listed := h.listed
  released k hk := by
    rw [hnet k hk]
    exact h.released k hk
  mislaid := h.mislaid
  awaiting n hn := by
    have hmem : Handle.listener n ∈ past :=
      h.listed _ (by simp [handles, show d.listener = _ from hn])
    rw [hnet _ hmem]
    exact h.awaiting n hn
  connected := h.connected
  usable := h.usable

section Settled

/-! Nothing is open any more but what is lost. -/

variable (hopen : ∀ k ∈ past, (s.net.sockets k).isOpen = true ↔ k ∈ lost)
  (hlost : ∀ k ∈ lost, k ∈ past) (husable : Timeout.Usable s.self.timeoutMillis)

include hopen hlost husable

theorem owned_of_bare (hlistener : s.self.listener = none) (hsocket : s.self.socket = none) :
    Owned past lost s where
  listed := by simp [handles, hlistener, hsocket]
  released k hk _ := hopen k hk
  mislaid k hk := ⟨hlost k hk, by simp [handles, hlistener, hsocket]⟩
  awaiting n hn := by simp [hlistener] at hn
  connected k hk := by simp [hsocket] at hk
  usable := husable

/-- A listener that is closed may still be held. -/
theorem owned_of_listener (hlistener : s.self.listener = some n) (hsocket : s.self.socket = none)
    (hclosed : s.self.closed = false) (hlisted : .listener n ∈ past)
    (hfound : .listener n ∉ lost) : Owned past lost s := by
  have hhandles : s.self.handles = [.listener n] := by simp [handles, hlistener, hsocket]
  constructor
  · intro k hk
    rw [hhandles, List.mem_singleton] at hk
    rw [hk]
    exact hlisted
  · exact fun k hk _ => hopen k hk
  · intro k hk
    rw [hhandles, List.mem_singleton]
    refine ⟨hlost k hk, ?_⟩
    rintro rfl
    exact hfound hk
  · intro m hm
    rw [hlistener] at hm
    cases hm
    refine ⟨hsocket, hclosed, fun hstill => ?_⟩
    exact absurd ((hopen _ hlisted).1 hstill) hfound
  · simp [hsocket]
  · exact husable

end Settled

/-! ### Closing -/

/-- Closing leaves nothing open but what is lost. -/
theorem open_of_close (h : Owned past lost s) :
    ∀ k ∈ past, ((close.run s).2.net.sockets k).isOpen = true ↔ k ∈ lost := by
  intro k hk
  have hopen : ((close.run s).2.net.sockets k).isOpen =
      ((s.net.sockets k).isOpen && decide (k ∉ s.self.handles)) := by
    cases hclosed : s.self.closed with
    | true =>
      rw [run_close_of_closed hclosed, h.handles_of_closed hclosed]
      simp
    | false =>
      have hledger := ((meets_close hclosed s.net.ledger).failing fun _ _ h => h.2).leaves
        (s := s) ⟨rfl, rfl⟩
      have hsame : ((close.run s).2.net.sockets k).isOpen =
          (s.self.handles.foldl Ledger.close s.net.ledger).isOpen k :=
        congrFun (congrArg Ledger.isOpen hledger) k
      rw [hsame, Ledger.isOpen_foldl_close]
      rfl
  rw [hopen]
  by_cases hheld : k ∈ s.self.handles
  · have hfound : k ∉ lost := fun hk' => (h.mislaid k hk').2 hheld
    simp [hheld, hfound]
  · simpa [hheld] using h.released k hk hheld

theorem owned_close (h : Owned past lost s) : Owned past lost (close.run s).2 := by
  have hopen := open_of_close h
  have hlost := fun k hk => (h.mislaid k hk).1
  cases hclosed : s.self.closed with
  | true =>
    rw [run_close_of_closed hclosed]
    exact h
  | false =>
    have hself := (meets_close_shut hclosed).leaves (s := s) rfl
    apply owned_of_bare hopen hlost
    · rw [hself]
      exact h.usable
    · rw [hself]
      rfl
    · rw [hself]
      rfl

/-! ### Accepting -/

theorem arrivals_of_opened {hs : List Handle} (h : t.net.opened = s.net.opened ++ hs) :
    arrivals s t = hs := by
  rw [arrivals, h, List.drop_left]

theorem arrivals_of_close {k : Handle} (hledger : t.net.ledger = s.net.ledger.close k) :
    arrivals s t = [] := by
  have hopened : t.net.opened = s.net.opened := congrArg Ledger.opened hledger
  exact arrivals_of_opened (by rw [hopened, List.append_nil])

theorem arrivals_of_hand {k : Handle} (hledger : t.net.ledger = (s.net.ledger.hand h).close k) :
    arrivals s t = [h] :=
  arrivals_of_opened (congrArg Ledger.opened hledger)

/-- A pending connection holds its listener and nothing else. -/
theorem Owned.handles_of_listener (h : Owned past lost s) (hn : s.self.listener = some n) :
    s.self.handles = [.listener n] := by
  simp [handles, hn, (h.awaiting n hn).1]

theorem Owned.listener_mem (h : Owned past lost s) (hn : s.self.listener = some n) :
    .listener n ∈ past ∧ .listener n ∉ lost := by
  have hheld : .listener n ∈ s.self.handles := by simp [h.handles_of_listener hn]
  exact ⟨h.listed _ hheld, fun hlost => (h.mislaid _ hlost).2 hheld⟩

theorem owned_of_nothing (h : Owned past lost s) (hn : s.self.listener = some n)
    (hself : t.self = s.self ∨ t.self = s.self.forsaken)
    (hledger : t.net.ledger = s.net.ledger.close (.listener n)) : Owned past lost t := by
  obtain ⟨hlisted, hfound⟩ := h.listener_mem hn
  obtain ⟨hsocket, hclosed, -⟩ := h.awaiting n hn
  have hlost := fun k hk => (h.mislaid k hk).1
  have hopen : ∀ k ∈ past, (t.net.sockets k).isOpen = true ↔ k ∈ lost := by
    intro k hk
    have hsame : (t.net.sockets k).isOpen = setAt s.net.ledger.isOpen (.listener n) false k :=
      congrFun (congrArg Ledger.isOpen hledger) k
    rw [hsame]
    by_cases hk' : k = .listener n
    · rw [hk', setAt_same]
      simp [hfound]
    · rw [setAt_of_ne hk']
      apply h.released k hk
      rw [h.handles_of_listener hn, List.mem_singleton]
      exact hk'
  obtain hself | hself := hself
  · apply owned_of_listener (n := n) hopen hlost
    · rw [hself]
      exact h.usable
    · rw [hself, hn]
    · rw [hself, hsocket]
    · rw [hself, hclosed]
    · exact hlisted
    · exact hfound
  · apply owned_of_bare hopen hlost
    · rw [hself]
      exact h.usable
    · rw [hself]
      rfl
    · rw [hself]
      exact hsocket

section Arrived

variable {k : Handle} (hs : Owned past lost s) (hn : s.self.listener = some n)
  (hopen : (s.net.sockets (.listener n)).isOpen = true) (hk : ∃ j, k = .accepted j)
  (hledger : t.net.ledger = (s.net.ledger.hand k).close (.listener n))

include hs hn hopen hk hledger

theorem open_of_arrival :
    ∀ j ∈ past ++ [k], (t.net.sockets j).isOpen = true ↔ j ∈ [k] := by
  obtain ⟨-, -, hfirst⟩ := hs.awaiting n hn
  obtain ⟨-, hpast⟩ := hfirst hopen
  obtain ⟨i, rfl⟩ := hk
  intro j hj
  have hsame : (t.net.sockets j).isOpen =
      setAt (setAt s.net.ledger.isOpen (.accepted i) true) (.listener n) false j :=
    congrFun (congrArg Ledger.isOpen hledger) j
  rw [hsame]
  obtain hj | hj := List.mem_append.1 hj
  · rw [hpast j hj]
    simp
  · rw [List.mem_singleton.1 hj]
    simp [setAt]

/-- The socket that has arrived is all that stays open. -/
theorem owned_of_lost (hself : t.self = s.self ∨ t.self = { s.self with listener := none }) :
    Owned (past ++ [k]) (lost ++ [k]) t := by
  have harrival := open_of_arrival hs hn hopen hk hledger
  obtain ⟨hsocket, hclosed, hfirst⟩ := hs.awaiting n hn
  obtain ⟨hnone, -⟩ := hfirst hopen
  obtain ⟨i, hi⟩ := hk
  rw [hnone, List.nil_append]
  have hlost : ∀ j ∈ [k], j ∈ past ++ [k] := fun j hj => List.mem_append_right _ hj
  obtain hself | hself := hself
  · apply owned_of_listener (n := n) harrival hlost
    · rw [hself]
      exact hs.usable
    · rw [hself, hn]
    · rw [hself, hsocket]
    · rw [hself, hclosed]
    · exact List.mem_append_left _ (hs.listener_mem hn).1
    · simp [hi]
  · apply owned_of_bare harrival hlost
    · rw [hself]
      exact hs.usable
    · rw [hself]
    · rw [hself, hsocket]

/-- The socket that has arrived is all that is held. -/
theorem owned_of_held (hself : t.self = { s.self with listener := none, socket := some k }) :
    Owned (past ++ [k]) lost t := by
  have harrival := open_of_arrival hs hn hopen hk hledger
  obtain ⟨-, hclosed, hfirst⟩ := hs.awaiting n hn
  obtain ⟨hnone, -⟩ := hfirst hopen
  have hhandles : t.self.handles = [k] := by simp [handles, hself]
  rw [hnone]
  constructor
  · intro j hj
    rw [hhandles] at hj
    exact List.mem_append_right _ hj
  · intro j hj hnot
    rw [hhandles] at hnot
    rw [harrival j hj]
    simpa using hnot
  · simp
  · simp [hself]
  · simp [hself, hclosed]
  · rw [hself]
    exact hs.usable

end Arrived

theorem owned_accept (waitMillis : Option Int) (hs : Owned past lost s) :
    let result := ((accept waitMillis).run s).1
    let t := ((accept waitMillis).run s).2
    Owned (past ++ arrivals s t) (lost ++ mislaid result (arrivals s t)) t := by
  cases hn : s.self.listener with
  | none =>
    have harrivals : arrivals s s = [] := by simp [arrivals]
    rw [run_accept_of_none hn]
    dsimp only
    rw [harrivals]
    cases ((accept waitMillis).run s).1 <;> simpa [mislaid] using hs
  | some n =>
    obtain ⟨-, hclosed, -⟩ := hs.awaiting n hn
    have haccepts := accepts_of_run waitMillis hclosed hn hs.usable
    dsimp only
    generalize ((accept waitMillis).run s).1 = result at haccepts ⊢
    generalize ((accept waitMillis).run s).2 = t at haccepts ⊢
    cases haccepts with
    | nothing e hself hledger =>
      rw [arrivals_of_close hledger, mislaid, List.append_nil, List.append_nil]
      exact owned_of_nothing hs hn hself hledger
    | lost e hself hopen hh hledger hplan hlost =>
      rw [arrivals_of_hand hledger, mislaid]
      exact owned_of_lost hs hn hopen hh hledger hself
    | held hself hopen hh hledger hplan hheld =>
      rw [arrivals_of_hand hledger, mislaid, List.append_nil]
      exact owned_of_held hs hn hopen hh hledger hself

/-! ## Negotiated connections -/

theorem owned_of_bears {d : DataConnection} {mode : DataMode} {k : Handle} {net : Network}
    (hd : d.Bears mode k) (hopen : (net.sockets k).isOpen = true)
    (husable : Timeout.Usable d.timeoutMillis) : Owned d.handles [] ⟨d, net⟩ := by
  constructor
  · exact fun _ hk => hk
  · exact fun k hk hnot => absurd hk hnot
  · simp
  · intro n hn
    cases mode with
    | active =>
      obtain ⟨hsocket, m, hlistener, rfl⟩ := hd.held
      have hsame : m = n := by simpa [hlistener] using hn
      refine ⟨hsocket, hd.notClosed, fun _ => ⟨rfl, fun j hj => ?_⟩⟩
      rw [handles_of_bears hd, List.mem_singleton] at hj
      rw [hj, hsame]
    | passive =>
      obtain ⟨hlistener, -⟩ := hd.held
      simp [hlistener] at hn
  · exact fun _ _ => hd.notClosed
  · exact husable

theorem owned_of_obtained (h : Obtained past lost s) : Owned past lost s := by
  induction h with
  | @negotiated mode c e d hc hrun =>
    obtain ⟨k, hd, -, hopen⟩ := (Negotiation.meets_run_added mode).of_ok rfl hrun
    exact owned_of_bears hd hopen ((Negotiation.meets_run_usable mode).of_ok hc.lifecycle hrun)
  | accept waitMillis _ hrun ih =>
    have ht := owned_accept waitMillis ih
    rw [hrun] at ht
    exact ht
  | close _ ih => exact owned_close ih
  | meanwhile _ hnet ih => exact owned_of_sockets ih hnet

/-- Whatever the network does, once a negotiated connection has been closed, all that it ever
obtained has been closed, but for what came in with a call that failed. Such a call is one behind
which the listener could not be closed, or the socket did not take its limit. -/
theorem closed_of_obtained (h : Obtained past lost s) :
    (∀ k ∈ past, ((close.run s).2.net.sockets k).isOpen = false ↔ k ∉ lost) ∧
      ∀ waitMillis, ∀ k ∈ arrivals s ((accept waitMillis).run s).2, ∃ n plan,
        s.self.listener = some n ∧ (s.net.listeners n).incoming = some (.ok plan) ∧
          (((accept waitMillis).run s).1 = .ok k ↔
            (s.net.sockets (.listener n)).closeError = none ∧
              plan.socket.timeoutErrors.headD none = none) := by
  have hs := owned_of_obtained h
  constructor
  · intro k hk
    rw [← open_of_close hs k hk]
    simp
  · intro waitMillis k hk
    cases hn : s.self.listener with
    | none =>
      rw [run_accept_of_none hn] at hk
      simp [arrivals] at hk
    | some n =>
      obtain ⟨-, hclosed, -⟩ := hs.awaiting n hn
      have haccepts := accepts_of_run waitMillis hclosed hn hs.usable
      generalize ((accept waitMillis).run s).1 = result at haccepts hk ⊢
      generalize ((accept waitMillis).run s).2 = t at haccepts hk
      cases haccepts with
      | nothing e hself hledger =>
        rw [arrivals_of_close hledger] at hk
        contradiction
      | lost e hself hopen hh hledger hplan hlost =>
        refine ⟨n, _, rfl, hplan, ?_⟩
        unfold Hindered at hlost
        constructor
        · rintro ⟨⟩
        · rintro ⟨herror, hrefused⟩
          simp only [herror, hrefused] at hlost
          simp at hlost
      | held hself hopen hh hledger hplan hheld =>
        refine ⟨n, _, rfl, hplan, ?_⟩
        rw [arrivals_of_hand hledger, List.mem_singleton] at hk
        rw [hk]
        unfold Hindered at hheld
        push Not at hheld
        exact iff_of_true rfl hheld

/-- A server that opens the data connection that it agreed to, to a listener that cannot be closed
without an error. -/
def jammedServer : Network where
  script :=
    { willingServer.script with
      listeners := [{
        socket := { closeError := some badDescriptor }
        incoming := some (.ok {}) }] }

/-- A channel that is connected to it. -/
def jammedVisit : Live Channel :=
  ((Channel.Operation.connect ⟨some "ftp.test", 21⟩ 10000).perform.run ⟨{}, jammedServer⟩).2

theorem reachable_jammedVisit : Channel.Reachable jammedVisit :=
  .after _ (.start (Ledger.restrict_held _ _))

/-- The listener is closed in the end, and the socket that has arrived stays open. -/
theorem closed_of_jammedVisit :
    ∃ past lost s, Obtained past lost s ∧ past = [.listener 0, .accepted 0] ∧
      lost = [.accepted 0] ∧ ((close.run s).2.net.sockets (.listener 0)).isOpen = false ∧
        ((close.run s).2.net.sockets (.accepted 0)).isOpen = true := by
  have hcheck : (match (Negotiation.run .active).run jammedVisit with
      | (.ok d, e) =>
        d.handles = [.listener 0] &&
          arrivals ⟨d, e.net⟩ ((accept none).run ⟨d, e.net⟩).2 = [.accepted 0] &&
            ((accept none).run ⟨d, e.net⟩).1.toOption.isNone
      | (.error _, _) => false) = true := by decide +kernel
  rcases hrun : (Negotiation.run .active).run jammedVisit with ⟨f | d, e⟩ <;> rw [hrun] at hcheck
  · contradiction
  simp only [Bool.and_eq_true, decide_eq_true_eq] at hcheck
  obtain ⟨⟨hhandles, harrivals⟩, hfails⟩ := hcheck
  rcases haccept : (accept none).run ⟨d, e.net⟩ with ⟨f | k, t⟩ <;>
    rw [haccept] at harrivals hfails
  · have hobtained := (Obtained.negotiated reachable_jammedVisit hrun).accept none haccept
    rw [hhandles, harrivals] at hobtained
    obtain ⟨hclosed, -⟩ := closed_of_obtained hobtained
    have hlistener := hclosed (.listener 0) (by simp)
    have haccepted := hclosed (.accepted 0) (by simp)
    refine ⟨_, _, _, hobtained, rfl, rfl, hlistener.2 (by simp [mislaid]), ?_⟩
    simpa [mislaid] using haccepted
  · contradiction

end DataConnection

end FtpControl
