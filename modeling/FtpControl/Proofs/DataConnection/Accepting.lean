import FtpControl.Proofs.Negotiation

/-!
# What accepting leaves behind

The listener is closed by the time a wait is over. The connection lets go of it too, unless the
limit of the wait was one that no socket takes: that is noticed before anyone waits, and the
connection is left as it was.
-/

namespace FtpControl

open Effect Live

/-- A listener that can be closed without an error. -/
def Network.Lenient (n : Nat) (net : Network) : Prop :=
  (net.listening n).closeError = none

namespace Net

theorem aloof_handOut {h : Handle} (hh : ∀ k, .listener k ≠ h) (s : Socket) :
    Aloof (handOut h s) := by
  refine .bind (.update fun _ => rfl) fun _ => .update fun net => ?_
  funext k
  exact setAt_of_ne (hh k)

theorem aloof_accept (n : Nat) : Aloof (accept n) := by
  refine .bind (.bind .state fun _ => .ite (.pure _) (.fail _)) fun s => ?_
  refine .bind (.update fun _ => rfl) fun _ => .bind .state fun net => ?_
  split
  · exact .fail _
  · exact .fail _
  · exact .bind (.update fun _ => rfl) fun _ => .bind (aloof_handOut (by simp) _) fun _ => .pure _

variable {n : Nat}

theorem meets_accept :
    Meets (Network.Lenient n) (accept n)
      (fun r net => net.Lenient n ∧ (∃ k, r.1 = .accepted k) ∧ (net.sockets r.1).isOpen = true)
      fun e net => e.IsSystem ∧ net.Lenient n := by
  intro net hnet
  have hopens := opens_accept n net.ledger net rfl
  have hfails := fails_accept n net
  have haloof := aloof_accept n net
  rcases hr : (accept n).run net with ⟨e | r, t⟩ <;> rw [hr] at hopens hfails haloof
  · exact ⟨hfails e rfl, by rwa [Network.Lenient, haloof]⟩
  · have hopen : (t.sockets r.1).isOpen = setAt net.ledger.isOpen r.1 true r.1 :=
      congrFun (congrArg Ledger.isOpen hopens.2) r.1
    rw [setAt_same] at hopen
    exact ⟨by rwa [Network.Lenient, haloof], hopens.1, hopen⟩

/-- The limit of a closed listener cannot be set. -/
theorem meets_setTimeout_lenient {limit : Timeout} (hlimit : limit.isNegative = false)
    (isOpen : Bool) :
    Meets (fun net => net.Lenient n ∧ (net.listening n).isOpen = isOpen)
      (setTimeout (.listener n) limit) (fun _ net => net.Lenient n ∧ isOpen = true)
      fun e net => e.IsSystem ∧ net.Lenient n := by
  rintro net ⟨hnet, rfl⟩
  cases hopen : (net.sockets (.listener n)).isOpen with
  | true =>
    rw [run_setTimeout hlimit hopen]
    cases (net.sockets (.listener n)).timeoutErrors.headD none with
    | none => simpa [Network.Lenient, Network.listening, hopen] using hnet
    | some why =>
      refine ⟨⟨why, rfl⟩, ?_⟩
      simpa [Network.Lenient, Network.listening] using hnet
  | false =>
    rw [run_setTimeout_of_closed hlimit hopen]
    refine ⟨⟨_, rfl⟩, ?_⟩
    simpa [Network.Lenient, Network.listening] using hnet

end Net

namespace DataConnection

variable {d : DataConnection} {n : Nat} {millis : Int} {isOpen : Bool}

/-- The wait itself, before the listener is closed. -/
def wait (n : Nat) (millis : Int) : Op DataConnection (Handle × Address) := do
  let limit ← ofExcept (Timeout.ofMillis millis)
  call (Net.setTimeout (.listener n) limit)
  call (Net.accept n)

/-- The connection with a listener that can be closed without an error. -/
def Held (d : DataConnection) (n : Nat) (s : Live DataConnection) : Prop :=
  s.self = d ∧ s.net.Lenient n

/-- The same, with a listener that is open or not. -/
def Before (d : DataConnection) (n : Nat) (isOpen : Bool) (s : Live DataConnection) : Prop :=
  d.Held n s ∧ (s.net.listening n).isOpen = isOpen

theorem meets_wait_usable {limit : Timeout} (hmillis : 0 ≤ millis)
    (hlimit : Timeout.ofMillis millis = .ok limit) :
    Meets (d.Before n isOpen) (wait n millis)
      (fun r s => isOpen = true ∧ d.Held n s ∧ (∃ k, r.1 = .accepted k) ∧
        (s.net.sockets r.1).isOpen = true)
      fun e s => e.IsSystem ∧ d.Held n s := by
  have hnonneg := Timeout.isNegative_of_ofMillis hmillis hlimit
  unfold wait
  rw [hlimit]
  apply Meets.value
  apply Meets.bind (Q := fun _ s => d.Held n s ∧ isOpen = true)
  · exact .call (Net.meets_setTimeout_lenient hnonneg isOpen)
      (fun _ hs => ⟨⟨hs.1.2, hs.2⟩, hs.1.1⟩) (fun _ _ hnet => ⟨⟨rfl, hnet.1⟩, hnet.2⟩)
      fun _ _ hnet => ⟨hnet.1, rfl, hnet.2⟩
  intro _
  by_cases hopen : isOpen = true
  · exact .call Net.meets_accept (fun _ hs => ⟨hs.1.2, hs.1.1⟩)
      (fun _ _ hnet => ⟨hopen, ⟨rfl, hnet.1⟩, hnet.2⟩) fun _ _ hnet => ⟨hnet.1, rfl, hnet.2⟩
  · exact fun _ hs => absurd hs.2 hopen

/-- A limit that no socket takes is no error of the system. -/
theorem meets_wait_unusable (h : ¬ Timeout.Usable millis) :
    Meets (d.Held n) (wait n millis) (fun _ _ => False)
      fun e s => (∀ why, e ≠ .system why) ∧ d.Held n s := by
  unfold wait
  cases hlimit : Timeout.ofMillis millis with
  | error e =>
    obtain rfl := Timeout.ofMillis_error hlimit
    exact .failed fun s hs => ⟨by simp, hs⟩
  | ok limit =>
    have hnegative := Timeout.isNegative_of_not_usable h hlimit
    apply Meets.value
    apply Meets.bind (Q := fun _ _ => False)
    · intro s hs
      rw [Live.call, run_zoom, Net.run_setTimeout_of_negative hnegative]
      exact ⟨by simp, hs⟩
    · intro _ _ hs
      exact hs.elim

/-- The connection once the system has refused the wait. -/
def forsaken (d : DataConnection) : DataConnection :=
  { d with listener := none, closed := true }

/-- What a wait of this length leaves of the connection, if it fails. -/
def Failed (d : DataConnection) (millis : Int) (c : DataConnection) : Prop :=
  (Timeout.Usable millis ∧ c = d.forsaken) ∨ (¬ Timeout.Usable millis ∧ c = d)

theorem meets_closeListener {P : DataConnection → Prop} :
    Meets (fun s => P s.self ∧ s.net.Lenient n) (call (Net.close (.listener n)))
      (fun _ s => P s.self ∧ (s.net.listening n).isOpen = false ∧ s.net.Lenient n)
      fun _ _ => False := by
  rintro s ⟨hself, hnet⟩
  rw [Network.Lenient, Network.listening] at hnet
  rw [Live.call, run_zoom, Net.run_close, hnet]
  simp [Network.Lenient, Network.listening, hself, hnet]

/-- A connection that arrives has a socket of its own. -/
theorem meets_await (d : DataConnection) (n : Nat) (isOpen : Bool) (millis : Int) :
    Meets (d.Before n isOpen) (await n millis)
      (fun r s => (Timeout.Usable millis ∧ isOpen = true) ∧ s.self = d ∧
        (s.net.listening n).isOpen = false ∧ (s.net.sockets r.1).isOpen = true)
      fun _ s => d.Failed millis s.self ∧ (s.net.listening n).isOpen = false ∧
        s.net.Lenient n := by
  apply Meets.ensured (E := fun _ s => d.Failed millis s.self ∧ s.net.Lenient n)
    (Q := fun r s => (Timeout.Usable millis ∧ isOpen = true) ∧ d.Held n s ∧
      (∃ k, r.1 = .accepted k) ∧ (s.net.sockets r.1).isOpen = true)
  · by_cases husable : Timeout.Usable millis
    · have ⟨hmillis, limit, hlimit⟩ := husable
      apply Meets.rescue (m := wait n millis)
        ((meets_wait_usable hmillis hlimit).yields fun _ _ hs => ⟨⟨husable, hs.1⟩, hs.2⟩)
      rintro e s ⟨⟨why, rfl⟩, hself, hnet⟩
      exact ⟨.inl ⟨husable, congrArg forsaken hself⟩, hnet⟩
    · apply Meets.rescue (m := wait n millis)
        ((meets_wait_unusable husable).imp (fun _ hs => hs.1) (fun _ _ hs => hs.elim)
          fun _ _ hs => hs)
      rintro e s ⟨hsystem, hself, hnet⟩
      cases e with
      | system why => exact absurd rfl (hsystem why)
      | _ => exact ⟨.inr ⟨husable, hself⟩, hnet⟩
  · rintro r s ⟨husable, ⟨hself, hnet⟩, ⟨k, hk⟩, hopen⟩
    have hne : r.1 ≠ .listener n := by simp [hk]
    rw [Live.call, run_zoom, Net.run_close,
      show (s.net.sockets (.listener n)).closeError = none from hnet]
    simp [Network.listening, setAt_of_ne hne, husable, hself, hopen]
  · intro e
    exact meets_closeListener.sure

/-- What accepting leaves behind, by the limit of the wait and by whether the listener was open. -/
structure After (d : DataConnection) (n : Nat) (isOpen : Bool) (millis : Int)
    (s : Live DataConnection) : Prop where
  listenerClosed : (s.net.listening n).isOpen = false
  sameLimit : s.self.timeoutMillis = d.timeoutMillis
  usable : Timeout.Usable millis → s.self.listener = none ∧
    ∀ h, s.self.socket = some h →
      isOpen = true ∧ s.self.closed = false ∧ (s.net.sockets h).isOpen = true
  unusable : ¬ Timeout.Usable millis → s.self = d ∧ s.net.Lenient n

theorem after_of_failed {s : Live DataConnection} (hsocket : d.socket = none)
    (hfailed : d.Failed millis s.self) (hclosed : (s.net.listening n).isOpen = false)
    (hlenient : s.net.Lenient n) : d.After n isOpen millis s := by
  obtain ⟨husable, hself⟩ | ⟨hunusable, hself⟩ := hfailed
  · refine ⟨hclosed, by rw [hself, forsaken], fun _ => ?_, fun h => absurd husable h⟩
    simp [hself, forsaken, hsocket]
  · exact ⟨hclosed, by rw [hself], fun h => absurd h hunusable, fun _ => ⟨hself, hlenient⟩⟩

/-- A connection whose listener is gone and whose data socket has arrived. -/
def Arrived (d : DataConnection) (n : Nat) (h : Handle) (s : Live DataConnection) : Prop :=
  s.self = { d with listener := none } ∧ (s.net.listening n).isOpen = false ∧
    (s.net.sockets h).isOpen = true

theorem after_of_arrived {h : Handle} {s : Live DataConnection} (hsocket : d.socket = none)
    (husable : Timeout.Usable millis) (hs : d.Arrived n h s) : d.After n isOpen millis s := by
  obtain ⟨hself, hclosed, -⟩ := hs
  refine ⟨hclosed, by rw [hself], fun _ => ?_, fun h => absurd husable h⟩
  simp [hself, hsocket]

/-- A call without an entry leaves the connection and what is open as they are. -/
theorem meets_still {α : Type} {P : Live DataConnection → Prop} {m : Net α} (hm : Net.Quiet m)
    (hP : ∀ s t, P s → t.self = s.self →
      (∀ k, (t.net.sockets k).isOpen = (s.net.sockets k).isOpen) → P t) :
    Meets P (call m) (fun _ => P) fun _ => P := by
  have hkeeps : Keeps (fun s t : Live DataConnection => t.self = s.self ∧
      t.net.ledger = s.net.ledger) (call m) :=
    .call hm fun _ _ h => ⟨rfl, h⟩
  exact .ofKeeps hkeeps fun s t hs h => hP s t hs h.1 (isOpen_of_ledger h.2)

theorem meets_accept (waitMillis : Option Int) (hclosed : d.closed = false)
    (hlistener : d.listener = some n) (hsocket : d.socket = none)
    (hlimit : Timeout.Usable d.timeoutMillis) :
    Meets (d.Before n isOpen) (accept waitMillis)
      (fun _ => d.After n isOpen (waitMillis.getD d.timeoutMillis))
      fun _ => d.After n isOpen (waitMillis.getD d.timeoutMillis) := by
  obtain ⟨-, limit, hmillis⟩ := hlimit
  apply Meets.known (fun s hs => hs.1.1)
  rw [hclosed, hlistener]
  apply Meets.bind ((meets_await d n isOpen _).failing
    fun _ s hs => after_of_failed hsocket hs.1 hs.2.1 hs.2.2)
  rintro ⟨h, peer⟩
  by_cases hwaited : Timeout.Usable (waitMillis.getD d.timeoutMillis) ∧ isOpen = true
  swap
  · exact fun s hs => absurd hs.1 hwaited
  obtain ⟨husable, rfl⟩ := hwaited
  apply Meets.bind (Q := fun _ => d.Arrived n h)
  · apply Meets.change
    rintro s ⟨-, hself, hs⟩
    exact ⟨congrArg (fun c => { c with listener := none }) hself, hs⟩
  intro _
  rw [hmillis]
  apply Meets.value
  apply Meets.bind (Q := fun _ => d.Arrived n h)
  · apply (meets_still (Net.quiet_setTimeout h limit) _).failing
    · intro e s hs
      exact after_of_arrived hsocket husable hs
    · rintro s t ⟨hself, hclosed, hopen⟩ hsame hsockets
      exact ⟨hsame.trans hself, (hsockets _).trans hclosed, (hsockets _).trans hopen⟩
  intro _
  apply Meets.bind (Q := fun _ => d.After n true (waitMillis.getD d.timeoutMillis))
  · apply Meets.change
    rintro s ⟨hself, hgone, hopen⟩
    refine ⟨hgone, by rw [hself], fun _ => ?_, fun h => absurd husable h⟩
    simp [hself, hclosed, hopen]
  intro _
  apply Meets.bind (Q := fun _ => d.After n true (waitMillis.getD d.timeoutMillis))
  · apply meets_still (Net.quiet_log _ _ _)
    rintro s t ⟨hgone, hsame, hended, -⟩ hself hsockets
    refine ⟨(hsockets _).trans hgone, hself ▸ hsame, fun h => ?_, fun h => absurd husable h⟩
    simpa only [hself, hsockets] using hended h
  intro _
  exact .pure fun _ hs => hs

end DataConnection

end FtpControl
