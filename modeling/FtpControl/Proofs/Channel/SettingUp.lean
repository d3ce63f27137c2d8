import FtpControl.Proofs.Channel.Faults

/-!
# On the way to a greeting

A connection comes about unless no socket takes its time limit or the server refuses it. What goes
wrong between then and the greeting, with the time limit or with one of the two streams, is passed
on as an error of the system. The script tells the first such hindrance, and how many resources are
open by then.
-/

namespace FtpControl

open Effect Live

/-- A connection that comes about and then cannot be set up. -/
def ControlPlan.Hampered (p : ControlPlan) : Prop :=
  p.socket.timeoutErrors.headD none ≠ none ∨ p.readerError ≠ none ∨ p.writerError ≠ none

/-- Where setting up a connection is refused first: how many resources are open by then, and the
system's account of it. -/
def ControlPlan.hindrance? (p : ControlPlan) : Option (Nat × String) :=
  ((p.socket.timeoutErrors.headD none).map (1, ·)).or
    ((p.readerError.map (1, ·)).or (p.writerError.map (2, ·)))

theorem ControlPlan.hampered_iff {p : ControlPlan} : p.Hampered ↔ p.hindrance? ≠ none := by
  simp only [Hampered, hindrance?, ne_eq, Option.or_eq_none_iff, Option.map_eq_none_iff]
  tauto

/-- The plan of the next control connection. -/
def Script.nextControl (script : Script) : ControlPlan :=
  script.controls.headD { socket := { failure := some connectionRefused } }

namespace Net

variable {p : ControlPlan} {n : Nat} {limit : Timeout} {o : List Handle}

/-- An error of the system, as a script has it. -/
def Refuses (why : Option String) (e : Failure) : Prop :=
  ∃ account, why = some account ∧ e = .system account

theorem meets_refuse {P : Network → Prop} (why : Option String) :
    Meets P (refuse why) (fun _ net => why = none ∧ P net) fun e net => Refuses why e ∧ P net := by
  cases why with
  | none => exact .pure fun _ hs => ⟨rfl, hs⟩
  | some why => exact .fail fun _ hs => ⟨⟨why, rfl, rfl⟩, hs⟩

/-- A new control connection is as its plan says. -/
def Prepared (p : ControlPlan) (n : Nat) (net : Network) : Prop :=
  (net.sockets (.control n)).isOpen = true ∧
    (net.sockets (.control n)).timeoutErrors = p.socket.timeoutErrors ∧
      net.lines n = .ofPlan p

/-- A control connection of which the first `k` resources have been opened. -/
structure Laid (p : ControlPlan) (o : List Handle) (n k : Nat) (net : Network) : Prop where
  line : net.lines n = .ofPlan p
  opened : net.opened = o ++ (Handle.line n).take k

theorem meets_dialControl (peer : Target) (hlimit : limit.isNegative = false) :
    Meets (fun net => net.script.nextControl = p ∧ net.opened = o) (dialControl peer limit)
      (fun n net => p.socket.failure = none ∧ Prepared p n net ∧ Laid p o n 1 net)
      fun e _ => Refuses p.socket.failure e := by
  apply Meets.bind (Q := fun r net => r.2 = p ∧ net.opened = o)
  · exact fun _ hnet => hnet
  rintro ⟨n, q⟩
  dsimp only
  apply Meets.bind (Q := fun _ net => q = p ∧ net.opened = o)
  · exact fun _ hnet => hnet
  intro _
  by_cases hq : q = p
  swap
  · exact fun _ hs => absurd hs.1 hq
  subst hq
  rw [checkLimit_of_not_negative hlimit]
  refine .value (.bind ((meets_refuse _).failing fun _ _ hs => hs.1) fun _ => ?_)
  apply Meets.bind (Q := fun _ net => q.socket.failure = none ∧
    net.sockets (.control n) = .ofPlan q.socket (.ok ⟨"10.0.0.2", 50000 + n⟩)
      (.ok peer.address) limit ∧ net.opened = o ++ [.control n])
  · rintro net ⟨hfailure, -, rfl⟩
    exact ⟨hfailure, setAt_same _ _ _, rfl⟩
  intro _
  apply Meets.bind (Q := fun _ net => q.socket.failure = none ∧ Prepared q n net ∧ Laid q o n 1 net)
  · apply Meets.update
    rintro net ⟨hfailure, hsocket, hopened⟩
    have hline : setAt net.lines n (ControlLine.ofPlan q) n = .ofPlan q := setAt_same _ _ _
    refine ⟨hfailure, ⟨?_, ?_, hline⟩, hline, hopened⟩
    · exact congrArg Socket.isOpen hsocket
    · exact congrArg Socket.timeoutErrors hsocket
  intro _
  exact .pure fun _ hs => hs

theorem meets_setTimeout {k : Nat} (hlimit : limit.isNegative = false) :
    Meets (fun net => Prepared p n net ∧ Laid p o n k net) (setTimeout (.control n) limit)
      (fun _ net => p.socket.timeoutErrors.headD none = none ∧ Laid p o n k net)
      fun e net => Refuses (p.socket.timeoutErrors.headD none) e ∧ Laid p o n k net := by
  rintro net ⟨⟨hopen, herrors, -⟩, hline, hopened⟩
  rw [run_setTimeout hlimit hopen, herrors]
  cases p.socket.timeoutErrors.headD none with
  | none => exact ⟨rfl, hline, hopened⟩
  | some why => exact ⟨⟨why, rfl, rfl⟩, hline, hopened⟩

/-- A stream of the connection is opened, unless the script refuses it. -/
theorem meets_stream {h : Handle} {k : Nat} (why : Option String) (s : Socket)
    (hh : (Handle.line n).take (k + 1) = (Handle.line n).take k ++ [h]) :
    Meets (Laid p o n k) (refuse why >>= fun _ => handOut h s)
      (fun _ net => why = none ∧ Laid p o n (k + 1) net)
      fun e net => Refuses why e ∧ Laid p o n k net := by
  apply Meets.bind (meets_refuse why)
  rintro ⟨⟩ net ⟨hwhy, hline, hopened⟩
  refine ⟨hwhy, hline, ?_⟩
  rw [hh, ← List.append_assoc, ← hopened]

theorem meets_openReader (n : Nat) :
    Meets (Laid p o n 1) (openReader n) (fun _ net => p.readerError = none ∧ Laid p o n 2 net)
      fun e net => Refuses p.readerError e ∧ Laid p o n 1 net := by
  intro net hnet
  have hreader : p.readerError = (net.lines n).readerError := by rw [hnet.line]; rfl
  rw [hreader]
  exact meets_stream _ { isOpen := true, closeError := (net.lines n).readerCloseError } rfl net hnet

theorem meets_openWriter (n : Nat) :
    Meets (Laid p o n 2) (openWriter n) (fun _ net => p.writerError = none ∧ Laid p o n 3 net)
      fun e net => Refuses p.writerError e ∧ Laid p o n 2 net := by
  intro net hnet
  have hwriter : p.writerError = (net.lines n).writerError := by rw [hnet.line]; rfl
  rw [hwriter]
  exact meets_stream _ { isOpen := true, closeError := (net.lines n).writerCloseError } rfl net hnet

end Net

namespace Channel

variable {peer : Target} {millis : Int} {p : ControlPlan} {n : Nat} {o : List Handle}

theorem meets_applyTimeout_prepared {k : Nat} (h : Timeout.Usable millis) :
    Meets (fun s => Net.Prepared p n s.net ∧ Net.Laid p o n k s.net) (applyTimeout n millis)
      (fun _ s => p.socket.timeoutErrors.headD none = none ∧ Net.Laid p o n k s.net)
      fun e s => Net.Refuses (p.socket.timeoutErrors.headD none) e ∧ Net.Laid p o n k s.net := by
  obtain ⟨hmillis, limit, hlimit⟩ := h
  unfold applyTimeout
  rw [if_neg (not_lt.2 hmillis), hlimit]
  refine .value (.bind (.net (Net.meets_setTimeout ?_)) fun _ => .change fun _ hs => hs)
  exact Timeout.isNegative_of_ofMillis hmillis hlimit

/-- What comes before the greeting: the time limit and the two streams. -/
def prepare (n : Nat) (millis : Int) : Op Channel Unit := do
  applyTimeout n millis
  call (Net.openReader n)
  change fun c => { c with reader := some n }
  call (Net.openWriter n)
  change fun c => { c with writer := some n, replies := some n }

theorem greet_eq (n : Nat) (millis : Int) :
    greet n millis = (do
      prepare n millis
      let reply ← receive
      ofExcept (validate ["220"] reply)) := by
  simp only [greet, prepare, bind_assoc]

/-- A connection is set up as far as the first hindrance. -/
theorem meets_prepare (h : Timeout.Usable millis) :
    Meets (fun s => Net.Prepared p n s.net ∧ Net.Laid p o n 1 s.net) (prepare n millis)
      (fun _ s => p.hindrance? = none ∧ s.self.replies = some n ∧ Net.Laid p o n 3 s.net)
      fun e s => ∃ k why, p.hindrance? = some (k, why) ∧ e = .system why ∧
        Net.Laid p o n k s.net := by
  apply Meets.bind ((meets_applyTimeout_prepared h).failing ?_)
  swap
  · rintro e s ⟨⟨why, hwhy, rfl⟩, hs⟩
    refine ⟨1, why, ?_, rfl, hs⟩
    rw [ControlPlan.hindrance?, hwhy]
    rfl
  intro _
  apply Meets.assuming
  intro htimeout
  apply Meets.bind ((Meets.net (Net.meets_openReader n)).failing ?_)
  swap
  · rintro e s ⟨⟨why, hwhy, rfl⟩, hs⟩
    refine ⟨1, why, ?_, rfl, hs⟩
    rw [ControlPlan.hindrance?, htimeout, hwhy]
    rfl
  intro _
  apply Meets.assuming
  intro hreader
  apply Meets.bind (Q := fun _ s => Net.Laid p o n 2 s.net) (.change fun _ hs => hs)
  intro _
  apply Meets.bind ((Meets.net (Net.meets_openWriter n)).failing ?_)
  swap
  · rintro e s ⟨⟨why, hwhy, rfl⟩, hs⟩
    refine ⟨2, why, ?_, rfl, hs⟩
    rw [ControlPlan.hindrance?, htimeout, hreader, hwhy]
    rfl
  intro _
  apply Meets.assuming
  intro hwriter
  apply Meets.change
  intro s hs
  refine ⟨?_, rfl, hs⟩
  rw [ControlPlan.hindrance?, htimeout, hreader, hwriter]
  rfl

/-- A connection comes about unless the script refuses it. -/
theorem meets_dial_prepared (peer : Target) (h : Timeout.Usable millis) (s : Live Channel) :
    Meets (· = s) (dial peer millis)
      (fun n t => s.net.script.nextControl.socket.failure = none ∧
        t.self = { s.self with socket := some n, peer := some peer } ∧
          Net.Prepared s.net.script.nextControl n t.net ∧
            Net.Laid s.net.script.nextControl s.net.opened n 1 t.net)
      fun e t => ∃ why, s.net.script.nextControl.socket.failure = some why ∧
        e = .fault (.connectFailed peer why) ∧ t.self = { s.self with state := .closed } := by
  obtain ⟨hmillis, limit, hlimit⟩ := h
  unfold dial
  rw [hlimit]
  have dialled := Net.meets_dialControl (p := s.net.script.nextControl) (o := s.net.opened) peer
    (Timeout.isNegative_of_ofMillis hmillis hlimit)
  apply Meets.value
  apply Meets.bind (Q := fun n t => s.net.script.nextControl.socket.failure = none ∧
    t.self = s.self ∧ Net.Prepared s.net.script.nextControl n t.net ∧
      Net.Laid s.net.script.nextControl s.net.opened n 1 t.net)
  · apply Meets.rescue (E := fun e t => Net.Refuses s.net.script.nextControl.socket.failure e ∧
      t.self = s.self)
    · apply Meets.call dialled (x := s.self)
      · rintro t rfl
        exact ⟨⟨rfl, rfl⟩, rfl⟩
      · exact fun n net hn => ⟨hn.1, rfl, hn.2⟩
      · exact fun e net he => ⟨he, rfl⟩
    rintro e t ⟨⟨why, hwhy, rfl⟩, hself⟩
    exact ⟨why, hwhy, rfl, by rw [← hself]⟩
  · intro n
    apply Meets.bind (Q := fun _ t => s.net.script.nextControl.socket.failure = none ∧
      t.self = { s.self with socket := some n, peer := some peer } ∧
        Net.Prepared s.net.script.nextControl n t.net ∧
          Net.Laid s.net.script.nextControl s.net.opened n 1 t.net)
    · apply Meets.change
      rintro t ⟨hfailure, hself, ht⟩
      exact ⟨hfailure, by rw [hself], ht⟩
    intro _
    exact .pure fun _ hs => hs

/-- A limit that no socket takes is noticed before anything is heard of the server. -/
theorem run_dial_unusable (peer : Target) (h : ¬ Timeout.Usable millis) (s : Live Channel) :
    ∃ e net, (dial peer millis).run s = (.error e, ⟨s.self, net⟩) ∧
      (e = .tooLarge ∧ Timeout.ofMillis millis = .error .tooLarge ∨
        e = .value .timeoutOutOfRange ∧ millis < 0) := by
  unfold dial
  cases hlimit : Timeout.ofMillis millis with
  | error e =>
    obtain rfl := Timeout.ofMillis_error hlimit
    exact ⟨_, s.net, rfl, .inl ⟨rfl, rfl⟩⟩
  | ok limit =>
    have hnegative := Timeout.isNegative_of_not_usable h hlimit
    have hmillis : millis < 0 := by
      rw [Timeout.isNegative_eq_of_ofMillis hlimit] at hnegative
      exact of_decide_eq_true hnegative
    obtain ⟨net, hdial⟩ : ∃ net, (Net.dialControl peer limit).run s.net =
        (.error (.value .timeoutOutOfRange), net) := by
      rw [Net.dialControl, Net.checkLimit, hnegative]
      exact ⟨_, rfl⟩
    have hcall : (call (Net.dialControl peer limit) : Op Channel Nat).run s =
        (.error (.value .timeoutOutOfRange), ⟨s.self, net⟩) := by
      rw [call, run_zoom, hdial]
    refine ⟨.value .timeoutOutOfRange, net, ?_, .inr ⟨rfl, hmillis⟩⟩
    rw [Effect.ofExcept, pure_bind]
    exact run_bind_error (run_rescue_error hcall)

/-- Whether connecting fails with anything but a fault. -/
def Obstructed (millis : Int) (script : Script) : Prop :=
  Timeout.ofMillis millis = .error .tooLarge ∨
    (script.nextControl.socket.failure = none ∧ script.nextControl.Hampered)

end Channel

end FtpControl
