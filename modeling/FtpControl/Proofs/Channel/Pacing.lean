import FtpControl.Proofs.Channel.Tracing
import FtpControl.Proofs.Network.Limits
import FtpControl.Proofs.Timeout

/-!
# The time limit of a channel

A channel remembers its time limit in milliseconds, and its socket has one of its own, in whole
nanoseconds. Both are set when the channel connects and when a new limit is taken, first that of the
socket. Where the system refuses the limit the socket has it all the same and the channel remembers
the one before; where it comes to nothing sooner both stay, and nothing else touches either.
-/

namespace FtpControl

open Effect Live

namespace Channel

variable {α : Type} {n : Nat} {millis asked : Int} {refused : Option Int} {s t : Live Channel}

/-- The socket was asked for a limit of so many milliseconds last. -/
def Asked (asked : Int) (s : Live Channel) : Prop :=
  ∃ n, s.self.socket = some n ∧ 0 ≤ s.self.timeoutMillis ∧
    Timeout.ofMillis asked = .ok (s.net.sockets (.control n)).timeout

/-- It is the limit that the channel remembers. -/
def Agreed (s : Live Channel) : Prop :=
  Asked s.self.timeoutMillis s

/-- So was that of a connected channel, which remembers the limit unless it was refused. -/
def Paced (refused : Option Int) (s : Live Channel) : Prop :=
  s.self.state = .connected → Asked (refused.getD s.self.timeoutMillis) s

/-- The limit remembered and those of all control sockets are what they were. -/
structure SamePace (s t : Live Channel) : Prop where
  millis : t.self.timeoutMillis = s.self.timeoutMillis
  limits : s.net.SameLimits t.net

/-- Besides, the channel is about the same socket. -/
structure Unmoved (s t : Live Channel) : Prop extends SamePace s t where
  socket : t.self.socket = s.self.socket

instance : IsPreorder (Live Channel) SamePace where
  refl s := ⟨rfl, refl_of _ s.net⟩
  trans _ _ _ h h' := ⟨h'.millis.trans h.millis, trans_of _ h.limits h'.limits⟩

instance : IsPreorder (Live Channel) Unmoved where
  refl s := ⟨refl_of _ s, rfl⟩
  trans _ _ _ h h' := ⟨trans_of _ h.toSamePace h'.toSamePace, h'.socket.trans h.socket⟩

theorem Asked.unmoved (h : Asked asked s) (hst : Unmoved s t) : Asked asked t := by
  obtain ⟨n, hn, hpos, hlimit⟩ := h
  exact ⟨n, hst.socket.trans hn, hst.millis ▸ hpos, (hst.limits n).symm ▸ hlimit⟩

theorem Agreed.unmoved (h : Agreed s) (hst : Unmoved s t) : Agreed t := by
  rw [Agreed, hst.millis]
  exact Asked.unmoved h hst

theorem Paced.unmoved (h : Paced refused s) (hst : Unmoved s t)
    (hstate : t.self.state = .connected → s.self.state = .connected) : Paced refused t := by
  intro ht
  rw [hst.millis]
  exact (h (hstate ht)).unmoved hst

/-! ## What keeps both limits -/

theorem unmoved_call {m : Net α} (hm : Net.KeepsLimits m) :
    Keeps Unmoved (call m : Op Channel α) :=
  .call hm fun _ _ h => ⟨⟨rfl, h⟩, rfl⟩

theorem unmoved_receive : Keeps Unmoved receive :=
  keeps_receive (fun _ _ _ => unmoved_call (Net.keepsLimits_log _ _ _)) fun _ _ =>
    unmoved_call (Net.keepsLimits_setSource _ _)

theorem keepsLimits_closeResource (h : Handle) : Net.KeepsLimits (closeResource h) := by
  apply Keeps.bind (.attempt (Net.keepsLimits_close h))
  intro result
  split
  · exact .pure _
  · exact .bind (Net.keepsLimits_log _ _ _) fun _ => .pure _
  · exact .fail _

theorem keepsLimits_closeResources (hs : List Handle) :
    Net.KeepsLimits (closeResources hs) := by
  induction hs with
  | nil => exact .pure _
  | cons h hs ih =>
    exact .bind (keepsLimits_closeResource h) fun _ => .bind ih fun _ => .pure _

/-- The relation of two states of one channel between which its limit may not change. -/
structure Calm (s t : Live Channel) : Prop extends SamePace s t where
  paced : ∀ refused, Paced refused s → Paced refused t

instance : IsPreorder (Live Channel) Calm where
  refl s := ⟨refl_of _ s, fun _ => id⟩
  trans _ _ _ h h' :=
    ⟨trans_of _ h.toSamePace h'.toSamePace, fun refused => h'.paced refused ∘ h.paced refused⟩

theorem calm_call {m : Net α} (hm : Net.KeepsLimits m) : Keeps Calm (call m : Op Channel α) := by
  intro s
  have h := unmoved_call hm s
  exact ⟨h.toSamePace, fun _ hs => hs.unmoved h id⟩

theorem calm_release : Keeps Calm release := by
  apply Keeps.bind (R := Calm) .this
  intro c
  apply Keeps.bind (calm_call (keepsLimits_closeResources _))
  intro error
  apply Keeps.bind (R := Calm)
  · refine .change fun s => ⟨⟨rfl, refl_of _ s.net⟩, fun _ _ hstate => ?_⟩
    cases hstate
  intro _
  cases c.peer with
  | none => exact keeps_report error
  | some peer =>
    exact .bind (calm_call (Net.keepsLimits_log _ _ _)) fun _ => keeps_report error

theorem inquiring_calm : Inquiring Calm where
  log _ _ _ := calm_call (Net.keepsLimits_log _ _ _)
  setSource _ _ := calm_call (Net.keepsLimits_setSource _ _)
  release := calm_release
  transmit _ _ := calm_call (Net.keepsLimits_transmit _ _)
  ownAddress _ := calm_call (Net.keepsLimits_ownAddress _)
  openListener := calm_call Net.keepsLimits_openListener
  bind _ _ := calm_call (Net.keepsLimits_bind _ _)
  listen _ _ := calm_call (Net.keepsLimits_listen _ _)
  closeListener _ := calm_call (Net.keepsLimits_close _)
  dialData _ _ := calm_call (Net.keepsLimits_dialData _ _)
  peerAddress _ := calm_call (Net.keepsLimits_peerAddress _)
  lookUp _ := calm_call (Net.keepsLimits_lookUp _)

/-- Operations that may set the time limit. -/
def Operation.Limiting : Operation → Prop
  | connect .. | setTimeout _ => True
  | _ => False

/-- No other operation touches the limit, nor the socket's own. -/
theorem calm_perform {op : Operation} (hop : ¬ op.Limiting) : Keeps Calm op.perform := by
  by_cases hmarking : op.Marking
  · cases op with
    | connect peer millis => exact absurd trivial hop
    | setTracing on =>
      apply Keeps.bind (R := Calm)
      · exact .change fun s => ⟨⟨rfl, refl_of _ s.net⟩, fun _ h hstate => h hstate⟩
      intro _
      exact .pure _
    | _ => exact hmarking.elim
  · refine inquiring_calm.perform hmarking ?_
    rintro millis rfl
    exact hop trivial

/-! ## Setting the limit -/

/-- What comes of setting a limit. Where the call is made the socket has the limit in any case, and
the channel remembers it unless the system refuses it; else all is as it was. -/
inductive SetsLimit (millis : Int) (s : Live Channel) : Except Failure Unit × Live Channel → Prop
  | bare (h : s.self.socket = none) : SetsLimit millis s (.error (.fault .noSocket), s)
  | negative (h : millis < 0) : SetsLimit millis s (.error (.value (.negativeTimeout millis)), s)
  | tooLarge (h : Timeout.ofMillis millis = .error .tooLarge) :
      SetsLimit millis s (.error .tooLarge, s)
  | refused {n : Nat} {why : String} {net : Network} (socket : s.self.socket = some n)
      (h : 0 ≤ millis) (limit : Timeout.ofMillis millis = .ok (net.sockets (.control n)).timeout)
      (others : ∀ k, k ≠ n →
        (net.sockets (.control k)).timeout = (s.net.sockets (.control k)).timeout) :
      SetsLimit millis s (.error (.system why), ⟨s.self, net⟩)
  | taken {n : Nat} {net : Network} (socket : s.self.socket = some n)
      (h : 0 ≤ millis) (limit : Timeout.ofMillis millis = .ok (net.sockets (.control n)).timeout)
      (others : ∀ k, k ≠ n →
        (net.sockets (.control k)).timeout = (s.net.sockets (.control k)).timeout) :
      SetsLimit millis s (.ok (), ⟨{ s.self with timeoutMillis := millis }, net⟩)

theorem setsLimit_applyTimeout (hsocket : s.self.socket = some n) (millis : Int) :
    SetsLimit millis s ((applyTimeout n millis).run s) := by
  unfold applyTimeout
  by_cases hmillis : millis < 0
  · rw [if_pos hmillis]
    exact .negative hmillis
  rw [if_neg hmillis]
  cases hlimit : Timeout.ofMillis millis with
  | error e =>
    obtain rfl := Timeout.ofMillis_error hlimit
    exact .tooLarge hlimit
  | ok limit =>
    have hpos : 0 ≤ millis := not_lt.mp hmillis
    have hvalid := Timeout.isNegative_of_ofMillis hpos hlimit
    obtain ⟨net, hset, htimeout, hothers⟩ :=
      Net.run_setTimeout_cases hvalid (.control n) s.net
    have others : ∀ k, k ≠ n →
        (net.sockets (.control k)).timeout = (s.net.sockets (.control k)).timeout :=
      fun k hk => hothers (.control k) (by simpa using hk)
    rw [← htimeout] at hlimit
    rw [Effect.ofExcept, pure_bind]
    obtain ⟨why, hset⟩ | hset := hset
    · have hcall : (call (Net.setTimeout (.control n) limit) : Op Channel Unit).run s =
          (.error (.system why), ⟨s.self, net⟩) := run_call hset
      rw [run_bind_error hcall]
      exact .refused hsocket hpos hlimit others
    · have hcall : (call (Net.setTimeout (.control n) limit) : Op Channel Unit).run s =
          (.ok (), ⟨s.self, net⟩) := run_call hset
      rw [run_bind_ok hcall]
      exact .taken hsocket hpos hlimit others

theorem setsLimit_setTimeout (millis : Int) (s : Live Channel) :
    SetsLimit millis s ((setTimeout millis).run s) := by
  rw [setTimeout, run_look]
  cases hsocket : s.self.socket with
  | none => exact .bare hsocket
  | some n => exact setsLimit_applyTimeout hsocket millis

theorem SetsLimit.agreed {r : Except Failure Unit × Live Channel} (h : SetsLimit millis s r)
    (hr : r.1 = .ok ()) : Agreed r.2 := by
  cases h with
  | @taken n net socket hpos limit => exact ⟨n, socket, hpos, limit⟩
  | _ => cases hr

/-- Where no limit is set, none is remembered. -/
theorem SetsLimit.self_eq {r : Except Failure Unit × Live Channel} {e : Failure}
    (h : SetsLimit millis s r) (hr : r.1 = .error e) : r.2.self = s.self := by
  cases h with
  | taken => cases hr
  | _ => rfl

/-- Unless the system refuses it, that of the socket stays too. -/
theorem SetsLimit.eq {r : Except Failure Unit × Live Channel} {e : Failure}
    (h : SetsLimit millis s r) (hr : r.1 = .error e) (he : ¬ e.IsSystem) : r.2 = s := by
  cases h with
  | taken => cases hr
  | @refused n why =>
    cases hr
    exact absurd ⟨why, rfl⟩ he
  | _ => rfl

/-- The limit that the system refused although the socket has it, behind one more attempt to set
one. -/
def refusedAfter {α : Type} (millis : Int) (refused : Option Int) : Except Failure α → Option Int
  | .ok _ => none
  | .error (.system _) => some millis
  | .error _ => refused

theorem SetsLimit.paced {r : Except Failure Unit × Live Channel} (h : SetsLimit millis s r)
    (hs : Paced refused s) : Paced (refusedAfter millis refused r.1) r.2 := by
  cases h with
  | bare => exact hs
  | negative => exact hs
  | tooLarge => exact hs
  | @refused n why net socket hpos limit =>
    intro hstate
    obtain ⟨_, _, hmillis, _⟩ := hs hstate
    exact ⟨n, socket, hmillis, limit⟩
  | @taken n net socket hpos limit => exact fun _ => ⟨n, socket, hpos, limit⟩

/-! ## Connecting -/

theorem meets_applyTimeout_agreed (n : Nat) (millis : Int) :
    Meets (fun s => s.self.socket = some n) (applyTimeout n millis) (fun _ => Agreed)
      fun _ _ => True := by
  intro s hs
  have h := setsLimit_applyTimeout hs millis
  rcases hrun : (applyTimeout n millis).run s with ⟨e | ⟨⟩, t⟩
  · trivial
  · rw [hrun] at h
    exact h.agreed rfl

theorem meets_greet_agreed (n : Nat) (millis : Int) :
    Meets (fun s => s.self.socket = some n) (greet n millis) (fun _ => Agreed)
      fun _ _ => True := by
  have kept {β : Type} {m : Op Channel β} (hm : Keeps Unmoved m) :
      Meets Agreed m (fun _ => Agreed) fun _ _ => True :=
    (Meets.ofKeeps hm fun _ _ hs h => hs.unmoved h).failing fun _ _ _ => trivial
  apply Meets.bind (meets_applyTimeout_agreed n millis)
  intro _
  apply Meets.bind (kept (unmoved_call (Net.keepsLimits_openReader n)))
  intro _
  apply Meets.bind (kept (.change fun s => ⟨⟨rfl, refl_of _ s.net⟩, rfl⟩))
  intro _
  apply Meets.bind (kept (unmoved_call (Net.keepsLimits_openWriter n)))
  intro _
  apply Meets.bind (kept (.change fun s => ⟨⟨rfl, refl_of _ s.net⟩, rfl⟩))
  intro _
  apply Meets.bind (kept unmoved_receive)
  intro reply
  exact kept (.ofExcept _)

/-- A connection that has come about is under the limit asked for. -/
theorem meets_connect_agreed (peer : Target) (millis : Int) :
    Meets (fun _ => True) (connect peer millis) (fun _ => Agreed) fun _ _ => True := by
  have dialled : Meets (fun _ => True) (dial peer millis) (fun n s => s.self.socket = some n)
      fun _ _ => True := by
    refine .skip fun limit => .skip fun n => ?_
    apply Meets.bind (Q := fun _ s => s.self.socket = some n)
    · exact .change fun _ _ => rfl
    intro _
    exact .pure fun _ h => h
  have greeted (n : Nat) : Meets (fun s => s.self.socket = some n)
      ((greet n millis).rescue fun e => do
        log .error s!"✗ Greeting from {peer.text} rejected, closing control socket"
        change fun c => { c with tracing := false }
        releaseQuietly
        fail e)
      (fun _ => Agreed) fun _ _ => True :=
    .rescue (meets_greet_agreed n millis) fun _ =>
      .skip fun _ => .skip fun _ => .skip fun _ => .fail fun _ _ => trivial
  have finished (banner : Reply) : Meets Agreed (do
      change fun c => { c with banner := some banner, state := .connected, tracing := false }
      log .info s!"✓ Connected to {peer.text}"
      return banner)
      (fun _ => Agreed) fun _ _ => True := by
    apply Meets.bind (Q := fun _ => Agreed)
    · exact .change fun _ h => h
    intro _
    apply Meets.bind (Q := fun _ => Agreed)
    · have logged : Keeps Unmoved (log .info s!"✓ Connected to {peer.text}") :=
        unmoved_call (Net.keepsLimits_log _ _ _)
      exact (Meets.ofKeeps logged fun _ _ hs h => hs.unmoved h).failing fun _ _ _ => trivial
    intro _
    exact .pure fun _ h => h
  refine .skip fun c => .ite (.failed fun _ _ => trivial) ?_
  refine .skip fun _ => .skip fun _ => ?_
  apply Meets.bind dialled
  intro n
  exact .bind (greeted n) finished

/-- A connection that does not come about leaves no limit to speak of. -/
theorem Paced.connect (hs : Paced refused s) (peer : Target) (millis : Int) :
    (∀ banner, ((Channel.connect peer millis).run s).1 = .ok banner →
        Paced none ((Channel.connect peer millis).run s).2) ∧
      ∀ e, ((Channel.connect peer millis).run s).1 = .error e →
        Paced refused ((Channel.connect peer millis).run s).2 := by
  by_cases hstate : s.self.state = .unconnected
  swap
  · rw [run_connect_again hstate]
    exact ⟨nofun, fun _ _ => hs⟩
  have hagreed := meets_connect_agreed peer millis s trivial
  rcases hrun : (Channel.connect peer millis).run s with ⟨e | banner, t⟩
  · refine ⟨nofun, fun _ _ hconnected => ?_⟩
    cases connects_of_run hstate hrun with
    | unusable _ hself => simp [hself, hstate] at hconnected
    | refused _ _ hself => simp [hself] at hconnected
    | ungreeted _ hclosed => simp [hclosed] at hconnected
  · rw [hrun] at hagreed
    exact ⟨fun _ _ _ => hagreed, nofun⟩

/-! ## All of its life -/

/-- The same behind any operation. A new connection starts afresh. -/
def Operation.refusedAfter (op : Operation) (refused : Option Int) (r : Except Failure Answer) :
    Option Int :=
  match op with
  | connect .. => if r.isOk then none else refused
  | setTimeout millis => Channel.refusedAfter millis refused r
  | _ => refused

/-- A new channel after any number of its operations, with anything done to the network in between
but to the limits of control sockets; and the limit refused since one was last taken, if any. -/
inductive Unshared : Option Int → Live Channel → Prop
  | start (net : Network) : Unshared none ⟨{}, net⟩
  | after (op : Operation) {refused : Option Int} {s : Live Channel} (h : Unshared refused s) :
      Unshared (op.refusedAfter refused (op.perform.run s).1) (op.perform.run s).2
  | elsewhere {refused : Option Int} {c : Channel} {net net' : Network}
      (h : Unshared refused ⟨c, net⟩) (hnet : net.SameLimits net') : Unshared refused ⟨c, net'⟩

theorem run_perform_setTimeout (millis : Int) (s : Live Channel) :
    (Operation.setTimeout millis).perform.run s =
      (((setTimeout millis).run s).1.map fun _ => .nothing, ((setTimeout millis).run s).2) := by
  rw [Operation.perform, run_bind]
  cases (setTimeout millis).run s with
  | mk r t => cases r <;> rfl

theorem refusedAfter_map {α β : Type} (f : α → β) (r : Except Failure α) :
    refusedAfter millis refused (r.map f) = refusedAfter millis refused r := by
  cases r with
  | ok => rfl
  | error e => cases e <;> rfl

theorem Paced.perform (hs : Paced refused s) (op : Operation) :
    Paced (op.refusedAfter refused (op.perform.run s).1) (op.perform.run s).2 := by
  by_cases hop : op.Limiting
  swap
  · have hcalm := (calm_perform hop s).paced refused hs
    cases op with
    | connect peer millis => exact absurd trivial hop
    | setTimeout millis => exact absurd trivial hop
    | _ => exact hcalm
  cases op with
  | connect peer millis =>
    obtain ⟨hok, herror⟩ := hs.connect peer millis
    rw [Operation.perform, run_map]
    dsimp only [Operation.refusedAfter]
    cases hr : ((Channel.connect peer millis).run s).1 with
    | ok banner => exact hok banner hr
    | error e => exact herror e hr
  | setTimeout millis =>
    rw [run_perform_setTimeout]
    dsimp only [Operation.refusedAfter]
    rw [refusedAfter_map]
    exact (setsLimit_setTimeout millis s).paced hs
  | _ => exact hop.elim

theorem paced_of_unshared (h : Unshared refused s) : Paced refused s := by
  induction h with
  | start net => exact fun hstate => by cases hstate
  | after op _ ih => exact ih.perform op
  | @elsewhere refused c net net' _ hnet ih => exact ih.unmoved ⟨⟨rfl, hnet⟩, rfl⟩ id

/-- What the socket was asked for is the nearest double of a thousandth, and it keeps that in whole
nanoseconds. -/
theorem Asked.limit (h : Asked asked s) : ∃ n limit, s.self.socket = some n ∧
    0 ≤ s.self.timeoutMillis ∧ Timeout.ofMillis asked = .ok limit ∧ limit.Thousandth asked ∧
      (s.net.sockets (.control n)).limit? = limit.kept? ∧
        ∀ kept, limit.kept? = some kept → limit.Kept kept := by
  obtain ⟨n, hsocket, hpos, hlimit⟩ := h
  exact ⟨n, _, hsocket, hpos, hlimit, Timeout.thousandth_of_ofMillis hlimit, rfl,
    fun _ => Timeout.kept_of_kept?⟩

/-- While a channel is connected, its socket keeps the limit that the channel remembers in whole
nanoseconds, or one that the system refused since. A limit that is not taken leaves the one
remembered alone, and that of the socket unless it is the system that refuses it. Of the other
operations only connecting changes either. -/
theorem agreed_of_unshared (hs : Unshared refused s) :
    (s.self.state = .connected → ∃ n limit, s.self.socket = some n ∧ 0 ≤ s.self.timeoutMillis ∧
      Timeout.ofMillis (refused.getD s.self.timeoutMillis) = .ok limit ∧
        limit.Thousandth (refused.getD s.self.timeoutMillis) ∧
          (s.net.sockets (.control n)).limit? = limit.kept? ∧
            ∀ kept, limit.kept? = some kept → limit.Kept kept) ∧
      (∀ millis, SetsLimit millis s ((setTimeout millis).run s)) ∧
      (∀ millis e, ((setTimeout millis).run s).1 = .error e →
        ((setTimeout millis).run s).2.self = s.self ∧
          (¬ e.IsSystem → ((setTimeout millis).run s).2 = s)) ∧
      ∀ op : Operation, ¬ op.Limiting → SamePace s (op.perform.run s).2 := by
  refine ⟨fun hstate => (paced_of_unshared hs hstate).limit,
    fun millis => setsLimit_setTimeout millis s, fun millis e he => ?_,
    fun op hop => (calm_perform hop s).toSamePace⟩
  have h := setsLimit_setTimeout millis s
  exact ⟨h.self_eq he, h.eq he⟩

/-- The channel of a caller who waits without a limit. -/
def patientVisit : Live Channel :=
  ((Operation.setTimeout 0).perform.run hostileVisit).2

theorem unshared_patientVisit : Unshared none patientVisit := by
  have hvisit : Unshared none hostileVisit :=
    .after (.connect ⟨some "ftp.test", 21⟩ 10000) (.start hostileServer)
  have hnone : (Operation.setTimeout 0).refusedAfter none
      ((Operation.setTimeout 0).perform.run hostileVisit).1 = none := by
    decide +kernel
  have h := hvisit.after (.setTimeout 0)
  rwa [hnone] at h

theorem agreed_of_patientVisit :
    patientVisit.self.state = .connected ∧ patientVisit.self.timeoutMillis = 0 ∧
      (∃ n limit, patientVisit.self.socket = some n ∧ Timeout.ofMillis 0 = .ok limit ∧
        limit.Thousandth 0 ∧ (patientVisit.net.sockets (.control n)).limit? = limit.kept?) ∧
        ((setTimeout (-1)).run patientVisit).1 = .error (.value (.negativeTimeout (-1))) ∧
          ((setTimeout (-1)).run patientVisit).2 = patientVisit := by
  have hstate : patientVisit.self.state = .connected := by decide +kernel
  have hmillis : patientVisit.self.timeoutMillis = 0 := by decide +kernel
  have hfails :
      ((setTimeout (-1)).run patientVisit).1 = .error (.value (.negativeTimeout (-1))) := by
    decide +kernel
  obtain ⟨hagreed, -, hkept, -⟩ := agreed_of_unshared unshared_patientVisit
  obtain ⟨n, limit, hsocket, -, hlimit, hthousandth, hreal, -⟩ := hagreed hstate
  simp only [Option.getD_none, hmillis] at hlimit hthousandth
  refine ⟨hstate, hmillis, ⟨n, limit, hsocket, hlimit, hthousandth, hreal⟩, hfails, ?_⟩
  exact (hkept (-1) _ hfails).2 (by rintro ⟨why, ⟨⟩⟩)

/-- A server that greets, on a system that does not let a second limit be set. -/
def stubbornServer : Network where
  script.controls := [{
    socket.timeoutErrors := [none, some "[Errno 22] Invalid argument"]
    banner := Text.encodeUtf8 "220 hi\r\n".toList }]

/-- The channel of a caller who waits for 67 milliseconds. -/
def hastyVisit : Live Channel :=
  ((Operation.connect ⟨some "ftp.test", 21⟩ 67).perform.run ⟨{}, stubbornServer⟩).2

/-- Its socket says that it is under a limit of a nanosecond more, and one that is refused after
that is the socket's and not the channel's. -/
theorem disagreed_of_hastyVisit :
    hastyVisit.self.state = .connected ∧ hastyVisit.self.socket = some 0 ∧
      (∃ limit kept, Timeout.ofMillis hastyVisit.self.timeoutMillis = .ok limit ∧
        (hastyVisit.net.sockets (.control 0)).limit? = some kept ∧ kept ≠ limit) ∧
      ((setTimeout 5000).run hastyVisit).1 = .error (.system "[Errno 22] Invalid argument") ∧
      ((setTimeout 5000).run hastyVisit).2.self = hastyVisit.self ∧
      (((setTimeout 5000).run hastyVisit).2.net.sockets (.control 0)).limit? =
        some (.seconds ⟨false, 5 * 2 ^ 50, -50⟩) := by
  refine ⟨by decide +kernel, by decide +kernel, ?_, by decide +kernel, by decide +kernel,
    by decide +kernel⟩
  exact ⟨.seconds ⟨false, 4827858800541172, -56⟩, .seconds ⟨false, 4827858872598766, -56⟩,
    by decide +kernel, by decide +kernel, by decide⟩

end Channel

end FtpControl
