import FtpControl.Proofs.Channel.Blame
import FtpControl.Proofs.Channel.Greeting
import FtpControl.Proofs.Negotiation.Announcing
import FtpControl.Proofs.Probe.Negotiating

/-!
# Operations that expose errors of the system

A channel turns an error of the system into a fault wherever it expects one. It does not expect one
between dialling and the greeting, from a new time limit, from a question for an address, and from
closing the listener of a negotiation that has failed. There the error reaches the caller bare.
-/

namespace FtpControl

open Effect Live

variable {σ α β : Type}

/-- What may come of arguments that make sense. -/
def Failure.IsUsual (e : Failure) : Prop :=
  e.IsFault ∨ e.IsSystem

theorem usual_of_faults {m : Op σ α} (hm : Fails Failure.IsFault m) : Fails Failure.IsUsual m :=
  hm.imp fun _ => .inl

theorem usual_of_system {m : Op σ α} (hm : Fails Failure.IsSystem m) : Fails Failure.IsUsual m :=
  hm.imp fun _ => .inr

/-- How an effect fails. An error of the system gets through exactly if `exposed`. All other
failures are faults, if the arguments are `sensible`, and those that tell of an error of the system
say so by their kind. -/
structure Tags (sensible exposed : Prop) (m : Op σ α) (s : Live σ) : Prop where
  bare_iff : (∃ why, (m.run s).1 = .error (.system why)) ↔ exposed
  tagged : sensible → ¬ exposed → ∀ e, (m.run s).1 = .error e →
    ∃ f, e = .fault f ∧ ∀ why, f.account? = some why → f.kind = .io

section Tags

variable {sensible exposed : Prop} {m : Op σ α} {s : Live σ}

theorem tags_of_usual (hbare : (∃ why, (m.run s).1 = .error (.system why)) ↔ exposed)
    (husual : sensible → ∀ e, (m.run s).1 = .error e → e.IsUsual) : Tags sensible exposed m s := by
  constructor
  · exact hbare
  · intro hsensible hnot e he
    obtain ⟨f, rfl⟩ | ⟨why, rfl⟩ := husual hsensible e he
    · exact ⟨f, rfl, fun _ => Fault.kind_of_account⟩
    · exact absurd (hbare.1 ⟨why, he⟩) hnot

/-- Where faults and errors of the system are all there is, the latter are what escapes. -/
theorem tags_of_escapes (husual : ∀ e, (m.run s).1 = .error e → e.IsUsual)
    (h : Escapes Failure.IsFault m s ↔ exposed) : Tags sensible exposed m s := by
  apply tags_of_usual _ fun _ => husual
  rw [← h]
  constructor
  · rintro ⟨why, hrun⟩
    exact ⟨_, hrun, Failure.IsSystem.not_isFault ⟨why, rfl⟩⟩
  · rintro ⟨e, hrun, hfault⟩
    obtain ⟨why, rfl⟩ := (husual e hrun).resolve_left hfault
    exact ⟨why, hrun⟩

theorem tags_of_faults (hfault : ∀ e, (m.run s).1 = .error e → e.IsFault) (hnot : ¬ exposed) :
    Tags sensible exposed m s := by
  apply tags_of_escapes fun e he => .inl (hfault e he)
  apply iff_of_false _ hnot
  rintro ⟨e, he, hbare⟩
  exact hbare (hfault e he)

/-- An effect whose arguments make no sense. -/
theorem tags_of_refusal (hsensible : ¬ sensible)
    (hsystem : ∀ e, (m.run s).1 = .error e → ¬ e.IsSystem) (hnot : ¬ exposed) :
    Tags sensible exposed m s := by
  apply tags_of_usual
  · apply iff_of_false _ hnot
    rintro ⟨why, he⟩
    exact hsystem _ he ⟨why, rfl⟩
  · exact fun h => absurd h hsensible

theorem tags_of_ok {a : α} (hrun : (m.run s).1 = .ok a) (hnot : ¬ exposed) :
    Tags sensible exposed m s := by
  apply tags_of_faults _ hnot
  rw [hrun]
  rintro e ⟨⟩

theorem tags_of_fault {f : Fault} (hrun : (m.run s).1 = .error (.fault f)) (hnot : ¬ exposed) :
    Tags sensible exposed m s := by
  apply tags_of_faults _ hnot
  rw [hrun]
  rintro _ ⟨⟩
  exact ⟨f, rfl⟩

theorem tags_of_bare {why : String} (hrun : (m.run s).1 = .error (.system why))
    (hexposed : exposed) : Tags sensible exposed m s :=
  ⟨iff_of_true ⟨why, hrun⟩ hexposed, fun _ hnot => absurd hexposed hnot⟩

theorem Tags.of_run {m' : Op σ α} (h : Tags sensible exposed m s)
    (hrun : (m'.run s).1 = (m.run s).1) : Tags sensible exposed m' s := by
  constructor
  · rw [hrun]
    exact h.bare_iff
  · rw [hrun]
    exact h.tagged

theorem Tags.map (f : α → β) (h : Tags sensible exposed m s) :
    Tags sensible exposed (f <$> m) s := by
  have same : ∀ e, ((f <$> m).run s).1 = .error e ↔ (m.run s).1 = .error e := by
    intro e
    rw [run_map]
    cases (m.run s).1 <;> simp [Except.map]
  constructor
  · simpa only [same] using h.bare_iff
  · simpa only [same] using h.tagged

end Tags

namespace Channel

variable {s : Live Channel} {n : Nat} {millis : Int}

/-! ## Connecting -/

theorem tags_connect (s : Live Channel) (peer : Target) (millis : Int) :
    Tags (Timeout.Usable millis)
      (s.self.state = .unconnected ∧ Timeout.Usable millis ∧
        s.net.script.nextControl.socket.failure = none ∧ s.net.script.nextControl.Hampered)
      (connect peer millis) s := by
  by_cases hstate : s.self.state = .unconnected
  swap
  · have hrun := run_connect_again hstate peer millis
    exact tags_of_fault (congrArg Prod.fst hrun) fun h => hstate h.1
  rcases hrun : (connect peer millis).run s with ⟨result, t⟩
  have hresult : ((connect peer millis).run s).1 = result := congrArg Prod.fst hrun
  cases connects_of_run hstate hrun with
  | unusable hlimit hself he =>
    apply tags_of_refusal hlimit _ fun h => hlimit h.2.1
    rw [hresult]
    rintro _ ⟨⟩ ⟨why, rfl⟩
    simp at he
  | refused hlimit hwhy hself => exact tags_of_fault hresult fun h => by simp [hwhy] at h
  | ungreeted h hclosed htracing =>
    obtain ⟨n, k, hfirst, -⟩ := h.first
    obtain ⟨hp, why, rfl⟩ | ⟨hp, f, rfl⟩ := ControlPlan.setUp_error_cases hfirst
    · exact tags_of_bare hresult ⟨hstate, h.reaches.1, h.reaches.2, hp⟩
    · exact tags_of_fault hresult fun h => hp h.2.2.2
  | greeted h hbanner hself =>
    exact tags_of_ok hresult fun h => ControlPlan.not_hampered_of_setUp hbanner h.2.2.2

/-! ## Settings and questions -/

theorem run_applyTimeout_usable (h : Timeout.Usable millis)
    (hopen : (s.net.sockets (.control n)).isOpen = true) :
    ((applyTimeout n millis).run s).1 =
      match (s.net.sockets (.control n)).timeoutErrors.headD none with
      | none => .ok ()
      | some why => .error (.system why) := by
  obtain ⟨hmillis, limit, hlimit⟩ := h
  have hset := Net.run_setTimeout (Timeout.isNegative_of_ofMillis hmillis hlimit) hopen
  rw [applyTimeout, if_neg (not_lt.2 hmillis), hlimit, Effect.ofExcept, pure_bind, run_bind,
    Live.call, run_zoom, hset]
  cases (s.net.sockets (.control n)).timeoutErrors.headD none <;> rfl

theorem tags_setTimeout (hlife : Lifecycle s) (hstate : s.self.state = .connected) (millis : Int) :
    Tags (Timeout.Usable millis)
      (∃ n, s.self.socket = some n ∧ Timeout.Usable millis ∧
        (s.net.sockets (.control n)).timeoutErrors.headD none ≠ none)
      (setTimeout millis) s := by
  obtain ⟨n, hsocket, hopen⟩ := open_of_lifecycle hlife hstate
  have hrun : (setTimeout millis).run s = (applyTimeout n millis).run s := by
    rw [setTimeout, run_look, hsocket]
  by_cases husable : Timeout.Usable millis
  · have hset := run_applyTimeout_usable husable hopen
    rw [← hrun] at hset
    cases herror : (s.net.sockets (.control n)).timeoutErrors.headD none with
    | none =>
      rw [herror] at hset
      apply tags_of_ok hset
      rintro ⟨m, hm, -, hrefused⟩
      cases hsocket.symm.trans hm
      exact hrefused herror
    | some why =>
      rw [herror] at hset
      exact tags_of_bare hset ⟨n, hsocket, husable, by rw [herror]; exact Option.some_ne_none why⟩
  · have hfails := fails_applyTimeout n millis s
    rw [← hrun] at hfails
    apply tags_of_refusal husable
    · exact fun e he hsystem => husable ((hfails e he).2.1 hsystem)
    · rintro ⟨_, -, h, -⟩
      exact husable h

theorem run_remoteAddress (hstate : s.self.state = .connected) (hsocket : s.self.socket = some n)
    (hopen : (s.net.sockets (.control n)).isOpen = true) :
    remoteAddress.run s =
      (match (s.net.sockets (.control n)).peerAddress with
        | .ok peer => .ok peer
        | .error why => .error (.system why), s) := by
  rw [remoteAddress, run_bind_ok (run_connectedSocket hstate hsocket _)]
  exact congrArg (fun r => (r.1, (⟨s.self, r.2⟩ : Live Channel))) (Net.run_peerAddress hopen)

theorem tags_localHost (hlife : Lifecycle s) (hstate : s.self.state = .connected)
    (sensible : Prop) :
    Tags sensible
      (∃ n why, s.self.socket = some n ∧ (s.net.sockets (.control n)).ownAddress = .error why)
      localHost s := by
  obtain ⟨n, hsocket, hopen⟩ := open_of_lifecycle hlife hstate
  have hrun := run_localHost hstate hsocket hopen
  cases hown : (s.net.sockets (.control n)).ownAddress with
  | ok own =>
    rw [hown] at hrun
    apply tags_of_ok (congrArg Prod.fst hrun)
    simp [hsocket, hown]
  | error why =>
    rw [hown] at hrun
    exact tags_of_bare (congrArg Prod.fst hrun) ⟨n, why, hsocket, hown⟩

theorem tags_remoteAddress (hlife : Lifecycle s) (hstate : s.self.state = .connected)
    (sensible : Prop) :
    Tags sensible
      (∃ n why, s.self.socket = some n ∧ (s.net.sockets (.control n)).peerAddress = .error why)
      remoteAddress s := by
  obtain ⟨n, hsocket, hopen⟩ := open_of_lifecycle hlife hstate
  have hrun := run_remoteAddress hstate hsocket hopen
  cases hpeer : (s.net.sockets (.control n)).peerAddress with
  | ok peer =>
    rw [hpeer] at hrun
    apply tags_of_ok (congrArg Prod.fst hrun)
    simp [hsocket, hpeer]
  | error why =>
    rw [hpeer] at hrun
    exact tags_of_bare (congrArg Prod.fst hrun) ⟨n, why, hsocket, hpeer⟩

/-- A name that cannot be found is made do without. -/
theorem tags_remoteHostName (hlife : Lifecycle s) (hstate : s.self.state = .connected)
    (sensible : Prop) :
    Tags sensible
      (∃ n why, s.self.socket = some n ∧ (s.net.sockets (.control n)).peerAddress = .error why)
      remoteHostName s := by
  obtain ⟨n, hsocket, hopen⟩ := open_of_lifecycle hlife hstate
  have hrun := run_remoteAddress hstate hsocket hopen
  cases hpeer : (s.net.sockets (.control n)).peerAddress with
  | ok peer =>
    rw [hpeer] at hrun
    apply tags_of_faults _ (by simp [hsocket, hpeer])
    rw [remoteHostName, run_bind_ok hrun]
    refine Fails.rescue (.call (Net.fails_lookUp peer.host)) ?_ s
    rintro _ ⟨why, rfl⟩
    exact .pure _
  | error why =>
    rw [hpeer] at hrun
    have hfailed : (remoteHostName.run s).1 = .error (.system why) := by
      rw [remoteHostName, run_bind_error hrun]
    exact tags_of_bare hfailed ⟨n, why, hsocket, hpeer⟩

/-! ## Negotiating -/

theorem fails_announce (n : Nat) (host : String) :
    Fails Failure.IsUsual (Negotiation.announce n host) := by
  refine .bind (usual_of_system (.call (Net.fails_bind n host))) fun _ => ?_
  refine .bind (usual_of_system (.call (Net.fails_listen n 1))) fun _ => ?_
  refine .bind (usual_of_system (.call (Net.fails_ownAddress _))) fun own => ?_
  refine .bind (.call (Net.fails_log _ _ _)) fun _ => ?_
  split
  · next e _ =>
    have sent := usual_of_faults (fails_send (Endpoint.masked_portCommand e))
    refine .value (.bind sent fun answer => ?_)
    refine .bind (.ofExcept fun _ he => .inl (isFault_of_validate he)) fun reply => ?_
    exact .bind .this fun _ => .pure _
  · exact .failed (.inl ⟨_, rfl⟩)

theorem fails_active : Fails Failure.IsUsual Negotiation.active := by
  have located : Fails Failure.IsUsual localHost := by
    refine .bind (usual_of_faults ?_) fun h => ?_
    · exact .bind (fails_requireConnected _) fun _ => .bind .this fun c => by
        cases c.socket with
        | none => exact fails_fault _
        | some n => exact .pure _
    · exact .bind (usual_of_system (.call (Net.fails_ownAddress h))) fun _ => .pure _
  refine .bind located fun host => .bind (.call Net.fails_openListener) fun n => ?_
  refine .rescue (fails_announce n host) fun e he => ?_
  refine .bind (usual_of_system (.call (Net.fails_close _))) fun _ => ?_
  split
  · exact .fail (.inl ⟨_, rfl⟩)
  · exact .fail he

/-- A listener that cannot be announced is closed, and its refusal to close hides the reason. -/
theorem tags_active (hlife : Lifecycle s) (hstate : s.self.state = .connected) (sensible : Prop) :
    Tags sensible
      ((∃ n why, s.self.socket = some n ∧ (s.net.sockets (.control n)).ownAddress = .error why) ∨
        ∃ n own, s.self.socket = some n ∧ (s.net.sockets (.control n)).ownAddress = .ok own ∧
          ¬ s.net.Announceable n own.host ∧ s.net.script.nextListener.socket.closeError ≠ none)
      Negotiation.active s := by
  apply tags_of_escapes (fails_active s)
  have trips := (Probe.meets_active_trips hlife hstate).yields fun _ _ h => h.1
  apply (Escapes.iff_of_meets trips rfl).trans
  obtain ⟨n, hequipped, -⟩ := equipped_of_connected hlife hstate
  obtain ⟨n', hsocket, hopen⟩ := open_of_lifecycle hlife hstate
  obtain rfl : n' = n := Option.some.inj (hsocket.symm.trans hequipped.1)
  have vain : ∀ {own : Address}, (s.net.sockets (.control n')).ownAddress = .ok own →
      ((∃ e, (Negotiation.active.run s).1 = .error e) ↔ ¬ s.net.Announceable n' own.host) := by
    intro own hown
    apply Negotiation.active_error_iff hstate hequipped.2.2.1 hequipped.2.2.2
    rw [run_localHost hstate hsocket hopen, hown]
  constructor
  · rintro (⟨hsocket', hown⟩ | ⟨hrun, hclose⟩)
    · exact .inl ⟨_, _, hsocket', hown⟩
    · cases hown : (s.net.sockets (.control n')).ownAddress with
      | error why => exact .inl ⟨n', why, hsocket, hown⟩
      | ok own =>
        refine .inr ⟨n', own, hsocket, hown, (vain hown).1 ⟨_, by rw [hrun]⟩, ?_⟩
        rw [hclose]
        exact Option.some_ne_none _
  · rintro (⟨n, why, hsocket', hown⟩ | ⟨n, own, hsocket', hown, hnot, hclose⟩)
    · exact .address hsocket' hown
    · obtain rfl : n = n' := Option.some.inj (hsocket'.symm.trans hsocket)
      obtain ⟨e, hrun⟩ := (vain hown).2 hnot
      obtain ⟨why, hwhy⟩ := Option.ne_none_iff_exists'.1 hclose
      exact .listener (Prod.ext hrun rfl) hwhy

/-! ## All operations -/

/-- Arguments that an operation can do something with. -/
def Operation.Sensible : Operation → Prop
  | connect _ millis | setTimeout millis => Timeout.Usable millis
  | send command => ¬ Command.Cramped command
  | _ => True

/-- Where an error of the system reaches the caller bare: a connection comes about and cannot be
set up, a limit is refused, an address cannot be told, or a listener that cannot be announced cannot
be closed either. -/
def Operation.Exposed (s : Live Channel) : Operation → Prop
  | connect _ millis =>
    s.self.state = .unconnected ∧ Timeout.Usable millis ∧
      s.net.script.nextControl.socket.failure = none ∧ s.net.script.nextControl.Hampered
  | setTimeout millis =>
    ∃ n, s.self.socket = some n ∧ Timeout.Usable millis ∧
      (s.net.sockets (.control n)).timeoutErrors.headD none ≠ none
  | localHost =>
    ∃ n why, s.self.socket = some n ∧ (s.net.sockets (.control n)).ownAddress = .error why
  | remoteAddress | remoteHostName =>
    ∃ n why, s.self.socket = some n ∧ (s.net.sockets (.control n)).peerAddress = .error why
  | negotiate .active =>
    (∃ n why, s.self.socket = some n ∧ (s.net.sockets (.control n)).ownAddress = .error why) ∨
      ∃ n own, s.self.socket = some n ∧ (s.net.sockets (.control n)).ownAddress = .ok own ∧
        ¬ s.net.Announceable n own.host ∧ s.net.script.nextListener.socket.closeError ≠ none
  | _ => False

/-- A channel that is not connected has nothing to expose but a failure to connect. -/
theorem not_exposed_of_barred {op : Operation} (hsocket : s.self.socket = none)
    (h : op.Barred s.self.state) : ¬ op.Exposed s := by
  cases op with
  | connect peer millis =>
    have hclosed : s.self.state = .closed := h
    simp [Operation.Exposed, hclosed]
  | negotiate mode => cases mode <;> simp [Operation.Exposed, hsocket]
  | _ => simp [Operation.Exposed, hsocket]

theorem tags_perform_of_idle {op : Operation} (hstate : s.self.state ≠ .connected)
    (hsocket : s.self.socket = none) (h : op.Barred s.self.state) :
    Tags op.Sensible (op.Exposed s) op.perform s := by
  have hnot := not_exposed_of_barred hsocket h
  have hrun : (op.perform.run s).1 = op.rebuff s.self.state := by
    rw [run_perform_of_idle hstate hsocket h]
  obtain ⟨hok, -⟩ | ⟨f, hfault, -⟩ := rebuff_cases h
  · exact tags_of_ok (hrun.trans hok) hnot
  · exact tags_of_fault (hrun.trans hfault) hnot

theorem tags_send (s : Live Channel) (command : String) :
    Tags (¬ Command.Cramped command) False (send command) s := by
  by_cases hcramped : Command.Cramped command
  · have hmasked := Command.masked_eq_error_iff.2 ⟨hcramped, rfl⟩
    have refused : Fails (fun e => ¬ e.IsSystem) (send command) := by
      unfold send
      rw [hmasked]
      refine .bind ((fails_requireConnected _).imp fun e he hsystem => hsystem.not_isFault he)
        fun _ => .failed ?_
      rintro ⟨why, ⟨⟩⟩
    exact tags_of_refusal (not_not.2 hcramped) (refused s) id
  · obtain ⟨shown, hshown⟩ := Command.masked_of_not_cramped hcramped
    exact tags_of_faults (fails_send hshown s) id

theorem tags_passive (hlife : Lifecycle s) (sensible : Prop) :
    Tags sensible False Negotiation.passive s := by
  apply tags_of_faults _ id
  intro e he
  have ht := Negotiation.meets_passive_connected s hlife
  rcases hrun : Negotiation.passive.run s with ⟨e' | d, t⟩ <;> rw [hrun] at ht he
  · cases he
    exact ht
  · cases he

theorem tags_perform_of_connected (hlife : Lifecycle s) (hstate : s.self.state = .connected)
    (op : Operation) : Tags op.Sensible (op.Exposed s) op.perform s := by
  cases op with
  | connect peer millis => exact (tags_connect s peer millis).map _
  | send command => exact (tags_send s command).map _
  | read => exact .map _ (tags_of_faults (fails_readReply s) id)
  | setTimeout millis =>
    rw [Operation.perform, bind_pure_comp]
    exact (tags_setTimeout hlife hstate millis).map _
  | setTracing on => exact tags_of_ok (a := .nothing) rfl id
  | localHost => exact (tags_localHost hlife hstate _).map _
  | remoteAddress => exact (tags_remoteAddress hlife hstate _).map _
  | remoteHostName => exact (tags_remoteHostName hlife hstate _).map _
  | negotiate mode =>
    cases mode with
    | active => exact (tags_active hlife hstate _).map _
    | passive => exact (tags_passive hlife _).map _
  | logout =>
    rw [Operation.perform, bind_pure_comp]
    exact .map _ (tags_of_faults (fails_logout s) id)
  | close =>
    rw [Operation.perform, bind_pure_comp]
    exact .map _ (tags_of_faults (fails_close s) id)
  | leave =>
    have left : Fails Failure.IsFault (closing (pure Answer.nothing)) :=
      .ensure (.pure _) (.bind .this fun _ => .ite fails_close (.pure _))
    exact tags_of_faults (left s) id

theorem tags_perform {s : Live Channel} (h : Reachable s) (op : Operation) :
    Tags op.Sensible (op.Exposed s) op.perform s := by
  by_cases hstate : s.self.state = .connected
  · exact tags_perform_of_connected h.lifecycle hstate op
  by_cases hbarred : op.Barred s.self.state
  · exact tags_perform_of_idle hstate (h.lifecycle.sound.bare hstate).1 hbarred
  cases op with
  | connect peer millis => exact (tags_connect s peer millis).map _
  | setTracing on => exact tags_of_ok (a := .nothing) rfl id
  | _ => exact absurd trivial hbarred

end Channel

end FtpControl
