import FtpControl.Proofs.Channel.Hearing
import FtpControl.Proofs.Channel.Rebuffs

/-!
# Accepting a greeting

Connecting a new channel has four ends. If no socket takes the time limit the channel stays new, and
if the server refuses, the channel is closed. Once a connection has come about, the first step that
fails on the way to the greeting is what is reported, whatever comes of closing what has been opened
by then, and the channel is closed without a greeting. If no step fails it is connected.
-/

namespace FtpControl

open Effect Live Reply

/-- Whether the next connection comes about that is dialled with this time limit. -/
def Script.Reaches (script : Script) (millis : Int) : Prop :=
  Timeout.Usable millis ∧ script.nextControl.socket.failure = none

instance (script : Script) (millis : Int) : Decidable (script.Reaches millis) :=
  inferInstanceAs (Decidable (_ ∧ _))

/-- What becomes of a connection that has come about: its greeting, or the error of the first step
that fails, with the number of resources that are open by then. -/
def ControlPlan.setUp (p : ControlPlan) : Except (Nat × Failure) Reply :=
  match p.hindrance? with
  | some (k, why) => .error (k, .system why)
  | none => (Channel.verdict ["220"] (ControlLine.ofPlan p).outcome).mapError (3, ·)

namespace ControlPlan

variable {p : ControlPlan} {k : Nat} {e : Failure} {banner : Reply}

/-- A connection that cannot be set up fails with an error of the system, and an unwelcome greeting
with a fault. -/
theorem setUp_error_cases (h : p.setUp = .error (k, e)) :
    p.Hampered ∧ e.IsSystem ∨ ¬ p.Hampered ∧ e.IsFault := by
  rw [hampered_iff]
  unfold setUp at h
  cases hfirst : p.hindrance? with
  | some first =>
    rw [hfirst] at h
    cases h
    exact .inl ⟨by simp, _, rfl⟩
  | none =>
    rw [hfirst] at h
    dsimp only at h
    cases hverdict : Channel.verdict ["220"] (ControlLine.ofPlan p).outcome with
    | error e' =>
      rw [hverdict] at h
      cases h
      exact .inr ⟨by simp, Channel.isFault_of_verdict hverdict⟩
    | ok reply =>
      rw [hverdict] at h
      cases h

theorem not_hampered_of_setUp (h : p.setUp = .ok banner) : ¬ p.Hampered := by
  rw [hampered_iff, not_not]
  unfold setUp at h
  cases hfirst : p.hindrance? with
  | some first =>
    rw [hfirst] at h
    cases h
  | none => rfl

end ControlPlan

namespace Channel

variable {α : Type} {n : Nat} {line : ControlLine} {o : List Handle} {p : ControlPlan}
  {peer : Target} {millis : Int} {s t u : Live Channel}

/-! ## What the channel knows -/

/-- A run that leaves what the channel knows of its server as it was, and whether it traces. It
makes no channel new. -/
structure Marks (s t : Live Channel) : Prop where
  unconnected : t.self.state = .unconnected → s.self.state = .unconnected
  banner : t.self.banner = s.self.banner
  peer : t.self.peer = s.self.peer
  tracing : t.self.tracing = s.self.tracing

instance : IsPreorder (Live Channel) Marks where
  refl _ := ⟨id, rfl, rfl, rfl⟩
  trans _ _ _ h h' :=
    ⟨fun hs => h.unconnected (h'.unconnected hs), h'.banner.trans h.banner, h'.peer.trans h.peer,
      h'.tracing.trans h.tracing⟩

theorem marks_call (m : Net α) : Keeps Marks (call m : Op Channel α) :=
  fun _ => ⟨id, rfl, rfl, rfl⟩

theorem marks_released (h : t.self = s.self.released) : Marks s t := by
  constructor
  · rw [h]
    rintro ⟨⟩
  · rw [h]; rfl
  · rw [h]; rfl
  · rw [h]; rfl

theorem negotiating_marks : Negotiating Marks where
  log _ _ _ := marks_call _
  setSource _ _ := marks_call _
  release := keeps_release fun _ _ h => marks_released h.1
  transmit _ _ := marks_call _
  ownAddress _ := marks_call _
  openListener := marks_call _
  bind _ _ := marks_call _
  listen _ _ := marks_call _
  closeListener _ := marks_call _
  dialData _ _ := marks_call _

theorem marks_applyTimeout (n : Nat) (millis : Int) : Keeps Marks (applyTimeout n millis) := by
  by_cases hmillis : millis < 0
  · unfold applyTimeout
    rw [if_pos hmillis]
    exact .failed
  · unfold applyTimeout
    rw [if_neg hmillis]
    apply Keeps.given
    intro limit _
    apply Keeps.bind (marks_call _)
    intro _
    exact .change fun _ => ⟨id, rfl, rfl, rfl⟩

theorem marks_prepare (n : Nat) (millis : Int) : Keeps Marks (prepare n millis) := by
  apply Keeps.bind (marks_applyTimeout n millis)
  intro _
  apply Keeps.bind (marks_call _)
  intro _
  apply Keeps.bind (R := Marks) (.change fun _ => ⟨id, rfl, rfl, rfl⟩)
  intro _
  apply Keeps.bind (marks_call _)
  intro _
  exact .change fun _ => ⟨id, rfl, rfl, rfl⟩

theorem marks_greet (n : Nat) (millis : Int) : Keeps Marks (greet n millis) := by
  rw [greet_eq]
  apply Keeps.bind (marks_prepare n millis)
  intro _
  exact .bind (keeps_receive negotiating_marks.log negotiating_marks.setSource) fun _ =>
    .ofExcept _

/-! ## The greeting -/

theorem meets_receive_line :
    Meets (fun s => s.self.replies = some n ∧ s.net.lines n = line ∧ s.net.opened = o) receive
      (fun reply s => line.outcome = .ok reply ∧ s.net.opened = o)
      fun e s => (∃ f, line.outcome = .error f ∧ e = .fault f) ∧ s.net.opened = o := by
  rintro s ⟨hreplies, rfl, rfl⟩
  obtain ⟨t, hreceive, -⟩ := run_receive hreplies
  have hopened := (keeps_receive exchanging_spares.log exchanging_spares.setSource s).opened
  rw [hreceive] at hopened ⊢
  cases (s.net.lines n).outcome with
  | ok reply => exact ⟨rfl, hopened⟩
  | error f => exact ⟨⟨f, rfl, rfl⟩, hopened⟩

/-- A new connection comes as far as its plan says. -/
theorem meets_greet_setUp (h : Timeout.Usable millis) :
    Meets (fun s => Net.Prepared p n s.net ∧ Net.Laid p o n 1 s.net) (greet n millis)
      (fun banner _ => p.setUp = .ok banner)
      fun e s => ∃ k, p.setUp = .error (k, e) ∧ s.net.opened = o ++ (Handle.line n).take k := by
  rw [greet_eq]
  apply Meets.bind ((meets_prepare h).failing ?_)
  swap
  · rintro e s ⟨k, why, hwhy, rfl, hs⟩
    refine ⟨k, ?_, hs.opened⟩
    rw [ControlPlan.setUp, hwhy]
  intro _
  apply Meets.assuming
  intro hfree
  have hsetUp : p.setUp =
      (verdict ["220"] (ControlLine.ofPlan p).outcome).mapError (3, ·) := by
    rw [ControlPlan.setUp, hfree]
  rw [hsetUp]
  apply Meets.bind (meets_receive_line.imp (fun s hs => ⟨hs.1, hs.2.line, hs.2.opened⟩)
    (fun _ _ hs => hs) ?_)
  swap
  · rintro e s ⟨⟨f, hf, rfl⟩, hs⟩
    refine ⟨3, ?_, hs⟩
    rw [hf]
    rfl
  intro reply
  apply Meets.assuming
  intro hreply
  have hverdict : verdict ["220"] (.ok reply) = validate ["220"] reply := rfl
  rw [hreply, hverdict]
  cases validate ["220"] reply with
  | ok banner => exact .pure fun _ _ => rfl
  | error e => exact .fail fun _ hs => ⟨3, rfl, hs⟩

/-! ## Connecting -/

/-- A connection that has come about and is not greeted, with what has been opened by then. -/
structure Stranded (peer : Target) (millis : Int) (s : Live Channel) (e : Failure)
    (t : Live Channel) : Prop where
  reaches : s.net.script.Reaches millis
  first : ∃ n k, s.net.script.nextControl.setUp = .error (k, e) ∧
    t.net.opened = s.net.opened ++ (Handle.line n).take k
  banner : t.self.banner = s.self.banner
  peer : t.self.peer = some peer

/-- The ends of connecting a new channel. -/
inductive Connects (peer : Target) (millis : Int) (s t : Live Channel) :
    Except Failure Reply → Prop
  /-- No socket takes the time limit. -/
  | unusable {e : Failure} (h : ¬ Timeout.Usable millis)
      (hself : t.self = { s.self with tracing := true })
      (he : e = .tooLarge ∧ Timeout.ofMillis millis = .error .tooLarge ∨
        e = .value .timeoutOutOfRange ∧ millis < 0) : Connects peer millis s t (.error e)
  | refused {why : String} (hlimit : Timeout.Usable millis)
      (h : s.net.script.nextControl.socket.failure = some why)
      (hself : t.self = { s.self with tracing := true, state := .closed }) :
      Connects peer millis s t (.error (.fault (.connectFailed peer why)))
  | ungreeted {e : Failure} (h : Stranded peer millis s e t) (hstate : t.self.state = .closed)
      (htracing : t.self.tracing = false) : Connects peer millis s t (.error e)
  | greeted {banner : Reply} (h : s.net.script.Reaches millis)
      (hbanner : s.net.script.nextControl.setUp = .ok banner)
      (hself : t.self.state = .connected ∧ t.self.banner = some banner ∧
        t.self.peer = some peer ∧ t.self.tracing = false) : Connects peer millis s t (.ok banner)

/-- A channel that has begun to connect. -/
structure Begun (s t : Live Channel) : Prop where
  self : t.self = { s.self with tracing := true }
  script : t.net.script = s.net.script
  opened : t.net.opened = s.net.opened

/-- A channel that has been connected to its server. -/
structure Dialled (peer : Target) (millis : Int) (s : Live Channel) (n : Nat) (t : Live Channel) :
    Prop where
  reaches : s.net.script.Reaches millis
  banner : t.self.banner = s.self.banner
  peer : t.self.peer = some peer
  prepared : Net.Prepared s.net.script.nextControl n t.net
  laid : Net.Laid s.net.script.nextControl s.net.opened n 1 t.net

theorem Stranded.congr {e : Failure} (h : Stranded peer millis s e t) (hmarks : Marks t u)
    (hopened : u.net.opened = t.net.opened) : Stranded peer millis s e u where
  reaches := h.reaches
  first := by
    rw [hopened]
    exact h.first
  banner := hmarks.banner.trans h.banner
  peer := hmarks.peer.trans h.peer

theorem meets_dial_new (peer : Target) (millis : Int) (s : Live Channel) :
    Meets (Begun s) (dial peer millis) (Dialled peer millis s)
      fun e t => Connects peer millis s t (.error e) := by
  intro t ht
  by_cases husable : Timeout.Usable millis
  · have hdial := meets_dial_prepared peer husable t t rfl
    rw [ht.script, ht.opened, ht.self] at hdial
    rcases hrun : (dial peer millis).run t with ⟨e | n, u⟩ <;> rw [hrun] at hdial
    · obtain ⟨why, hwhy, rfl, hself⟩ := hdial
      exact .refused husable hwhy hself
    · obtain ⟨hopen, hself, hprepared, hlaid⟩ := hdial
      refine ⟨⟨husable, hopen⟩, ?_, ?_, hprepared, hlaid⟩
      · rw [hself]
      · rw [hself]
  · obtain ⟨e, net, hrun, he⟩ := run_dial_unusable peer husable t
    rw [hrun]
    exact .unusable husable ht.self he

theorem meets_greet_new (n : Nat) :
    Meets (Dialled peer millis s n) (greet n millis)
      (fun banner t => s.net.script.Reaches millis ∧
        s.net.script.nextControl.setUp = .ok banner ∧ t.self.peer = some peer)
      (Stranded peer millis s) := by
  intro t ht
  have hgreet := meets_greet_setUp (n := n) ht.reaches.1 t ⟨ht.prepared, ht.laid⟩
  have hmarks := marks_greet n millis t
  rcases hrun : (greet n millis).run t with ⟨e | banner, u⟩ <;> rw [hrun] at hgreet hmarks
  · obtain ⟨k, hfirst, hopened⟩ := hgreet
    exact ⟨ht.reaches, ⟨n, k, hfirst, hopened⟩, hmarks.banner.trans ht.banner,
      hmarks.peer.trans ht.peer⟩
  · exact ⟨ht.reaches, hgreet, hmarks.peer.trans ht.peer⟩

/-- A channel that gives up its connection reports why, and no error met on closing. -/
theorem meets_giveUp_greeting (e : Failure) :
    Meets (Stranded peer millis s e)
      (do
        log .error s!"✗ Greeting from {peer.text} rejected, closing control socket"
        change fun c => { c with tracing := false }
        releaseQuietly
        fail e : Op Channel Reply)
      (fun _ _ => False) fun e t => Connects peer millis s t (.error e) := by
  have hlog : Keeps (fun t u => Marks t u ∧ u.net.opened = t.net.opened)
      (log .error s!"✗ Greeting from {peer.text} rejected, closing control socket") :=
    fun t => ⟨marks_call _ t, (exchanging_spares.log _ _ _ t).opened⟩
  apply Meets.bind ((fails_log _ _).keeps hlog fun _ _ ht h => ht.congr h.1 h.2)
  intro _
  apply Meets.bind (Q := fun _ t => Stranded peer millis s e t ∧ t.self.tracing = false)
  · exact .change fun t ht => ⟨⟨ht.reaches, ht.first, ht.banner, ht.peer⟩, rfl⟩
  intro _
  apply Meets.bind (Q := fun _ t => Connects peer millis s t (.error e))
  -- A quiet release cannot fail, so `e` is what is left to report.
  · rintro t ⟨ht, htracing⟩
    obtain ⟨u, hrelease, hu⟩ := run_releaseQuietly t
    have hopened := (exchanging_spares.releaseQuietly t).opened
    have hmarks := marks_released hu
    rw [hrelease] at hopened ⊢
    exact .ungreeted (ht.congr hmarks hopened) (by rw [hu]; rfl) (hmarks.tracing.trans htracing)
  intro _
  exact .fail fun _ ht => ht

theorem meets_connect_new (peer : Target) (millis : Int) (hstate : s.self.state = .unconnected) :
    Meets (· = s) (connect peer millis) (fun banner t => Connects peer millis s t (.ok banner))
      fun e t => Connects peer millis s t (.error e) := by
  apply Meets.known (x := s.self)
  · rintro _ rfl
    rfl
  rw [if_neg (not_not.2 hstate)]
  apply Meets.bind (Q := fun _ t => t = ⟨{ s.self with tracing := true }, s.net⟩)
  · apply Meets.change
    rintro _ rfl
    rfl
  intro _
  apply Meets.bind (Q := fun _ => Begun s)
  · rintro _ rfl
    obtain ⟨logs, hlog⟩ := Net.run_log .channel .info
      s!"Connecting to {peer.text} (timeout={millis}ms)" s.net
    rw [show (log .info s!"Connecting to {peer.text} (timeout={millis}ms)").run _ = _ from
      run_call hlog]
    exact ⟨rfl, rfl, rfl⟩
  intro _
  apply Meets.bind (meets_dial_new peer millis s)
  intro n
  apply Meets.bind (.rescue (meets_greet_new n) fun e => ((meets_giveUp_greeting e).yields
    fun _ _ hs => hs.elim))
  intro banner
  apply Meets.bind (Q := fun _ t => Connects peer millis s t (.ok banner))
  · apply Meets.change
    rintro t ⟨hreaches, hbanner, hpeer⟩
    exact .greeted hreaches hbanner ⟨rfl, rfl, hpeer, rfl⟩
  intro _
  apply Meets.bind (Q := fun _ t => Connects peer millis s t (.ok banner))
  · intro t ht
    obtain ⟨u, hlog, htu⟩ := run_log .channel .info s!"✓ Connected to {peer.text}" t
    rw [show (log .info s!"✓ Connected to {peer.text}").run t = _ from hlog]
    cases ht with
    | greeted hreaches hbanner hself => exact .greeted hreaches hbanner (htu.self ▸ hself)
  intro _
  exact .pure fun _ ht => ht

theorem connects_of_run (hstate : s.self.state = .unconnected) {result : Except Failure Reply}
    (hrun : (connect peer millis).run s = (result, t)) : Connects peer millis s t result := by
  have ht := meets_connect_new peer millis hstate s rfl
  rw [hrun] at ht
  cases result with
  | ok banner => exact ht
  | error e => exact ht

/-- A refused connection and an unwelcome greeting are faults. What goes wrong in between is not,
nor is a limit too long for a double, which is noticed before anything is dialled. -/
theorem meets_connect_obstructed (peer : Target) (script : Script) (hmillis : 0 ≤ millis) :
    Meets (fun s => s.self.state = .unconnected ∧ s.net.script = script) (connect peer millis)
      (fun _ _ => ¬ Obstructed millis script)
      fun e _ => e.IsFault ↔ ¬ Obstructed millis script := by
  rintro s ⟨hstate, rfl⟩
  rcases hrun : (connect peer millis).run s with ⟨result, t⟩
  have obstructed_iff : Timeout.Usable millis → (Obstructed millis s.net.script ↔
      s.net.script.nextControl.socket.failure = none ∧ s.net.script.nextControl.Hampered) := by
    rintro ⟨-, limit, hlimit⟩
    simp [Obstructed, hlimit]
  cases connects_of_run hstate hrun with
  | unusable h hself he =>
    obtain ⟨rfl, hlimit⟩ | ⟨rfl, hnegative⟩ := he
    · apply iff_of_false _ (not_not.2 (.inl hlimit))
      rintro ⟨f, ⟨⟩⟩
    · exact absurd hmillis (not_le.2 hnegative)
  | refused hlimit h hself =>
    apply iff_of_true ⟨_, rfl⟩
    simp [obstructed_iff hlimit, h]
  | ungreeted h hclosed htracing =>
    obtain ⟨n, k, hfirst, -⟩ := h.first
    dsimp only
    rw [obstructed_iff h.reaches.1]
    obtain ⟨hp, hsystem⟩ | ⟨hp, hfault⟩ := ControlPlan.setUp_error_cases hfirst
    · exact iff_of_false hsystem.not_isFault (not_not.2 ⟨h.reaches.2, hp⟩)
    · exact iff_of_true hfault fun hboth => hp hboth.2
  | greeted h hbanner hself =>
    dsimp only
    rw [obstructed_iff h.1]
    exact fun hboth => ControlPlan.not_hampered_of_setUp hbanner hboth.2

/-! ## New channels -/

theorem operating_marks : Operating Marks where
  toNegotiating := negotiating_marks
  applyTimeout := marks_applyTimeout
  peerAddress _ := marks_call _
  lookUp _ := marks_call _

theorem marks_perform {op : Operation} (hop : ¬ op.Marking) : Keeps Marks op.perform :=
  operating_marks.perform hop

/-- A channel that can still be connected has no greeting. -/
theorem bannerless_of_reachable (hs : Reachable s) (hstate : s.self.state = .unconnected) :
    s.self.banner = none := by
  induction hs with
  | start hnet => rfl
  | elsewhere hs hnet ih => exact ih hstate
  | @after op s hs ih =>
    by_cases hop : op.Marking
    swap
    · have hmarks := marks_perform hop s
      rw [hmarks.banner]
      exact ih (hmarks.unconnected hstate)
    cases op with
    | setTracing on => exact ih hstate
    | connect peer millis =>
      rw [Operation.perform, run_map] at hstate ⊢
      by_cases hnew : s.self.state = .unconnected
      · rcases hrun : (Channel.connect peer millis).run s with ⟨result, t⟩
        rw [hrun] at hstate
        dsimp only at hstate ⊢
        cases connects_of_run hnew hrun with
        | unusable h hself =>
          rw [hself]
          exact ih hnew
        | refused hlimit h hself =>
          rw [hself] at hstate
          cases hstate
        | ungreeted h hclosed =>
          rw [hclosed] at hstate
          cases hstate
        | greeted h hbanner hself =>
          rw [hself.1] at hstate
          cases hstate
      · rw [run_connect_again hnew] at hstate
        exact absurd hstate hnew
    | _ => exact hop.elim

/-- Once a connection has come about, connecting reports the first step that fails on the way to
the greeting and nothing that is met on closing. The channel is closed without a greeting, and all
that has been opened by then has been closed once. -/
theorem ungreeted_of_reachable (hs : Reachable s) (hstate : s.self.state = .unconnected)
    (peer : Target) {millis : Int} (hopen : s.net.script.Reaches millis) :
    let result := ((connect peer millis).run s).1
    let t := ((connect peer millis).run s).2
    result = s.net.script.nextControl.setUp.mapError Prod.snd ∧
      ∀ k e, s.net.script.nextControl.setUp = .error (k, e) →
        t.self.state = .closed ∧ t.self.banner = none ∧
          ∃ n, t.net.opened = s.net.opened ++ (Handle.line n).take k ∧
            ∀ h ∈ (Handle.line n).take k,
              (t.net.sockets h).isOpen = false ∧ t.net.events.count (.close h) = 1 := by
  have hsound := (orderly_connect peer millis s hs.lifecycle).1.sound
  rcases hrun : (connect peer millis).run s with ⟨result, t⟩
  rw [hrun] at hsound
  dsimp only at hsound ⊢
  cases connects_of_run hstate hrun with
  | unusable hlimit => exact absurd hopen.1 hlimit
  | refused hlimit hwhy =>
    rw [hopen.2] at hwhy
    cases hwhy
  | greeted hreaches hbanner =>
    rw [hbanner]
    exact ⟨rfl, fun k e h => by cases h⟩
  | ungreeted h hclosed htracing =>
    obtain ⟨n, k, hfirst, hopened⟩ := h.first
    rw [hfirst]
    refine ⟨rfl, ?_⟩
    rintro _ _ ⟨⟩
    refine ⟨hclosed, h.banner.trans (bannerless_of_reachable hs hstate), n, hopened, ?_⟩
    intro k hk
    apply hsound.closedOnce hclosed k
    · rw [hopened]
      exact List.mem_append_right _ hk
    · exact onControl_of_mem_line (List.mem_of_mem_take hk)

/-- A server that turns its clients away, and to which nothing can be closed without an error. -/
def fullServer : Network where
  script :=
    { controls := [{
        socket := { closeError := some badDescriptor }
        banner := Text.encodeUtf8 "421 full\r\n".toList
        readerCloseError := some badDescriptor
        writerCloseError := some badDescriptor }] }

/-- The refusal is what is reported, and none of the three errors behind it. -/
theorem ungreeted_of_fullServer :
    fullServer.script.Reaches 10000 ∧
      ((connect ⟨some "ftp.test", 21⟩ 10000).run ⟨{}, fullServer⟩).1 =
        .error (.fault (.refused ⟨⟨4, 2, 1⟩, "full"⟩)) ∧
        let t := ((connect ⟨some "ftp.test", 21⟩ 10000).run ⟨{}, fullServer⟩).2
        t.self.state = .closed ∧ t.self.banner = none ∧
          ∃ n, t.net.opened = Handle.line n ∧ ∀ h ∈ Handle.line n,
            (t.net.sockets h).isOpen = false ∧ t.net.events.count (.close h) = 1 := by
  have hopen : fullServer.script.Reaches 10000 := by decide +kernel
  have hfirst : fullServer.script.nextControl.setUp =
      .error (3, .fault (.refused ⟨⟨4, 2, 1⟩, "full"⟩)) := by
    decide +kernel
  obtain ⟨hresult, hends⟩ := ungreeted_of_reachable (s := ⟨{}, fullServer⟩)
    (.start (Ledger.restrict_held _ _)) rfl ⟨some "ftp.test", 21⟩ hopen
  rw [hfirst] at hresult
  exact ⟨hopen, hresult, hends 3 _ hfirst⟩

end Channel

end FtpControl
