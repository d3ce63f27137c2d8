import FtpControl.Proofs.Channel.Hearing
import FtpControl.Proofs.DataConnection.Standing

/-!
# The conversation on a control connection

Whatever is done with a channel, in any order, what is heard over its line is what reading gives,
one reply after the other, of all that the server has sent: no line is read twice, none is left
out, and what has not been read yet is still there.
-/

namespace FtpControl

open Effect Live Reply

/-- All that a server has sent once it has answered `k` commands. -/
def ControlPlan.delivered (plan : ControlPlan) (k : Nat) : List UInt8 :=
  plan.banner ++ (plan.exchanges.take k).flatMap Exchange.bytes

theorem ControlPlan.delivered_succ {plan : ControlPlan} {k : Nat} {answer : Exchange}
    {rest : List Exchange} (h : plan.exchanges.drop k = answer :: rest) :
    plan.delivered (k + 1) = plan.delivered k ++ answer.bytes := by
  have hget : plan.exchanges[k]? = some answer := by
    rw [← List.head?_drop, h]
    rfl
  rw [delivered, delivered, List.take_add_one, hget]
  simp

namespace Channel

variable {plan : ControlPlan} {k n : Nat} {line line' : ControlLine} {s t : Live Channel}
  {heard : List (Except Fault Reply)} {peer : Target} {millis : Int}

/-- On the line of a server that has answered `k` commands this much has been heard: the first
outcomes of reading all that has been delivered, which leave what has not been read. -/
structure Reconciled (plan : ControlPlan) (k : Nat) (heard : List (Except Fault Reply))
    (line : ControlLine) : Prop where
  bounded : k ≤ plan.exchanges.length
  answered : line.exchanges = plan.exchanges.drop k
  settled : ∀ outcome ∈ heard, Settled outcome
  outcomes : (readMany .utf8 heard.length ⟨plan.delivered k, line.source.ending, none⟩).1 = heard
  unread :
    (readMany .utf8 heard.length ⟨plan.delivered k, line.source.ending, none⟩).2.1 = line.source

/-- Unless the stream has ended, more bytes change nothing about what has been heard, and wait
behind what has not been read. -/
theorem Reconciled.later (h : Reconciled plan k heard line) (hending : line.source.ending ≠ .eof)
    (more : List UInt8) (ending : Ending) :
    let all := readMany .utf8 heard.length ⟨plan.delivered k ++ more, ending, none⟩
    all.1 = heard ∧ all.2.1 = line.source.extend more ending := by
  have hsrc : (Source.mk (plan.delivered k) line.source.ending none).ending ≠ .eof := hending
  have hextend := readMany_extend hsrc (by rw [h.outcomes]; exact h.settled) more ending
  rw [h.outcomes, h.unread] at hextend
  exact ⟨congrArg Prod.fst hextend, congrArg (fun all => all.2.1) hextend⟩

theorem reconciled_ofPlan (plan : ControlPlan) : Reconciled plan 0 [] (.ofPlan plan) where
  bounded := Nat.zero_le _
  answered := rfl
  settled := by simp
  outcomes := rfl
  unread := by simp [readMany, ControlPlan.delivered, ControlLine.ofPlan]

theorem extend_nil (src : Source) : src.extend [] src.ending = src := by
  simp [Source.extend]

/-- A server that has no answer left, or whose stream is at its end, sends nothing more. -/
theorem answered_of_mute (h : line.source.ending = .silent → line.exchanges = [])
    (hline : line.answered = .ok line') : line' = line := by
  have hnext : line.next = {} := by
    unfold ControlLine.next
    split_ifs with hending
    · rw [h hending]
      rfl
    · rfl
  have hdrawn : line.drawn = line := by
    unfold ControlLine.drawn
    split_ifs with hending
    · have hnone := h hending
      cases line
      simp_all
    · rfl
  unfold ControlLine.answered at hline
  rw [hnext, hdrawn] at hline
  cases hline
  rw [Option.getD_none, extend_nil]

theorem answered_of_cons {answer : Exchange} {rest : List Exchange}
    (hending : line.source.ending = .silent) (h : line.exchanges = answer :: rest)
    (hline : line.answered = .ok line') :
    line'.exchanges = rest ∧
      line'.source = line.source.extend answer.bytes (answer.ending.getD .silent) := by
  unfold ControlLine.answered ControlLine.next ControlLine.drawn at hline
  rw [if_pos hending, if_pos hending, h, hending] at hline
  dsimp only [List.headD_cons, List.tail_cons] at hline
  split at hline
  · cases hline
  · cases hline
    exact ⟨rfl, rfl⟩

theorem Reconciled.answer (h : Reconciled plan k heard line) (hline : line.answered = .ok line') :
    ∃ k, Reconciled plan k heard line' := by
  by_cases hmute : line.source.ending = .silent → line.exchanges = []
  · rw [answered_of_mute hmute hline]
    exact ⟨k, h⟩
  · obtain ⟨hending, hne⟩ := Classical.not_imp.1 hmute
    obtain ⟨answer, rest, hcons⟩ := List.exists_cons_of_ne_nil hne
    obtain ⟨hrest, hsource⟩ := answered_of_cons hending hcons hline
    have hdrop : plan.exchanges.drop k = answer :: rest := by rw [← h.answered, hcons]
    have hlater := h.later (by simp [hending]) answer.bytes (answer.ending.getD .silent)
    rw [← ControlPlan.delivered_succ hdrop, ← hsource] at hlater
    have hnew : line'.source.ending = answer.ending.getD .silent := by rw [hsource]; rfl
    refine ⟨k + 1, ?_, ?_, h.settled, ?_, ?_⟩
    · have hlength := congrArg List.length hdrop
      simp at hlength
      omega
    · rw [hrest, ← List.drop_drop, hdrop]
      rfl
    · rw [hnew]
      exact hlater.1
    · rw [hnew]
      exact hlater.2

theorem Reconciled.behind (h : Reconciled plan k heard line) (hsettled : Settled line.outcome) :
    Reconciled plan k (heard ++ [line.outcome]) line.behind := by
  have hending : line.behind.source.ending = line.source.ending := ending_read _ _
  have hsnoc := readMany_snoc .utf8 heard.length ⟨plan.delivered k, line.source.ending, none⟩
  dsimp only at hsnoc
  rw [h.outcomes, h.unread] at hsnoc
  refine ⟨h.bounded, h.answered, ?_, ?_, ?_⟩
  · intro outcome hmem
    obtain hmem | hmem := List.mem_append.1 hmem
    · exact h.settled outcome hmem
    · rw [List.mem_singleton.1 hmem]
      exact hsettled
  · rw [hending, List.length_append, List.length_singleton, hsnoc]
    rfl
  · rw [hending, List.length_append, List.length_singleton, hsnoc]
    rfl

theorem Reconciled.hears {more : List (Except Fault Reply)} (h : Reconciled plan k heard line)
    (hhears : Hears line more line') : ∃ k, Reconciled plan k (heard ++ more) line' := by
  cases hhears with
  | nothing =>
    rw [List.append_nil]
    exact ⟨k, h⟩
  | outcome turn hdraws hsettled =>
    cases turn with
    | read =>
      cases hdraws
      exact ⟨k, h.behind hsettled⟩
    | send command shown hshown =>
      obtain ⟨k', h'⟩ := h.answer hdraws
      exact ⟨k', h'.behind hsettled⟩

/-! ## The greeting -/

/-- The next control connection is number `n`, with this plan. -/
def Expects (plan : ControlPlan) (n : Nat) (net : Network) : Prop :=
  net.script.nextControl = plan ∧ net.counts.control = n

theorem meets_dialControl (peer : Target) (limit : Timeout) :
    Meets (Expects plan n) (Net.dialControl peer limit)
      (fun m net => m = n ∧ net.lines n = .ofPlan plan) fun e _ => ¬ e.IsFault := by
  apply Meets.bind (Q := fun next _ => next = (n, plan))
  · rintro net ⟨rfl, rfl⟩
    rfl
  intro next
  by_cases hnext : next = (n, plan)
  swap
  · exact fun _ hs => absurd hs hnext
  obtain rfl := hnext
  apply Meets.bind (Net.fails_record _).meets
  intro _
  apply Meets.bind (Net.fails_checkLimit limit).meets
  intro _
  apply Meets.bind ((Net.fails_refuse _).meets.failing fun _ _ hs => hs.not_isFault)
  intro _
  apply Meets.bind (Net.fails_handOut _ _).meets
  intro _
  apply Meets.bind (Q := fun _ net => net.lines n = .ofPlan plan)
  · exact .update fun net _ => setAt_same _ _ _
  intro _
  exact .pure fun _ hs => ⟨rfl, hs⟩

theorem meets_dial_expected :
    Meets (fun s => Expects plan n s.net) (dial peer millis)
      (fun m s => m = n ∧ s.net.lines n = .ofPlan plan) fun e _ => Blameless e := by
  apply Meets.given
  · intro e he _ _
    obtain rfl := Timeout.ofMillis_error he
    rintro f ⟨⟩
  intro limit _
  apply Meets.bind (Q := fun m s => m = n ∧ s.net.lines n = .ofPlan plan)
  · apply Meets.rescue (.net (meets_dialControl peer limit))
    intro e
    split
    · apply Meets.bind (Q := fun _ _ => True) (.change fun _ _ => trivial)
      intro _
      apply Meets.bind (fails_log _ _).meets
      intro _
      apply Meets.fail
      rintro _ - f ⟨⟩
      simp [Fault.kind]
    · exact .fail fun _ he => blameless_of_not_isFault he
  intro m
  apply Meets.bind (Q := fun _ s => m = n ∧ s.net.lines n = .ofPlan plan)
  · exact .change fun _ hs => hs
  intro _
  exact .pure fun _ hs => hs

/-- A call before the greeting is read. -/
theorem meets_ungreeted {α : Type} {m : Net α} (hm : Net.Offline m)
    (hf : Fails Failure.IsSystem m) :
    Meets (fun s : Live Channel => s.net.lines n = .ofPlan plan) (call m)
      (fun _ s => s.net.lines n = .ofPlan plan) fun e _ => Blameless e :=
  ((Fails.call hf).along (offline_call hm)
    fun _ _ hs h => (congrFun (lines_of_wires h) n).trans hs).failing
    fun _ _ hs => blameless_of_not_isFault hs.1.not_isFault

/-- The outcome of the greeting is the first that the line has to offer. -/
theorem meets_receive_greeting :
    Meets (fun s => s.net.lines n = .ofPlan plan ∧ s.self.writer = some n ∧
        s.self.replies = some n)
      (do
        let reply ← receive
        ofExcept (validate ["220"] reply))
      (fun reply t => ∃ outcome, verdict ["220"] outcome = .ok reply ∧
        Hears (.ofPlan plan) [outcome] (t.net.lines n) ∧
          t.self.writer = some n ∧ t.self.replies = some n)
      fun e t => Blameless e ∨ ∃ outcome, verdict ["220"] outcome = .error e ∧
        Hears (.ofPlan plan) [outcome] (t.net.lines n) := by
  rintro s ⟨hline, hwriter, hreplies⟩
  obtain ⟨t, hreceive, hst⟩ := run_receive hreplies
  rw [hline] at hreceive hst
  have hears : Settled (ControlLine.ofPlan plan).outcome →
      Hears (.ofPlan plan) [(ControlLine.ofPlan plan).outcome] (t.net.lines n) := by
    rw [hst.lines, setAt_same]
    exact .outcome .read rfl
  cases houtcome : (ControlLine.ofPlan plan).outcome with
  | error f =>
    rw [houtcome] at hreceive hears
    rw [run_bind_error hreceive]
    by_cases hkind : f.kind = .protocol
    · exact .inr ⟨.error f, rfl, hears (settled_error_iff.2 (by simp [hkind]))⟩
    · refine .inl ?_
      rintro _ ⟨⟩
      exact hkind
  | ok reply =>
    rw [houtcome] at hreceive hears
    rw [run_bind_ok hreceive]
    have hheard := hears (settled_ok reply)
    cases hvalid : validate ["220"] reply with
    | error e => exact .inr ⟨.ok reply, hvalid, hheard⟩
    | ok accepted =>
      refine ⟨.ok reply, hvalid, hheard, ?_, ?_⟩
      · rw [hst.self, hwriter]
      · rw [hst.self, hreplies]

/-- What becomes of a greeting, from the opening of the streams on. -/
theorem meets_greet_heard :
    Meets (fun s => s.net.lines n = .ofPlan plan) (greet n millis)
      (fun reply t => ∃ outcome, verdict ["220"] outcome = .ok reply ∧
        Hears (.ofPlan plan) [outcome] (t.net.lines n) ∧
          t.self.writer = some n ∧ t.self.replies = some n)
      fun e t => Blameless e ∨ ∃ outcome, verdict ["220"] outcome = .error e ∧
        Hears (.ofPlan plan) [outcome] (t.net.lines n) := by
  apply Meets.bind (Q := fun _ s => s.net.lines n = .ofPlan plan)
  · exact ((fails_applyTimeout n millis).along (offline_applyTimeout n millis)
      fun _ _ hs h => (congrFun (lines_of_wires h) n).trans hs).failing
      fun _ _ hs => .inl (blameless_of_not_isFault hs.1.1)
  intro _
  apply Meets.bind ((meets_ungreeted (Net.offline_openReader n) (Net.fails_openReader n)).failing
    fun _ _ hs => .inl hs)
  intro _
  apply Meets.bind (Q := fun _ s => s.net.lines n = .ofPlan plan) (.change fun _ hs => hs)
  intro _
  apply Meets.bind ((meets_ungreeted (Net.offline_openWriter n) (Net.fails_openWriter n)).failing
    fun _ _ hs => .inl hs)
  intro _
  apply Meets.bind (Q := fun _ s => s.net.lines n = .ofPlan plan ∧
    s.self.writer = some n ∧ s.self.replies = some n) (.change fun _ hs => ⟨hs, rfl, rfl⟩)
  intro _
  exact meets_receive_greeting

theorem expects_log (source : LogSource) (level : LogLevel) (message : String) :
    Keeps (fun net net' => Expects plan n net → Expects plan n net')
      (Net.log source level message) := by
  intro net
  obtain ⟨logs, hlog⟩ := Net.run_log source level message net
  rw [hlog]
  exact id

theorem meets_log_expects {E : Failure → Live Channel → Prop} (level : LogLevel)
    (message : String) :
    Meets (fun s => Expects plan n s.net) (log level message)
      (fun _ s => Expects plan n s.net) E :=
  (fails_log level message).keeps (R := fun s t => Expects plan n s.net → Expects plan n t.net)
    (.call (expects_log _ _ _) fun _ _ h => h) fun _ _ hs hst => hst hs

/-- What is on the line stays there when the channel is given up. -/
theorem meets_give_up (line : ControlLine) (message : String) (e : Failure) :
    Meets (fun s : Live Channel => s.net.lines n = line)
      (do
        log .error message
        change fun c => { c with tracing := false }
        releaseQuietly
        fail e : Op Channel Reply)
      (fun _ _ => False)
      fun e' t => e' = e ∧ t.net.lines n = line ∧ t.self.state = .closed := by
  intro s hs
  obtain ⟨t, hlog, hst⟩ : ∃ t, (log .error message).run s = (.ok (), t) ∧ Noted s t :=
    run_log _ _ _ s
  obtain ⟨u, hrelease, hu⟩ := run_releaseQuietly { t with self := { t.self with tracing := false } }
  have hlines := offline_releaseQuietly { t with self := { t.self with tracing := false } }
  rw [hrelease] at hlines
  replace hlines := lines_of_wires hlines
  rw [run_bind_ok hlog, run_bind_ok (run_change _ _), run_bind_ok hrelease]
  refine ⟨rfl, ?_, ?_⟩
  · rw [hlines, hst.lines, hs]
  · rw [hu]
    rfl

/-- A greeting that is refused is heard all the same. -/
theorem meets_connect_heard (peer : Target) (millis : Int) :
    Meets (fun s => s.self.state = .unconnected ∧ Expects plan n s.net) (connect peer millis)
      (fun reply t => ∃ outcome, verdict ["220"] outcome = .ok reply ∧
        Heard n (.ofPlan plan) outcome t)
      fun e t => Blameless e ∨ ∃ outcome, verdict ["220"] outcome = .error e ∧
        Hears (.ofPlan plan) [outcome] (t.net.lines n) ∧ t.self.state = .closed := by
  apply Meets.look
  intro c
  by_cases hc : c.state = .unconnected
  swap
  · rintro s ⟨hs, rfl⟩
    exact absurd hs.1 hc
  rw [if_neg (not_not.2 hc)]
  apply Meets.bind (Q := fun _ s => Expects plan n s.net) (.change fun _ hs => hs.1.2)
  intro _
  apply Meets.bind (meets_log_expects _ _)
  intro _
  apply Meets.bind (meets_dial_expected.failing fun _ _ he => .inl he)
  intro m
  by_cases hm : m = n
  swap
  · exact fun _ hs => absurd hs.1 hm
  obtain rfl := hm
  apply Meets.bind (Q := fun reply t => ∃ outcome, verdict ["220"] outcome = .ok reply ∧
    Hears (.ofPlan plan) [outcome] (t.net.lines m) ∧
      t.self.writer = some m ∧ t.self.replies = some m)
  · apply Meets.rescue (meets_greet_heard.start fun _ hs => hs.2)
    intro e s hs
    have ht := meets_give_up (n := m) (s.net.lines m)
      s!"✗ Greeting from {peer.text} rejected, closing control socket" e s rfl
    rcases hrun : Effect.run _ s with ⟨e' | reply, t⟩ <;> rw [hrun] at ht
    · obtain ⟨rfl, hline, hclosed⟩ := ht
      obtain hblameless | ⟨outcome, hverdict, hears⟩ := hs
      · exact .inl hblameless
      · rw [← hline] at hears
        exact .inr ⟨outcome, hverdict, hears, hclosed⟩
    · exact ht.elim
  intro reply
  apply Meets.bind (Q := fun _ t => ∃ outcome, verdict ["220"] outcome = .ok reply ∧
    Heard m (.ofPlan plan) outcome t)
  · apply Meets.change
    rintro t ⟨outcome, hverdict, hears, hwriter, hreplies⟩
    exact ⟨outcome, hverdict, hears, rfl, hwriter, hreplies, rfl⟩
  intro _
  apply Meets.bind (Q := fun _ t => ∃ outcome, verdict ["220"] outcome = .ok reply ∧
    Heard m (.ofPlan plan) outcome t)
  · apply (fails_log _ _).keeps (silent_log _ _ _)
    rintro s t ⟨outcome, hverdict, hs⟩ hst
    exact ⟨outcome, hverdict, hs.congr hst⟩
  intro _
  exact .pure fun _ hs => hs

/-! ## Talks -/

/-- What was done with a channel, and what came of it. -/
structure Moment where
  op : Operation
  result : Except Failure Answer

/-- Control connection number `n`, to a server with this plan, from the greeting on: anything is
done with the channel as long as it is connected, and with any data connections. -/
inductive Talk (plan : ControlPlan) (n : Nat) : List Moment → Live Channel → Prop
  | greeted (peer : Target) (millis : Int) {s t : Live Channel} {result : Except Failure Answer}
      (hstate : s.self.state = .unconnected) (hnet : Expects plan n s.net)
      (hrun : (Operation.connect peer millis).perform.run s = (result, t))
      (hresult : ∀ e, result = .error e → ∃ f, e = .fault f ∧ f.kind = .protocol) :
      Talk plan n [⟨.connect peer millis, result⟩] t
  | spoke (op : Operation) {moments : List Moment} {s t : Live Channel}
      {result : Except Failure Answer} (h : Talk plan n moments s)
      (hstate : s.self.state = .connected) (hrun : op.perform.run s = (result, t)) :
      Talk plan n (moments ++ [⟨op, result⟩]) t
  | data (d : DataConnection) (call : DataConnection.Call) {moments : List Moment}
      {s : Live Channel} (h : Talk plan n moments s) :
      Talk plan n moments ⟨s.self, (call.after ⟨d, s.net⟩).net⟩

/-- Whether no error of the network came of what was done last. -/
def Undisturbed (moments : List Moment) : Prop :=
  ∀ m ∈ moments.getLast?, ∀ e, m.result = .error e → ¬ e.OfNetwork

/-- What the moments report is what reading gives of all that has been delivered. -/
def Consistent (plan : ControlPlan) (n : Nat) (moments : List Moment) (s : Live Channel) : Prop :=
  ∃ heard k, List.Forall₂ (fun m outcomes => Reports m.op m.result outcomes) moments heard ∧
    Reconciled plan k heard.flatten (s.net.lines n)

variable {moments : List Moment} {result : Except Failure Answer} {op : Operation}

theorem offline_after (d : DataConnection) (call : DataConnection.Call) (net : Network) :
    (call.after ⟨d, net⟩).net.wires = net.wires := by
  cases call with
  | accept waitMillis => exact DataConnection.offline_accept waitMillis ⟨d, net⟩
  | close => exact DataConnection.offline_close ⟨d, net⟩
  | dataSocket => exact DataConnection.offline_dataSocket ⟨d, net⟩
  | localAddress => exact DataConnection.offline_localAddress ⟨d, net⟩

theorem consistent_greeting (hstate : s.self.state = .unconnected) (hnet : Expects plan n s.net)
    (hrun : (Operation.connect peer millis).perform.run s = (result, t))
    (hresult : ∀ e, result = .error e → ∃ f, e = .fault f ∧ f.kind = .protocol) :
    Consistent plan n [⟨.connect peer millis, result⟩] t ∧
      (t.self.state = .connected → Tuned n (t.net.lines n) t) := by
  have consistent : ∀ outcome, result = (verdict ["220"] outcome).map .reply →
      Hears (.ofPlan plan) [outcome] (t.net.lines n) →
        Consistent plan n [⟨.connect peer millis, result⟩] t := by
    rintro outcome rfl hears
    obtain ⟨k, hk⟩ := (reconciled_ofPlan plan).hears hears
    exact ⟨[[outcome]], k, .cons (.greeted peer millis outcome) .nil, hk⟩
  have ht := meets_connect_heard peer millis s ⟨hstate, hnet⟩
  rw [Operation.perform, run_map] at hrun
  rcases hconnect : (connect peer millis).run s with ⟨e | reply, u⟩ <;> rw [hconnect] at ht hrun
  · obtain ⟨rfl, rfl⟩ := Prod.mk.inj hrun
    obtain ⟨f, rfl, hkind⟩ := hresult e rfl
    obtain hblameless | ⟨outcome, hverdict, hears, hclosed⟩ := ht
    · exact absurd hkind (hblameless f rfl)
    · refine ⟨consistent outcome (by rw [hverdict]) hears, fun hconnected => ?_⟩
      rw [hclosed] at hconnected
      contradiction
  · obtain ⟨rfl, rfl⟩ := Prod.mk.inj hrun
    obtain ⟨outcome, hverdict, hheard⟩ := ht
    exact ⟨consistent outcome (by rw [hverdict]) hheard.1, fun _ => hheard.2⟩

/-- One more operation: what it heard follows what had been heard before. -/
theorem consistent_step (h : Consistent plan n moments s) (hs : Tuned n (s.net.lines n) s)
    (hrun : op.perform.run s = (result, t))
    (hend : t.self.state = .connected ∨ ∀ e, result = .error e → ¬ e.OfNetwork) :
    Consistent plan n (moments ++ [⟨op, result⟩]) t ∧
      (t.self.state = .connected → Tuned n (t.net.lines n) t) := by
  have ht : Accounted n (s.net.lines n) op result t := by
    have hperform := meets_perform_accounted op s hs
    rw [hrun] at hperform
    cases result with
    | ok answer => exact hperform
    | error e => exact hperform
  obtain ⟨more, hreports, hhears, hstate⟩ | ⟨e, he, hnetwork, hclosed⟩ := ht
  · obtain ⟨heard, k, hmoments, hk⟩ := h
    obtain ⟨k', hk'⟩ := hk.hears hhears
    constructor
    · refine ⟨heard ++ [more], k', List.rel_append hmoments (.cons hreports .nil), ?_⟩
      rw [List.flatten_append, List.flatten_singleton]
      exact hk'
    · intro hconnected
      obtain htuned | hclosed := hstate
      · exact htuned
      · rw [hclosed] at hconnected
        contradiction
  · obtain hconnected | hundisturbed := hend
    · rw [hclosed] at hconnected
      contradiction
    · exact absurd hnetwork (hundisturbed e he)

theorem consistent_of_talk (h : Talk plan n moments s) :
    (s.self.state = .connected ∨ Undisturbed moments → Consistent plan n moments s) ∧
      (s.self.state = .connected → Tuned n (s.net.lines n) s) := by
  induction h with
  | greeted peer millis hstate hnet hrun hresult =>
    obtain ⟨hconsistent, htuned⟩ := consistent_greeting hstate hnet hrun hresult
    exact ⟨fun _ => hconsistent, htuned⟩
  | spoke op h hstate hrun ih =>
    rename_i moments s t result
    obtain ⟨hconsistent, htuned⟩ := ih
    have hstep := consistent_step (hconsistent (.inl hstate)) (htuned hstate) hrun
    constructor
    · rintro (hconnected | hundisturbed)
      · exact (hstep (.inl hconnected)).1
      · exact (hstep (.inr (hundisturbed ⟨op, result⟩ (by simp)))).1
    · intro hconnected
      exact (hstep (.inl hconnected)).2 hconnected
  | data d call h ih =>
    rename_i moments s
    obtain ⟨hconsistent, htuned⟩ := ih
    have hlines := congrFun (lines_of_wires (offline_after d call s.net)) n
    constructor
    · intro hend
      obtain ⟨heard, k, hmoments, hk⟩ := hconsistent hend
      exact ⟨heard, k, hmoments, hlines ▸ hk⟩
    · intro hconnected
      have hs := htuned hconnected
      exact ⟨hs.state, hs.writer, hs.replies, rfl⟩

/-- Until an error of the network closes the channel, what is heard in the greeting and in all
that follows is what reading gives, one reply after the other, of all that the server has sent,
and what reading leaves has not been read. Bytes to come change nothing about this, and nothing
else that is done with the channel or with data connections takes any. -/
theorem heard_of_talk (h : Talk plan n moments s)
    (hend : s.self.state = .connected ∨ Undisturbed moments) :
    (∃ heard k, List.Forall₂ (fun m outcomes => Reports m.op m.result outcomes) moments heard ∧
      Reconciled plan k heard.flatten (s.net.lines n) ∧
        ((s.net.lines n).source.ending ≠ .eof → ∀ more ending,
          let all := readMany .utf8 heard.flatten.length ⟨plan.delivered k ++ more, ending, none⟩
          all.1 = heard.flatten ∧ all.2.1 = (s.net.lines n).source.extend more ending)) ∧
      (∀ op : Operation, op.Wordless → (op.perform.run s).2.net.lines = s.net.lines) ∧
        ∀ d (call : DataConnection.Call), (call.after ⟨d, s.net⟩).net.lines = s.net.lines := by
  obtain ⟨heard, k, hmoments, hk⟩ := (consistent_of_talk h).1 hend
  refine ⟨⟨heard, k, hmoments, hk, fun hending => hk.later hending⟩, ?_, ?_⟩
  · exact fun op hop => lines_of_wires (offline_of_wordless op hop s)
  · exact fun d call => lines_of_wires (offline_after d call s.net)

/-- The channel of a caller who sends a command to a server that agrees to it. -/
def agreement : Live Channel :=
  ((Operation.send "PORT 10,0,0,2,195,80").perform.run DataConnection.visit).2

theorem talk_visit :
    ∃ result, Talk DataConnection.willingServer.script.nextControl 0
      [⟨.connect ⟨some "ftp.test", 21⟩ 10000, result⟩] DataConnection.visit := by
  have hok : ((Operation.connect ⟨some "ftp.test", 21⟩ 10000).perform.run
      ⟨{}, DataConnection.willingServer⟩).1.toOption.isSome = true := by decide +kernel
  rcases hrun : (Operation.connect ⟨some "ftp.test", 21⟩ 10000).perform.run
    ⟨{}, DataConnection.willingServer⟩ with ⟨result, t⟩
  rw [hrun] at hok
  have hvisit : t = DataConnection.visit := by rw [DataConnection.visit, hrun]
  refine ⟨result, hvisit ▸ .greeted _ _ rfl ⟨rfl, rfl⟩ hrun fun e he => ?_⟩
  rw [he] at hok
  contradiction

/-- Both the greeting and the answer are heard. -/
theorem heard_of_agreement :
    ∃ plan moments, moments.length = 2 ∧ Talk plan 0 moments agreement ∧
      agreement.self.state = .connected ∧ ∃ heard k,
        List.Forall₂ (fun m outcomes => Reports m.op m.result outcomes) moments heard ∧
          Reconciled plan k heard.flatten (agreement.net.lines 0) := by
  have hconnected : DataConnection.visit.self.state = .connected := by decide +kernel
  have hagreed : agreement.self.state = .connected := by decide +kernel
  obtain ⟨result, hgreeted⟩ := talk_visit
  have htalk := hgreeted.spoke (.send "PORT 10,0,0,2,195,80") hconnected rfl
  obtain ⟨⟨heard, k, hmoments, hk, -⟩, -⟩ := heard_of_talk htalk (.inl hagreed)
  exact ⟨_, _, rfl, htalk, hagreed, heard, k, hmoments, hk⟩

end Channel

end FtpControl
