import FtpControl.Proofs.Client.History
import FtpControl.Proofs.Probe.Remarks

/-!
# What the log of a probe tells of passwords

The log depends on the arguments of masked commands just as far as the remarks on their verbs
do. A server that falls silent behind a command brings out what the probe remarked on it.
-/

namespace FtpControl.Probe

open Effect Live

variable {p p' : List LogRecord}

/-! ## Runs side by side -/

theorem abreast_log (level : LogLevel) (message : String) :
    Abreast p p' (log level message) (log level message) :=
  .call (Net.abreast_log _ _ _)

theorem abreast_onClient {α : Type} {m m' : Op Client α} (hm : Abreast p p' m m') :
    Abreast p p' (onClient m) (onClient m') :=
  .focus hm

theorem abreast_onChannel {α : Type} {m m' : Op Channel α} (hm : Abreast p p' m m') :
    Abreast p p' (onChannel m) (onChannel m') :=
  abreast_onClient (Client.abreast_onChannel hm)

theorem abreast_checkVerb {command command' : String} (h : remark? command = remark? command') :
    Abreast p p' (checkVerb command) (checkVerb command') := by
  rw [checkVerb_eq, checkVerb_eq, h]
  cases remark? command' with
  | none => exact .pure _
  | some remark => exact abreast_log _ _

theorem abreast_execute {command command' : String} (h : Command.Twin command command') :
    Abreast p p' (onClient (Client.execute command none))
      (onClient (Client.execute command' none)) :=
  abreast_onClient (Client.abreast_execute h.masked_eq none)

/-- Commands with the same remarks go on alike, as far as they are come to. -/
theorem abreast_runCommands {commands commands' : List String}
    (h : List.Forall₂ Command.Twin commands commands')
    (hremarks : remarks commands = remarks commands') :
    Abreast p p' (runCommands commands) (runCommands commands') := by
  induction h with
  | nil => exact .pure _
  | @cons command command' rest rest' hcommand hrest ih =>
    by_cases hcramped : Command.Cramped command
    · obtain rfl := hcommand.eq_of_cramped hcramped
      have stops : Meets (fun _ => True) (onClient (Client.execute command none))
          (fun _ _ => False) fun e _ => ¬ e.IsFault :=
        meets_onClient (Client.meets_execute_cramped hcramped)
      exact .bind (abreast_checkVerb rfl) fun _ => .halted (abreast_execute hcommand) stops
    · rw [remarks_cons hcramped, remarks_cons (mt hcommand.cramped_iff.2 hcramped)] at hremarks
      obtain ⟨hremark, hremarks⟩ := List.cons_eq_cons.1 hremarks
      refine .bind (abreast_checkVerb hremark) fun _ => ?_
      refine .bind (abreast_execute hcommand) fun reply => .bind (.change _) fun _ => ih hremarks

theorem abreast_farEnd : Abreast p p' farEnd farEnd := by
  refine .bind .this fun d => .ite DataConnection.abreast_localAddress ?_
  exact .bind DataConnection.abreast_dataSocket fun _ => .call (Net.abreast_peerAddress _)

theorem abreast_negotiate (mode : DataMode) :
    Abreast p p' (negotiate mode) (negotiate mode) := by
  refine .bind (abreast_onClient (Client.abreast_openData mode)) fun d => ?_
  refine .ensure (.bind (.lend abreast_farEnd) fun _ => .change _) ?_
  exact .lend DataConnection.abreast_close

theorem abreast_giveUp : Abreast p p' giveUp giveUp := by
  refine .rescue (abreast_onChannel Channel.abreast_close) fun e => ?_
  split
  · exact abreast_log _ _
  · exact .fail _

/-- What the end of a conversation comes to. -/
def settle : Except Failure Unit → Op Probe Status
  | .ok () => return .ok
  | .error (.fault f) => do
    log .error s!"FTP error: {f.message}"
    print s!"error: {f.message}"
    giveUp
    return .failed
  | .error e => fail e

theorem abreast_settle (r : Except Failure Unit) : Abreast p p' (settle r) (settle r) := by
  cases r with
  | ok u => exact .pure _
  | error e =>
    cases e with
    | fault f =>
      refine .bind (abreast_log _ _) fun _ => .bind (.change _) fun _ => ?_
      exact .bind abreast_giveUp fun _ => .pure _
    | _ => exact .fail _

variable {plan : CommandLine.Plan} {commands commands' : List String}

/-- The conversation with a server that has greeted. -/
def talk (plan : CommandLine.Plan) (banner : Reply) : Op Probe Status := do
  print banner.line
  settle (← attempt (converse plan))

theorem abreast_talk (plan : CommandLine.Plan)
    (h : List.Forall₂ Command.Twin commands commands')
    (hremarks : remarks commands = remarks commands') (banner : Reply) :
    Abreast p p' (talk { plan with commands } banner)
      (talk { plan with commands := commands' } banner) := by
  have converse : Abreast p p' (converse { plan with commands })
      (converse { plan with commands := commands' }) := by
    refine .bind (abreast_runCommands h hremarks) fun _ => ?_
    have leave : Abreast p p' (onChannel Channel.logout) (onChannel Channel.logout) :=
      abreast_onChannel Channel.abreast_logout
    exact .ite (.bind (abreast_negotiate _) fun _ => leave) leave
  exact .bind (.change _) fun _ => .bind (.attempt converse) fun r => abreast_settle r

theorem run_of_greeting (plan : CommandLine.Plan) {s t : Live Probe} {banner : Reply}
    (h : (onChannel (Channel.connect plan.target plan.timeoutMillis)).run s = (.ok banner, t)) :
    (run plan).run s = (talk plan banner).run t := by
  have hattempt : (attempt (onChannel (Channel.connect plan.target plan.timeoutMillis)) :
      Op Probe _).run s = (.ok (.ok banner), t) := by
    rw [run_attempt, h]
  rw [run, run_bind_ok hattempt]
  rfl

/-- What a run without a greeting comes to. -/
def refuse : Failure → Op Probe Status
  | .fault f => do
    log .error s!"Connection failed: {f.message}"
    print s!"error: {f.message}"
    return .failed
  | e => fail e

theorem run_of_refused {s t : Live Probe} {e : Failure}
    (h : (onChannel (Channel.connect plan.target plan.timeoutMillis)).run s = (.error e, t)) :
    (run plan).run s = (refuse e).run t := by
  have hattempt : (attempt (onChannel (Channel.connect plan.target plan.timeoutMillis)) :
      Op Probe _).run s = (.ok (.error e), t) := by
    rw [run_attempt, h]
  rw [run, run_bind_ok hattempt]
  cases e <;> rfl

/-- Without a greeting no command is come to. -/
theorem run_of_refusal {s t : Live Probe} {e : Failure}
    (h : (onChannel (Channel.connect plan.target plan.timeoutMillis)).run s = (.error e, t)) :
    (run { plan with commands }).run s = (run { plan with commands := commands' }).run s := by
  have hrun : (run { plan with commands }).run s = (refuse e).run t := run_of_refused h
  have hrun' : (run { plan with commands := commands' }).run s = (refuse e).run t :=
    run_of_refused h
  rw [hrun, hrun']

/-! ## Equal logs -/

/-- The log of a run on a network. -/
def logs (plan : CommandLine.Plan) (net : Network) : List LogRecord :=
  ((run plan).run ⟨{}, net⟩).2.net.logs

theorem logs_eq_of_remarks (plan : CommandLine.Plan)
    (h : List.Forall₂ Command.Twin commands commands')
    (hremarks : remarks commands = remarks commands') (net : Network) :
    logs { plan with commands } net = logs { plan with commands := commands' } net := by
  unfold logs
  rcases hconnect : (onChannel (Channel.connect plan.target plan.timeoutMillis)).run ⟨{}, net⟩
    with ⟨e | banner, t⟩
  · rw [run_of_refusal hconnect]
  · have htalk := abreast_talk plan h hremarks banner t t ⟨rfl, t.net.beside_self⟩
    rw [run_of_greeting { plan with commands } hconnect,
      run_of_greeting { plan with commands := commands' } hconnect]
    exact htalk.2.2.logs_eq_iff.2 rfl

/-- The log keeps the passwords of plainly written commands. -/
theorem logs_eq_of_plain (h : List.Forall₂ Command.Twin commands commands')
    (hplain : ∀ command ∈ commands ++ commands', Command.Masked command → Command.Plain command)
    (net : Network) :
    logs { plan with commands } net = logs { plan with commands := commands' } net :=
  logs_eq_of_remarks plan h (remarks_eq_of_plain h hplain) net

theorem logs_eq_of_unusable (plan : CommandLine.Plan)
    (h : ¬ Timeout.Usable plan.timeoutMillis) (net : Network) :
    logs { plan with commands } net = logs { plan with commands := commands' } net := by
  have refused : Meets (fun _ => True) (onChannel (Channel.connect plan.target plan.timeoutMillis))
      (fun _ _ => False) fun _ _ => True := meets_onChannel (Channel.meets_connect_unusable h)
  obtain ⟨e, t, hconnect, -⟩ := refused.failure (s := ⟨{}, net⟩) trivial
  unfold logs
  rw [run_of_refusal hconnect]

/-! ## Telling remarks apart -/

/-- The record that a remark makes. -/
def warnings (command : String) : List LogRecord :=
  (remark? command).toList.map fun remark => ⟨.probe, .warning, remark⟩

theorem remark?_eq_of_warnings {command command' : String}
    (h : warnings command = warnings command') : remark? command = remark? command' := by
  unfold warnings at h
  cases hremark : remark? command <;> cases hremark' : remark? command' <;> simp_all

/-- The same run with the warning in the log. -/
def warned (command : String) (s : Live Probe) : Live Probe :=
  { s with net := { s.net with logs := s.net.logs ++ warnings command } }

theorem run_checkVerb (command : String) {s : Live Probe} (h : s.net.threshold = .warning) :
    (checkVerb command).run s = (.ok (), warned command s) := by
  rw [checkVerb_eq, warned, warnings]
  cases remark? command with
  | none => simp
  | some remark =>
    dsimp only
    rw [log, call, run_zoom, Net.log, run_update, h]
    rfl

/-- A probe whose channel still gets a number of answers. -/
def Attended (k : Nat) (s : Live Probe) : Prop :=
  Channel.Attended 0 k ⟨s.self.channel, s.net⟩

theorem attended_warned {k : Nat} {s : Live Probe} (h : Attended k s) (command : String) :
    Attended k (warned command s) :=
  ⟨h.state, h.writer, h.replies, h.serves.congr rfl rfl⟩

theorem run_onClient {α : Type} {m : Op Client α} {s : Live Probe} {r : Except Failure α}
    {u : Live Client} (h : m.run ⟨s.self.client, s.net⟩ = (r, u)) :
    (onClient m).run s = (r, ⟨{ s.self with client := u.self }, u.net⟩) := by
  rw [onClient, Live.focus, run_zoom, h]

/-- A command is answered while there are answers. -/
theorem run_execute_of_attended {command : String} (hfree : ¬ Command.Cramped command) {k : Nat}
    {s : Live Probe} (h : Attended (k + 1) s) :
    ∃ reply t, (onClient (Client.execute command none)).run s = (.ok reply, t) ∧ Attended k t := by
  obtain ⟨shown, hshown⟩ := Command.masked_of_not_cramped hfree
  obtain ⟨u, hsend, hu⟩ := Channel.run_send_of_attended h hshown
  have hverdict : Client.verdict none ⟨⟨2, 0, 0⟩, "ok"⟩ = .ok ⟨⟨2, 0, 0⟩, "ok"⟩ := rfl
  have hexecute := Client.run_execute_welcome (s := ⟨s.self.client, s.net⟩)
    hshown hsend hverdict
  exact ⟨_, _, run_onClient hexecute, hu.state, hu.writer, hu.replies, hu.serves.congr rfl rfl⟩

theorem run_execute_of_silence {command : String} (hfree : ¬ Command.Cramped command)
    {s : Live Probe} (h : Attended 0 s) :
    ∃ f t, (onClient (Client.execute command none)).run s = (.error (.fault f), t) := by
  obtain ⟨shown, hshown⟩ := Command.masked_of_not_cramped hfree
  obtain ⟨f, u, hsend⟩ := Channel.run_send_of_silence h hshown
  obtain ⟨t, hexecute, -⟩ := Client.run_execute_fault (s := ⟨s.self.client, s.net⟩) none
    hshown hsend
  exact ⟨f, _, run_onClient hexecute⟩

theorem run_runCommands_of_attended {before : List String}
    (hfree : ∀ command ∈ before, ¬ Command.Cramped command) {s : Live Probe}
    (h : Attended before.length s) :
    ∃ t, (runCommands before).run s = (.ok (), t) ∧ Attended 0 t := by
  induction before generalizing s with
  | nil => exact ⟨s, rfl, h⟩
  | cons command rest ih =>
    obtain ⟨hcommand, hrest⟩ := List.forall_mem_cons.1 hfree
    obtain ⟨reply, t, hexecute, ht⟩ := run_execute_of_attended hcommand
      (attended_warned h command)
    obtain ⟨u, hrun, hu⟩ := ih hrest
      (s := ⟨{ t.self with printed := t.self.printed ++ [reply.line] }, t.net⟩) ht
    refine ⟨u, ?_, hu⟩
    rw [runCommands, run_bind_ok (run_checkVerb command h.serves.threshold),
      run_bind_ok hexecute, print, run_bind_ok (run_change _ _), hrun]

/-- What is left of a run in which the commands fail. -/
theorem run_talk_of_error {banner : Reply} {s t : Live Probe} {e : Failure}
    (h : (runCommands plan.commands).run
      ⟨{ s.self with printed := s.self.printed ++ [banner.line] }, s.net⟩ = (.error e, t)) :
    (talk plan banner).run s = (settle (.error e)).run t := by
  have hconverse : (attempt (converse plan) : Op Probe _).run
      ⟨{ s.self with printed := s.self.printed ++ [banner.line] }, s.net⟩ =
        (.ok (.error e), t) := by
    rw [run_attempt, converse, run_bind_error h]
  rw [talk, print, run_bind_ok (run_change _ _), run_bind_ok hconverse]

/-- A command that fails leaves its warning in the log, and those behind it are not come to. -/
theorem run_runCommands_of_fault {before after : List String} {command : String}
    {s t u : Live Probe} {f : Fault} (hbefore : (runCommands before).run s = (.ok (), t))
    (hthreshold : t.net.threshold = .warning)
    (hcommand : (onClient (Client.execute command none)).run (warned command t) =
      (.error (.fault f), u)) :
    (runCommands (before ++ command :: after)).run s = (.error (.fault f), u) := by
  rw [runCommands_append, run_bind_ok hbefore, runCommands,
    run_bind_ok (run_checkVerb command hthreshold), run_bind_error hcommand]

/-- Where the server falls silent behind the commands `before`, the two runs part with the
remarks on the next command. -/
theorem remark?_eq_of_logs {before before' after after' : List String} {command command' : String}
    (husable : Timeout.Usable plan.timeoutMillis)
    (hbefore : List.Forall₂ Command.Twin before before')
    (hremarks : remarks before = remarks before')
    (hfree : ∀ command ∈ before, ¬ Command.Cramped command)
    (hcommand : Command.Twin command command') (hcramped : ¬ Command.Cramped command)
    (hlogs : ∀ net, logs { plan with commands := before ++ command :: after } net =
      logs { plan with commands := before' ++ command' :: after' } net) :
    remark? command = remark? command' := by
  obtain ⟨t₀, hconnect, hattended⟩ := Channel.run_connect_answering plan.target husable
    before.length
  let s : Live Probe := ⟨⟨⟨t₀.self, []⟩, []⟩, t₀.net⟩
  let net := Network.answering (List.replicate before.length "200 ok\r\n")
  have hgreeted : (onChannel (Channel.connect plan.target plan.timeoutMillis)).run ⟨{}, net⟩ =
      (.ok ⟨⟨2, 2, 0⟩, "hi"⟩, s) := by
    rw [onChannel, run_onClient (Client.run_onChannel hconnect)]
  let s₁ : Live Probe :=
    ⟨{ s.self with printed := s.self.printed ++ [Reply.line ⟨⟨2, 2, 0⟩, "hi"⟩] }, s.net⟩
  -- Both runs come to the command in states that differ in the calls noted only.
  obtain ⟨t, hrun, ht⟩ := run_runCommands_of_attended (s := s₁) hfree hattended
  obtain ⟨t', hrun', hself, hnet⟩ :=
    (abreast_runCommands hbefore hremarks).run (t := s₁) ⟨rfl, s₁.net.beside_self⟩ hrun
  have hthreshold : t'.net.threshold = .warning := by
    obtain ⟨events, rest, -, hnet⟩ := hnet
    rw [hnet]
    exact ht.serves.threshold
  have hparted : Alike.On (Network.Beside (t.net.logs ++ warnings command)
      (t'.net.logs ++ warnings command')) (warned command t) (warned command' t') :=
    ⟨hself, hnet.parted _ _⟩
  obtain ⟨f, v, hexecute⟩ := run_execute_of_silence hcramped (attended_warned ht command)
  obtain ⟨v', hexecute', hv⟩ := (abreast_execute hcommand).run hparted hexecute
  have hend := abreast_settle (.error (.fault f)) v v' hv
  have hequal := hlogs net
  unfold logs at hequal
  rw [run_of_greeting { plan with commands := before ++ command :: after } hgreeted,
    run_of_greeting { plan with commands := before' ++ command' :: after' } hgreeted,
    run_talk_of_error (run_runCommands_of_fault hrun ht.serves.threshold hexecute),
    run_talk_of_error (run_runCommands_of_fault hrun' hthreshold hexecute')] at hequal
  have hwarnings := hend.2.2.logs_eq_iff.1 hequal
  rw [hnet.logs_eq_iff.2 rfl] at hwarnings
  exact remark?_eq_of_warnings (List.append_cancel_left hwarnings)

theorem remarks_append {before : List String}
    (hfree : ∀ command ∈ before, ¬ Command.Cramped command) (after : List String) :
    remarks (before ++ after) = before.map remark? ++ remarks after := by
  induction before with
  | nil => rfl
  | cons command rest ih =>
    obtain ⟨hcommand, hrest⟩ := List.forall_mem_cons.1 hfree
    rw [List.cons_append, remarks_cons hcommand, ih hrest, List.map_cons, List.cons_append]

theorem free_of_twins (h : List.Forall₂ Command.Twin commands commands')
    (hfree : ∀ command ∈ commands, ¬ Command.Cramped command) :
    ∀ command ∈ commands', ¬ Command.Cramped command := by
  induction h with
  | nil => simp
  | cons hcommand _ ih =>
    obtain ⟨hfirst, hrest⟩ := List.forall_mem_cons.1 hfree
    exact List.forall_mem_cons.2 ⟨mt hcommand.cramped_iff.2 hfirst, ih hrest⟩

theorem remarks_of_free {before : List String}
    (hfree : ∀ command ∈ before, ¬ Command.Cramped command) :
    remarks before = before.map remark? := by
  have happend := remarks_append hfree []
  rwa [List.append_nil, show remarks [] = [] from rfl, List.append_nil] at happend

/-- Remarks are told apart one by one, those before a command being the same. -/
theorem remarks_eq_of_logs (husable : Timeout.Usable plan.timeoutMillis)
    {before before' : List String} (hbefore : List.Forall₂ Command.Twin before before')
    (hfree : ∀ command ∈ before, ¬ Command.Cramped command)
    (hremarks : before.map remark? = before'.map remark?)
    (h : List.Forall₂ Command.Twin commands commands')
    (hlogs : ∀ net, logs { plan with commands := before ++ commands } net =
      logs { plan with commands := before' ++ commands' } net) :
    remarks commands = remarks commands' := by
  induction h generalizing before before' with
  | nil => rfl
  | @cons command command' rest rest' hcommand _ ih =>
    by_cases hcramped : Command.Cramped command
    · rw [remarks_cons_cramped hcramped, remarks_cons_cramped (hcommand.cramped_iff.1 hcramped)]
    -- The next command joins those that are answered, with its remark settled.
    have hsame : remarks before = remarks before' := by
      rw [remarks_of_free hfree, remarks_of_free (free_of_twins hbefore hfree), hremarks]
    have hremark := remark?_eq_of_logs husable hbefore hsame hfree hcommand hcramped hlogs
    rw [remarks_cons hcramped, remarks_cons (mt hcommand.cramped_iff.2 hcramped), hremark]
    have hrest : remarks rest = remarks rest' := by
      apply ih (List.rel_append hbefore (.cons hcommand .nil))
      · simpa [or_imp, forall_and] using ⟨hfree, hcramped⟩
      · simp [hremarks, hremark]
      · simpa using hlogs
    rw [hrest]

/-- Runs with the same remarks have the same log on every network, and without a usable time
limit all runs do. -/
theorem same_logs_iff (h : List.Forall₂ Command.Twin plan.commands commands') :
    (∀ net, logs plan net = logs { plan with commands := commands' } net) ↔
      (Timeout.Usable plan.timeoutMillis → remarks plan.commands = remarks commands') := by
  constructor
  · intro hlogs husable
    have start : List.Forall₂ Command.Twin [] [] := .nil
    exact remarks_eq_of_logs husable start (by simp) rfl h hlogs
  · intro hremarks net
    by_cases husable : Timeout.Usable plan.timeoutMillis
    · exact logs_eq_of_remarks plan h (hremarks husable) net
    · exact logs_eq_of_unusable plan husable net

/-- A login with a tab behind `PASS`. -/
def tabbedPlan (password : String) : CommandLine.Plan where
  target := ⟨"127.0.0.1", 21⟩
  timeoutMillis := 10000
  mode := .passive
  logLevel := .info
  commands := ["PASS\t" ++ password]
  negotiate := false

/-- The log tells these passwords apart. -/
theorem same_logs_tabbed :
    List.Forall₂ Command.Twin (tabbedPlan "secret").commands (tabbedPlan "other").commands ∧
      ¬ ∀ net, logs (tabbedPlan "secret") net = logs (tabbedPlan "other") net := by
  have htwins : List.Forall₂ Command.Twin (tabbedPlan "secret").commands
      (tabbedPlan "other").commands :=
    .cons (.inr ⟨by decide, by decide⟩) .nil
  have husable : Timeout.Usable (tabbedPlan "secret").timeoutMillis := by
    refine ⟨by decide, ?_⟩
    have hok : (Timeout.ofMillis 10000).isOk = true := by decide +kernel
    cases hlimit : Timeout.ofMillis 10000 with
    | ok limit => exact ⟨limit, hlimit⟩
    | error e => simp [hlimit, Except.isOk, Except.toBool] at hok
  have hremarks :
      remarks (tabbedPlan "secret").commands ≠ remarks (tabbedPlan "other").commands := by
    decide +kernel
  apply And.intro htwins
  intro hlogs
  exact hremarks ((same_logs_iff htwins).1 hlogs husable)

end FtpControl.Probe
