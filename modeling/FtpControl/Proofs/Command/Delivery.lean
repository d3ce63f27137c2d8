import FtpControl.Proofs.Command.Lines
import FtpControl.Proofs.Endpoint.AfterMode
import FtpControl.Proofs.Probe.Transcript

/-!
# Commands on their way to the server

Whatever a session or a probe sends are commands as they were given, one a flush, or commands of
the engine itself. The latter are always lines. A command with a line end in it is sent like any
other, and what follows the line end comes to the server as a command of its own, which neither
the history nor the mask of a password knows of.
-/

namespace FtpControl

open Effect Live Command

/-! ## Commands of the engine -/

theorem Endpoint.notMem_argument {c : Char} (h : ¬ InTuple c) (e : Endpoint) :
    c ∉ e.argument.toList :=
  fun hc => h (inTuple_of_mem_argument hc)

theorem Endpoint.oneLine_portCommand (e : Endpoint) : OneLine e.portCommand := by
  have hlist : e.portCommand.toList = "PORT ".toList ++ e.argument.toList :=
    String.toList_append
  rw [OneLine, hlist]
  constructor
  · simp [notMem_argument (c := '\r') (by decide) e]
  · simp [notMem_argument (c := '\n') (by decide) e]

theorem oneLine_quit : OneLine "QUIT" := by
  constructor
  · decide
  · decide

theorem oneLine_of_negotiates {mode : DataMode} {command : String}
    (h : Channel.Negotiates mode command) : OneLine command := by
  cases h with
  | active e => exact e.oneLine_portCommand
  | passive => constructor <;> decide

/-- The command that comes with a request from outside. -/
def Request.given? : Request → Option String
  | .send command => some command
  | .execute command _ => some command
  | .closing command => command
  | _ => none

theorem oneLine_of_carries {r : Request} {command : String} (h : r.Carries command)
    (hr : ∀ given ∈ r.given?, OneLine given) : OneLine command := by
  cases h with
  | send => exact hr _ rfl
  | execute => exact hr _ rfl
  | closing => exact hr _ rfl
  | logout => exact oneLine_quit
  | negotiate _ _ h => exact oneLine_of_negotiates h

/-! ## Sessions -/

/-- The bytes that an event says were sent on a control connection. -/
def Event.sentOn? (n : Nat) : Event → Option (List UInt8)
  | .send handle bytes => if handle = .writer n then some bytes else none
  | _ => none

/-- What was sent on a control connection, flush by flush. -/
def flushes (n : Nat) (events : List Event) : List (List UInt8) :=
  events.filterMap (Event.sentOn? n)

theorem flushes_append (n : Nat) (events events' : List Event) :
    flushes n (events ++ events') = flushes n events ++ flushes n events' :=
  List.filterMap_append

theorem flushes_sublist (n : Nat) (net : Network) :
    (flushes n net.events).Sublist net.sent := by
  unfold Network.sent
  induction net.events with
  | nil => exact .slnil
  | cons event events ih =>
    cases event with
    | send handle bytes =>
      by_cases h : handle = .writer n
      · simpa [flushes, Event.sentOn?, Event.sent?, h] using ih
      · simpa [flushes, Event.sentOn?, Event.sent?, h] using ih.cons bytes
    | _ => exact ih

namespace Session

/-- All that a session does on the network, request by request. -/
def journal : List Request → Live Session → List Event
  | [], _ => []
  | r :: rs, s => (step r s).2.net.events ++ journal rs (step r s).2

/-- A request sends its command, or nothing, on each connection. -/
theorem flushes_step (r : Request) (s : Live Session) (n : Nat) :
    flushes n (step r s).2.net.events = [] ∨
      ∃ command, r.Carries command ∧
        flushes n (step r s).2.net.events = [Command.bytes command] := by
  have hsublist := flushes_sublist n (step r s).2.net
  rcases wired_step r s with ⟨command, hcarries, hsent⟩ | ⟨hsent, -⟩
  · rw [← Command.bytes_eq] at hsent
    rw [hsent, List.sublist_singleton] at hsublist
    rcases hsublist with hnone | hone
    · exact .inl hnone
    · exact .inr ⟨command, hcarries, hone⟩
  · rw [hsent] at hsublist
    exact .inl (List.sublist_nil.mp hsublist)

/-- So on each connection a session sends commands of its requests in their order. -/
theorem flushes_journal (rs : List Request) (s : Live Session) (n : Nat) :
    ∃ commands, List.SublistForall₂ (fun command r => r.Carries command) commands rs ∧
      flushes n (journal rs s) = commands.map Command.bytes := by
  induction rs generalizing s with
  | nil => exact ⟨[], .nil, rfl⟩
  | cons r rs ih =>
    obtain ⟨commands, hcommands, hflushes⟩ := ih (step r s).2
    rw [journal, flushes_append, hflushes]
    rcases flushes_step r s n with hnone | ⟨command, hcarries, hone⟩
    · exact ⟨commands, .cons_right hcommands, by rw [hnone, List.nil_append]⟩
    · exact ⟨command :: commands, .cons hcarries hcommands, by rw [hone]; rfl⟩

theorem oneLine_of_sublist {rs : List Request} {commands : List String}
    (h : List.SublistForall₂ (fun command r => r.Carries command) commands rs)
    (hrs : ∀ r ∈ rs, ∀ given ∈ r.given?, OneLine given) :
    ∀ command ∈ commands, OneLine command := by
  induction h with
  | nil => simp
  | cons hcarries _ ih =>
    rw [List.forall_mem_cons] at hrs ⊢
    exact ⟨oneLine_of_carries hcarries hrs.1, ih hrs.2⟩
  | cons_right _ ih =>
    rw [List.forall_mem_cons] at hrs
    exact ih hrs.2

end Session

/-! ## Probes -/

namespace Probe

theorem mute_giveUp : Mute giveUp :=
  tacit_giveUp.imp fun _ _ h => h.1

theorem mute_log (level : LogLevel) (message : String) : Mute (log level message) :=
  mute_quiet (Net.quiet_log _ _ _)

theorem mute_refuse (e : Failure) : Mute (refuse e) := by
  cases e with
  | fault f =>
    exact .bind (mute_log _ _) fun _ => .bind (mute_change _) fun _ => .pure _
  | _ => exact .fail _

theorem mute_settle (outcome : Except Failure Unit) : Mute (settle outcome) := by
  cases outcome with
  | ok => exact .pure _
  | error e =>
    cases e with
    | fault f =>
      exact .bind (mute_log _ _) fun _ => .bind (mute_change _) fun _ =>
        .bind mute_giveUp fun _ => .pure _
    | _ => exact .fail _

/-- Behind its first part a run sends nothing, however it ends. -/
theorem sent_run (plan : CommandLine.Plan) (s : Live Probe) :
    ((run plan).run s).2.net.sent = ((engage plan).run s).2.net.sent := by
  rcases hconnect : (onChannel (Channel.connect plan.target plan.timeoutMillis)).run s
    with ⟨e | banner, t⟩
  · have hengage : (engage plan).run s = (.error e, t) := run_bind_error hconnect
    rw [run_of_refused hconnect, hengage]
    exact mute_refuse e t
  · obtain ⟨u, hprint⟩ : ∃ u, (print banner.line).run t = (.ok (), u) := ⟨_, rfl⟩
    have hengage : (engage plan).run s = (converse plan).run u :=
      (run_bind_ok hconnect).trans (run_bind_ok hprint)
    rw [run_of_greeting plan hconnect, talk, run_bind_ok hprint, hengage]
    exact mute_settle ((converse plan).run u).1 ((converse plan).run u).2

theorem sent_of_run (plan : CommandLine.Plan) (net : Network) :
    ∃ announcement commands, Channel.Negotiates plan.mode announcement ∧
      commands <+: script plan announcement ∧
        ((run plan).run ⟨{}, net⟩).2.net.sent = net.sent ++ commands.map Command.bytes := by
  have ht := meets_engage_completed plan net ⟨{}, net⟩ rfl
  have hbytes : Command.bytes = fun command => Text.encodeUtf8 command.toList ++ [13, 10] :=
    funext Command.bytes_eq
  rw [sent_run, hbytes]
  rcases hengage : (engage plan).run ⟨{}, net⟩ with ⟨e | ⟨⟩, t⟩ <;> rw [hengage] at ht
  · obtain ⟨announcement, _, _, _, commands, _, htranscript, hsent, -⟩ := ht
    exact ⟨announcement, commands, htranscript.announced, htranscript.sends, hsent⟩
  · obtain ⟨announcement, _, _, _, htranscript, hsent, -⟩ := ht
    exact ⟨announcement, _, htranscript.announced, htranscript.sends, hsent⟩

theorem oneLine_of_script {plan : CommandLine.Plan} {announcement : String}
    (hannounced : Channel.Negotiates plan.mode announcement)
    (hplan : ∀ command ∈ plan.commands, OneLine command) :
    ∀ command ∈ script plan announcement, OneLine command := by
  intro command hcommand
  simp only [script, List.mem_append, List.mem_singleton] at hcommand
  rcases hcommand with (hgiven | hengine) | rfl
  · exact hplan command hgiven
  · split_ifs at hengine
    · rw [List.mem_singleton] at hengine
      exact hengine ▸ oneLine_of_negotiates hannounced
    · exact absurd hengine List.not_mem_nil
  · exact oneLine_quit

end Probe

/-- On each connection of a session, and on that of a probe, commands are sent in the order in
which they were given. The server gets them line by line if and only if none of them has a line end
in it, and so if none of those that were given from outside has one. -/
theorem framed_of_given (rs : List Request) (s : Live Session) (n : Nat)
    (plan : CommandLine.Plan) (net : Network) :
    (∃ commands, List.SublistForall₂ (fun command r => r.Carries command) commands rs ∧
      Posted commands (flushes n (Session.journal rs s)) ∧
        (Framed (flushes n (Session.journal rs s)) ↔ ∀ command ∈ commands, OneLine command) ∧
          ((∀ r ∈ rs, ∀ given ∈ r.given?, OneLine given) →
            Framed (flushes n (Session.journal rs s)))) ∧
      ∃ announcement commands sent, Channel.Negotiates plan.mode announcement ∧
        commands <+: Probe.script plan announcement ∧
          ((Probe.run plan).run ⟨{}, net⟩).2.net.sent = net.sent ++ sent ∧
            Posted commands sent ∧ (Framed sent ↔ ∀ command ∈ commands, OneLine command) ∧
              ((∀ given ∈ plan.commands, OneLine given) → Framed sent) := by
  constructor
  · obtain ⟨commands, hcommands, hflushes⟩ := Session.flushes_journal rs s n
    rw [hflushes]
    exact ⟨commands, hcommands, posted_bytes commands, framed_bytes_iff, fun hrs =>
      framed_bytes_iff.mpr (Session.oneLine_of_sublist hcommands hrs)⟩
  · obtain ⟨announcement, commands, hannounced, hfirst, hsent⟩ := Probe.sent_of_run plan net
    refine ⟨announcement, commands, _, hannounced, hfirst, hsent, posted_bytes commands,
      framed_bytes_iff, fun hplan => framed_bytes_iff.mpr fun command hcommand => ?_⟩
    exact Probe.oneLine_of_script hannounced hplan command (hfirst.subset hcommand)

/-- A command with another one behind its line end, and a known verb in front. -/
def smuggling : String := "NOOP \r\nPASS secret"

/-- A session that is given the command. -/
def smugglers : List Request :=
  [.connect "ftp.test" 21 10000, .execute smuggling []]

/-- The server gets two commands for one, and the history shows the password. -/
theorem smuggled_password :
    flushes 0 (Session.journal smugglers ⟨{}, Session.trustingServer⟩) = [Command.bytes smuggling] ∧
      ¬ IsLine (Command.bytes smuggling) ∧
      lines (Command.bytes smuggling) = [Command.bytes "NOOP ", Command.bytes "PASS secret"] ∧
      Probe.remark? smuggling = none ∧
      ((Session.transcript smugglers ⟨{}, Session.trustingServer⟩).map fun moment =>
        moment.session.client.history.map Entry.command) = [[], [smuggling]] := by
  refine ⟨by decide +kernel, ?_, by decide +kernel, by decide +kernel, by decide +kernel⟩
  rw [Command.isLine_bytes_iff]
  exact fun h => h.1 (by decide)

end FtpControl
