import FtpControl.Proofs.Channel.Greeting
import FtpControl.Proofs.Probe.Tidy

/-!
# How far the commands of a probe get

A command whose capitals spell `PASS` in fewer than four characters cannot be masked, and the
run does not survive the attempt. Every other command is answered or ends in a fault.
-/

namespace FtpControl

open Effect Live

variable {α : Type}

/-- A text whose capitals spell the verb of a password command, in fewer characters. -/
def Command.Cramped (command : String) : Prop :=
  Text.upper (Text.trimStart command.toList) = "PASS".toList ∧
    (Text.trimStart command.toList).length < 4

instance (command : String) : Decidable (Command.Cramped command) :=
  inferInstanceAs (Decidable (_ ∧ _))

theorem Command.masked_eq_error_iff {command : String} {e : Failure} :
    masked command = .error e ↔ Cramped command ∧ e = .tooShort := by
  unfold masked Cramped
  generalize Text.trimStart command.toList = cs
  dsimp only
  by_cases hlength : cs.length < 4
  · have hnone : cs[4]? = none := List.getElem?_eq_none (by omega)
    rw [List.take_of_length_le (by omega : cs.length ≤ 4), hnone, if_neg (by omega : cs.length ≠ 4)]
    split_ifs with hverb
    · simp [hverb, hlength, eq_comm]
    · exact iff_of_false (by simp) fun h => hverb h.1.1
  · have hsome : cs.length ≠ 4 → ∃ c, cs[4]? = some c := fun hne =>
      ⟨cs[4], List.getElem?_eq_getElem (by omega)⟩
    split_ifs with hverb hfour
    · simp [hlength]
    · obtain ⟨c, hc⟩ := hsome hfour
      simp [hc, hlength]
    · simp [hlength]

theorem Command.masked_of_not_cramped {command : String} (h : ¬ Cramped command) :
    ∃ shown, masked command = .ok shown := by
  cases hmasked : masked command with
  | ok shown => exact ⟨shown, rfl⟩
  | error e => exact absurd (masked_eq_error_iff.1 hmasked).1 h

namespace Client

theorem fails_execute {command : String} (h : ¬ Command.Cramped command) :
    Fails Failure.IsFault (execute command none) := by
  obtain ⟨shown, hshown⟩ := Command.masked_of_not_cramped h
  refine .bind (.rescue (.focus (Channel.fails_send hshown)) ?_) fun reply => ?_
  · rintro _ ⟨f, rfl⟩
    exact .bind (fails_record hshown _ _) fun _ => .fail ⟨f, rfl⟩
  · exact .bind (fails_record hshown _ _) fun _ => .pure _

/-- Whatever becomes of the channel, a command that cannot be masked is not survived. -/
theorem meets_execute_cramped {command : String} (h : Command.Cramped command) :
    Meets (fun _ => True) (execute command none) (fun _ _ => False)
      fun e _ => ¬ e.IsFault := by
  have hmasked : Command.masked command = .error .tooShort :=
    Command.masked_eq_error_iff.2 ⟨h, rfl⟩
  have sent : Meets (fun _ => True) (Channel.send command) (fun _ _ => False)
      fun e _ => e.IsFault ∨ e = .tooShort := by
    unfold Channel.send
    rw [hmasked]
    have required := (Channel.fails_requireConnected "send a command").meets (P := fun _ => True)
    exact .bind (required.failing fun _ _ he => .inl he) fun _ => .failed fun _ _ => .inr rfl
  have recorded : ∀ f : Fault, Meets (fun _ => True) (do
      record command none (some f)
      fail (.fault f)) (fun (_ : Reply) _ => False) fun e _ => ¬ e.IsFault := by
    intro f
    unfold record
    rw [hmasked]
    refine .bind ?_ fun _ => .fail fun _ hs => hs
    refine .bind (Q := fun _ _ => True) (fun _ _ => trivial) fun _ => ?_
    refine .failed fun _ _ => ?_
    rintro ⟨f, hf⟩
    cases hf
  refine .bind (Q := fun _ _ => False) (.rescue (meets_onChannel sent) fun e => ?_)
    fun _ _ h => h.elim
  by_cases he : e.IsFault
  · obtain ⟨f, rfl⟩ := he
    exact (recorded f).start fun _ _ => trivial
  · intro s hs
    obtain rfl := hs.resolve_left he
    exact he

/-- A command that has been answered has left the channel connected. -/
theorem meets_execute_connected (command : String) :
    Meets (fun _ => True) (execute command none) (fun _ s => s.self.channel.state = .connected)
      fun _ _ => True := by
  refine .bind (.rescue (meets_onChannel (Channel.meets_send command)) fun e => ?_) fun reply => ?_
  · split
    · exact .skip fun _ => .fail fun _ _ => trivial
    · exact .fail fun _ _ => trivial
  · have aside : Keeps (fun s t => t.self.channel = s.self.channel)
        (record command (some reply) none) :=
      .bind (.call (N := fun _ _ => True) (fun _ => trivial) fun _ _ _ => rfl) fun _ =>
        .bind (.ofExcept _) fun _ => .change fun _ => rfl
    have recorded : Meets (fun s => s.self.channel.state = .connected)
        (record command (some reply) none) (fun _ s => s.self.channel.state = .connected)
        fun _ s => s.self.channel.state = .connected :=
      .ofKeeps aside fun _ _ hs h => h ▸ hs
    exact .bind (recorded.failing fun _ _ _ => trivial) fun _ =>
      .pure fun _ hs => hs

end Client

namespace Probe

theorem fails_print {E : Failure → Prop} (line : String) : Fails E (print line) :=
  .change _

theorem fails_checkVerb {E : Failure → Prop} (command : String) : Fails E (checkVerb command) := by
  refine .ite (.pure _) ?_
  split
  · exact .call (Net.fails_log _ _ _)
  · exact .call (Net.fails_log _ _ _)

theorem runCommands_append (before after : List String) :
    runCommands (before ++ after) = (do runCommands before; runCommands after) := by
  induction before with
  | nil => rfl
  | cons command rest ih => simp only [List.cons_append, runCommands, ih, bind_assoc]

theorem meets_runCommands_cramped {command : String} (h : Command.Cramped command)
    (after : List String) :
    Meets (fun _ => True) (runCommands (command :: after)) (fun _ _ => False)
      fun e _ => ¬ e.IsFault := by
  have executed : Meets (fun _ => True) (onClient (Client.execute command none))
      (fun _ _ => False) fun e _ => ¬ e.IsFault :=
    meets_onClient (Client.meets_execute_cramped h)
  refine .bind (Q := fun _ _ => True) ?_ fun _ => .bind executed fun _ _ h => h.elim
  exact (fails_checkVerb (E := fun e => ¬ e.IsFault) command).meets

/-- Commands stumble over the first one that cannot be masked, if it is reached. -/
theorem escapes_runCommands {commands : List String} {s : Live Probe} :
    Escapes Failure.IsFault (runCommands commands) s ↔
      ∃ before command after t, commands = before ++ command :: after ∧
        (runCommands before).run s = (.ok (), t) ∧ Command.Cramped command := by
  constructor
  · intro h
    induction commands generalizing s with
    | nil => exact absurd h (Escapes.not_of_fails (.pure _))
    | cons command rest ih =>
      rw [show runCommands (command :: rest) = (do runCommands [command]; runCommands rest) from
        runCommands_append [command] rest, Escapes.bind_iff] at h
      rcases h with h | ⟨⟨⟩, t, hrun, h⟩
      · refine ⟨[], command, rest, s, rfl, rfl, ?_⟩
        by_contra hfree
        refine Escapes.not_of_fails ?_ h
        refine .bind (fails_checkVerb _) fun _ => .bind (.focus (Client.fails_execute hfree)) ?_
        exact fun reply => .bind (fails_print _) fun _ => .pure _
      · obtain ⟨before, stray, after, u, rfl, hbefore, hstray⟩ := ih h
        refine ⟨command :: before, stray, after, u, rfl, ?_, hstray⟩
        rw [show runCommands (command :: before) = (do runCommands [command]; runCommands before)
          from runCommands_append [command] before, run_bind_ok hrun, hbefore]
  · rintro ⟨before, command, after, t, rfl, hbefore, hcommand⟩
    rw [runCommands_append, Escapes.bind_iff_of_ok hbefore]
    exact Escapes.of_meets (meets_runCommands_cramped hcommand after) trivial

/-- A run up to some of its commands. -/
def opening (plan : CommandLine.Plan) (commands : List String) : Op Probe Unit := do
  let banner ← onChannel (Channel.connect plan.target plan.timeoutMillis)
  print banner.line
  runCommands commands

variable {plan : CommandLine.Plan} {net : Network}

theorem opening_eq (plan : CommandLine.Plan) (commands : List String) :
    opening plan commands = (do opening plan []; runCommands commands) := by
  simp only [opening, runCommands, bind_assoc, pure_bind]

theorem escapes_connect (hmillis : 0 ≤ plan.timeoutMillis) :
    Escapes Failure.IsFault (opening plan []) ⟨{}, net⟩ ↔
      Channel.Obstructed plan.timeoutMillis net.script := by
  have connected := meets_onChannel (Channel.meets_connect_obstructed plan.target
    net.script hmillis)
  have tail : ∀ banner : Reply, Fails Failure.IsFault (do print banner.line; runCommands []) :=
    fun _ => .bind (fails_print _) fun _ => .pure _
  exact (Escapes.bind_iff_of_fails tail).trans (Escapes.iff_of_meets connected ⟨rfl, rfl⟩)

theorem escapes_opening (hmillis : 0 ≤ plan.timeoutMillis) {commands : List String} :
    Escapes Failure.IsFault (opening plan commands) ⟨{}, net⟩ ↔
      Channel.Obstructed plan.timeoutMillis net.script ∨
        ∃ before command after t, commands = before ++ command :: after ∧
          (opening plan before).run ⟨{}, net⟩ = (.ok (), t) ∧ Command.Cramped command := by
  rw [opening_eq, Escapes.bind_iff, escapes_connect hmillis]
  apply or_congr_right
  constructor
  · rintro ⟨⟨⟩, s, hstart, h⟩
    obtain ⟨before, command, after, t, hsplit, hbefore, hcommand⟩ := escapes_runCommands.1 h
    refine ⟨before, command, after, t, hsplit, ?_, hcommand⟩
    rw [opening_eq, run_bind_ok hstart, hbefore]
  · rintro ⟨before, command, after, t, hsplit, hbefore, hcommand⟩
    rw [opening_eq] at hbefore
    rcases hstart : (opening plan []).run ⟨{}, net⟩ with ⟨e | ⟨⟩, s⟩
    · rw [run_bind_error hstart] at hbefore
      cases hbefore
    · rw [run_bind_ok hstart] at hbefore
      refine ⟨(), s, rfl, escapes_runCommands.2 ?_⟩
      exact ⟨before, command, after, t, hsplit, hbefore, hcommand⟩

/-- Where the commands have been carried out the channel is connected, and nothing else is
open. -/
theorem meets_opening (plan : CommandLine.Plan) (commands : List String) :
    Meets (fun s => s.self = {} ∧ s.net.ledger = .held []) (opening plan commands)
      (fun _ s => Tidy Probe.channel [] s ∧ s.self.channel.state = .connected)
      fun _ _ => True := by
  have connected : Meets (fun s => s.self = {} ∧ s.net.ledger = .held [])
      (onChannel (Channel.connect plan.target plan.timeoutMillis))
      (fun _ s => Tidy Probe.channel [] s ∧ s.self.channel.state = .connected) fun _ _ => True :=
    (meets_connect _ _).imp (fun _ hs => hs) (fun _ _ hs => ⟨tidy_of_met hs, hs.2.1.2 rfl⟩)
      fun _ _ _ => trivial
  refine .bind connected fun banner => ?_
  refine .bind (Q := fun _ s => Tidy Probe.channel [] s ∧ s.self.channel.state = .connected)
    (.change fun _ hs => hs) fun _ => ?_
  induction commands with
  | nil => exact .pure fun _ hs => hs
  | cons command rest ih =>
    refine .bind (((Steady.meets (steady_checkVerb command) [])).imp (fun _ hs => hs.1)
      (fun _ _ hs => hs) fun _ _ _ => trivial) fun _ => ?_
    have executed : Meets (Tidy Probe.channel []) (onClient (Client.execute command none))
        (fun _ s => Tidy Probe.channel [] s ∧ s.self.channel.state = .connected)
        fun _ _ => True :=
      ((Steady.meets (steady_onClient (Client.tended_tidy.execute command none)) []).and
        (meets_onClient (Client.meets_execute_connected command))).imp (fun _ hs => ⟨hs, trivial⟩)
        (fun _ _ hs => hs) fun _ _ _ => trivial
    refine .bind executed fun reply => ?_
    exact .bind (Q := fun _ s => Tidy Probe.channel [] s ∧ s.self.channel.state = .connected)
      (.change fun _ hs => hs) fun _ => ih

end Probe

end FtpControl
