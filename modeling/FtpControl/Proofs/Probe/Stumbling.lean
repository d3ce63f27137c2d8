import FtpControl.Proofs.Probe.Negotiating

/-!
# When a probe does not come to its end

A run copes with faults and with nothing else. Any other failure ends it on the spot, without
a status and with whatever is open at the time. There are three places where such a failure
can come from, and a run that meets none of them ends with everything closed.
-/

namespace FtpControl.Probe

open Effect Live

variable {plan : CommandLine.Plan} {net : Network}

/-- All that a run does before it looks at failures. -/
def engage (plan : CommandLine.Plan) : Op Probe Unit := do
  let banner ← onChannel (Channel.connect plan.target plan.timeoutMillis)
  print banner.line
  converse plan

theorem fails_onChannel {E : Failure → Prop} {α : Type} {m : Op Channel α} (hm : Fails E m) :
    Fails E (onChannel m) :=
  fun _ => hm _

theorem fails_giveUp {E : Failure → Prop} : Fails E giveUp := by
  refine .rescue (fails_onChannel Channel.fails_close) ?_
  rintro _ ⟨f, rfl⟩
  exact .call (Net.fails_log _ _ _)

/-- The effect yields a status. -/
def Ends (m : Op Probe Status) (s : Live Probe) : Prop :=
  ∃ status, (m.run s).1 = .ok status

theorem ends_of_fails {m : Op Probe Status} {s : Live Probe} (hm : Fails (fun _ => False) m) :
    Ends m s := by
  obtain ⟨status, t, hrun, -⟩ := (hm.meets (P := fun _ => True)).result (s := s) trivial
  exact ⟨status, by rw [hrun]⟩

/-- Where faults are coped with and other failures passed on, it takes one of the others to
go without a status. -/
theorem ends_attempt_iff {α : Type} {m : Op Probe α} {k : Except Failure α → Op Probe Status}
    {s : Live Probe} (hfault : ∀ f, Fails (fun _ => False) (k (.error (.fault f))))
    (hpass : ∀ e : Failure, ¬ e.IsFault → k (.error e) = fail e) :
    Ends (attempt m >>= k) s ↔
      ¬ Escapes Failure.IsFault m s ∧ ∀ a t, m.run s = (.ok a, t) → Ends (k (.ok a)) t := by
  rcases hr : m.run s with ⟨e | a, t⟩
  · have hattempt : (attempt m).run s = ((.ok (.error e) : Except Failure _), t) := by
      rw [run_attempt, hr]
    unfold Ends
    rw [run_bind_ok hattempt, Escapes.iff_of_error hr, not_not]
    by_cases he : e.IsFault
    · obtain ⟨f, rfl⟩ := he
      exact iff_of_true (ends_of_fails (hfault f)) ⟨⟨f, rfl⟩, by simp⟩
    · rw [hpass e he]
      exact iff_of_false (by rintro ⟨_, ⟨⟩⟩) fun h => he h.1
  · have hattempt : (attempt m).run s = ((.ok (.ok a) : Except Failure _), t) := by
      rw [run_attempt, hr]
    have hnone : ¬ Escapes Failure.IsFault m s := by
      rintro ⟨e, he, -⟩
      rw [hr] at he
      cases he
    unfold Ends
    rw [run_bind_ok hattempt]
    simp [hnone]

/-- A run has a status unless something other than a fault comes up on the way. -/
theorem run_ends_iff (plan : CommandLine.Plan) (s : Live Probe) :
    Ends (run plan) s ↔ ¬ Escapes Failure.IsFault (engage plan) s := by
  have logged : ∀ message, Fails (fun _ => False) (log .error message) :=
    fun _ => .call (Net.fails_log _ _ _)
  rw [run, ends_attempt_iff, engage, Escapes.bind_iff, not_or]
  · simp only [not_exists, not_and]
    refine and_congr_right fun _ => forall_congr' fun banner => forall_congr' fun t =>
      imp_congr_right fun _ => ?_
    obtain ⟨u, hprint⟩ : ∃ u, (print banner.line).run t = (.ok (), u) := ⟨_, rfl⟩
    rw [Ends, run_bind_ok hprint, Escapes.bind_iff_of_ok hprint]
    refine (ends_attempt_iff ?_ ?_).trans (and_iff_left ?_)
    · exact fun f => .bind (logged _) fun _ => .bind (fails_print _) fun _ =>
        .bind fails_giveUp fun _ => .pure _
    · intro e he
      cases e with
      | fault f => exact absurd ⟨f, rfl⟩ he
      | _ => rfl
    · exact fun _ _ _ => ⟨.ok, rfl⟩
  · exact fun f => .bind (logged _) fun _ => .bind (fails_print _) fun _ => .pure _
  · intro e he
    cases e with
    | fault f => exact absurd ⟨f, rfl⟩ he
    | _ => rfl

/-- The probe has carried out these commands, starting on a network. -/
def Reaches (plan : CommandLine.Plan) (net : Network) (commands : List String) (s : Live Probe) :
    Prop :=
  (opening plan commands).run ⟨{}, net⟩ = (.ok (), s)

/-- How a run comes upon a failure that is not a fault. -/
inductive Stumbles (plan : CommandLine.Plan) (net : Network) : Prop
  | connection (h : Channel.Obstructed plan.timeoutMillis net.script)
  | command {before after : List String} {command : String} {s : Live Probe}
      (hplan : plan.commands = before ++ command :: after) (hbefore : Reaches plan net before s)
      (hcommand : Command.Cramped command)
  | negotiation {s : Live Probe} (hplan : plan.negotiate = true)
      (hcommands : Reaches plan net plan.commands s)
      (htrips : Trips ⟨s.self.channel, s.net⟩ plan.mode)

theorem engage_eq (plan : CommandLine.Plan) :
    engage plan = (do
      opening plan plan.commands
      if plan.negotiate then negotiate plan.mode
      onChannel Channel.logout) := by
  simp only [engage, opening, converse, bind_assoc]

/-- Behind the commands only the negotiation is left to stumble over. -/
theorem escapes_ending {s : Live Probe} (hs : Tidy Probe.channel [] s)
    (hstate : s.self.channel.state = .connected) :
    Escapes Failure.IsFault (do
      if plan.negotiate then negotiate plan.mode
      onChannel Channel.logout) s ↔
      plan.negotiate = true ∧ Trips ⟨s.self.channel, s.net⟩ plan.mode := by
  have leave : Fails Failure.IsFault (onChannel Channel.logout) :=
    fails_onChannel Channel.fails_logout
  cases plan.negotiate with
  | false => exact iff_of_false (Escapes.not_of_fails leave) fun h => Bool.false_ne_true h.1
  | true =>
    rw [← escapes_negotiate hs hstate]
    exact (Escapes.bind_iff_of_fails fun _ => leave).trans (and_iff_right rfl).symm

theorem escapes_engage (hnet : net.ledger = .held []) (hmillis : 0 ≤ plan.timeoutMillis) :
    Escapes Failure.IsFault (engage plan) ⟨{}, net⟩ ↔ Stumbles plan net := by
  have ready : ∀ s, Reaches plan net plan.commands s →
      Tidy Probe.channel [] s ∧ s.self.channel.state = .connected := by
    intro s hs
    have ht := meets_opening plan plan.commands ⟨{}, net⟩ ⟨rfl, hnet⟩
    rwa [show (opening plan plan.commands).run ⟨{}, net⟩ = (.ok (), s) from hs] at ht
  rw [engage_eq, Escapes.bind_iff, escapes_opening hmillis]
  constructor
  · rintro ((h | ⟨before, command, after, s, hplan, hbefore, hcommand⟩) | ⟨⟨⟩, s, hrun, h⟩)
    · exact .connection h
    · exact .command hplan hbefore hcommand
    · obtain ⟨hs, hstate⟩ := ready s hrun
      obtain ⟨hplan, htrips⟩ := (escapes_ending hs hstate).1 h
      exact .negotiation hplan hrun htrips
  · rintro (h | ⟨hplan, hbefore, hcommand⟩ | ⟨hplan, hcommands, htrips⟩)
    · exact .inl (.inl h)
    · exact .inl (.inr ⟨_, _, _, _, hplan, hbefore, hcommand⟩)
    · obtain ⟨hs, hstate⟩ := ready _ hcommands
      exact .inr ⟨(), _, hcommands, (escapes_ending hs hstate).2 ⟨hplan, htrips⟩⟩

/-- A run ends with a status and everything closed, unless it stumbles. -/
theorem run_tidy_iff (hnet : net.ledger = .held []) (hmillis : 0 ≤ plan.timeoutMillis) :
    (∃ status s, (run plan).run ⟨{}, net⟩ = (.ok status, s) ∧ s.net.AllClosed) ↔
      ¬ Stumbles plan net := by
  rw [← escapes_engage hnet hmillis, ← run_ends_iff, Ends]
  constructor
  · rintro ⟨status, s, hrun, -⟩
    exact ⟨status, by rw [hrun]⟩
  · rintro ⟨status, hstatus⟩
    have ht := meets_run plan ⟨{}, net⟩ ⟨rfl, hnet⟩
    rcases hr : (run plan).run ⟨{}, net⟩ with ⟨e | status', s⟩ <;> rw [hr] at ht hstatus
    · cases hstatus
    · exact ⟨status', s, rfl, ht⟩

/-- A server that greets and then waits. -/
def patientServer : Network where
  script := { controls := [{ banner := Text.encodeUtf8 "220 hi\r\n".toList }] }

/-- A single command, of three characters and four capitals. -/
def crampedPlan : CommandLine.Plan where
  target := ⟨"127.0.0.1", 21⟩
  timeoutMillis := 10000
  mode := .passive
  logLevel := .info
  commands := ["paß"]
  negotiate := false

theorem run_tidy_cramped :
    (patientServer.ledger = .held [] ∧ 0 ≤ crampedPlan.timeoutMillis ∧
      ¬ ∃ status s, (run crampedPlan).run ⟨{}, patientServer⟩ = (.ok status, s) ∧
        s.net.AllClosed) ∧
    ((run crampedPlan).run ⟨{}, patientServer⟩).1 = .error .tooShort ∧
    (((run crampedPlan).run ⟨{}, patientServer⟩).2.net.sockets (.control 0)).isOpen = true := by
  have hledger : patientServer.ledger = .held [] := rfl
  have hmillis : 0 ≤ crampedPlan.timeoutMillis := by decide
  have reached : Reaches crampedPlan patientServer []
      ((opening crampedPlan []).run ⟨{}, patientServer⟩).2 :=
    Prod.ext (by decide +kernel) rfl
  have hplan : crampedPlan.commands = [] ++ "paß" :: [] := rfl
  have stumbles : Stumbles crampedPlan patientServer :=
    .command hplan reached (by decide +kernel)
  refine ⟨⟨hledger, hmillis, ?_⟩, ?_, ?_⟩
  · exact fun h => (run_tidy_iff hledger hmillis).1 h stumbles
  · decide +kernel
  · decide +kernel

end FtpControl.Probe
