import FtpControl.Proofs.Channel.Noting
import FtpControl.Proofs.Client.History
import FtpControl.Proofs.Client.Recording
import FtpControl.Proofs.Session.Secrecy
import FtpControl.Proofs.Text.Capitals

/-!
# Commands that can be masked get through

Every command is masked or shown as it is, but for `PASS` spelt with an `ß`: its capitals are
those of the verb and its characters are one too few. On a connected channel such a command
fails before anything is sent. Any other gets to its write, and the caller of the channel or of
the client is given a reply or a fault.
-/

namespace FtpControl

open Effect Live

namespace Command

variable {command : String}

/-- The only spellings of the verb in fewer than four characters. -/
theorem cramped_iff :
    Cramped command ↔
      ∃ p ∈ ['P', 'p'], ∃ a ∈ ['A', 'a'], Text.trimStart command.toList = [p, a, 'ß'] := by
  unfold Cramped
  generalize Text.trimStart command.toList = cs
  constructor
  · rintro ⟨hupper, hlength⟩
    have hspelt : Text.upper cs = 'P' :: ['A', 'S', 'S'] := hupper
    obtain ⟨p, cs, rfl, hp, hspelt⟩ := Text.exists_of_upper_eq_cons (by decide) (by decide)
      (by decide +kernel) (by decide +kernel) hspelt
    obtain ⟨a, cs, rfl, ha, hspelt⟩ := Text.exists_of_upper_eq_cons (by decide) (by decide)
      (by decide +kernel) (by decide +kernel) hspelt
    refine ⟨p, by simpa using hp, a, by simpa using ha, ?_⟩
    obtain _ | ⟨z, _ | ⟨y, cs⟩⟩ := cs
    · simp at hspelt
    · rw [Text.upper_cons, Text.upper_nil, List.append_nil] at hspelt
      rw [Text.eq_of_upperChar_eq_pair hspelt]
    · simp at hlength
      omega
  · rintro ⟨p, hp, a, ha, rfl⟩
    simp only [List.mem_cons, List.not_mem_nil, or_false] at hp ha
    rcases hp with rfl | rfl <;> rcases ha with rfl | rfl <;> decide +kernel

theorem masked_of_not_masked (h : ¬ Masked command) (hshort : ¬ Cramped command) :
    masked command = .ok command := by
  unfold masked
  unfold Masked at h
  unfold Cramped at hshort
  generalize Text.trimStart command.toList = cs at h hshort ⊢
  dsimp only at h ⊢
  split_ifs with hverb hfour
  · exact absurd ⟨hfour.ge, hverb, by simp [List.getElem?_eq_none hfour.le]⟩ h
  · cases hc : cs[4]? with
    | none =>
      have hlength : cs.length ≤ 4 := List.getElem?_eq_none_iff.mp hc
      rw [List.take_of_length_le hlength] at hverb
      exact absurd ⟨hverb, by omega⟩ hshort
    | some c =>
      have hlength : 4 < cs.length := (List.getElem?_eq_some_iff.mp hc).1
      have hclear : ¬ Text.isBlank c = true := fun hblank =>
        h ⟨hlength.le, hverb, by simpa [hc] using hblank⟩
      simp [hclear]
  · rfl

theorem masked_eq_mask_iff : masked command = .ok mask ↔ Masked command := by
  refine ⟨fun h => ?_, masked_eq_mask⟩
  by_contra hclear
  by_cases hshort : Cramped command
  · rw [masked_eq_error_iff.mpr ⟨hshort, rfl⟩] at h
    cases h
  · rw [masked_of_not_masked hclear hshort, Except.ok.injEq] at h
    subst h
    exact hclear (by decide +kernel)

end Command

namespace Channel

variable {command shown : String} {s : Live Channel}

/-- The command gets to its write. Either the line refuses it, and that is reported, or it goes
out, and what is read next is what comes of it. -/
inductive Delivered (command : String) (s : Live Channel) :
    Except Failure Reply × Live Channel → Prop
  | refused {n : Nat} {why : String} {t : Live Channel} (writer : s.self.writer = some n)
      (refused : (s.net.lines n).answered = .error why) (noted : s.net.Fading t.net) :
      Delivered command s (.error (.fault (.sendFailed why)), t)
  | taken {n : Nat} {line : ControlLine} {t : Live Channel} (writer : s.self.writer = some n)
      (answered : (s.net.lines n).answered = .ok line)
      (noted : t.net.Since
        (s.net.events ++ [.send (.writer n) (Text.encodeUtf8 command.toList ++ [13, 10])])
        Closings) :
      Delivered command s (line.outcome.mapError .fault, t)

theorem Delivered.isFault {r : Except Failure Reply × Live Channel} {e : Failure}
    (h : Delivered command s r) (he : r.1 = .error e) : e.IsFault := by
  cases h with
  | refused =>
    cases he
    exact ⟨_, rfl⟩
  | @taken _ line _ =>
    cases houtcome : line.outcome with
    | ok reply => simp [houtcome, Except.mapError] at he
    | error f =>
      simp only [houtcome, Except.mapError, Except.error.injEq] at he
      exact ⟨f, he.symm⟩

theorem delivered_send (hs : Lifecycle s) (hstate : s.self.state = .connected)
    (hshown : Command.masked command = .ok shown) :
    Delivered command s ((send command).run s) := by
  obtain ⟨n, ⟨-, -, hwriter, hreplies⟩, -⟩ := equipped_of_connected hs hstate
  obtain ⟨t, hrun, -⟩ := run_turn (.send command shown hshown) hstate hwriter hreplies
  have hsend : (send command).run s = _ := hrun
  cases hanswered : (s.net.lines n).answered with
  | error why =>
    have hnoted := events_send_of_failure hshown hstate hwriter hanswered
    rw [Turn.outcome_of_failure (.send command shown hshown) hanswered] at hsend
    rw [hsend] at hnoted ⊢
    exact .refused hwriter hanswered hnoted
  | ok line =>
    obtain ⟨hnoted, -⟩ := events_send_of_answered hshown hstate hwriter hanswered
    rw [Turn.outcome_of_draws (.send command shown hshown) hanswered] at hsend
    rw [hsend] at hnoted ⊢
    exact .taken hwriter hanswered hnoted

/-- A command that cannot be masked leaves everything as it was. -/
theorem run_send_cramped (hstate : s.self.state = .connected) (h : Command.Cramped command) :
    (send command).run s = (.error .tooShort, s) := by
  have hmasked : Command.masked command = .error .tooShort :=
    Command.masked_eq_error_iff.mpr ⟨h, rfl⟩
  rw [send, hmasked, run_bind_ok (run_requireConnected hstate _)]
  rfl

end Channel

namespace Client

variable {command shown : String} {s : Live Client} {expected : Option (List String)}

/-- What the channel came to, with the codes checked that were given. -/
theorem fst_run_execute (expected : Option (List String))
    (hshown : Command.masked command = .ok shown)
    (h : ∀ e, ((Channel.send command).run ⟨s.self.channel, s.net⟩).1 = .error e → e.IsFault) :
    ((execute command expected).run s).1 =
      ((Channel.send command).run ⟨s.self.channel, s.net⟩).1.bind (verdict expected) := by
  rcases hsend : (Channel.send command).run ⟨s.self.channel, s.net⟩ with ⟨e | reply, u⟩
  · obtain ⟨f, rfl⟩ := h e (by rw [hsend])
    obtain ⟨t, hrun, -⟩ := run_execute_fault expected hshown hsend
    rw [hrun]
    rfl
  · obtain hverdict | hverdict := verdict_cases expected reply
    · rw [run_execute_welcome hshown hsend hverdict]
      exact hverdict.symm
    · obtain ⟨t, hrun, -⟩ := run_execute_unwelcome hsend hverdict
      rw [hrun]
      exact hverdict.symm

/-- Recording is all that a client does besides. -/
theorem snd_run_execute (command : String) (expected : Option (List String)) (s : Live Client) :
    let u := ((Channel.send command).run ⟨s.self.channel, s.net⟩).2
    let t := ((execute command expected).run s).2
    t.self.channel = u.self ∧ t.net.events = u.net.events := by
  intro u
  let I : Live Client → Prop := fun t => t.self.channel = u.self ∧ t.net.events = u.net.events
  have recorded (reply : Option Reply) (error : Option Fault) :
      Meets I (record command reply error) (fun _ => I) fun _ => I :=
    .ofKeeps (recorded_record command reply error) fun t t' ht h =>
      ⟨h.channel.trans ht.1, h.events.trans ht.2⟩
  have sent : Meets (· = s) (onChannel (Channel.send command)) (fun _ => I) fun _ => I := by
    refine .ofLeaves ?_
    rintro _ rfl
    exact ⟨rfl, rfl⟩
  have executed : Meets (· = s) (execute command expected) (fun _ => I) fun _ => I := by
    refine .bind (.rescue sent fun e => ?_) fun reply => ?_
    · split
      · exact .bind (recorded none _) fun _ => .fail fun _ h => h
      · exact .fail fun _ h => h
    · have welcomed : Meets I (do record command (some reply) none; return reply)
          (fun _ => I) fun _ => I := .bind (recorded _ _) fun _ => .pure fun _ h => h
      dsimp only
      split
      · exact .bind (recorded (some reply) _) fun _ => .failed fun _ h => h
      · exact .failed fun _ h => h
      · exact welcomed
  exact executed.leaves rfl

theorem run_execute_cramped_connected (hstate : s.self.channel.state = .connected)
    (h : Command.Cramped command) (expected : Option (List String)) :
    (execute command expected).run s = (.error .tooShort, s) := by
  have hsend := Channel.run_send_cramped (s := ⟨s.self.channel, s.net⟩) hstate h
  exact run_rescued hsend rfl

/-- A command is shown as it is unless it is masked, and gets through unless it is too short a
spelling of `PASS`. -/
theorem delivered_unless_cramped (hs : Channel.Reachable ⟨s.self.channel, s.net⟩)
    (hstate : s.self.channel.state = .connected) (command : String)
    (expected : Option (List String)) :
    let sent := (Channel.send command).run ⟨s.self.channel, s.net⟩
    let executed := (execute command expected).run s
    (Command.masked command = .ok Command.mask ↔ Command.Masked command) ∧
      (¬ Command.Masked command → ¬ Command.Cramped command →
        Command.masked command = .ok command) ∧
      (Command.Cramped command ↔
        ∃ p ∈ ['P', 'p'], ∃ a ∈ ['A', 'a'], Text.trimStart command.toList = [p, a, 'ß']) ∧
      (¬ Command.Cramped command →
        Channel.Delivered command ⟨s.self.channel, s.net⟩ sent ∧
          executed.1 = sent.1.bind (verdict expected) ∧
          executed.2.self.channel = sent.2.self ∧ executed.2.net.events = sent.2.net.events ∧
          (∀ e, sent.1 = .error e → e.IsFault) ∧ ∀ e, executed.1 = .error e → e.IsFault) ∧
      (Command.Cramped command →
        sent = (.error .tooShort, ⟨s.self.channel, s.net⟩) ∧ executed = (.error .tooShort, s)) := by
  intro sent executed
  refine ⟨Command.masked_eq_mask_iff, Command.masked_of_not_masked, Command.cramped_iff,
    fun h => ?_, fun h => ?_⟩
  · obtain ⟨shown, hshown⟩ := Command.masked_of_not_cramped h
    have delivered := Channel.delivered_send hs.lifecycle hstate hshown
    have faults := fun e => delivered.isFault (e := e)
    have checked := fst_run_execute expected hshown faults
    obtain ⟨hchannel, hevents⟩ := snd_run_execute command expected s
    refine ⟨delivered, checked, hchannel, hevents, faults, fun e he => ?_⟩
    rw [checked] at he
    cases hresult : sent.1 with
    | error e' =>
      rw [hresult] at he
      cases he
      exact faults e hresult
    | ok reply =>
      rw [hresult] at he
      obtain hverdict | hverdict := verdict_cases expected reply
      · exact nomatch hverdict.symm.trans he
      · cases hverdict.symm.trans he
        exact ⟨_, rfl⟩
  · exact ⟨Channel.run_send_cramped hstate h, run_execute_cramped_connected hstate h expected⟩

/-- A client whose channel has been greeted. -/
def greetedClient : Live Client :=
  ⟨{ channel := Channel.hostileVisit.self }, Channel.hostileVisit.net⟩

theorem delivered_of_greetedClient :
    (execute "paß" none).run greetedClient = (.error .tooShort, greetedClient) ∧
      Channel.Delivered "NOOP" Channel.hostileVisit
        ((Channel.send "NOOP").run Channel.hostileVisit) := by
  have hstate : greetedClient.self.channel.state = .connected := by decide +kernel
  obtain ⟨-, -, -, -, cramped⟩ :=
    delivered_unless_cramped Channel.reachable_hostileVisit hstate "paß" none
  obtain ⟨-, -, -, delivered, -⟩ :=
    delivered_unless_cramped Channel.reachable_hostileVisit hstate "NOOP" none
  exact ⟨(cramped (by decide +kernel)).2, (delivered (by decide +kernel)).1⟩

end Client

end FtpControl
