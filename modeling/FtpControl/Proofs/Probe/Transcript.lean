import FtpControl.Proofs.Channel.Conversation
import FtpControl.Proofs.Client.Recording
import FtpControl.Proofs.Probe.Logs
import FtpControl.Proofs.Probe.Stumbling
import FtpControl.Proofs.Session.Wire

/-!
# What a probe sends and prints

A run has a script: the commands given, the announcement of a data connection if one is asked
for, and the farewell. What it sends are the first lines of the script, and what it prints are
the replies that it has read so far, one by one as the server sends them. A run that goes well
has sent and printed all, and one that fails prints its error and is silent from then on.
-/

namespace FtpControl

open Effect Live Reply

namespace Channel

variable {n : Nat} {line : ControlLine}

/-- A command that is answered at all is answered by the next reply on the line. -/
theorem meets_send_heard (command : String) :
    Meets (Tuned n line) (send command) (fun reply => Heard n line (.ok reply))
      fun _ _ => True := by
  cases hshown : Command.masked command with
  | error e =>
    unfold send
    rw [hshown]
    apply Meets.skip
    intro _
    exact .failed fun _ _ => trivial
  | ok shown => exact (meets_turn (.send command shown hshown)).failing fun _ _ _ => trivial

/-- A greeting that is accepted is the first reply on the line. -/
theorem meets_connect_greeted (plan : ControlPlan) (peer : Target) (millis : Int) :
    Meets (fun s => s.self.state = .unconnected ∧ Expects plan n s.net) (connect peer millis)
      (fun banner t => Tuned n (t.net.lines n) t ∧
        ∃ k, Reconciled plan k [.ok banner] (t.net.lines n))
      fun _ _ => True := by
  apply (meets_connect_heard peer millis).imp (fun _ hs => hs)
  · rintro banner t ⟨outcome, hverdict, hheard⟩
    have houtcome : outcome = .ok banner := by
      cases outcome with
      | error f => cases hverdict
      | ok reply =>
        obtain ⟨rfl, -⟩ := validate_ok hverdict
        rfl
    rw [houtcome] at hheard
    exact ⟨hheard.2, (reconciled_ofPlan plan).hears hheard.1⟩
  · exact fun _ _ _ => trivial

end Channel

namespace Client

open Channel

variable {n : Nat} {line : ControlLine}

theorem meets_execute_heard (command : String) :
    Meets (fun s => Tuned n line ⟨s.self.channel, s.net⟩) (execute command none)
      (fun reply s => Heard n line (.ok reply) ⟨s.self.channel, s.net⟩) fun _ _ => True := by
  apply Meets.bind (Q := fun reply s => Heard n line (.ok reply) ⟨s.self.channel, s.net⟩)
  · apply Meets.rescue (meets_onChannel (meets_send_heard command))
    intro e
    split
    · exact .skip fun _ => .fail fun _ _ => trivial
    · exact .fail fun _ _ => trivial
  intro reply
  apply Meets.bind (Q := fun _ s => Heard n line (.ok reply) ⟨s.self.channel, s.net⟩)
  · have kept : ∀ s t : Live Client, Heard n line (.ok reply) ⟨s.self.channel, s.net⟩ →
        Recorded s t → Heard n line (.ok reply) ⟨t.self.channel, t.net⟩ :=
      fun _ _ hs h => hs.congr ⟨h.channel, h.lines⟩
    exact (Meets.ofKeeps (recorded_record _ _ _) kept).failing fun _ _ _ => trivial
  intro _
  exact .pure fun _ hs => hs

end Client

namespace Probe

open Channel

/-- All that a run may send, in order. -/
def script (plan : CommandLine.Plan) (announcement : String) : List String :=
  plan.commands ++ (if plan.negotiate then [announcement] else []) ++ ["QUIT"]

/-- The item of a data connection. -/
def placeLine (mode : DataMode) (place : Address) : String :=
  s!"{mode.name} data connection {place.text}"

/-- All that a run may print before its error, if there is one. -/
def items (plan : CommandLine.Plan) (banner : Reply) (answers : List Reply) (place : Address) :
    List String :=
  banner.line :: answers.map Reply.line ++
    if plan.negotiate then [placeLine plan.mode place] else []

/-- These replies are what reading gives, one after the other, of all that a server has sent at
some time. -/
def Told (server : ControlPlan) (replies : List Reply) : Prop :=
  ∃ k ending, k ≤ server.exchanges.length ∧
    (readMany .utf8 replies.length ⟨server.delivered k, ending, none⟩).1 = replies.map .ok

/-- How far a run has come by what it has sent and printed: of the script it has sent the first
lines, and it has printed a reply for each of them or for all but the last. -/
structure Transcript (plan : CommandLine.Plan) (server : ControlPlan) (announcement : String)
    (banner : Reply) (answers : List Reply) (place : Address) (sent shown : List String) :
    Prop where
  announced : Negotiates plan.mode announcement
  sends : sent <+: script plan announcement
  prints : shown <+: items plan banner answers place
  answered : answers.length = plan.commands.length
  told : Told server ((banner :: answers).take shown.length)
  behind : sent.length ≤ shown.length
  ahead : shown.length ≤ sent.length + 1

variable {plan : CommandLine.Plan} {server : ControlPlan} {w : List (List UInt8)} {n : Nat}
  {announcement : String} {banner : Reply} {answers : List Reply} {sent shown before : List String}
  {α : Type}

/-- Behind `w` these lines have been sent, and these have been printed. -/
def Stands (w : List (List UInt8)) (sent shown : List String) (s : Live Probe) : Prop :=
  s.net.sent = w ++ sent.map (fun command => Text.encodeUtf8 command.toList ++ [13, 10]) ∧
    s.self.printed = shown

/-- A point at which a run may stop. -/
def Halted (plan : CommandLine.Plan) (server : ControlPlan) (w : List (List UInt8))
    (s : Live Probe) : Prop :=
  ∃ announcement banner answers place sent shown,
    Transcript plan server announcement banner answers place sent shown ∧ Stands w sent shown s

/-- The point at which a run comes to its end. -/
def Completed (plan : CommandLine.Plan) (server : ControlPlan) (w : List (List UInt8))
    (s : Live Probe) : Prop :=
  ∃ announcement banner answers place,
    Transcript plan server announcement banner answers place (script plan announcement)
      (items plan banner answers place) ∧
      Stands w (script plan announcement) (items plan banner answers place) s

theorem told_of_reconciled {k : Nat} {replies : List Reply} {line : ControlLine}
    (h : Reconciled server k (replies.map .ok) line) : Told server replies := by
  have houtcomes := h.outcomes
  rw [List.length_map] at houtcomes
  exact ⟨k, line.source.ending, h.bounded, houtcomes⟩

/-- With fewer answers than commands, the rest is as good as any. -/
theorem halted_of_told {s : Live Probe} (htold : Told server (banner :: answers))
    (hlength : answers.length ≤ plan.commands.length)
    (hannounced : Negotiates plan.mode announcement)
    (hsent : sent <+: script plan announcement) (hbehind : sent.length ≤ answers.length + 1)
    (hahead : answers.length ≤ sent.length)
    (hs : Stands w sent (banner.line :: answers.map Reply.line) s) : Halted plan server w s := by
  refine ⟨announcement, banner,
    answers ++ List.replicate (plan.commands.length - answers.length) banner, ⟨"", 0⟩, sent, _,
    ⟨hannounced, hsent, ?_, ?_, ?_, ?_, ?_⟩, hs⟩
  · rw [items, List.map_append, ← List.cons_append, List.append_assoc]
    exact List.prefix_append _ _
  · rw [List.length_append, List.length_replicate]
    omega
  · simpa using htold
  · simpa using hbehind
  · simpa using hahead

theorem told_nil (server : ControlPlan) : Told server [] :=
  ⟨0, .silent, Nat.zero_le _, rfl⟩

/-- A run that has neither sent nor printed anything. -/
theorem halted_of_nothing {s : Live Probe} (hs : Stands w [] [] s) : Halted plan server w s := by
  obtain ⟨announcement, hannounced⟩ := exists_negotiates plan.mode
  refine ⟨announcement, ⟨⟨0, 0, 0⟩, ""⟩,
    List.replicate plan.commands.length ⟨⟨0, 0, 0⟩, ""⟩, ⟨"", 0⟩, [], [],
    ⟨hannounced, List.nil_prefix, List.nil_prefix, List.length_replicate, told_nil server,
      le_rfl, Nat.zero_le _⟩, hs⟩

/-! ## What is neither sent nor printed -/

/-- A run that neither sends nor prints. -/
def Tacit (s t : Live Probe) : Prop :=
  t.net.sent = s.net.sent ∧ t.self.printed = s.self.printed

instance : IsPreorder (Live Probe) Tacit where
  refl _ := ⟨rfl, rfl⟩
  trans _ _ _ h h' := ⟨h'.1.trans h.1, h'.2.trans h.2⟩

theorem Tacit.stands {s t : Live Probe} (h : Tacit s t) (hs : Stands w sent shown s) :
    Stands w sent shown t :=
  ⟨h.1.trans hs.1, h.2.trans hs.2⟩

theorem tacit_onClient {m : Op Client α} (hm : Mute m) : Keeps Tacit (onClient m) :=
  .focus hm fun _ _ h => ⟨h, rfl⟩

theorem tacit_quiet {m : Net α} (hm : Net.Quiet m) : Keeps Tacit (call m : Op Probe α) :=
  .call hm fun _ _ h => ⟨congrArg Ledger.sent h, rfl⟩

theorem tacit_lend {d : DataConnection} {m : Op DataConnection α} (hm : Mute m) :
    Keeps Tacit (lend d m : Op Probe α) :=
  .lend hm fun _ _ h => ⟨h, rfl⟩

theorem tacit_giveUp : Keeps Tacit giveUp := by
  apply Keeps.rescue (tacit_onClient (Client.mute_onChannel (mute_within within_close)))
  intro e
  split
  · exact tacit_quiet (Net.quiet_log _ _ _)
  · exact .fail _

/-- A client that sends a command at most sends it behind what it has sent before. -/
theorem meets_stands {C : String → Prop} {m : Op Client α} (hm : Utters C m) :
    Meets (Stands w sent shown) (onClient m) (fun _ t => ∃ c, C c ∧ Stands w (sent ++ [c]) shown t)
      fun _ t => Stands w sent shown t ∨ ∃ c, C c ∧ Stands w (sent ++ [c]) shown t := by
  have hsaid : ∀ (u : Live Client) p, Uttered C
      (w ++ sent.map fun command => Text.encodeUtf8 command.toList ++ [13, 10]) u → p = shown →
      ∃ c, C c ∧ Stands w (sent ++ [c]) shown ⟨⟨u.self, p⟩, u.net⟩ := by
    rintro u p ⟨c, hc, hu⟩ rfl
    refine ⟨c, hc, ?_, rfl⟩
    rw [hu, List.map_append, List.append_assoc]
    rfl
  rintro s ⟨hsent, hprinted⟩
  have ht := hm _ ⟨s.self.client, s.net⟩ hsent
  rw [onClient, focus, run_zoom]
  rcases hrun : m.run ⟨s.self.client, s.net⟩ with ⟨e | a, u⟩ <;> rw [hrun] at ht
  · exact ht.imp (fun h => ⟨h, hprinted⟩) fun h => hsaid u _ h hprinted
  · exact hsaid u _ ht hprinted

theorem meets_print (line : String) {E : Failure → Live Probe → Prop} :
    Meets (Stands w sent shown) (print line) (fun _ => Stands w sent (shown ++ [line])) E :=
  .change fun _ hs => ⟨hs.1, congrArg (· ++ [line]) hs.2⟩

/-! ## Commands -/

/-- A run that has had an answer to each of the commands `before`, and to no other. -/
structure Progress (server : ControlPlan) (w : List (List UInt8)) (n : Nat) (before : List String)
    (banner : Reply) (answers : List Reply) (s : Live Probe) : Prop where
  stands : Stands w before (banner.line :: answers.map Reply.line) s
  length : answers.length = before.length
  tuned : Tuned n (s.net.lines n) ⟨s.self.client.channel, s.net⟩
  reconciled : ∃ k, Reconciled server k ((banner :: answers).map .ok) (s.net.lines n)

theorem Progress.told {s : Live Probe} (h : Progress server w n before banner answers s) :
    Told server (banner :: answers) := by
  obtain ⟨k, hk⟩ := h.reconciled
  exact told_of_reconciled hk

theorem Progress.halted {s t : Live Probe} (h : Progress server w n before banner answers s)
    (hbefore : before <+: plan.commands) (hannounced : Negotiates plan.mode announcement)
    (ht : Stands w before (banner.line :: answers.map Reply.line) t ∨
      ∃ c, before ++ [c] <+: script plan announcement ∧
        Stands w (before ++ [c]) (banner.line :: answers.map Reply.line) t) :
    Halted plan server w t := by
  have hlength := h.length
  have hcommands := hbefore.length_le
  obtain ht | ⟨c, hc, ht⟩ := ht
  · apply halted_of_told h.told (by omega) hannounced _ (by omega) (by omega) ht
    rw [script, List.append_assoc]
    exact hbefore.trans (List.prefix_append _ _)
  · apply halted_of_told h.told (by omega) hannounced hc _ _ ht
    · rw [List.length_append, List.length_singleton]
      omega
    · rw [List.length_append]
      omega

theorem meets_checkVerb (command : String) {E : Failure → Live Probe → Prop} :
    Meets (Progress server w n before banner answers) (checkVerb command)
      (fun _ => Progress server w n before banner answers) E := by
  rw [checkVerb_eq]
  cases remark? command with
  | none => exact .pure fun _ hs => hs
  | some remark =>
    intro s hs
    have hsilent : Silent ⟨s.self.client.channel, s.net⟩
        ⟨s.self.client.channel, ((Net.log .probe .warning remark).run s.net).2⟩ :=
      ⟨rfl, lines_of_wires (Net.offline_log _ _ _ s.net)⟩
    have hlines := congrFun hsilent.2 n
    constructor
    · exact (tacit_quiet (Net.quiet_log _ _ _) s).stands hs.stands
    · exact hs.length
    · exact hlines ▸ hs.tuned.congr hsilent
    · exact hlines ▸ hs.reconciled

/-- One more command: it is sent, and its answer is the next reply on the line. -/
theorem meets_execute {command : String} {after : List String}
    (hplan : plan.commands = before ++ command :: after) :
    Meets (Progress server w n before banner answers) (onClient (Client.execute command none))
      (fun answer s => Stands w (before ++ [command]) (banner.line :: answers.map Reply.line) s ∧
        Tuned n (s.net.lines n) ⟨s.self.client.channel, s.net⟩ ∧
          ∃ k, Reconciled server k ((banner :: (answers ++ [answer])).map .ok) (s.net.lines n))
      fun _ => Halted plan server w := by
  have hbefore : before ++ [command] <+: plan.commands := ⟨after, by simp [hplan]⟩
  obtain ⟨announcement, hannounced⟩ := exists_negotiates plan.mode
  intro s hs
  obtain ⟨k, hk⟩ := hs.reconciled
  have hstands := meets_stands (Client.utters_execute command none) s hs.stands
  have hheard := meets_onClient (Client.meets_execute_heard command) s hs.tuned
  rcases hrun : (onClient (Client.execute command none)).run s with ⟨e | answer, t⟩ <;>
    rw [hrun] at hstands hheard
  · apply hs.halted ((List.prefix_append _ _).trans hbefore) hannounced
    apply hstands.imp_right
    rintro ⟨_, rfl, ht⟩
    rw [script, List.append_assoc]
    exact ⟨_, hbefore.trans (List.prefix_append _ _), ht⟩
  · obtain ⟨_, rfl, ht⟩ := hstands
    obtain ⟨k', hk'⟩ := hk.hears hheard.1
    refine ⟨ht, hheard.2, k', ?_⟩
    rw [← List.cons_append, List.map_append]
    exact hk'

theorem meets_runCommands (after : List String) (hplan : plan.commands = before ++ after) :
    Meets (Progress server w n before banner answers) (runCommands after)
      (fun _ s => ∃ answers, Progress server w n plan.commands banner answers s)
      fun _ => Halted plan server w := by
  -- The commands that remain get fewer, and those before them more.
  induction after generalizing before answers with
  | nil =>
    rw [List.append_nil] at hplan
    rw [hplan]
    exact .pure fun s hs => ⟨answers, hs⟩
  | cons command after ih =>
    apply Meets.bind (meets_checkVerb command)
    intro _
    by_cases hlength : answers.length = before.length
    swap
    · exact fun s hs => absurd hs.length hlength
    apply Meets.bind (meets_execute hplan)
    intro answer
    apply Meets.bind (Q := fun _ => Progress server w n (before ++ [command]) banner
      (answers ++ [answer]))
    · rintro s ⟨hstands, htuned, hreconciled⟩
      constructor
      · have hprinted := meets_print (E := fun _ _ => True) answer.line s hstands
        rw [List.map_append]
        exact hprinted
      · rw [List.length_append, List.length_append, hlength]
        rfl
      · exact htuned
      · exact hreconciled
    · intro _
      apply ih
      rw [hplan, List.append_cons]

/-! ## The end -/

theorem length_items (banner : Reply) (place : Address) (announcement : String)
    (hanswered : answers.length = plan.commands.length) :
    (items plan banner answers place).length = (script plan announcement).length := by
  unfold items script
  split_ifs
  · simp [hanswered]
  · simp [hanswered]

/-- All items have been printed, and the script has been sent but for its last line at most. -/
theorem transcript_of_items {place : Address} (hannounced : Negotiates plan.mode announcement)
    (hanswered : answers.length = plan.commands.length) (htold : Told server (banner :: answers))
    (hsent : sent <+: script plan announcement)
    (hlength : (script plan announcement).length ≤ sent.length + 1) :
    Transcript plan server announcement banner answers place sent
      (items plan banner answers place) := by
  have hitems := length_items banner place announcement hanswered
  refine ⟨hannounced, hsent, List.prefix_rfl, hanswered, ?_, ?_, ?_⟩
  · rwa [List.take_of_length_le]
    simp [items]
  · rw [hitems]
    exact hsent.length_le
  · rw [hitems]
    exact hlength

/-- Before the farewell, with all items printed. -/
def Closing (plan : CommandLine.Plan) (server : ControlPlan) (w : List (List UInt8))
    (s : Live Probe) : Prop :=
  ∃ announcement banner answers place, Negotiates plan.mode announcement ∧
    answers.length = plan.commands.length ∧ Told server (banner :: answers) ∧
      Stands w (plan.commands ++ if plan.negotiate then [announcement] else [])
        (items plan banner answers place) s

theorem Closing.halted {s : Live Probe} (h : Closing plan server w s) : Halted plan server w s := by
  obtain ⟨announcement, banner, answers, place, hannounced, hanswered, htold, hs⟩ := h
  refine ⟨announcement, banner, answers, place, _, _,
    transcript_of_items hannounced hanswered htold (List.prefix_append _ _) ?_, hs⟩
  rw [script, List.length_append]
  rfl

theorem Progress.closing {s : Live Probe} (h : Progress server w n plan.commands banner answers s)
    (hnegotiate : ¬ plan.negotiate = true) : Closing plan server w s := by
  obtain ⟨announcement, hannounced⟩ := exists_negotiates plan.mode
  refine ⟨announcement, banner, answers, ⟨"", 0⟩, hannounced, h.length, h.told, ?_⟩
  rw [items, if_neg hnegotiate, if_neg hnegotiate, List.append_nil, List.append_nil]
  exact h.stands

theorem meets_parting_stands (mode : DataMode) (d : DataConnection) :
    Meets (Stands w sent shown) (parting mode d)
      (fun _ s => ∃ place, Stands w sent (shown ++ [placeLine mode place]) s)
      fun _ s => Stands w sent shown s ∨
        ∃ place, Stands w sent (shown ++ [placeLine mode place]) s := by
  have tacit : Keeps Tacit (lend d DataConnection.close : Op Probe Unit) :=
    tacit_lend DataConnection.mute_close
  apply Meets.ensured (Q := fun _ s => ∃ place, Stands w sent (shown ++ [placeLine mode place]) s)
    (E := fun _ => Stands w sent shown)
  · apply Meets.bind (Q := fun _ => Stands w sent shown)
    · exact .ofKeeps (tacit_lend (DataConnection.mute_still still_farEnd))
        fun _ _ hs h => h.stands hs
    intro place
    exact (meets_print _).yields fun _ s hs => ⟨place, hs⟩
  · intro _
    apply (Meets.ofKeeps tacit fun _ _ hs h => hs.imp fun _ hs => h.stands hs).failing
    exact fun _ _ hs => .inr hs
  · intro _
    exact (Meets.ofKeeps tacit fun _ _ hs h => h.stands hs).imp (fun _ hs => hs)
      (fun _ _ hs => .inl hs) fun _ _ hs => .inl hs

theorem meets_negotiate_closing (hnegotiate : plan.negotiate = true) :
    Meets (Progress server w n plan.commands banner answers) (negotiate plan.mode)
      (fun _ => Closing plan server w) fun _ => Halted plan server w := by
  rw [negotiate_eq]
  apply Meets.bind (Q := fun _ t => ∃ c, Negotiates plan.mode c ∧
    (answers.length = plan.commands.length ∧ Told server (banner :: answers)) ∧
      Stands w (plan.commands ++ [c]) (banner.line :: answers.map Reply.line) t)
  · intro s hs
    have ht := meets_stands (Client.utters_openData plan.mode) s hs.stands
    rcases hrun : (onClient (Client.openData plan.mode)).run s with ⟨e | d, t⟩ <;> rw [hrun] at ht
    · obtain ht | ⟨c, hc, ht⟩ := ht
      · obtain ⟨announcement, hannounced⟩ := exists_negotiates plan.mode
        exact hs.halted List.prefix_rfl hannounced (.inl ht)
      · refine hs.halted List.prefix_rfl hc (.inr ⟨c, ?_, ht⟩)
        rw [script, if_pos hnegotiate]
        exact List.prefix_append _ _
    · obtain ⟨c, hc, ht⟩ := ht
      exact ⟨c, hc, ⟨hs.length, hs.told⟩, ht⟩
  intro d
  rintro s ⟨c, hc, ⟨hlength, htold⟩, hs⟩
  have hclosing : ∀ place t, Stands w (plan.commands ++ [c])
      (banner.line :: answers.map Reply.line ++ [placeLine plan.mode place]) t →
        Closing plan server w t := by
    intro place t ht
    refine ⟨c, banner, answers, place, hc, hlength, htold, ?_⟩
    rw [items, if_pos hnegotiate, if_pos hnegotiate]
    exact ht
  have ht := meets_parting_stands plan.mode d s hs
  rcases hrun : (parting plan.mode d).run s with ⟨e | ⟨⟩, t⟩ <;> rw [hrun] at ht
  · obtain ht | ⟨place, ht⟩ := ht
    · apply halted_of_told htold hlength.le hc _ _ _ ht
      · rw [script, if_pos hnegotiate]
        exact List.prefix_append _ _
      · rw [List.length_append, hlength]
        rfl
      · rw [List.length_append, hlength]
        exact Nat.le_add_right _ _
    · exact (hclosing place t ht).halted
  · obtain ⟨place, ht⟩ := ht
    exact hclosing place t ht

theorem meets_logout_completed :
    Meets (Closing plan server w) (onChannel Channel.logout) (fun _ => Completed plan server w)
      fun _ => Halted plan server w := by
  rintro s ⟨announcement, banner, answers, place, hannounced, hanswered, htold, hs⟩
  have hwhole : Transcript plan server announcement banner answers place
      (script plan announcement) (items plan banner answers place) :=
    transcript_of_items hannounced hanswered htold List.prefix_rfl (Nat.le_succ _)
  have ht := meets_stands (Client.utters_onChannel utters_logout) s hs
  rcases hrun : (onClient (Client.onChannel Channel.logout)).run s with ⟨e | ⟨⟩, t⟩ <;>
    rw [hrun] at ht
  · rw [onChannel, hrun]
    obtain ht | ⟨_, rfl, ht⟩ := ht
    · exact Closing.halted ⟨announcement, banner, answers, place, hannounced, hanswered, htold, ht⟩
    · exact ⟨announcement, banner, answers, place, _, _, hwhole, ht⟩
  · rw [onChannel, hrun]
    obtain ⟨_, rfl, ht⟩ := ht
    exact ⟨announcement, banner, answers, place, hwhole, ht⟩

theorem meets_converse_completed :
    Meets (Progress server w n [] banner []) (converse plan) (fun _ => Completed plan server w)
      fun _ => Halted plan server w := by
  apply Meets.bind (meets_runCommands plan.commands (List.nil_append _).symm)
  intro _
  by_cases hnegotiate : plan.negotiate = true
  · rw [if_pos hnegotiate]
    apply Meets.bind (Q := fun _ => Closing plan server w)
    · rintro s ⟨answers, hs⟩
      exact meets_negotiate_closing hnegotiate s hs
    · exact fun _ => meets_logout_completed
  · rw [if_neg hnegotiate]
    apply meets_logout_completed.start
    rintro s ⟨answers, hs⟩
    exact hs.closing hnegotiate

/-- What is sent and printed until a run looks at failures. -/
theorem meets_engage_completed (plan : CommandLine.Plan) (net : Network) :
    Meets (· = ⟨{}, net⟩) (engage plan)
      (fun _ => Completed plan net.script.nextControl net.sent)
      fun _ => Halted plan net.script.nextControl net.sent := by
  apply Meets.bind (Q := fun banner s => Stands net.sent [] [] s ∧
    Tuned net.counts.control (s.net.lines net.counts.control) ⟨s.self.client.channel, s.net⟩ ∧
      ∃ k, Reconciled net.script.nextControl k [.ok banner] (s.net.lines net.counts.control))
  · rintro s rfl
    have hstart : Stands net.sent [] [] ⟨{}, net⟩ := ⟨(List.append_nil _).symm, rfl⟩
    have htacit : Keeps Tacit (onChannel (connect plan.target plan.timeoutMillis)) :=
      tacit_onClient (Client.mute_onChannel (mute_within (within_connect _ _)))
    have hstands := (htacit ⟨{}, net⟩).stands hstart
    have hgreeted := meets_onChannel (meets_connect_greeted net.script.nextControl plan.target
      plan.timeoutMillis) ⟨{}, net⟩ ⟨rfl, rfl, rfl⟩
    rcases hrun : (onChannel (connect plan.target plan.timeoutMillis)).run ⟨{}, net⟩
      with ⟨e | banner, t⟩ <;> rw [hrun] at hstands hgreeted
    · exact halted_of_nothing hstands
    · exact ⟨hstands, hgreeted⟩
  intro banner
  apply Meets.bind (Q := fun _ => Progress net.script.nextControl net.sent net.counts.control []
    banner [])
  · rintro s ⟨hstands, htuned, hreconciled⟩
    exact ⟨⟨hstands.1, congrArg (· ++ [banner.line]) hstands.2⟩, rfl, htuned, hreconciled⟩
  · exact fun _ => meets_converse_completed

/-- An error is printed behind all else, and nothing is sent any more. -/
def Reported (f : Fault) (s : Live Probe) (status : Status) (t : Live Probe) : Prop :=
  status = .failed ∧ t.net.sent = s.net.sent ∧
    t.self.printed = s.self.printed ++ [s!"error: {f.message}"]

theorem meets_report (f : Fault) (message : String) {last : Op Probe Unit}
    (hlast : Keeps Tacit last) (s : Live Probe) :
    Meets (· = s)
      (do
        log .error message
        print s!"error: {f.message}"
        last
        return .failed)
      (Reported f s) fun _ _ => True := by
  apply Meets.bind (Q := fun _ => Tacit s)
  · exact .ofKeeps (tacit_quiet (Net.quiet_log _ _ _)) fun _ _ hs h => hs ▸ h
  intro _
  apply Meets.bind (Q := fun _ t => Reported f s .failed t)
  · exact .change fun t ht => ⟨rfl, ht.1, congrArg (· ++ _) ht.2⟩
  intro _
  apply Meets.bind (Q := fun _ t => Reported f s .failed t)
  · apply (Meets.ofKeeps hlast _).failing fun _ _ _ => trivial
    rintro t u ⟨-, hsent, hprinted⟩ h
    exact ⟨rfl, h.1.trans hsent, h.2.trans hprinted⟩
  intro _
  exact .pure fun _ ht => ht

/-- A run ends like its first part, behind which it only reports a fault and closes the channel. -/
theorem run_of_engage {s u : Live Probe} {status : Status}
    (h : (run plan).run s = (.ok status, u)) :
    (status = .ok ∧ (engage plan).run s = (.ok (), u)) ∨
      ∃ f t, (engage plan).run s = (.error (.fault f), t) ∧ Reported f t status u := by
  rcases hconnect : (onChannel (connect plan.target plan.timeoutMillis)).run s with ⟨e | banner, t⟩
  · have hengage : (engage plan).run s = (.error e, t) := run_bind_error hconnect
    rw [run_of_refused hconnect] at h
    cases e with
    | fault f => exact .inr ⟨f, t, hengage, (meets_report f _ (.pure ()) t).of_ok rfl h⟩
    | _ => cases h
  · obtain ⟨t', hprint⟩ : ∃ t', (print banner.line).run t = (.ok (), t') := ⟨_, rfl⟩
    have hengage : (engage plan).run s = (converse plan).run t' :=
      (run_bind_ok hconnect).trans (run_bind_ok hprint)
    rw [run_of_greeting plan hconnect, talk, run_bind_ok hprint, run_bind, run_attempt] at h
    rw [hengage]
    rcases hconverse : (converse plan).run t' with ⟨e | ⟨⟩, v⟩ <;> rw [hconverse] at h
    · cases e with
      | fault f => exact .inr ⟨f, v, rfl, (meets_report f _ tacit_giveUp v).of_ok rfl h⟩
      | _ => cases h
    · cases h
      exact .inl ⟨rfl, rfl⟩

/-- What a run sends are the first lines of its script, and what it prints are the replies read
meanwhile. A run that goes well has sent and printed all of it; one that fails prints its error
last and sends nothing behind the failure. -/
theorem transcript_of_run {net : Network} {status : Status} {s : Live Probe}
    (h : (run plan).run ⟨{}, net⟩ = (.ok status, s)) :
    ∃ announcement banner answers place sent shown,
      Transcript plan net.script.nextControl announcement banner answers place sent shown ∧
        s.net.sent = net.sent ++
            sent.map (fun command => Text.encodeUtf8 command.toList ++ [13, 10]) ∧
          match status with
          | .ok => sent = script plan announcement ∧ s.self.printed = shown ∧
              shown = items plan banner answers place
          | .failed => ∃ f t, (engage plan).run ⟨{}, net⟩ = (.error (.fault f), t) ∧
              s.net.sent = t.net.sent ∧ s.self.printed = shown ++ [s!"error: {f.message}"] := by
  have ht := meets_engage_completed plan net ⟨{}, net⟩ rfl
  obtain ⟨rfl, hengage⟩ | ⟨f, t, hengage, rfl, hsent, hprinted⟩ := run_of_engage h
  · rw [hengage] at ht
    obtain ⟨announcement, banner, answers, place, htranscript, hs, hshown⟩ := ht
    exact ⟨announcement, banner, answers, place, _, _, htranscript, hs, rfl, hshown, rfl⟩
  · rw [hengage] at ht
    obtain ⟨announcement, banner, answers, place, sent, shown, htranscript, hs, hshown⟩ := ht
    refine ⟨announcement, banner, answers, place, sent, shown, htranscript, hsent.trans hs, f, t,
      hengage, hsent, ?_⟩
    rw [hprinted, hshown]

/-- A command, and an active data connection. -/
def visitPlan : CommandLine.Plan where
  target := ⟨"127.0.0.1", 21⟩
  timeoutMillis := 10000
  mode := .active
  logLevel := .info
  commands := ["NOOP"]
  negotiate := true

def visited : Network :=
  .answering ["200 ok\r\n", "200 agreed\r\n", "221 bye\r\n"]

theorem transcript_of_visit :
    ∃ s, (run visitPlan).run ⟨{}, visited⟩ = (.ok .ok, s) ∧
      s.self.printed = ["220 hi", "200 ok", "ACTIVE data connection 10.0.0.2:40000"] ∧
        ∃ announcement banner answers place,
          Transcript visitPlan visited.script.nextControl announcement banner answers place
            (script visitPlan announcement) s.self.printed ∧
            s.net.sent = (script visitPlan announcement).map
              fun command => Text.encodeUtf8 command.toList ++ [13, 10] := by
  have hresult : ((run visitPlan).run ⟨{}, visited⟩).1 = .ok .ok := by decide +kernel
  have hprinted : ((run visitPlan).run ⟨{}, visited⟩).2.self.printed =
      ["220 hi", "200 ok", "ACTIVE data connection 10.0.0.2:40000"] := by decide +kernel
  rcases hrun : (run visitPlan).run ⟨{}, visited⟩ with ⟨r, s⟩
  rw [hrun] at hresult hprinted
  obtain rfl : r = .ok .ok := hresult
  obtain ⟨announcement, banner, answers, place, _, _, htranscript, hsent, rfl, rfl, -⟩ :=
    transcript_of_run hrun
  exact ⟨s, rfl, hprinted, announcement, banner, answers, place, htranscript, hsent⟩

end Probe

end FtpControl
