import FtpControl.Session
import FtpControl.Proofs.Channel.Wire
import FtpControl.Proofs.Client.Recording
import FtpControl.Proofs.DataConnection

/-!
# What a session sends

A request carries one command or none. What it sends is that command, encoded in UTF-8 and
ended by CRLF, or nothing.
-/

namespace FtpControl

open Effect Live

namespace DataConnection

theorem mute_log (level : LogLevel) (message : String) : Mute (log level message) :=
  mute_quiet (Net.quiet_log _ _ _)

theorem mute_still {α : Type} {m : Op DataConnection α} (hm : Still m) : Mute m :=
  hm.imp fun _ _ h => congrArg Ledger.sent h

theorem mute_await (n : Nat) (waitMillis : Int) : Mute (await n waitMillis) := by
  refine .ensure (.rescue (.bind (.ofExcept _) fun limit => ?_) fun e => ?_) (mute_closeCall _)
  · refine .bind (mute_quiet (Net.quiet_setTimeout _ _)) fun _ => ?_
    exact mute_opens (Net.opens_accept n)
  · split
    · exact .bind (mute_change _) fun _ => .fail _
    · exact .fail _

theorem mute_accept (waitMillis : Option Int) : Mute (accept waitMillis) := by
  refine .bind .this fun d => .ite .failed ?_
  cases d.listener with
  | none => exact .fail _
  | some n =>
    refine .bind (mute_await n _) fun taken => .bind (mute_change _) fun _ => ?_
    refine .bind (.ofExcept _) fun limit => ?_
    refine .bind (mute_quiet (Net.quiet_setTimeout _ _)) fun _ => ?_
    exact .bind (mute_change _) fun _ => .bind (mute_log _ _) fun _ => .pure _

theorem mute_closeSocket (handle : Handle) : Mute (closeSocket handle) := by
  refine .bind (.attempt (mute_closeCall handle)) fun outcome => ?_
  split
  · exact .pure _
  · exact .bind (mute_log _ _) fun _ => .pure _
  · exact .fail _

theorem mute_closeSockets (handles : List Handle) : Mute (closeSockets handles) := by
  induction handles with
  | nil => exact .pure _
  | cons handle rest ih =>
    exact .bind (mute_closeSocket handle) fun _ => .bind ih fun _ => .pure _

theorem mute_close : Mute close := by
  refine .bind .this fun d => .ite (.pure _) (.bind (mute_change _) fun _ => ?_)
  split
  on_goal 1 => refine .bind (mute_still (still_shutdownListener _)) fun _ => ?_
  all_goals
    refine .bind (mute_closeSockets _) fun error => .bind (mute_change _) fun _ => ?_
    refine .bind (mute_log _ _) fun _ => ?_
    cases error with
    | none => exact .pure _
    | some why => exact .fail _

end DataConnection

namespace Client

variable {α : Type} {C : String → Prop} {m : Op Channel α}

theorem mute_onChannel (hm : Mute m) : Mute (onChannel m) := mute_focus hm

theorem utters_onChannel (hm : Utters C m) : Utters C (onChannel m) := hm.focus

theorem mute_record (command : String) (reply : Option Reply) (error : Option Fault) :
    Mute (record command reply error) :=
  (recorded_record command reply error).imp fun _ _ h => by rw [h.net]; rfl

theorem utters_execute (command : String) (expected : Option (List String)) :
    Utters (· = command) (execute command expected) := by
  refine .before (.rescue (Channel.utters_send command).focus fun e => ?_) fun reply => ?_
  · split
    · exact .after (mute_record _ _ _) fun _ => .fail _
    · exact .fail _
  · split
    · exact .bind (mute_record _ _ _) fun _ => .failed
    · exact .failed
    · exact .bind (mute_record _ _ _) fun _ => .pure _

theorem utters_openData (mode : DataMode) :
    Utters (Channel.Negotiates mode) (openData mode) := by
  refine .before (.rescue (Channel.utters_negotiation mode).focus fun e => ?_) fun d => ?_
  · split
    · split
      · exact .after (.pure _) fun _ => .after (mute_record _ _ _) fun _ => .fail _
      · exact .fail _
    · exact .fail _
  · refine .bind (mute_record _ _ _) fun _ => ?_
    exact .bind (mute_quiet (Net.quiet_log _ _ _)) fun _ => .pure _

end Client

/-- The commands that a request stands for. -/
inductive Request.Carries : Request → String → Prop
  | send (command : String) : Carries (.send command) command
  | execute (command : String) (expected : List Expectation) :
      Carries (.execute command expected) command
  | closing (command : String) : Carries (.closing (some command)) command
  | logout : Carries .logout "QUIT"
  | negotiate {word : String} {mode : DataMode} {command : String} (via : Negotiator)
      (hmode : Settings.mode word = .ok mode) (h : Channel.Negotiates mode command) :
      Carries (.negotiate word via) command

namespace Session

variable {α : Type} {C : String → Prop}

theorem mute_onClient {m : Op Client α} (hm : Mute m) : Mute (onClient m) := mute_focus hm

theorem utters_onClient {m : Op Client α} (hm : Utters C m) : Utters C (onClient m) := hm.focus

theorem mute_onChannel {m : Op Channel α} (hm : Mute m) : Mute (onChannel m) :=
  mute_onClient (Client.mute_onChannel hm)

theorem utters_onChannel {m : Op Channel α} (hm : Utters C m) : Utters C (onChannel m) :=
  utters_onClient (Client.utters_onChannel hm)

theorem mute_onData {m : Op DataConnection α} (index : Int) (hm : Mute m) :
    Mute (onData index m) := by
  refine .bind .this fun s => .ite .failed (.ite .failed ?_)
  split
  · exact .fail _
  · exact mute_focus hm

theorem mute_describe (handle : Handle) : Mute (describe handle) := by
  refine .bind (mute_quiet (Net.quiet_peerAddress _)) fun peer => ?_
  exact .bind (mute_quiet .state) fun net => .pure _

/-- What leaving a block does to the channel. -/
theorem mute_leave :
    Mute (do if (← this).state = .connected then Channel.close : Op Channel Unit) :=
  .bind .this fun _ => .ite (mute_within Channel.within_close) (.pure _)

theorem negotiate_of_error {word : String} {e : BadValue} (h : Settings.mode word = .error e)
    (via : Negotiator) : negotiate word via = fail (.value e) := by
  unfold negotiate
  rw [h]
  rfl

theorem utters_negotiate (word : String) (via : Negotiator) :
    Utters (Request.Carries (.negotiate word via)) (negotiate word via) := by
  unfold negotiate
  cases hmode : Settings.mode word with
  | error e => exact .fail _
  | ok mode =>
    have hcarries : ∀ c, Channel.Negotiates mode c → Request.Carries (.negotiate word via) c :=
      fun _ h => .negotiate via hmode h
    have append : ∀ d : DataConnection, Mute (do
        change fun s => { s with datas := s.datas ++ [d] }
        return .negotiated d : Op Session Answer) :=
      fun d => .bind (mute_change _) fun _ => .pure _
    cases via with
    | client =>
      exact .given (.before (.imp (utters_onClient (Client.utters_openData mode)) hcarries) append)
    | channel =>
      refine .given (.before (.imp (utters_onChannel ?_) hcarries) append)
      exact Channel.utters_negotiation mode

theorem utters_perform {r : Request} {c : String} (h : r.Carries c) :
    Utters r.Carries (perform r) := by
  cases h with
  | send command =>
    refine .imp (.map _ (utters_onChannel (Channel.utters_send c))) ?_
    rintro _ rfl
    exact .send _
  | execute command expected =>
    refine .imp (.map _ (utters_onClient (Client.utters_execute c _))) ?_
    rintro _ rfl
    exact .execute _ _
  | closing command =>
    have sends : Utters (· = c) (Channel.closing do return Answer.reply (← Channel.send c)) :=
      .ensure (.before (Channel.utters_send c) fun _ => .pure _) mute_leave
    refine .imp (utters_onChannel sends) ?_
    rintro _ rfl
    exact .closing _
  | logout =>
    refine .imp (.before (utters_onChannel Channel.utters_logout) fun _ => .pure _) ?_
    rintro _ rfl
    exact .logout
  | negotiate via hmode h => exact utters_negotiate _ via

theorem mute_perform {r : Request} (h : ∀ c, ¬ r.Carries c) : Mute (perform r) := by
  cases r with
  | renew => exact .bind (mute_change _) fun _ => .pure _
  | connect host port millis =>
    exact .map _ (mute_onChannel (mute_within (Channel.within_connect _ _)))
  | replace host port millis =>
    have connected := mute_within (Channel.within_connect ⟨host, port⟩ millis)
    refine .bind (.lend (.bind connected fun reply => ?_) fun _ _ h => h) fun _ => ?_
    · exact .bind .this fun _ => .pure _
    · exact .bind (mute_change _) fun _ => .pure _
  | send command => exact absurd (.send command) (h _)
  | read => exact .map _ (mute_onChannel (mute_within Channel.within_readReply))
  | logout => exact absurd .logout (h _)
  | close => exact .bind (mute_onChannel (mute_within Channel.within_close)) fun _ => .pure _
  | closing command =>
    cases command with
    | none => exact mute_onChannel (.ensure (.pure _) mute_leave)
    | some command => exact absurd (.closing command) (h _)
  | setTimeout millis =>
    refine .bind (mute_onChannel (Channel.mute_aside ?_)) fun _ => .pure _
    exact Channel.aside_setTimeout millis
  | setTracing on => exact .bind (mute_onChannel (mute_change _)) fun _ => .pure _
  | localHost => exact .map _ (mute_onChannel (Channel.mute_aside Channel.aside_localHost))
  | remoteAddress =>
    exact .map _ (mute_onChannel (Channel.mute_aside Channel.aside_remoteAddress))
  | remoteHostName =>
    exact .map _ (mute_onChannel (Channel.mute_aside Channel.aside_remoteHostName))
  | snapshot => exact .map _ (mute_onChannel .this)
  | execute command expected => exact absurd (.execute command expected) (h _)
  | history => exact .bind .this fun _ => .pure _
  | clearHistory => exact .bind (mute_onClient (mute_change _)) fun _ => .pure _
  | negotiate word via =>
    cases hmode : Settings.mode word with
    | error e =>
      change Mute (negotiate word via)
      rw [negotiate_of_error hmode]
      exact .fail _
    | ok mode =>
      obtain ⟨c, hc⟩ := Channel.exists_negotiates mode
      exact absurd (.negotiate via hmode hc) (h c)
  | dataSocket index =>
    refine .bind (mute_onData index ?_) mute_describe
    exact DataConnection.mute_still DataConnection.still_dataSocket
  | accept index waitMillis =>
    exact .bind (mute_onData index (DataConnection.mute_accept _)) mute_describe
  | dataAddress index =>
    refine .map _ (mute_onData index ?_)
    exact DataConnection.mute_still DataConnection.still_localAddress
  | dataStatus index => exact .map _ (mute_onData index .this)
  | dataClose index => exact .bind (mute_onData index DataConnection.mute_close) fun _ => .pure _
  | dataClosing index =>
    refine .map _ (mute_onData index (.ensure ?_ DataConnection.mute_close))
    exact DataConnection.mute_still DataConnection.still_localAddress

end Session

/-- Whether the bytes sent are those of the command that a request carries. There are none if
it carries none, and they may be missing only when the request fails. -/
def Request.Wired (r : Request) (outcome : Except Failure Answer) (sent : List (List UInt8)) :
    Prop :=
  (∃ c, r.Carries c ∧ sent = [Text.encodeUtf8 c.toList ++ [13, 10]]) ∨
    sent = [] ∧ ((∀ c, ¬ r.Carries c) ∨ ∃ e, outcome = .error e)

theorem Session.wired_step (r : Request) (s : Live Session) :
    r.Wired (step r s).1 (step r s).2.net.sent := by
  by_cases hr : ∃ c, r.Carries c
  · obtain ⟨c₀, hc₀⟩ := hr
    have ht := utters_perform hc₀ [] { s with net := s.net.forgetJournal } rfl
    have hwired : ∀ t : Live Session, Uttered r.Carries [] t →
        ∃ c, r.Carries c ∧ t.net.sent = [Text.encodeUtf8 c.toList ++ [13, 10]] :=
      fun t ⟨c, hc, hsent⟩ => ⟨c, hc, by rw [hsent, List.nil_append]⟩
    unfold step
    rcases hrun : (perform r).run { s with net := s.net.forgetJournal } with ⟨e | a, t⟩ <;>
      rw [hrun] at ht
    · rcases ht with ht | ht
      · exact .inr ⟨ht, .inr ⟨e, rfl⟩⟩
      · exact .inl (hwired t ht)
    · exact .inl (hwired t ht)
  · have hnone : ∀ c, ¬ r.Carries c := fun c hc => hr ⟨c, hc⟩
    exact .inr ⟨mute_perform hnone _, .inl hnone⟩

end FtpControl
