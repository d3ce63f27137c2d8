import FtpControl.Proofs.Client.Beside
import FtpControl.Proofs.Session.Wire

/-!
# Passwords stay between client and server

Two sessions that differ in masked commands alone show the same: the same outcomes, records
in the log, entries in the history and states. Only the server gets to see the difference,
since each session sends its own commands as they are.
-/

namespace FtpControl

open Effect Live

/-- A command whose argument does not show: `PASS` in any case, with blanks before it, and
behind it nothing or a blank. -/
def Command.Masked (command : String) : Prop :=
  let cs := Text.trimStart command.toList
  4 ≤ cs.length ∧ Text.upper (cs.take 4) = "PASS".toList ∧
    ∀ c ∈ cs[4]?, Text.isBlank c = true

-- The last part is decided on the one character in question, not by a search through all.
instance (command : String) : Decidable (Command.Masked command) :=
  haveI : Decidable (∀ c ∈ (Text.trimStart command.toList)[4]?, Text.isBlank c = true) :=
    Option.decidableForallMem _
  inferInstanceAs (Decidable (_ ∧ _ ∧ _))

theorem Command.masked_eq_mask {command : String} (h : Masked command) :
    masked command = .ok mask := by
  obtain ⟨hlength, hupper, hblank⟩ := h
  unfold masked
  simp only [hupper, if_true]
  split_ifs with hfour
  · rfl
  · cases hc : (Text.trimStart command.toList)[4]? with
    | none =>
      rw [List.getElem?_eq_none_iff] at hc
      omega
    | some c => simp [hblank c hc]

/-! ## What only the journal of calls can tell apart -/

/-- Networks that differ at most in the calls noted. -/
def Network.Unheard (net net' : Network) : Prop :=
  ∃ events, net' = { net with events }

theorem Network.unheard_eq : Network.Unheard = Network.Beside [] [] := by
  funext net net'
  apply propext
  constructor
  · rintro ⟨events, rfl⟩
    exact ⟨events, net.logs, rfl, rfl⟩
  · rintro ⟨events, rest, hlogs, rfl⟩
    exact ⟨events, by rw [List.nil_append] at hlogs ⊢; rw [← hlogs]⟩

/-- Operations that go on alike on such networks. -/
abbrev Blind {σ α : Type} (m m' : Op σ α) : Prop :=
  Alike (Alike.On Network.Unheard) m m'

theorem blind_of_abreast {σ α : Type} {m m' : Op σ α} (h : Abreast [] [] m m') : Blind m m' := by
  rw [Blind, Network.unheard_eq]
  exact h

theorem Command.masked_congr {command command' : String} (h : Masked command)
    (h' : Masked command') : masked command = masked command' := by
  rw [masked_eq_mask h, masked_eq_mask h']

/-- Requests that are the same but for a masked command in each. -/
inductive Request.Twin : Request → Request → Prop
  | same (r : Request) : Twin r r
  | send {command command' : String} (h : Command.Masked command) (h' : Command.Masked command') :
      Twin (.send command) (.send command')
  | execute {command command' : String} (h : Command.Masked command)
      (h' : Command.Masked command') (expected : List Expectation) :
      Twin (.execute command expected) (.execute command' expected)
  | closing {command command' : String} (h : Command.Masked command)
      (h' : Command.Masked command') : Twin (.closing (some command)) (.closing (some command'))

/-- What there is to see of one request: its outcome, the session and the log behind it, and
the bytes sent. -/
structure Moment where
  outcome : Except Failure Answer
  session : Session
  logs : List LogRecord
  sent : List (List UInt8)

/-- All of it that does not go to the server. -/
def Moment.shown (m : Moment) : Except Failure Answer × Session × List LogRecord :=
  (m.outcome, m.session, m.logs)

namespace Session

/-- Performs requests one after the other, also behind one that fails. -/
def transcript : List Request → Live Session → List Moment
  | [], _ => []
  | r :: rs, s =>
    let (outcome, t) := step r s
    ⟨outcome, t.self, t.net.logs, t.net.sent⟩ :: transcript rs t

section Abreast

variable {α : Type} {p p' : List LogRecord}

theorem abreast_onClient {m m' : Op Client α} (h : Abreast p p' m m') :
    Abreast p p' (onClient m) (onClient m') := .focus h

theorem abreast_onChannel {m m' : Op Channel α} (h : Abreast p p' m m') :
    Abreast p p' (onChannel m) (onChannel m') :=
  abreast_onClient (Client.abreast_onChannel h)

end Abreast

theorem step_twin {r r' : Request} (h : r.Twin r') (s : Live Session) :
    (step r s).1 = (step r' s).1 ∧ Alike.On Network.Unheard (step r s).2 (step r' s).2 := by
  cases h with
  | same => exact ⟨rfl, rfl, _, rfl⟩
  | send h h' =>
    have hm := blind_of_abreast (.map Answer.reply
      (abreast_onChannel (Channel.abreast_send (Command.masked_congr h h'))))
    exact hm _ _ ⟨rfl, _, rfl⟩
  | execute h h' expected =>
    have hm := blind_of_abreast (.map Answer.reply
      (abreast_onClient
        (Client.abreast_execute (Command.masked_congr h h') (Expectation.codes? expected))))
    exact hm _ _ ⟨rfl, _, rfl⟩
  | closing h h' =>
    have hm := blind_of_abreast (abreast_onChannel (Channel.abreast_closing
      (.bind (Channel.abreast_send (Command.masked_congr h h')) fun reply =>
        .pure (Answer.reply reply))))
    exact hm _ _ ⟨rfl, _, rfl⟩

/-- The journal of the last request is of no use to the next one. -/
theorem transcript_unheard (rs : List Request) {s t : Live Session}
    (h : Alike.On Network.Unheard s t) : transcript rs s = transcript rs t := by
  obtain ⟨self, net⟩ := s
  obtain ⟨self', net'⟩ := t
  obtain ⟨rfl, events, rfl⟩ := h
  cases rs with
  | nil => rfl
  | cons r rs => rfl

theorem shown_transcript {rs rs' : List Request} (h : List.Forall₂ Request.Twin rs rs')
    (s : Live Session) :
    (transcript rs s).map Moment.shown = (transcript rs' s).map Moment.shown := by
  induction h generalizing s with
  | nil => rfl
  | @cons r r' rs rs' hr _ ih =>
    obtain ⟨houtcome, hstate⟩ := step_twin hr s
    obtain ⟨hself, events, hnet⟩ := hstate
    simp only [transcript, List.map_cons]
    rw [ih, transcript_unheard rs' ⟨hself, events, hnet⟩]
    rw [Moment.shown, Moment.shown, houtcome, hself, hnet]

theorem wired_transcript (rs : List Request) (s : Live Session) :
    List.Forall₂ (fun r m => r.Wired m.outcome m.sent) rs (transcript rs s) := by
  induction rs generalizing s with
  | nil => exact .nil
  | cons r rs ih => exact .cons (wired_step r s) (ih _)

/-- Sessions with other passwords look the same to everyone but the server, to whom each sends
its commands unchanged. -/
theorem secrecy {rs rs' : List Request} (h : List.Forall₂ Request.Twin rs rs')
    (s : Live Session) :
    (transcript rs s).map Moment.shown = (transcript rs' s).map Moment.shown ∧
      List.Forall₂ (fun r m => r.Wired m.outcome m.sent) rs (transcript rs s) ∧
      List.Forall₂ (fun r m => r.Wired m.outcome m.sent) rs' (transcript rs' s) :=
  ⟨shown_transcript h s, wired_transcript rs s, wired_transcript rs' s⟩

/-- A server that greets and takes any password. -/
def trustingServer : Network where
  script :=
    { controls := [{
        banner := Text.encodeUtf8 "220 ready\r\n".toList
        exchanges := [{ bytes := Text.encodeUtf8 "230 welcome\r\n".toList }] }] }
  threshold := .debug

/-- A login with a command that should be a masked one. -/
def login (command : String) : List Request :=
  [.connect "ftp.test" 21 10000, .execute command []]

theorem secrecy_login :
    ((transcript (login "PASS secret") ⟨{}, trustingServer⟩).map Moment.shown =
        (transcript (login " pass\tother") ⟨{}, trustingServer⟩).map Moment.shown ∧
      List.Forall₂ (fun r m => r.Wired m.outcome m.sent) (login "PASS secret")
        (transcript (login "PASS secret") ⟨{}, trustingServer⟩) ∧
      List.Forall₂ (fun r m => r.Wired m.outcome m.sent) (login " pass\tother")
        (transcript (login " pass\tother") ⟨{}, trustingServer⟩)) ∧
    (transcript (login "PASS secret") ⟨{}, trustingServer⟩).map Moment.sent =
      [[], [Command.bytes "PASS secret"]] :=
  ⟨secrecy (.cons (.same _)
      (.cons (.execute (by decide) (by decide) []) .nil)) _,
    by decide +kernel⟩

end Session

end FtpControl
