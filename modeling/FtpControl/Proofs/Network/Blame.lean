import FtpControl.Proofs.Channel.Faults
import FtpControl.Proofs.Endpoint.Refusal
import FtpControl.Proofs.Reply.Stream

/-!
# Errors and the calls that they come from

The calls that a client makes of the network are put down with the errors of the system that they
meet, in order. An effect is candid if its failures tell of no other errors: of none that was
neither known before nor met on the way. There is one rule for each way of composing effects.
-/

namespace FtpControl

open Effect Live Reply

/-! ## Calls and their errors -/

/-- What the system had to say about a failed call, if a fault tells of one. -/
def Fault.account? : Fault → Option String
  | readFailed why | connectFailed _ why | sendFailed why | releaseFailed why | listenFailed why
  | dataConnectFailed _ why | acceptFailed why | dataCloseFailed why => some why
  | _ => none

theorem Fault.kind_of_account {f : Fault} {why : String} (h : f.account? = some why) :
    f.kind = .io := by
  cases f <;> first | rfl | cases h

/-- The error of the system that a failure is or tells of, if any. -/
def Failure.accounts : Failure → List String
  | system why => [why]
  | fault f => f.account?.toList
  | _ => []

theorem Failure.accounts_of_protocol {f : Fault} (h : f.kind = .protocol) :
    (Failure.fault f).accounts = [] := by
  cases haccount : f.account? with
  | none => simp [accounts, haccount]
  | some why =>
    rw [Fault.kind_of_account haccount] at h
    cases h

namespace Net

/-- A line of what a control connection has received. -/
def readLine (n : Nat) : Net (List UInt8) := do
  let r := (← source n).readLine
  setSource n r.2
  ofExcept (r.1.mapError .system)

/-- The calls that clients make. All but the log may fail as the system has it. -/
inductive IsCall : {α : Type} → Net α → Prop
  | log (source : LogSource) (level : LogLevel) (message : String) :
      IsCall (log source level message)
  | dialControl (peer : Target) (limit : Timeout) : IsCall (dialControl peer limit)
  | openReader (n : Nat) : IsCall (openReader n)
  | openWriter (n : Nat) : IsCall (openWriter n)
  | transmit (n : Nat) (bytes : List UInt8) : IsCall (transmit n bytes)
  | readLine (n : Nat) : IsCall (readLine n)
  | dialData (peer : Address) (limit : Timeout) : IsCall (dialData peer limit)
  | openListener : IsCall openListener
  | bind (n : Nat) (host : String) : IsCall (bind n host)
  | listen (n backlog : Nat) : IsCall (listen n backlog)
  | accept (n : Nat) : IsCall (accept n)
  | setTimeout (h : Handle) (limit : Timeout) : IsCall (setTimeout h limit)
  | ownAddress (h : Handle) : IsCall (ownAddress h)
  | peerAddress (h : Handle) : IsCall (peerAddress h)
  | lookUp (host : String) : IsCall (lookUp host)
  | shutdown (h : Handle) : IsCall (shutdown h)
  | close (h : Handle) : IsCall (close h)

variable {α : Type}

theorem fails_readLine (n : Nat) : Fails Failure.IsSystem (readLine n) := by
  refine .bind (.bind .state fun _ => .pure _) fun src => .bind (.update _) fun _ => ?_
  apply Fails.ofExcept
  intro e he
  cases hline : src.readLine.1 <;> rw [hline] at he <;> cases he
  exact ⟨_, rfl⟩

/-- A call knows nothing of faults. -/
theorem IsCall.fails {m : Net α} (h : IsCall m) : Fails (fun e => ¬ e.IsFault) m := by
  have system {β : Type} {m : Net β} (hm : Fails Failure.IsSystem m) :
      Fails (fun e => ¬ e.IsFault) m := hm.imp fun _ => Failure.IsSystem.not_isFault
  cases h with
  | log source level message => exact fails_log _ _ _
  | dialControl peer limit => exact (fails_dialControl _ _).imp fun _ he => he.1
  | openReader n => exact system (fails_openReader n)
  | openWriter n => exact system (fails_openWriter n)
  | transmit n bytes => exact system (fails_transmit n bytes)
  | readLine n => exact system (fails_readLine n)
  | dialData peer limit => exact (fails_dialData _ _).imp fun _ he => he.1
  | openListener => exact fails_openListener
  | bind n host => exact system (fails_bind n host)
  | listen n backlog => exact system (fails_listen n backlog)
  | accept n => exact system (fails_accept n)
  | setTimeout h limit => exact (fails_setTimeout _ _).imp fun _ he => he.1
  | ownAddress h => exact system (fails_ownAddress h)
  | peerAddress h => exact system (fails_peerAddress h)
  | lookUp host => exact system (fails_lookUp host)
  | shutdown h => exact system (fails_shutdown h)
  | close h => exact system (fails_close h)

end Net

variable {α β σ : Type}

/-- The errors of the system that a result comes with, or a failure. -/
def heard (tells : α → List String) : Except Failure α → List String
  | .ok a => tells a
  | .error e => e.accounts

/-- The second network comes from the first by calls. Those of them that failed did so, in order,
with these errors. -/
inductive Network.Suffers : Network → List String → Network → Prop
  | nothing (net : Network) : Suffers net [] net
  | call {α : Type} {m : Net α} {net mid : Network} {whys : List String}
      (h : Suffers net whys mid) (hm : m.IsCall) :
      Suffers net (whys ++ heard (fun _ => []) (m.run mid).1) (m.run mid).2

theorem Network.Suffers.trans {net mid net' : Network} {whys whys' : List String}
    (h : net.Suffers whys mid) (h' : mid.Suffers whys' net') :
    net.Suffers (whys ++ whys') net' := by
  induction h' with
  | nothing net => simpa using h
  | call h' hm ih =>
    rw [← List.append_assoc]
    exact .call (ih h) hm

/-! ## Effects that make nothing up -/

/-- Whatever comes of it, an effect leads on by calls. The errors that its result comes with, or its
failure, are known before or met on the way. -/
def Candid (net : σ → Network) (known : List String) (tells : α → List String)
    (m : Effect Failure σ α) : Prop :=
  ∀ s, ∃ whys, (net s).Suffers whys (net (m.run s).2) ∧
    ∀ why ∈ heard tells (m.run s).1, why ∈ known ++ whys

namespace Candid

variable {net : σ → Network} {known : List String} {tells : α → List String}
  {tells' : β → List String}

theorem pure {a : α} (h : ∀ why ∈ tells a, why ∈ known) :
    Candid net known tells (Pure.pure a : Effect Failure σ α) :=
  fun s => ⟨[], .nothing _, fun why hwhy => by simpa using h why hwhy⟩

/-- A result that tells nothing. -/
theorem result (a : α) :
    Candid net known (fun _ => []) (Pure.pure a : Effect Failure σ α) :=
  .pure (by simp)

theorem fail {e : Failure} (h : ∀ why ∈ e.accounts, why ∈ known) :
    Candid net known tells (Effect.fail e : Effect Failure σ α) :=
  fun s => ⟨[], .nothing _, fun why hwhy => by simpa using h why hwhy⟩

/-- A failure that tells all that is known. -/
theorem told {e : Failure} (h : e.accounts = known) :
    Candid net known tells (Effect.fail e : Effect Failure σ α) :=
  fail fun _ hwhy => h ▸ hwhy

/-- A failure that tells of no error of the system. -/
theorem untold {e : Failure} (h : e.accounts = []) :
    Candid net known tells (Effect.fail e : Effect Failure σ α) :=
  fail (by simp [h])

/-- Nothing follows a failure. -/
theorem failed {e : Failure} {f : α → Effect Failure σ β} (h : e.accounts = []) :
    Candid net known tells' (Effect.fail e >>= f) :=
  untold h

theorem bind {m : Effect Failure σ α} {f : α → Effect Failure σ β}
    (hm : Candid net known tells m) (hf : ∀ a, Candid net (known ++ tells a) tells' (f a)) :
    Candid net known tells' (m >>= f) := by
  intro s
  obtain ⟨whys, hleads, htold⟩ := hm s
  rw [run_bind]
  rcases hr : m.run s with ⟨e | a, t⟩ <;> rw [hr] at hleads htold
  · exact ⟨whys, hleads, htold⟩
  · obtain ⟨whys', hleads', htold'⟩ := hf a t
    refine ⟨whys ++ whys', hleads.trans hleads', fun why hwhy => ?_⟩
    have hhere := htold why
    have hlater := htold' why hwhy
    simp only [heard, List.mem_append] at hhere hlater ⊢
    tauto

/-- What follows an effect that has nothing to tell. -/
theorem next {m : Effect Failure σ α} {f : α → Effect Failure σ β}
    (hm : Candid net known (fun _ => []) m) (hf : ∀ a, Candid net known tells' (f a)) :
    Candid net known tells' (m >>= f) :=
  hm.bind fun a => by simpa using hf a

theorem map {m : Effect Failure σ α} (f : α → β) (hm : Candid net known (fun _ => []) m) :
    Candid net known (fun _ => []) (f <$> m) := by
  rw [map_eq_pure_bind]
  exact hm.next fun _ => .result _

/-- Who goes on behind a failure may tell of it. -/
theorem rescue {m : Effect Failure σ α} {h : Failure → Effect Failure σ α}
    (hm : Candid net known tells m) (hh : ∀ e, Candid net e.accounts tells (h e)) :
    Candid net known tells (m.rescue h) := by
  intro s
  obtain ⟨whys, hleads, htold⟩ := hm s
  rw [run_rescue]
  rcases hr : m.run s with ⟨e | a, t⟩ <;> rw [hr] at hleads htold
  · obtain ⟨whys', hleads', htold'⟩ := hh e t
    refine ⟨whys ++ whys', hleads.trans hleads', fun why hwhy => ?_⟩
    have hhere := htold why
    have hlater := htold' why hwhy
    simp only [heard, List.mem_append] at hhere hlater ⊢
    tauto
  · exact ⟨whys, hleads, htold⟩

theorem attempt {m : Effect Failure σ α} (hm : Candid net known tells m) :
    Candid net known (heard tells) (Effect.attempt m) :=
  hm

theorem ensure {m : Effect Failure σ α} {last : Effect Failure σ Unit}
    (hm : Candid net known tells m) (hl : Candid net known (fun _ => []) last) :
    Candid net known tells (m.ensure last) := by
  intro s
  obtain ⟨whys, hleads, htold⟩ := hm s
  obtain ⟨whys', hleads', htold'⟩ := hl (m.run s).2
  rw [run_ensure]
  rcases hr : last.run (m.run s).2 with ⟨e | ⟨⟩, t⟩ <;> rw [hr] at hleads' htold'
  · refine ⟨whys ++ whys', hleads.trans hleads', fun why hwhy => ?_⟩
    have hlater := htold' why hwhy
    simp only [List.mem_append] at hlater ⊢
    tauto
  · refine ⟨whys ++ whys', hleads.trans hleads', fun why hwhy => ?_⟩
    have hhere := htold why hwhy
    simp only [List.mem_append] at hhere ⊢
    tauto

theorem ite {p : Prop} [Decidable p] {m n : Effect Failure σ α} (hm : Candid net known tells m)
    (hn : Candid net known tells n) : Candid net known tells (if p then m else n) := by
  split_ifs
  · exact hm
  · exact hn

/-- An argument that makes no sense is no error of the system. -/
theorem given {r : Except Failure α} {f : α → Effect Failure σ β}
    (hr : ∀ e, r = .error e → e.accounts = []) (hf : ∀ a, Candid net known tells' (f a)) :
    Candid net known tells' (Effect.ofExcept r >>= f) := by
  cases r with
  | ok a => exact hf a
  | error e => exact untold (hr e rfl)

theorem ofCall {m : Net α} (h : m.IsCall) : Candid id known (fun _ => []) m := by
  intro s
  refine ⟨_, .call (.nothing s) h, fun why hwhy => ?_⟩
  simpa using Or.inr hwhy

end Candid

/-- An operation of something that lives on a network. -/
abbrev Op.Candid (known : List String) (m : Op σ α) : Prop :=
  FtpControl.Candid Live.net known (fun _ => []) m

/-- From here on, an error of the system that an operation fails with, bare or told of by a fault,
is that of a call that failed on the way. -/
def Op.Traced (m : Op σ α) (s : Live σ) : Prop :=
  ∃ whys, s.net.Suffers whys (m.run s).2.net ∧
    ∀ e, (m.run s).1 = .error e → ∀ why ∈ e.accounts, why ∈ whys

theorem Op.Candid.traced {m : Op σ α} (h : Op.Candid [] m) (s : Live σ) : Op.Traced m s := by
  obtain ⟨whys, hsuffers, htold⟩ := h s
  refine ⟨whys, hsuffers, fun e he why hwhy => ?_⟩
  rw [he] at htold
  exact htold why hwhy

section Live

variable {known : List String} {tells : α → List String}

theorem candid_net {m : Net α} (hm : Candid id known tells m) :
    Candid Live.net known tells (call m : Op σ α) :=
  fun s => hm s.net

theorem candid_call {m : Net α} (h : m.IsCall) : Op.Candid known (call m : Op σ α) :=
  candid_net (.ofCall h)

theorem candid_this : Op.Candid known (this : Op σ σ) :=
  fun s => ⟨[], .nothing _, by simp [this, heard]⟩

theorem candid_change (f : σ → σ) : Op.Candid known (change f : Op σ Unit) :=
  fun s => ⟨[], .nothing _, by simp [change, heard]⟩

theorem candid_log (source : LogSource) (level : LogLevel) (message : String) :
    Op.Candid known (call (Net.log source level message) : Op σ Unit) :=
  candid_call (.log _ _ _)

end Live

/-! ## Reading -/

/-- The network with something else left to read on a line. -/
def Network.feed (net : Network) (n : Nat) (src : Source) : Network :=
  ((Net.setSource n src).run net).2

@[simp] theorem source_feed (net : Network) (n : Nat) (src : Source) :
    ((net.feed n src).lines n).source = src := by
  simp [Network.feed, Net.setSource]

@[simp] theorem feed_feed (net : Network) (n : Nat) (src src' : Source) :
    (net.feed n src).feed n src' = net.feed n src' := by
  simp [Network.feed, Net.setSource, setAt_setAt]

theorem run_readLine (n : Nat) (net : Network) :
    (Net.readLine n).run net =
      ((net.lines n).source.readLine.1.mapError .system,
        net.feed n (net.lines n).source.readLine.2) := by
  have same : ∀ net', (ofExcept ((net.lines n).source.readLine.1.mapError .system) :
      Net (List UInt8)).run net' = ((net.lines n).source.readLine.1.mapError .system, net') := by
    intro net'
    cases (net.lines n).source.readLine.1 <;> rfl
  exact same _

theorem suffers_nextLine {enc : Text.Encoding} {n : Nat} {net : Network} {rest : Source}
    {r : Except String (Option Line)} (h : (net.lines n).source.nextLine enc = (r, rest)) :
    ∃ whys, net.Suffers whys (net.feed n rest) ∧ ∀ why, r = .error why → why ∈ whys := by
  have hsuffers := Network.Suffers.call (.nothing net) (.readLine n)
  rw [run_readLine] at hsuffers
  unfold Source.nextLine at h
  rcases hline : (net.lines n).source.readLine with ⟨why | (_ | ⟨b, raw⟩), rest'⟩ <;>
    rw [hline] at h hsuffers <;> cases h
  · refine ⟨_, hsuffers, ?_⟩
    rintro _ ⟨⟩
    simp [heard, Except.mapError, Failure.accounts]
  · exact ⟨_, hsuffers, by simp⟩
  · exact ⟨_, hsuffers, by simp⟩

/-- The error of the system that a reading ends with, if any. -/
def Reply.Reading.accounts (r : Reading α) : List String :=
  match r.outcome with
  | .ok _ => []
  | .error f => f.account?.toList

/-- What a reading leaves to be read it leaves by reading lines. -/
def Reply.Reading.Suffered (n : Nat) (net : Network) (r : Reading α) : Prop :=
  ∃ whys, net.Suffers whys (net.feed n r.rest) ∧ ∀ why ∈ r.accounts, why ∈ whys

section Reading

variable {enc : Text.Encoding} {n : Nat} {net : Network} {src rest : Source} {r : Reading α}

/-- A reading that ends with the next line. -/
theorem suffered_of_nextLine {line : Except String (Option Line)}
    (h : (net.lines n).source.nextLine enc = (line, r.rest))
    (hr : ∀ why ∈ r.accounts, line = .error why) : r.Suffered n net := by
  obtain ⟨whys, hsuffers, hwhy⟩ := suffers_nextLine h
  exact ⟨whys, hsuffers, fun why hmem => hwhy why (hr why hmem)⟩

/-- A reading that goes on behind a line. -/
theorem suffered_of_next {line? : Option Line} {next : Reading β}
    (h : (net.lines n).source.nextLine enc = (.ok line?, rest))
    (hnext : next.Suffered n (net.feed n rest)) (hrest : r.rest = next.rest)
    (hr : ∀ why ∈ r.accounts, why ∈ next.accounts) : r.Suffered n net := by
  obtain ⟨whys, hsuffers, -⟩ := suffers_nextLine h
  obtain ⟨whys', hsuffers', htold⟩ := hnext
  rw [feed_feed, ← hrest] at hsuffers'
  refine ⟨whys ++ whys', hsuffers.trans hsuffers', fun why hwhy => ?_⟩
  exact List.mem_append_right _ (htold why (hr why hwhy))

theorem suffered_readPieces (enc : Text.Encoding) (code : Line) (n : Nat) (net : Network) :
    (readPieces enc code (net.lines n).source).Suffered n net := by
  generalize hsrc : (net.lines n).source = src
  induction src using readPieces.induct enc code generalizing net with
  | case1 src why rest hnext =>
    rw [readPieces, hnext]
    apply suffered_of_nextLine (hsrc ▸ hnext)
    simp [Reading.accounts, Fault.account?]
  | case2 src rest hnext =>
    rw [readPieces, hnext]
    apply suffered_of_nextLine (hsrc ▸ hnext)
    simp [Reading.accounts, Fault.account?]
  | case3 src line rest hnext hcloses =>
    rw [readPieces, hnext]
    dsimp only
    rw [if_pos hcloses]
    apply suffered_of_nextLine (hsrc ▸ hnext)
    simp [Reading.accounts]
  | case4 src line rest hnext hcloses ih =>
    rw [readPieces, hnext]
    dsimp only
    rw [if_neg hcloses]
    have hpieces := ih (net.feed n rest) (source_feed net n rest)
    refine suffered_of_next (hsrc ▸ hnext) hpieces rfl ?_
    unfold Reading.accounts
    cases (readPieces enc code rest).outcome <;> simp [Except.map]

theorem accounts_ofParts {r : Reply.Reading Reply} {code text : Line}
    (h : r.outcome = ofParts code text) : r.accounts = [] := by
  unfold Reading.accounts
  rw [h]
  cases hparts : ofParts code text with
  | ok reply => rfl
  | error f => exact Failure.accounts_of_protocol (kind_of_ofParts hparts)

theorem suffered_read (enc : Text.Encoding) (n : Nat) (net : Network) :
    (Reply.read enc (net.lines n).source).Suffered n net := by
  unfold Reply.read
  split
  · next why rest hnext =>
    apply suffered_of_nextLine hnext
    simp [Reading.accounts, Fault.account?]
  · next rest hnext =>
    apply suffered_of_nextLine hnext
    simp [Reading.accounts, Fault.account?]
  · next rest hnext =>
    apply suffered_of_nextLine hnext
    simp [Reading.accounts, Fault.account?]
  · next first rest hfirst hnext =>
    dsimp only
    split_ifs
    · apply suffered_of_nextLine hnext
      simp [Reading.accounts, Fault.account?]
    · have hpieces := suffered_readPieces enc (first.take 3) n (net.feed n rest)
      rw [source_feed] at hpieces
      refine suffered_of_next hnext hpieces rfl ?_
      cases hbody : (readPieces enc (first.take 3) rest).outcome with
      | error f => simp [Reading.accounts, hbody, Except.bind]
      | ok pieces =>
        rw [accounts_ofParts rfl]
        simp
    · apply suffered_of_nextLine hnext
      rw [accounts_ofParts rfl]
      simp

end Reading

end FtpControl
