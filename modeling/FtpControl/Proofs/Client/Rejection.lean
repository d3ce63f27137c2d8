import FtpControl.Proofs.Client.History
import FtpControl.Proofs.Endpoint.Refusal

/-!
# Passive replies that announce no endpoint

The text of a 227 reply is rejected by its shape, or because one of its six components is too
large for an octet. The fault of the first kind carries the reply into the history; the other
one does not.
-/

namespace FtpControl

open Effect Live

/-- The reply to `PASV` that should announce an endpoint. -/
def Reply.passive (text : String) : Reply :=
  ⟨⟨2, 2, 7⟩, text⟩

namespace Client

/-- What the history should say about a rejected reply depends on the ground of rejection. -/
theorem carriedReply_of_ofPassive {text : String} {f : Fault}
    (h : Endpoint.ofPassive text = .error f) :
    carriedReply f = .ok (if Endpoint.Oversized text then none else some (Reply.passive text)) := by
  obtain ⟨hlarge, value, rfl⟩ | ⟨hshape, rfl⟩ := Endpoint.ofPassive_error h
  · rw [if_pos hlarge]
    rfl
  · have hmake : Reply.make (toString (227 : Int)) text = .ok (Reply.passive text) := by
      have hcode : ReplyCode.ofList? (toString (227 : Int)).toList = some ⟨2, 2, 7⟩ := by
        decide +kernel
      unfold Reply.make Reply.ofParts
      rw [hcode, String.ofList_toList]
      rfl
    rw [if_neg hshape, carriedReply]
    exact congrArg (Except.map some) hmake

variable {s : Live Client} {u : Live Channel} {text : String} {f : Fault}

theorem run_passive_rejected {s u : Live Channel}
    (hsend : (Channel.send DataMode.passive.verb).run s = (.ok (Reply.passive text), u))
    (hrejected : Endpoint.ofPassive text = .error f) :
    (Negotiation.run .passive).run s = (.error (.fault f), u) := by
  have hvalid : Channel.validate ["227"] (Reply.passive text) = .ok (Reply.passive text) :=
    if_pos (show ReplyCode.toString ⟨2, 2, 7⟩ ∈ ["227"] by decide)
  have hendpoint : (Negotiation.passiveEndpoint (Reply.passive text)).run u =
      (.error (.fault f), u) := by
    unfold Negotiation.passiveEndpoint
    rw [show Endpoint.ofPassive (Reply.passive text).text = .error f from hrejected]
    rfl
  have hreply : (ofExcept (Channel.validate ["227"] (Reply.passive text)) : Op Channel Reply).run
      u = (.ok (Reply.passive text), u) := by
    rw [hvalid]
    rfl
  unfold Negotiation.run Negotiation.passive
  dsimp only
  rw [run_bind_ok hsend, run_bind_ok hreply, run_bind_error hendpoint]

/-- A 227 reply without an endpoint makes one entry, which holds the reply unless one of six
components is too large. -/
theorem openData_rejected
    (hsend : (Channel.send DataMode.passive.verb).run ⟨s.self.channel, s.net⟩ =
      (.ok (Reply.passive text), u))
    (hrejected : Endpoint.ofPassive text = .error f) :
    ∃ t time, (openData .passive).run s = (.error (.fault f), t) ∧
      t.self.history = s.self.history ++ [{
        time, command := "PASV", error := some f
        reply := if Endpoint.Oversized text then none else some (Reply.passive text) }] := by
  obtain ⟨t, hrun, hhistory⟩ := run_openData_fault (carriedReply_of_ofPassive hrejected)
    (run_passive_rejected hsend hrejected)
  exact ⟨t, _, hrun, hhistory⟩

/-- An octet of 256 keeps the reply out of the history. -/
theorem openData_rejected_octet :
    let text := "on (256,0,0,1,0,21)"
    let s := connected ["227 on (256,0,0,1,0,21)\r\n"]
    Endpoint.ofPassive text = .error (.componentOutOfRange 256) ∧
      ∃ t time, (openData .passive).run s = (.error (.fault (.componentOutOfRange 256)), t) ∧
        t.self.history = s.self.history ++ [{
          time, command := "PASV", reply := none, error := some (.componentOutOfRange 256) }] := by
  intro text s
  have hanswer : ((Channel.send DataMode.passive.verb).run ⟨s.self.channel, s.net⟩).1 =
      .ok (Reply.passive text) := by decide +kernel
  have hrejected : Endpoint.ofPassive text = .error (.componentOutOfRange 256) := by
    decide +kernel
  have hlarge : Endpoint.Oversized text := by decide +kernel
  obtain ⟨t, time, hrun, hhistory⟩ := openData_rejected (Prod.ext hanswer rfl) hrejected
  rw [if_pos hlarge] at hhistory
  exact ⟨hrejected, t, time, hrun, hhistory⟩

end Client

end FtpControl
