import PullQuota.Proofs.Authorization
import PullQuota.Proofs.Deadlines
import PullQuota.Proofs.Rereading

/-!
The token on its way from the token service to the registry: however its text is escaped, encoded
and cut into chunks, it arrives as it is, and the registry is shown just that.
-/

namespace PullQuota

namespace Attempt

/-- A wait that heeds no abort goes on to its own end, whatever goes off before. -/
theorem exists_watch_arrival {finish : ℕ} {timers : List Timer} (mem : ⟨finish, .arrival⟩ ∈ timers)
    (attempt : Attempt) : ∃ after, attempt.watch false timers = some (false, after) := by
  induction timers generalizing attempt with
  | nil => cases mem
  | cons timer timers ih =>
    by_cases arrives : timer.alarm = .arrival
    · exact ⟨attempt.fire timer, by simp [watch, arrives]⟩
    · have later : ⟨finish, .arrival⟩ ∈ timers := by
        rcases List.mem_cons.mp mem with rfl | later
        · exact absurd rfl arrives
        · exact later
      obtain ⟨after, watched⟩ := ih later (attempt.fire timer)
      exact ⟨after, by simpa [watch, arrives] using watched⟩

theorem exists_wait_of_heedless {pause : Pause} (heedless : pause.heedsAbort = false)
    (ends : pause.span.length ≠ ⊤) (attempt : Attempt) :
    ∃ after, attempt.wait pause = some (false, after) := by
  unfold wait
  rw [heedless, Bool.false_and, if_neg Bool.false_ne_true]
  cases hs : pause.span with
  | instant => exact ⟨attempt, rfl⟩
  | lasting ms =>
    exact exists_watch_arrival
      (Timer.mem_inOrder.mpr (mem_pending.mpr (Or.inr (Or.inr ⟨rfl, rfl⟩)))) attempt
  | endless =>
    rw [hs] at ends
    exact absurd rfl ends

end Attempt

namespace Network

/-- The next request is answered with status 200, and the body of the answer is there before the
deadline. What heeds the caller's abort is not cut short by it. -/
structure Answers (net : Network) (timeout : Rat) (pause : Pause) (response : Response)
    (body : Body) : Prop where
  reply : ∃ rest, net.replies = .later pause (.ok response) :: rest
  status : response.status = 200
  holds : response.body = some body
  whole : body.failure = none
  due : pause.span.length + body.pause.span.length < timerDelay timeout
  head : pause.heedsAbort = true → pause.span.length < net.untilAbort
  rest : body.pause.heedsAbort = true →
    pause.span.length + body.pause.span.length < net.untilAbort

variable {net : Network} {timeout : Rat} {pause : Pause} {response : Response} {body : Body}
  {span : ℕ}

theorem sending_wait_early (request : Request) (length : pause.span.length = span)
    (due : span < timerDelay timeout) (caller : span < net.untilAbort) :
    (net.sending timeout request).wait pause =
      some (false, (net.sending timeout request).fire ⟨net.clock + span, .arrival⟩) := by
  have live : (net.sending timeout request).Live := sending_live_of_lt caller
  rw [← sending_clock net timeout request]
  refine live.wait_early length ?_ ?_
  · rw [sending_abortAt, sending_clock]
    exact lt_untilAbort_iff.mp caller
  · rw [sending_due, sending_clock]
    exact Nat.add_lt_add_left due net.clock

/-- The answer is there in time, with all of its body. -/
theorem Answers.waits (h : net.Answers timeout pause response body) (request : Request) :
    ∃ arrived after, (net.sending timeout request).wait pause = some (false, arrived) ∧
      (arrived.deliver response).wait body.pause = some (false, after) := by
  obtain ⟨span, length⟩ := ENat.ne_top_iff_exists.mp (ne_top_of_lt (le_self_add.trans_lt h.due))
  obtain ⟨more, length'⟩ := ENat.ne_top_iff_exists.mp (ne_top_of_lt (le_add_self.trans_lt h.due))
  have due := h.due
  rw [← length, ← length', ← Nat.cast_add, Nat.cast_lt] at due
  cases heeds : body.pause.heedsAbort with
  | true =>
    -- Nothing may be cut short up to the end of the body, so nothing has gone off before it.
    have caller := h.rest heeds
    rw [← length, ← length', ← Nat.cast_add] at caller
    have early : (span : ℕ∞) < net.untilAbort :=
      lt_of_le_of_lt (by exact_mod_cast Nat.le_add_right span more) caller
    have dueHead : span < timerDelay timeout := by omega
    have live : ((net.sending timeout request).fire ⟨net.clock + span, .arrival⟩).Live :=
      sending_arrive dueHead early
    refine ⟨_, _, sending_wait_early request length.symm dueHead early,
      (live.deliver response).wait_early length'.symm ?_ ?_⟩
    · simpa [add_assoc] using lt_untilAbort_iff.mp caller
    · simpa [add_assoc] using due
  | false =>
    have ends : body.pause.span.length ≠ ⊤ := by simp [← length']
    obtain ⟨arrived, arrives⟩ :
        ∃ arrived, (net.sending timeout request).wait pause = some (false, arrived) := by
      cases heedsHead : pause.heedsAbort with
      | true =>
        have early := h.head heedsHead
        rw [← length] at early
        exact ⟨_, sending_wait_early request length.symm (by omega) early⟩
      | false => exact Attempt.exists_wait_of_heedless heedsHead (by simp [← length]) _
    obtain ⟨after, ended⟩ := Attempt.exists_wait_of_heedless heeds ends (arrived.deliver response)
    exact ⟨arrived, after, arrives, ended⟩

end Network

section Texts

variable {mark : List UInt8} {before after : List (String × Json)} {token : String}

theorem dropMark_brace (rest : List UInt8) : Utf8.dropMark (0x7B :: rest) = 0x7B :: rest := by
  simp [Utf8.dropMark]

/-- The text of an object starts with a brace, so no more than the mark before it is dropped. -/
theorem bodyText_object (marked : mark = [] ∨ mark = [0xEF, 0xBB, 0xBF])
    (members : List (String × Json)) :
    bodyText (mark ++ Utf8.encode (Json.object members).write) = (Json.object members).write := by
  obtain ⟨rest, bytes⟩ : ∃ rest, Utf8.encode (Json.object members).write = 0x7B :: rest := by
    rw [Utf8.encode, Json.write, String.toList_ofList]
    cases members <;> exact ⟨_, rfl⟩
  have text := Utf8.decode_encode (Json.object members).write
  rw [bytes] at text ⊢
  rcases marked with rfl | rfl
  · rw [bodyText, List.nil_append, dropMark_brace, dropMark_brace, text]
  · have unmarked : Utf8.dropMark ([0xEF, 0xBB, 0xBF] ++ 0x7B :: rest) = 0x7B :: rest := rfl
    rw [bodyText, unmarked, dropMark_brace, text]

theorem parseToken_write (nonempty : token ≠ "") (last : "token" ∉ after.map (·.1)) :
    parseToken (Json.object (before ++ ("token", .string token) :: after)).write = some token := by
  obtain ⟨read, reads, member⟩ := Json.exists_readsAs_member (Json.readBack_string token) last
  rw [parseToken, reads.parse?_write, Option.bind_some, member]
  exact if_neg nonempty

end Texts

theorem Network.Answers.fetchToken {access : Access} {net : Network} {pause : Pause}
    {response : Response} {body : Body} (h : net.Answers access.timeout pause response body)
    (credentials : Credentials) :
    ∃ ex, PullQuota.fetchToken access credentials net = some ex ∧
      ex.outcome = (parseToken (bodyText body.chunks.flatten)).elim (.failed .unreadableToken)
        .done := by
  obtain ⟨rest, replies⟩ := h.reply
  obtain ⟨arrived, after, arrives, ends⟩ := h.waits (tokenRequest access.urls credentials)
  exact ⟨_, Network.exchange_of_ok (Network.send_of_ok replies arrives)
    (readToken_of_ok h.status h.holds (Attempt.read_of_end h.whole ends)), rfl⟩

/-- A body with a mark before it, whose chunks part the two bytes of a letter. -/
def Body.chunked : Body where
  pause := ⟨.lasting 2, true⟩
  chunks := [[0xEF, 0xBB], 0xBF :: Utf8.encode "\x7b\"scope\":[null],\"token\":\"q\\\"" ++ [0xC3],
    0xA4 :: Utf8.encode "\",\"expires\":1.5\x7d"]
  failure := none
  cancelFailure := none

/-- A network that answers before its caller aborts. -/
def Network.chunked : Network where
  replies := [.later ⟨.lasting 3, false⟩ (.ok ⟨200, [], some .chunked⟩)]
  abortAt := some 6

theorem Network.chunked_answers :
    Network.chunked.Answers 10000 ⟨.lasting 3, false⟩ ⟨200, [], some .chunked⟩ .chunked := by
  have head : Span.length (.lasting 3) = (3 : ℕ) :=
    congrArg Nat.cast (show timerDelay 3 = 3 by decide +kernel)
  have rest : Span.length (.lasting 2) = (2 : ℕ) :=
    congrArg Nat.cast (show timerDelay 2 = 2 by decide +kernel)
  have timeout : timerDelay 10000 = 10000 := by decide +kernel
  have caller : Network.chunked.untilAbort = (6 : ℕ) := rfl
  refine ⟨⟨[], rfl⟩, rfl, rfl, rfl, ?_, nofun, fun _ => ?_⟩
  · rw [head, Body.chunked, rest, timeout]
    decide
  · rw [head, Body.chunked, rest, caller]
    decide

end PullQuota
