import ElectroSync.Notification.Fcm
import Mathlib.Data.List.TakeDrop

/-!
# The batches of a push (`notification/fcm/fcm.service.ts`)

The generator of the batches and the loop over the responses, with their indices. Results are
indexed within a batch; each of them still belongs to the token that it was given for, in a list of
any length.
-/

namespace ElectroSync
open Throwing Batches

/-- `BatchResponse` of the client, with nothing known of its length. -/
structure Multicast where
  successCount : ℕ
  failureCount : ℕ
  responses : List SendResponse
  deriving DecidableEq

/-- What the client answers to a batch, after the batches that went out before. -/
abbrev Messaging := List (List String) → List String → PushPayload → Except String Multicast

namespace PushBatches

/-- `batch[index]` is `undefined` beyond the batch. -/
structure PushResult where
  successCount : ℕ
  failureCount : ℕ
  invalidTokens : List (Option String)
  deriving DecidableEq

/-- The generator `batch`, from the index `i` on. -/
def batchFrom (tokens : List String) (i : ℕ) : List (List String) :=
  if i < tokens.length then
    (tokens.drop i).take fcmMulticastBatchLimit :: batchFrom tokens (i + fcmMulticastBatchLimit)
  else []
termination_by tokens.length - i
decreasing_by
  rw [fcmMulticastBatchLimit]
  omega

/-- `responses.forEach`, from the index on. -/
def collect (batch : List String) : List SendResponse → ℕ → List (Option String) →
    List (Option String)
  | [], _, invalidTokens => invalidTokens
  | result :: rest, index, invalidTokens =>
    if result.success then collect batch rest (index + 1) invalidTokens
    else
      let code := result.code.getD "unknown"
      let token := batch[index]?
      if permanentlyInvalidTokenCodes.contains code then
        collect batch rest (index + 1) (invalidTokens ++ [token])
      else collect batch rest (index + 1) invalidTokens

/-- The loop over the batches. The state keeps the batches that went out. -/
def sendBatches (messaging : Messaging) (payload : PushPayload) :
    List (List String) → PushResult → Throwing (List (List String)) Thrown PushResult
  | [], sent => pure sent
  | batch :: rest, sent => do
    let before ← Throwing.read id
    Throwing.update (· ++ [batch])
    let response ← Throwing.ofExcept ((messaging before batch payload).mapError .error)
    sendBatches messaging payload rest {
      successCount := sent.successCount + response.successCount
      failureCount := sent.failureCount + response.failureCount
      invalidTokens := collect batch response.responses 0 sent.invalidTokens }

def sendToTokens (app : Option Messaging) (tokens : List String) (payload : PushPayload) :
    Throwing (List (List String)) Thrown PushResult := do
  match app with
  | none => throw (.http ⟨503, "Push notifications are not configured on this server.", none⟩)
  | some messaging =>
    if tokens.isEmpty then return ⟨0, 0, []⟩
    sendBatches messaging payload (batchFrom tokens 0) ⟨0, 0, []⟩

/-! ## The batches -/

theorem batchFrom_eq (tokens : List String) (i : ℕ) :
    batchFrom tokens i = batches fcmMulticastBatchLimit (tokens.drop i) := by
  induction i using batchFrom.induct tokens with
  | case1 i inside ih =>
    have rest : tokens.drop i ≠ [] := by
      rw [ne_eq, List.drop_eq_nil_iff]
      omega
    rw [batchFrom, if_pos inside, ih, batches_of_pos (by decide) rest, List.drop_drop]
  | case2 i past =>
    rw [batchFrom, if_neg past, List.drop_eq_nil_of_le (not_lt.mp past), batches_nil]

theorem flatten_batchFrom (tokens : List String) : (batchFrom tokens 0).flatten = tokens := by
  rw [batchFrom_eq, List.drop_zero, flatten_batches (by decide)]

theorem batchFrom_bounds (tokens : List String) (i : ℕ) :
    ∀ batch ∈ batchFrom tokens i, batch ≠ [] ∧ batch.length ≤ fcmMulticastBatchLimit := by
  induction i using batchFrom.induct tokens with
  | case1 i inside ih =>
    rw [batchFrom, if_pos inside]
    refine List.forall_mem_cons.mpr ⟨⟨fun none => ?_, List.length_take_le _ _⟩, ih⟩
    have length := congrArg List.length none
    rw [List.length_take, List.length_drop, List.length_nil, fcmMulticastBatchLimit] at length
    omega
  | case2 i past =>
    rw [batchFrom, if_neg past]
    exact nofun

/-! ## The tokens collected -/

/-- The tokens whose own result is permanently invalid. -/
def rejected (tokens : List String) (results : List SendResponse) : List String :=
  ((tokens.zip results).filter fun answer => answer.2.permanentlyInvalid).map Prod.fst

theorem rejected_cons (token : String) (tokens : List String) (result : SendResponse)
    (results : List SendResponse) :
    rejected (token :: tokens) (result :: results) =
      if result.permanentlyInvalid then token :: rejected tokens results
      else rejected tokens results := by
  simp only [rejected, List.zip_cons_cons, List.filter_cons]
  split <;> rfl

theorem rejected_append (tokens rest : List String) {results : List SendResponse}
    (long : tokens.length ≤ results.length) :
    rejected (tokens ++ rest) results =
      rejected tokens (results.take tokens.length) ++
        rejected rest (results.drop tokens.length) := by
  have split : (tokens ++ rest).zip results =
      tokens.zip (results.take tokens.length) ++ rest.zip (results.drop tokens.length) := by
    rw [← List.zip_append (List.length_take_of_le long).symm, List.take_append_drop]
  rw [rejected, split, List.filter_append, List.map_append]
  rfl

/-- The token at the index of a response is the one that the response is for. -/
theorem collect_eq (batch : List String) (responses : List SendResponse) (index : ℕ)
    (invalidTokens : List (Option String)) (aligned : index + responses.length = batch.length) :
    collect batch responses index invalidTokens =
      invalidTokens ++ (rejected (batch.drop index) responses).map some := by
  induction responses generalizing index invalidTokens with
  | nil => simp [collect, rejected]
  | cons result rest ih =>
    rw [List.length_cons] at aligned
    have inside : index < batch.length := by omega
    have token : batch[index]? = some batch[index] := List.getElem?_eq_getElem inside
    rw [List.drop_eq_getElem_cons inside, rejected_cons, collect]
    cases delivered : result.success with
    | true =>
      simp only [SendResponse.permanentlyInvalid, delivered, Bool.not_true, Bool.false_and,
        Bool.false_eq_true, if_true, if_false]
      exact ih _ _ (by omega)
    | false =>
      simp only [SendResponse.permanentlyInvalid, delivered, Bool.not_false, Bool.true_and,
        Bool.false_eq_true, if_false, token]
      split
      · rw [ih _ _ (by omega), List.append_assoc]
        rfl
      · exact ih _ _ (by omega)

/-! ## A whole send -/

/-- The client answers the tokens in the order in which they go out, each with its own result, and
its counts are those of the results. -/
def AnswersInOrder (messaging : Messaging) (payload : PushPayload)
    (results : List SendResponse) : Prop :=
  ∀ before batch, before.flatten.length + batch.length ≤ results.length →
    ∃ response, messaging before batch payload = .ok response ∧
      response.responses = (results.drop before.flatten.length).take batch.length ∧
      response.successCount = response.responses.countP (·.success) ∧
      response.failureCount = response.responses.countP fun result => !result.success

variable {messaging : Messaging} {payload : PushPayload} {results : List SendResponse}

theorem sendBatches_eval (answers : AnswersInOrder messaging payload results)
    (bs before : List (List String)) (sent : PushResult)
    (aligned : before.flatten.length + bs.flatten.length = results.length) :
    ∃ result, (sendBatches messaging payload bs sent).eval before = (.ok result, before ++ bs) ∧
      result.invalidTokens = sent.invalidTokens ++
        (rejected bs.flatten (results.drop before.flatten.length)).map some ∧
      result.successCount + result.failureCount =
        sent.successCount + sent.failureCount + bs.flatten.length := by
  induction bs generalizing before sent with
  | nil =>
    refine ⟨sent, ?_, ?_, rfl⟩
    · rw [sendBatches, eval_pure, List.append_nil]
    · simp [rejected]
  | cons batch rest ih =>
    rw [List.flatten_cons, List.length_append] at aligned
    obtain ⟨response, answered, own, success, failure⟩ := answers before batch (by omega)
    have whole : before.flatten.length + batch.length = (before ++ [batch]).flatten.length := by
      simp
    have length : response.responses.length = batch.length := by
      rw [own, List.length_take_of_le]
      rw [List.length_drop]
      omega
    obtain ⟨result, run, invalid, counts⟩ := ih (before ++ [batch]) {
      successCount := sent.successCount + response.successCount
      failureCount := sent.failureCount + response.failureCount
      invalidTokens := collect batch response.responses 0 sent.invalidTokens } (by omega)
    refine ⟨result, ?_, ?_, ?_⟩
    · rw [sendBatches, eval_bind_ok (eval_read ..), eval_bind_ok (eval_update ..), id, answered]
      rw [List.append_assoc] at run
      exact run
    · rw [invalid, collect_eq batch _ 0 _ (by omega), List.drop_zero, List.append_assoc,
        ← List.map_append, List.flatten_cons, rejected_append, ← own, List.drop_drop, whole]
      rw [List.length_drop]
      omega
    · have both := List.length_eq_countP_add_countP (fun result : SendResponse => result.success)
        (l := response.responses)
      simp only [Bool.not_eq_true, Bool.decide_eq_false] at both
      rw [counts, success, failure, List.flatten_cons, List.length_append]
      dsimp only
      omega

/-- The batches that a send lets out, and what it makes of the results. -/
structure Delivers (tokens : List String) (results : List SendResponse)
    (sent : List (List String)) (result : PushResult) : Prop where
  bounds : ∀ batch ∈ sent, batch ≠ [] ∧ batch.length ≤ 500
  together : sent.flatten = tokens
  invalidTokens : result.invalidTokens =
    (((tokens.zip results).filter fun answer => answer.2.permanentlyInvalid).map Prod.fst).map some
  counts : result.successCount + result.failureCount = tokens.length

theorem sendToTokens_delivers (tokens : List String) (results : List SendResponse)
    (own : results.length = tokens.length) (answers : AnswersInOrder messaging payload results) :
    ∃ result sent, (sendToTokens (some messaging) tokens payload).eval [] = (.ok result, sent) ∧
      Delivers tokens results sent result := by
  cases tokens with
  | nil => exact ⟨_, [], rfl, nofun, rfl, rfl, rfl⟩
  | cons token rest =>
    have together := flatten_batchFrom (token :: rest)
    obtain ⟨result, run, invalid, counts⟩ := sendBatches_eval answers
      (batchFrom (token :: rest) 0) [] ⟨0, 0, []⟩
      (by rw [together, own, List.flatten_nil, List.length_nil, Nat.zero_add])
    refine ⟨result, _, run, batchFrom_bounds _ 0, together, ?_, ?_⟩
    · rw [invalid, together]
      rfl
    · rw [counts, together]
      exact Nat.zero_add _

/-- A client that answers from a list of results, in the order of the tokens. -/
def inOrder (results : List SendResponse) : Messaging := fun before batch _ =>
  let responses := (results.drop before.flatten.length).take batch.length
  .ok ⟨responses.countP (·.success), responses.countP fun result => !result.success, responses⟩

def manyTokens : List String := List.replicate 500 "a" ++ ["b"]

/-- The last token is gone. -/
def manyResults : List SendResponse :=
  List.replicate 500 ⟨true, none⟩ ++
    [⟨false, some "messaging/registration-token-not-registered"⟩]

theorem sendToTokens_delivers_many :
    ∃ result sent, (sendToTokens (some (inOrder manyResults)) manyTokens ⟨"", "", none⟩).eval [] =
        (.ok result, sent) ∧
      Delivers manyTokens manyResults sent result ∧ (∀ batch, sent ≠ [batch]) ∧
      result.invalidTokens = [some "b"] := by
  have length : manyTokens.length = 501 := by decide +kernel
  have own : manyResults.length = manyTokens.length := by decide +kernel
  have answers : AnswersInOrder (inOrder manyResults) ⟨"", "", none⟩ manyResults :=
    fun _ _ _ => ⟨_, rfl, rfl, rfl, rfl⟩
  obtain ⟨result, sent, run, delivers⟩ := sendToTokens_delivers manyTokens manyResults own answers
  refine ⟨result, sent, run, delivers, ?_, ?_⟩
  · rintro batch rfl
    obtain ⟨-, few⟩ := delivers.bounds batch (List.mem_singleton_self batch)
    have whole : batch = manyTokens := by simpa using delivers.together
    rw [whole, length] at few
    omega
  · rw [delivers.invalidTokens]
    decide +kernel

/-! ## The send of the notifications -/

/-- The client of the notifications, which answers each batch by itself. -/
def messagingOf (fcm : FcmService) : Messaging := fun _ batch payload =>
  (fcm.sendEachForMulticast batch payload).map fun response =>
    ⟨response.successCount, response.failureCount, response.responses⟩

def toPushResult (sent : FcmSendResult) : PushResult :=
  ⟨sent.successCount, sent.failureCount, sent.invalidTokens.map some⟩

theorem invalidTokens_eq {batch : List String} (response : BatchResponse batch) :
    response.invalidTokens = rejected batch response.responses := by
  rw [BatchResponse.invalidTokens, rejected]
  induction batch.zip response.responses with
  | nil => rfl
  | cons answer rest ih =>
    rw [List.filterMap_cons, List.filter_cons, ih]
    split <;> simp_all

theorem sendBatches_messagingOf (fcm : FcmService) (bs before : List (List String))
    (sent : FcmSendResult) :
    (sendBatches (messagingOf fcm) payload bs (toPushResult sent)).eval before =
      let run :=
        (fcm.sendBatches (fun batch before => before ++ [batch]) payload bs sent).eval before
      (run.1.map toPushResult, run.2) := by
  induction bs generalizing before sent with
  | nil => rfl
  | cons batch rest ih =>
    rw [sendBatches, FcmService.sendBatches, eval_bind_ok (eval_read ..),
      eval_bind_ok (eval_update ..), eval_bind_ok (eval_update ..)]
    rcases answered : fcm.sendEachForMulticast batch payload with e | response
    · have failed : (Throwing.ofExcept ((messagingOf fcm before batch payload).mapError
          Thrown.error)).eval (before ++ [batch]) = (.error (.error e), before ++ [batch]) := by
        rw [messagingOf, answered]
        rfl
      rw [id, eval_bind_error failed]
      rfl
    · have same : collect batch response.responses 0 (toPushResult sent).invalidTokens =
          (sent.invalidTokens ++ response.invalidTokens).map some := by
        rw [collect_eq _ _ _ _ (by rw [response.aligned, Nat.zero_add]), invalidTokens_eq,
          List.map_append, List.drop_zero]
        rfl
      have arrived : (Throwing.ofExcept ((messagingOf fcm before batch payload).mapError
          Thrown.error)).eval (before ++ [batch]) =
          (.ok ⟨response.successCount, response.failureCount, response.responses⟩,
            before ++ [batch]) := by
        rw [messagingOf, answered]
        rfl
      rw [id, eval_bind_ok arrived, same]
      exact ih _ ⟨sent.successCount + response.successCount,
        sent.failureCount + response.failureCount, sent.invalidTokens ++ response.invalidTokens⟩

/-- The send that the notifications use makes the same batches and the same result. -/
theorem sendToTokens_messagingOf (fcm : FcmService) (configured : fcm.isConfigured = true)
    (tokens : List String) :
    (sendToTokens (some (messagingOf fcm)) tokens payload).eval [] =
      let run := (fcm.sendToTokens (fun batch before => before ++ [batch]) tokens payload).eval []
      (run.1.map toPushResult, run.2) := by
  have batched : batchFrom tokens 0 = batches fcmMulticastBatchLimit tokens := by
    rw [batchFrom_eq, List.drop_zero]
  simp only [sendToTokens, FcmService.sendToTokens, configured, Bool.not_true, Bool.false_eq_true,
    if_false, batched]
  cases tokens with
  | nil => rfl
  | cons token rest => exact sendBatches_messagingOf fcm _ [] ⟨0, 0, []⟩

end PushBatches
end ElectroSync
