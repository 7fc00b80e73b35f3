import ElectroSync.Common.Exceptions
import ElectroSync.Library.Batches
import ElectroSync.Library.Throwing
import Mathlib.Data.List.Infix

/-!
# Push messages (`notification/fcm`)

The tokens go out in batches. A token that FCM reports as permanently invalid is collected, and a
batch that throws ends the send.
-/

namespace ElectroSync
open Throwing Batches

/-- What a service throws: an exception of the framework, or an error of a collaborator. -/
inductive Thrown
  | http (exception : HttpException)
  | error (message : String)
  deriving DecidableEq

def Thrown.message : Thrown → String
  | http exception => exception.message
  | error message => message

structure PushPayload where
  title : String
  body : String
  data : Option (List (String × String)) := none
  deriving DecidableEq

structure FcmSendResult where
  successCount : ℕ
  failureCount : ℕ
  invalidTokens : List String
  deriving DecidableEq

def permanentlyInvalidTokenCodes : List String :=
  ["messaging/registration-token-not-registered", "messaging/invalid-registration-token"]

def fcmMulticastBatchLimit : ℕ := 500

/-- The answer of FCM for one token. -/
structure SendResponse where
  success : Bool
  code : Option String := none
  deriving DecidableEq

def SendResponse.permanentlyInvalid (result : SendResponse) : Bool :=
  !result.success && permanentlyInvalidTokenCodes.contains (result.code.getD "unknown")

/-- The answer of FCM for a batch: one for each token, in their order. -/
structure BatchResponse (tokens : List String) where
  successCount : ℕ
  failureCount : ℕ
  responses : List SendResponse
  aligned : responses.length = tokens.length

/-- The client of FCM: whether there is an app, and what a batch meets. -/
structure FcmService where
  isConfigured : Bool
  sendEachForMulticast (tokens : List String) (payload : PushPayload) :
    Except String (BatchResponse tokens)

/-- The tokens of a batch that the loop over the responses collects. -/
def BatchResponse.invalidTokens {tokens : List String} (response : BatchResponse tokens) :
    List String :=
  (tokens.zip response.responses).filterMap fun answer =>
    if answer.2.permanentlyInvalid then some answer.1 else none

namespace FcmService
variable {σ : Type}

/-- The loop of `sendToTokens`; `sending` is what the state keeps of a batch that goes out. -/
def sendBatches (fcm : FcmService) (sending : List String → σ → σ) (payload : PushPayload) :
    List (List String) → FcmSendResult → Throwing σ Thrown FcmSendResult
  | [], sent => pure sent
  | batch :: rest, sent => do
    Throwing.update (sending batch)
    let response ← Throwing.ofExcept ((fcm.sendEachForMulticast batch payload).mapError .error)
    sendBatches fcm sending payload rest {
      successCount := sent.successCount + response.successCount
      failureCount := sent.failureCount + response.failureCount
      invalidTokens := sent.invalidTokens ++ response.invalidTokens }

def sendToTokens (fcm : FcmService) (sending : List String → σ → σ) (tokens : List String)
    (payload : PushPayload) : Throwing σ Thrown FcmSendResult := do
  if !fcm.isConfigured then
    throw (.http ⟨503, "Push notifications are not configured on this server.", none⟩)
  if tokens.isEmpty then return ⟨0, 0, []⟩
  sendBatches fcm sending payload (batches fcmMulticastBatchLimit tokens) ⟨0, 0, []⟩

/-! ## What a send does -/

/-- FCM answers the batch. -/
def Completes (fcm : FcmService) (payload : PushPayload) (batch : List String) : Prop :=
  ∃ response, fcm.sendEachForMulticast batch payload = .ok response

/-- FCM answers the batch, and reports the token as permanently invalid. -/
def Rejects (fcm : FcmService) (payload : PushPayload) (batch : List String) (token : String) :
    Prop :=
  ∃ (response : BatchResponse batch) (i : ℕ) (result : SendResponse),
    fcm.sendEachForMulticast batch payload = .ok response ∧
    batch[i]? = some token ∧ response.responses[i]? = some result ∧
    result.permanentlyInvalid = true

variable {fcm : FcmService} {payload : PushPayload} {batch : List String} {token : String}

theorem mem_invalidTokens (response : BatchResponse batch) :
    token ∈ response.invalidTokens ↔ ∃ (i : ℕ) (result : SendResponse), batch[i]? = some token ∧
      response.responses[i]? = some result ∧ result.permanentlyInvalid = true := by
  simp only [BatchResponse.invalidTokens, List.mem_filterMap, Option.ite_none_right_eq_some,
    Option.some.injEq, Prod.exists]
  constructor
  · rintro ⟨_, result, member, invalid, rfl⟩
    obtain ⟨i, found⟩ := List.getElem?_of_mem member
    obtain ⟨here, answer⟩ := List.getElem?_zip_eq_some.mp found
    exact ⟨i, result, here, answer, invalid⟩
  · rintro ⟨i, result, here, answer, invalid⟩
    have found : (batch.zip response.responses)[i]? = some (token, result) :=
      List.getElem?_zip_eq_some.mpr ⟨here, answer⟩
    exact ⟨token, result, List.mem_of_getElem? found, invalid, rfl⟩

theorem rejects_iff {response : BatchResponse batch}
    (answered : fcm.sendEachForMulticast batch payload = .ok response) :
    fcm.Rejects payload batch token ↔ token ∈ response.invalidTokens := by
  rw [mem_invalidTokens, Rejects, answered]
  simp only [Except.ok.injEq, exists_and_left, exists_eq_left']

theorem Rejects.mem (rejects : fcm.Rejects payload batch token) : token ∈ batch := by
  obtain ⟨_, _, _, -, here, -⟩ := rejects
  exact List.mem_of_getElem? here

/-- Batches that all complete go out, and every token that is reported is collected. -/
theorem sendBatches_ok {bs : List (List String)} (sending : List String → σ → σ)
    (completes : ∀ b ∈ bs, fcm.Completes payload b) (sent : FcmSendResult) (s : σ) :
    ∃ delivery, (fcm.sendBatches sending payload bs sent).eval s =
        (.ok delivery, bs.foldl (fun s b => sending b s) s) ∧
      ∀ token, token ∈ delivery.invalidTokens ↔
        token ∈ sent.invalidTokens ∨ ∃ b ∈ bs, fcm.Rejects payload b token := by
  induction bs generalizing sent s with
  | nil => exact ⟨sent, rfl, fun token => by simp⟩
  | cons batch rest ih =>
    obtain ⟨⟨response, answered⟩, completes⟩ := List.forall_mem_cons.mp completes
    obtain ⟨delivery, run, collected⟩ := ih completes {
      successCount := sent.successCount + response.successCount
      failureCount := sent.failureCount + response.failureCount
      invalidTokens := sent.invalidTokens ++ response.invalidTokens } (sending batch s)
    refine ⟨delivery, ?_, fun token => ?_⟩
    · rw [sendBatches, eval_bind_ok (eval_update ..), answered]
      exact run
    · rw [collected, List.mem_append, ← rejects_iff answered, List.exists_mem_cons_iff, or_assoc]

/-- A batch that throws ends the send: the batches up to it have gone out. -/
theorem sendBatches_error {bs : List (List String)} (sending : List String → σ → σ)
    (throws : ∃ b ∈ bs, ¬ fcm.Completes payload b) (sent : FcmSendResult) (s : σ) :
    ∃ e out, (fcm.sendBatches sending payload bs sent).eval s =
        (.error e, out.foldl (fun s b => sending b s) s) ∧ out <+: bs := by
  induction bs generalizing sent s with
  | nil =>
    obtain ⟨_, member, -⟩ := throws
    cases member
  | cons batch rest ih =>
    rw [sendBatches, eval_bind_ok (eval_update ..)]
    rcases answered : fcm.sendEachForMulticast batch payload with e | response
    · exact ⟨.error e, [batch], rfl, List.prefix_append [batch] rest⟩
    · have throws' : ∃ b ∈ rest, ¬ fcm.Completes payload b := by
        obtain ⟨b, member, incomplete⟩ := throws
        rcases List.mem_cons.mp member with rfl | member
        · exact absurd ⟨response, answered⟩ incomplete
        · exact ⟨b, member, incomplete⟩
      obtain ⟨e, out, run, front⟩ := ih throws' _ _
      exact ⟨e, batch :: out, run, (List.prefix_cons_inj batch).mpr front⟩

end FcmService

end ElectroSync
