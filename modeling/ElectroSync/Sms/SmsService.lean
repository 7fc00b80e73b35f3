import ElectroSync.Library.JsNumber
import ElectroSync.Notification.NotificationService
import ElectroSync.Sms.Encoding

/-!
# The gateway of the texts (`sms/sms.service.ts`)

A message goes out in one request to the dialling form of its number, and anything but the code of
acceptance throws. The notifications report the number that the request dials.
-/

namespace ElectroSync
open Throwing PhoneNumber NotificationService

namespace Sms

/-! ## `sms/sms.constants.ts`, `sms/sms.types.ts` -/

def defaultSmsEndpoint : String := "https://bulksmsbd.net/api/smsapi"
def smsAcceptedCode : ℚ := 202
def smsRequestTimeoutMs : ℕ := 15000

structure OutboundSms where
  number : String
  message : String
  encoding : Option SmsEncoding
  deriving DecidableEq

structure SmsSendResult where
  number : String
  encoding : SmsEncoding
  segments : ℕ
  deriving DecidableEq

inductive ResponseCode
  | number (code : JsNumber.Value)
  | text (code : String)

/-- What the code reads of an answer. -/
structure BulkSmsBdResponse where
  responseCode : Option ResponseCode
  errorMessage : Option String

/-! ## What the service stands on -/

structure SmsRequest where
  endpoint : String
  apiKey : String
  type : SmsEncoding
  number : String
  senderId : String
  message : String
  timeoutMs : ℕ
  deriving DecidableEq

/-- A value that the service takes for a body; its fields can be read unless it is `null`. -/
inductive Body
  | null
  | value (response : BulkSmsBdResponse)

/-- The data of a response: an object other than `null`, a string, or anything else. -/
inductive ResponseData
  | object (response : BulkSmsBdResponse)
  | text (content : String)
  | other

/-- `axios.post` and `JSON.parse`, with `none` where they throw, and a number as a string. -/
structure Transport where
  post : SmsRequest → Option ResponseData
  parseJson : String → Option Body
  print : JsNumber.Value → String

/-! ## The service -/

structure Service where
  apiKey : String
  senderId : String
  endpoint : String

namespace Service

/-- The constructor, over `config.get`. -/
def ofConfig (get : String → Option String) : Service where
  apiKey := ((get "SMS_PROVIDER_API_KEY").map JsString.trim).getD ""
  senderId := ((get "SMS_PROVIDER_SENDER_ID").map JsString.trim).getD ""
  endpoint := (nonempty ((get "SMS_PROVIDER_URL").map JsString.trim)).getD defaultSmsEndpoint

def isConfigured (service : Service) : Bool := service.apiKey ≠ "" && service.senderId ≠ ""

def unavailable (message : String) : Thrown := .http ⟨503, message, none⟩

def parse (transport : Transport) : ResponseData → Except Thrown Body
  | .object response => .ok (.value response)
  | .text content =>
    match transport.parseJson content with
    | some body => .ok body
    | none => .error (unavailable "The SMS provider returned an unrecognised response.")
  | .other => .error (unavailable "The SMS provider returned an unrecognised response.")

/-- The state keeps the requests that go out. -/
def post (service : Service) (transport : Transport) (number message : String)
    (type : SmsEncoding) : Throwing (List SmsRequest) Thrown Body := do
  let request : SmsRequest :=
    { endpoint := service.endpoint
      apiKey := service.apiKey
      type
      number
      senderId := service.senderId
      message
      timeoutMs := smsRequestTimeoutMs }
  Throwing.update (· ++ [request])
  match transport.post request with
  | none =>
    throw (unavailable "Could not reach the SMS provider. Please try again shortly.")
  | some data => Throwing.ofExcept (parse transport data)

/-- `Number(body.response_code)` -/
def codeOf (response : BulkSmsBdResponse) : JsNumber.Value :=
  match response.responseCode with
  | none => .nan
  | some (.number code) => code
  | some (.text code) => JsNumber.ofString code

/-- The code is compared, and the reason of a rejection is the provider's own text. -/
def accept (transport : Transport) : Body → Except Thrown Unit
  | .null => .error (.error "Cannot read properties of null (reading 'response_code')")
  | .value response =>
    let code := codeOf response
    if code ≠ .finite smsAcceptedCode then
      let reason := (nonempty (response.errorMessage.map JsString.trim)).getD
        ("response_code " ++ transport.print code)
      .error (unavailable ("The SMS provider rejected the message: " ++ reason))
    else .ok ()

def send (service : Service) (transport : Transport) (sms : OutboundSms) :
    Throwing (List SmsRequest) Thrown SmsSendResult := do
  if !service.isConfigured then throw (unavailable "SMS is not configured on this server.")
  match toBangladeshMsisdn (some sms.number) with
  | none => throw (unavailable ("Not a usable Bangladeshi mobile number: " ++ sms.number))
  | some number =>
    let shape := describeSms sms.message
    let encoding := sms.encoding.getD shape.encoding
    let body ← post service transport number sms.message encoding
    Throwing.ofExcept (accept transport body)
    return ⟨number, encoding, shape.segments⟩

/-- The requests that go out for a message. -/
def dialled (service : Service) (transport : Transport) (sms : OutboundSms) : List SmsRequest :=
  ((service.send transport sms).eval []).2

/-- The message that a notification hands over. -/
def outbound (text : ElectroSync.OutboundSms) : OutboundSms := ⟨text.number, text.message, none⟩

/-- The service as the notifications meet it. -/
def collaborator (service : Service) (transport : Transport) : SmsService where
  isConfigured := service.isConfigured
  send text := match ((service.send transport (outbound text)).eval []).1 with
    | .ok result => .ok ⟨result.number, result.segments⟩
    | .error e => .error e.message

/-! ## What a send does -/

variable {service : Service} {transport : Transport}

theorem post_eval (service : Service) (transport : Transport) (number message : String)
    (type : SmsEncoding) (sent : List SmsRequest) :
    ∃ outcome, (service.post transport number message type).eval sent =
      (outcome, sent ++ [{
        endpoint := service.endpoint
        apiKey := service.apiKey
        type
        number
        senderId := service.senderId
        message
        timeoutMs := smsRequestTimeoutMs }]) := by
  simp only [post, eval_bind, eval_update]
  split
  · exact ⟨_, rfl⟩
  · exact ⟨_, rfl⟩

/-- A configured service makes one request for a message with a usable number, to its dialling
form, and that is the number it returns. -/
theorem send_eval (transport : Transport) (sms : OutboundSms) {number : String}
    (on : service.isConfigured = true)
    (usable : toBangladeshMsisdn (some sms.number) = some number) :
    ∃ outcome request, (service.send transport sms).eval [] = (outcome, [request]) ∧
      request.number = number ∧ ∀ result, outcome = .ok result → result.number = number := by
  obtain ⟨posted, answer⟩ := post_eval service transport number sms.message
    (sms.encoding.getD (describeSms sms.message).encoding) []
  simp only [send, on, usable, Bool.not_true, Bool.false_eq_true, if_false, eval_bind, answer]
  rcases posted with e | body
  · exact ⟨_, _, rfl, rfl, nofun⟩
  simp only [eval_ofExcept]
  rcases accept transport body with e | _
  · exact ⟨_, _, rfl, rfl, nofun⟩
  · refine ⟨_, _, rfl, rfl, ?_⟩
    rintro _ ⟨⟩
    rfl

/-- A number that is its own dialling form is dialled, and returned, as it is. -/
theorem collaborator_send {number message : String} {result : ElectroSync.SmsSendResult}
    (on : service.isConfigured = true) (stable : toBangladeshMsisdn (some number) = some number)
    (sent : (service.collaborator transport).send ⟨number, message⟩ = .ok result) :
    result.number = number ∧ ∃ request,
      service.dialled transport ⟨number, message, none⟩ = [request] ∧ request.number = number := by
  obtain ⟨outcome, request, run, dials, returns⟩ := send_eval transport
    ⟨number, message, none⟩ on stable
  simp only [collaborator, outbound, run] at sent
  cases outcome with
  | error e => cases sent
  | ok answer =>
    cases sent
    exact ⟨returns answer rfl, request, congrArg Prod.snd run, dials⟩

/-- The number that the text channel reports is the dialling form of the user's number, and the
one that the service dials. -/
theorem deliverSms_sent {world : World} {recipient : Recipient} {payload : PushPayload}
    {s s' : Sending} {number : String} {segments : ℕ}
    (gateway : world.sms = service.collaborator transport)
    (run : (deliverSms world recipient payload).eval s = (.ok (.sent number segments), s')) :
    toBangladeshMsisdn (recipient.settings.smsNumber <|> recipient.mobile) = some number ∧
      ∃ message request, s' = s.attempt (.sms ⟨number, message⟩) ∧
        service.dialled transport ⟨number, message, none⟩ = [request] ∧
        request.number = number := by
  simp only [deliverSms] at run
  rcases on : world.sms.isConfigured with _ | _
  · simp [on] at run
  rcases asked : truthy recipient.settings.smsAlerts with _ | _
  · simp [on, asked] at run
  simp only [on, asked, Bool.not_true, Bool.false_eq_true, if_false] at run
  rcases usable : toBangladeshMsisdn (recipient.settings.smsNumber <|> recipient.mobile) with
    _ | dial
  · rw [usable] at run
    cases run
  rw [usable] at run
  rcases answer : world.sms.send ⟨dial, payload.title ++ ": " ++ payload.body⟩ with e | result
  · simp only [answer, eval_tryCatch, eval_bind, eval_update, eval_ofExcept] at run
    cases run
  · simp only [answer, eval_tryCatch, eval_bind, eval_update, eval_ofExcept] at run
    cases run
    rw [gateway] at answer on
    obtain ⟨same, request, dialled, dials⟩ :=
      collaborator_send on (toBangladeshMsisdn_stable usable) answer
    rw [same]
    exact ⟨rfl, _, request, rfl, dialled, dials⟩

end Service

/-- The dialling form of a number is canonical, and what the text channel reports as the number of
a message it sent is that form, which is what the gateway is asked to dial. -/
theorem phone_numbers_canonical :
    Canonical (fun raw => toBangladeshMsisdn (some raw)) ∧
      ∀ (service : Service) (transport : Transport) (world : World) (recipient : Recipient)
        (payload : PushPayload) (s s' : Sending) (number : String) (segments : ℕ),
        world.sms = service.collaborator transport →
        (deliverSms world recipient payload).eval s = (.ok (.sent number segments), s') →
        toBangladeshMsisdn (recipient.settings.smsNumber <|> recipient.mobile) = some number ∧
          ∃ message request, s' = s.attempt (.sms ⟨number, message⟩) ∧
            service.dialled transport ⟨number, message, none⟩ = [request] ∧
            request.number = number :=
  ⟨canonical_toBangladeshMsisdn, fun _ _ _ _ _ _ _ _ _ gateway run =>
    Service.deliverSms_sent gateway run⟩

/-- A gateway that accepts what it is asked to send. -/
def acceptingTransport : Transport where
  post _ := some (.object ⟨some (.number (.finite 202)), none⟩)
  parseJson _ := none
  print _ := ""

def gateway : Service := ⟨"key", "ELECTROSYNC", defaultSmsEndpoint⟩

/-- A world in which texts go through the gateway. -/
def gatewayWorld : World where
  now := 0
  id := "n1"
  write := .ok ()
  recipientRead := .ok ()
  tokensRead := .ok ()
  deactivation := .ok ()
  sms := gateway.collaborator acceptingTransport
  mail := ⟨false, fun _ => .ok ()⟩
  fcm := ⟨false, fun _ _ => .error "messaging/internal-error"⟩

/-- A user who wants texts, with a number in Bengali digits. -/
def textedRecipient : Recipient :=
  ⟨"ayesha", some "০১৭০০-০০০০০০", none, overDefaults (some { smsAlerts := .value true })⟩

/-- Nothing is stored, and nothing has left the server. -/
def idleSending : Sending where
  tables := ⟨[], [], [], List.nodup_nil, List.nodup_nil, List.nodup_nil⟩

theorem phone_numbers_canonical_texted :
    toBangladeshMsisdn (some "০১৭০০-০০০০০০") = some "8801700000000" ∧
      ∃ message request,
        ((deliverSms gatewayWorld textedRecipient ⟨"Low", "40 taka", none⟩).eval idleSending).2 =
          idleSending.attempt (.sms ⟨"8801700000000", message⟩) ∧
        gateway.dialled acceptingTransport ⟨"8801700000000", message, none⟩ = [request] ∧
        request.number = "8801700000000" := by
  have sent : ((deliverSms gatewayWorld textedRecipient ⟨"Low", "40 taka", none⟩).eval
      idleSending).1 = .ok (.sent "8801700000000" 1) := by
    decide +kernel
  exact phone_numbers_canonical.2 gateway acceptingTransport gatewayWorld textedRecipient _ _ _ _ _
    rfl (Prod.ext sent rfl)

end Sms
end ElectroSync
