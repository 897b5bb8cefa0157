import Fieldwork.Http.Exchange
import Fieldwork.Task.Stored
import Fieldwork.Workflow.Service

namespace Fieldwork

/-!
# Task services over a network

A remote task service is reached by requests.  A request that meets a transient
status or gets no answer is sent again, unchanged and after a pause, until the
attempts are used up; every other answer decides the call.
-/

/-- How a remote task service is reached. -/
structure RemoteService where
  /-- The address under which the service lives, without slashes at its end. -/
  root : String
  token : Option String
  /-- How often a request is sent at most. -/
  attempts : UInt8
  /-- The milliseconds between the first attempt and the second. -/
  backoff : UInt64
  deriving DecidableEq, Repr

namespace RemoteService

/-- A text without the slashes at its end. -/
def withoutFinalSlashes
    (address : String) :
    String :=
  String.ofList ((address.toList.reverse.dropWhile (· = '/')).reverse)

def leastBackoff : UInt64 :=
  50

/-- A service at an address, with a number of attempts, of which one is made anyway. -/
def build
    (address : String)
    (token : Option String)
    (attempts : Nat) :
    RemoteService where
  root := withoutFinalSlashes address
  token := token
  attempts := max (saturated8 attempts) 1
  backoff := leastBackoff

/-- The service with another pause after the first attempt. -/
def withBackoff
    (service : RemoteService)
    (milliseconds : Nat) :
    RemoteService :=
  { service with backoff := max (saturated64 milliseconds) leastBackoff }

def taskAddress
    (service : RemoteService)
    (task : Int64) :
    String :=
  service.root ++ "/api/tasks/" ++ integerText task.toInt

def authorization
    (service : RemoteService) :
    Option String :=
  service.token.map fun token => "Bearer " ++ token

/-- The request that records a completion; its values are all that is sent. -/
def completionRequest
    (service : RemoteService)
    (request : CompletionRequest) :
    HttpRequest where
  method := .post
  url :=
    service.taskAddress request.task ++ "/steps/" ++ integerText request.step.toInt ++
      "/complete"
  authorization := service.authorization
  idempotencyKey := some request.key
  body := some (.ofFields [("field_values", request.fieldValues.toJson)])

def loadRequest
    (service : RemoteService)
    (task : Int64) :
    HttpRequest where
  method := .get
  url := service.taskAddress task
  authorization := service.authorization

/-- What an attempt comes to. -/
inductive Verdict where
  | accepted (body : Option String)
  | refused (fault : DeliveryFault)
  /-- Sending the request again may help. -/
  | undecided (fault : DeliveryFault)

/-- What stands in a message for the body of an answer that broke off. -/
def brokenOffBody : String :=
  "<response body unavailable>"

/-- The verdict on an answer, or on the lack of one. -/
def judge
    (call : ServiceCall) :
    Except String HttpAnswer →
    Verdict
  | .error reason => .undecided (.unanswered call reason)
  | .ok answer =>
      if answer.status.isSuccess then
        .accepted answer.body
      else if answer.status.isTransient then
        .undecided (.transient call answer.status)
      else
        .refused (.refused call answer.status (answer.body.getD brokenOffBody))

/-- The milliseconds between an attempt and the next; they grow from attempt to attempt. -/
def pauseAfter
    (service : RemoteService)
    (attempt : UInt8) :
    UInt64 :=
  saturated64 (service.backoff.toNat * attempt.toNat)

/--
Send a request until an answer decides or the attempts are used up.  So many
attempts were made before, and the last of them failed as given.
-/
def sendAfter
    (service : RemoteService)
    (network : Network σ)
    (call : ServiceCall)
    (request : HttpRequest)
    (made : UInt8)
    (last? : Option DeliveryFault)
    (state : σ) :
    Except DeliveryFault (Option String) × σ :=
  if made < service.attempts then
    let attempt := saturated8 (made.toNat + 1)
    let (answer, answered) := network.exchange state request
    match judge call answer with
    | .accepted body => (.ok body, answered)
    | .refused fault => (.error fault, answered)
    | .undecided fault =>
        service.sendAfter network call request attempt (some fault)
          (if attempt < service.attempts then
            network.wait answered (service.pauseAfter attempt)
          else
            answered)
  else
    (.error (last?.getD (.exhausted call)), state)
termination_by service.attempts.toNat - made.toNat
decreasing_by
  rename made < service.attempts => left
  have below : made.toNat < service.attempts.toNat := UInt8.lt_iff_toNat_lt.mp left
  rw [toNat_saturated8_succ left]
  exact Nat.sub_lt_sub_left below (Nat.lt_succ_self made.toNat)

/-- Send a request until an answer decides or the attempts are used up. -/
def send
    (service : RemoteService)
    (network : Network σ)
    (call : ServiceCall)
    (request : HttpRequest) :
    σ →
    Except DeliveryFault (Option String) × σ :=
  service.sendAfter network call request 0 none

/-- The task that the body of an answer holds. -/
def readTask
    (task : Int64)
    (body : Option String) :
    Except DeliveryFault FieldTask :=
  match body.map FieldTask.ofText with
  | some (.ok loaded) => .ok loaded
  | _ => .error (.unreadable task)

/-- A remote service as the owner of its tasks. -/
def gateway
    (service : RemoteService)
    (network : Network σ) :
    Gateway σ where
  complete state request :=
    let (delivered, state) :=
      service.send network .completion (service.completionRequest request) state
    ((delivered.map fun _ => ()).mapError .delivery, state)
  load state task :=
    let (delivered, state) :=
      service.send network .load (service.loadRequest task) state
    ((delivered.bind (readTask task)).mapError .delivery, state)

end RemoteService

end Fieldwork
