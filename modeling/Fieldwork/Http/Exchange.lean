import Fieldwork.Http.Status
import Fieldwork.Json.Basic

namespace Fieldwork

/-!
# Requests and answers

A network takes a request and gives an answer, or the reason why there is none,
and time passes on it between requests.  It has a state of its own, which goes
into each request and each wait and comes out of it.
-/

inductive HttpMethod where
  | get
  | post
  deriving DecidableEq, Repr, Inhabited

/-- The name of a method on the wire. -/
def HttpMethod.name :
    HttpMethod →
    String
  | get => "GET"
  | post => "POST"

structure HttpRequest where
  method : HttpMethod
  url : String
  /-- The content of the authorization header. -/
  authorization : Option String := none
  /-- The content of the header that names a repeated request. -/
  idempotencyKey : Option String := none
  body : Option Json := none
  deriving Repr, Inhabited

structure HttpAnswer where
  status : StatusCode
  /-- What the answer holds, unless it breaks off. -/
  body : Option String
  deriving DecidableEq, Repr, Inhabited

/-- What is outside, over a state. -/
structure Network (σ : Type) where
  /-- What becomes of a request: an answer, or the reason why there is none. -/
  exchange : σ → HttpRequest → Except String HttpAnswer × σ
  /-- What becomes of the state while so many milliseconds pass. -/
  wait : σ → UInt64 → σ

namespace Network

/-- A network on which no request is answered. -/
def silent : Network σ where
  exchange state _ := (.error "the service did not answer", state)
  wait state _ := state

end Network

end Fieldwork
