import DashboardCheck.Check.Error
import DashboardCheck.Http.Backoff
import DashboardCheck.Http.Certificate
import DashboardCheck.World.Program

/-!
Sending requests. A client follows redirections or not; it tries again only after an attempt that
got no connection, and only as often as its policy says.
-/
namespace DashboardCheck.Http

open Text

structure Client where
  /-- Certificates that are trusted besides those of the system. -/
  roots : Option Bytes
  /-- The time limit for a connection and for a response. -/
  limit : Option Duration
  policy : RetryPolicy
  deriving DecidableEq, Repr

/-- A response and the address it came from. -/
structure Arrival where
  response : Response
  url : Url
  deriving DecidableEq, Repr

def isReadableHeader (s : String) : Bool :=
  s.toList.all fun c => isPlainAscii c || c == '\t'

def trimHeader (s : String) : String :=
  let isEdge (c : Char) := c == ' ' || c == '\t'
  String.ofList ((s.toList.dropWhile isEdge).reverse.dropWhile isEdge).reverse

def Response.location? (r : Response) : Option String :=
  (r.location.map trimHeader).filter isReadableHeader

def isRedirection (status : Nat) : Bool := 300 ≤ status && status < 400

/-- The statuses after which the same is asked for elsewhere, with a `GET`. -/
def statusesToGet : List Nat := [301, 302, 303]

/-- The statuses after which the same request is sent elsewhere. -/
def statusesToRepeat : List Nat := [307, 308]

def Request.follow? (request : Request) (response : Response) : Option Request := do
  if !(statusesToGet ++ statusesToRepeat).contains response.status then none
  let target ← request.url.join? (trimHeader (← response.location))
  if !target.isHttp || !target.hasHost then none
  if statusesToGet.contains response.status then
    return { request with method := .get, url := target, content := none }
  else return { request with url := target }

def Request.next? (request : Request) (follow : Bool) (response : Response) : Option Request :=
  if follow then request.follow? response else none

def maxRedirections : Nat := 10

namespace Client

variable {ε : Type}

def make (roots : Option Bytes) (limit : Option Duration) (policy : RetryPolicy) :
    Except CheckError Client :=
  if roots.all Certificate.allReadable then .ok ⟨roots, limit, policy⟩
  else .error (.tls "failed to build http client: builder error")

/-- Sends a request and follows at most so many redirections. -/
def exchange (client : Client) (follow : Bool) :
    Nat → Request → Program ε (Except TransportError Arrival)
  | left, request => do
    match ← Program.deliver client.limit request with
    | .unconnected => return .error ⟨.noConnection, some request.url⟩
    | .unanswered => return .error ⟨.noAnswer, some request.url⟩
    | .answered response =>
      match request.next? follow response with
      | none => return .ok ⟨response, request.url⟩
      | some next =>
        match left with
        | 0 => return .error ⟨.redirectedTooOften, some next.url⟩
        | left + 1 => client.exchange follow left next

/-- The address of a request, or why none can be sent there. -/
def target (url : String) : Except TransportError Url :=
  match Url.parse? url with
  | none => .error ⟨.unusable, none⟩
  | some found =>
    let target := found.dropCredentials
    if target.hasHost && target.isHttp && target.isSendable then .ok target
    else .error ⟨.unusable, some target⟩

/-- What is asked of a server, without the address. -/
structure Order where
  method : Method
  follow : Bool
  accept : String
  content : Option Content
  deriving DecidableEq, Repr

def once (client : Client) (order : Order) (url : String) :
    Program ε (Except TransportError Arrival) := do
  Program.note (.tried order.method)
  match target url with
  | .error e => return .error e
  | .ok target =>
    client.exchange order.follow maxRedirections
      ⟨order.method, target, order.accept, order.content⟩

def logTarget : String := "dashprobe_dashboard::http"

def Order.logLine (order : Order) (url : String) (level : LogLevel) (text : String)
    (more : List (String × LogValue)) : LogLine :=
  ⟨level, logTarget, text, [("method", .text order.method.name), ("url", .text url)] ++ more⟩

/-- The line on an attempt that is followed by another. -/
def retryLine (client : Client) (order : Order) (url : String) (attempt : Nat)
    (e : TransportError) : LogLine :=
  order.logLine url .warn "transient http failure, retrying"
    [("attempt", .number attempt), ("max_attempts", .number client.policy.maxAttempts),
     ("wait_ms", .number (min (client.policy.backoff attempt).millis Number.max64)),
     ("error", .text e.message)]

/-- Gives up. -/
def giveUp (order : Order) (url : String) (attempt : Nat) (e : TransportError) :
    Program CheckError Arrival := do
  Program.log (order.logLine url .warn "http request failed"
    [("attempt", .number attempt), ("error", .text e.message)])
  throw (.transport url e)

def attempts (client : Client) (order : Order) (url : String) :
    Nat → Nat → Program CheckError Arrival
  | left, attempt => do
    Program.log (order.logLine url .debug "sending request" [("attempt", .number attempt)])
    match ← client.once order url with
    | .ok arrival =>
      Program.log (order.logLine url .debug "response received"
        [("status", .number arrival.response.status)])
      return arrival
    | .error e =>
      match left with
      | 0 => giveUp order url attempt e
      | left + 1 =>
        if e.isConnect then
          Program.log (client.retryLine order url attempt e)
          Program.note (.waited (client.policy.backoff attempt))
          client.attempts order url left (attempt + 1)
        else giveUp order url attempt e

/-- Giving up tells of the address and does nothing further. -/
@[simp] theorem start_giveUp (order : Order) (url : String) (attempt : Nat) (e : TransportError)
    (setting : Setting) (world : World) :
    (giveUp order url attempt e).start setting world = (.error (.transport url e), world) := rfl

/-- Sends what is asked, again and again as far as the policy allows. -/
def send (client : Client) (order : Order) (url : String) : Program CheckError Arrival :=
  client.attempts order url (client.policy.maxAttempts - 1) 1

/-- The media type that is asked for by default. -/
def anything : String := "*/*"

def get (client : Client) (url : String) (follow : Bool) : Program CheckError Arrival :=
  client.send ⟨.get, follow, anything, none⟩ url

def postJson (client : Client) (url : String) (body : Json.Value) (accept : String)
    (mediaType : String) : Program CheckError Arrival :=
  client.send ⟨.post, true, accept, some ⟨mediaType, body.compact⟩⟩ url

end Client

end DashboardCheck.Http
