import DatabaseOperator.Http.Target
import DatabaseOperator.Json.Basic
import DatabaseOperator.Program
import DatabaseOperator.Remote.Error
import DatabaseOperator.Url.Basic

/-!
# Exchanges over HTTP

A control plane is reached by requests, each of which gets a reply or none.

- `HttpRequest`, `HttpReply`: what is sent and what comes back.
- `HttpProgram`: a computation that sends requests.
- `HttpDraft`: a request before it is known that it can be sent, and
  `HttpDraft.Fault`: why it cannot be.
- `exchange`: a draft sent, and what its reply means.
- `decoded`: what a reply says, read by a reader.
-/

namespace DatabaseOperator

/-! ## Requests and replies -/

/-- The methods in use. -/
inductive HttpMethod where
  | get
  | post
  | put
  | delete
deriving DecidableEq, Repr

/-- The name of a method. -/
def HttpMethod.text : HttpMethod → String
  | get => "GET"
  | post => "POST"
  | put => "PUT"
  | delete => "DELETE"

/-- A request. The retry token travels in a header of its own, and a body is
JSON. -/
structure HttpRequest where
  method : HttpMethod
  url : Url
  authorization : String
  retryToken : Option String := none
  body : Option Json := none

/-- What becomes of a request: nothing comes back, or a status and a body, which
is missing if it broke off. -/
inductive HttpReply where
  | silence
  | response (status : Nat) (body : Option ByteArray)

/-- A computation that sends requests. -/
abbrev HttpProgram (α : Type) : Type :=
  Program HttpRequest (fun _ => HttpReply) α

/-- The result of a computation none of whose requests is answered. -/
def HttpProgram.unanswered {α : Type} (program : HttpProgram α) : α :=
  (program.interpret (fun (_ : Unit) _ => (HttpReply.silence, ())) ()).1

/-! ## Sending -/

/-- A request as it is put together: its address may be no URL, and its headers
may hold what cannot be sent. -/
structure HttpDraft where
  method : HttpMethod
  url : Option Url
  authorization : String
  retryToken : Option String := none
  body : Option Json := none

/-- A header can hold a text: no control character but the tab is in it. -/
def isHeaderText (s : String) : Bool :=
  s.toList.all fun c => c = '\t' || (0x20 ≤ c.toNat && c.toNat ≠ 0x7F)

/-- Why a draft cannot be sent: it makes no request, or its URL is nothing that
a request can ask for. -/
inductive HttpDraft.Fault where
  | incomplete
  | target (url : Url)
deriving DecidableEq, Repr

/-- The fault in words. -/
def HttpDraft.Fault.message : HttpDraft.Fault → String
  | incomplete => "builder error"
  | target url => "builder error for url (" ++ url.text ++ ")"

/-- The headers of a draft can be sent. -/
def HttpDraft.hasHeaders (d : HttpDraft) : Bool :=
  isHeaderText d.authorization && d.retryToken.all isHeaderText

/-- The request of a draft, if it can be sent. -/
def HttpDraft.request (d : HttpDraft) : Except HttpDraft.Fault HttpRequest :=
  match d.url.map Url.withoutUser with
  | none => .error .incomplete
  | some url =>
    if !d.hasHeaders then .error .incomplete
    else match RequestTarget.ofText url.text with
      | .error _ => .error (.target url)
      | .ok _ =>
        .ok
          { method := d.method
            url
            authorization := d.authorization
            retryToken := d.retryToken
            body := d.body }

/-- The text of a body. -/
def bodyText (bytes : ByteArray) : String :=
  (String.fromUTF8? bytes).getD ""

/-- What a reply means: the body of a success, or a failure. A control plane
says in its own way what went wrong. -/
def HttpReply.outcome (request : HttpRequest) (errorText : String → String) :
    HttpReply → Except RemoteError (Option ByteArray)
  | silence =>
    .error
      (.transient
        ("error sending request for url (" ++ request.url.text ++ ")"))
  | response status body =>
    if 200 ≤ status ∧ status < 300 then .ok body
    else
      .error
        (.ofStatus status
          (errorText ((body.map bodyText).getD "unknown error")))

/-- A draft sent. One that cannot be sent is refused at once. -/
def exchange (errorText : String → String) (d : HttpDraft) :
    HttpProgram (Except RemoteError (Option ByteArray)) :=
  match d.request with
  | .ok request =>
    .ask request fun reply => .done (reply.outcome request errorText)
  | .error fault => .done (.error (.permanent fault.message))

/-- A failure to make sense of a body. -/
def unreadable (what : String) : RemoteError :=
  .permanent (what ++ ": error decoding response body")

/-- What the body of a success says. A body that broke off says nothing. -/
def decoded {α : Type} (what : String) (read : String → Option α)
    (body : Option ByteArray) : Except RemoteError α :=
  match body.bind fun bytes => read (bodyText bytes) with
  | some a => .ok a
  | none => .error (unreadable what)

/-! ## Small facts -/

theorem exchange_of_request {d : HttpDraft} {request : HttpRequest}
    (h : d.request = .ok request) (errorText : String → String) :
    exchange errorText d = .ask request fun reply =>
      .done (reply.outcome request errorText) := by
  unfold exchange
  rw [h]

theorem hasHeaders_of_request {d : HttpDraft} {request : HttpRequest}
    (h : d.request = .ok request) : d.hasHeaders := by
  unfold HttpDraft.request at h
  cases hu : d.url.map Url.withoutUser with
  | none => simp [hu] at h
  | some url =>
    cases hh : d.hasHeaders with
    | true => rfl
    | false => simp [hu, hh] at h

end DatabaseOperator
