/-
# Exchanges over HTTP

A body is posted to an address, and the body of the response comes back.  An
address that cannot be used fails before anything is sent; a response with the
status of an error fails whatever its body is.
-/
import NodeKeeper.Dialogue
import NodeKeeper.Http.Status
import NodeKeeper.Url.Address

namespace NodeKeeper

open Url

/-- A body for an address. -/
structure HttpRequest where
  address : Address
  body : List UInt8

/-- What comes of a request. -/
inductive HttpReply where
  /-- there is no response, or it did not come in time -/
  | none
  | response (status : HttpStatus) (body : List UInt8)

abbrev HttpRequest.Answer (_ : HttpRequest) : Type := HttpReply

abbrev HttpDialogue (α : Type) : Type := Dialogue HttpRequest HttpRequest.Answer α

inductive HttpError where
  | malformedAddress
  | unsupportedAddress (address : String)
  | unanswered (address : String)
  | refused (status : HttpStatus) (address : String)
  /-- the body of the response is not what was asked for -/
  | malformedBody
  deriving DecidableEq, Repr

namespace HttpError

def message : HttpError → String
  | .malformedAddress => "builder error"
  | .unsupportedAddress address => "builder error for url (" ++ address ++ ")"
  | .unanswered address => "error sending request for url (" ++ address ++ ")"
  | .refused status address =>
    "HTTP status " ++ (if status.isClientError then "client" else "server") ++ " error (" ++
      status.text ++ ") for url (" ++ address ++ ")"
  | .malformedBody => "error decoding response body"

end HttpError

namespace Http

/-- The address as errors show it: its user is not theirs to know. -/
def shownAddress (a : Address) : String :=
  (if a.host.isSome then a.withoutUser else a).write

/-- May a request name the host?  Some characters that a domain may contain have
no place in a request. -/
def isNamed : Host → Bool
  | .domain name => ! name.toList.any fun c => ['"', '\x60', '\x7b', '\x7d'].contains c
  | _ => true

/-- Can requests be sent to the address? -/
def isServed (a : Address) : Bool :=
  (a.host.map isNamed).getD false && (a.scheme == "http" || a.scheme == "https")

/-- Posts a body and yields the body of the response. -/
def post (address : String) (body : List UInt8) : HttpDialogue (Except HttpError (List UInt8)) :=
  match Address.read? address with
  | none => pure (.error .malformedAddress)
  | some a =>
    if ¬ isServed a then pure (.error (.unsupportedAddress (shownAddress a)))
    else do
      match ← Dialogue.request (HttpRequest.mk a body) with
      | .none => pure (.error (.unanswered (shownAddress a)))
      | .response status body =>
        if status.isClientError || status.isServerError then
          pure (.error (.refused status (shownAddress a)))
        else pure (.ok body)

end Http

end NodeKeeper
