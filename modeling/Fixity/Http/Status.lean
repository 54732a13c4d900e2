/-
This file defines status codes and the phrases that are registered for them.
-/

import Fixity.Text.Integer

namespace Fixity.Http

/-- The status of a response, by its code. -/
structure Status where
  code : Nat
deriving Repr, DecidableEq, Inhabited

namespace Status

def ok : Status := ⟨200⟩
def badRequest : Status := ⟨400⟩
def notFound : Status := ⟨404⟩
def methodNotAllowed : Status := ⟨405⟩
def targetTooLong : Status := ⟨414⟩
def unprocessable : Status := ⟨422⟩
def badGateway : Status := ⟨502⟩
def unavailable : Status := ⟨503⟩

/-- The codes from 200 to 299 report success. -/
def isSuccess (status : Status) : Bool :=
  200 ≤ status.code && status.code ≤ 299

/-- The codes from 100 to 199 precede the actual response. -/
def isInformational (status : Status) : Bool :=
  100 ≤ status.code && status.code ≤ 199

/-- The request is to go to another address, as it is or, with some codes, as one that asks. -/
def isRedirect (status : Status) : Bool :=
  status.code ∈ [301, 302, 303, 307, 308]

/-- The request goes to another address as it is. -/
def keepsRequest (status : Status) : Bool :=
  status.code ∈ [307, 308]

/-- The registered phrase of a code. -/
def phrase? (status : Status) : Option String :=
  match status.code with
  | 100 => "Continue"
  | 101 => "Switching Protocols"
  | 102 => "Processing"
  | 103 => "Early Hints"
  | 200 => "OK"
  | 201 => "Created"
  | 202 => "Accepted"
  | 203 => "Non Authoritative Information"
  | 204 => "No Content"
  | 205 => "Reset Content"
  | 206 => "Partial Content"
  | 207 => "Multi-Status"
  | 208 => "Already Reported"
  | 226 => "IM Used"
  | 300 => "Multiple Choices"
  | 301 => "Moved Permanently"
  | 302 => "Found"
  | 303 => "See Other"
  | 304 => "Not Modified"
  | 305 => "Use Proxy"
  | 307 => "Temporary Redirect"
  | 308 => "Permanent Redirect"
  | 400 => "Bad Request"
  | 401 => "Unauthorized"
  | 402 => "Payment Required"
  | 403 => "Forbidden"
  | 404 => "Not Found"
  | 405 => "Method Not Allowed"
  | 406 => "Not Acceptable"
  | 407 => "Proxy Authentication Required"
  | 408 => "Request Timeout"
  | 409 => "Conflict"
  | 410 => "Gone"
  | 411 => "Length Required"
  | 412 => "Precondition Failed"
  | 413 => "Payload Too Large"
  | 414 => "URI Too Long"
  | 415 => "Unsupported Media Type"
  | 416 => "Range Not Satisfiable"
  | 417 => "Expectation Failed"
  | 418 => "I'm a teapot"
  | 421 => "Misdirected Request"
  | 422 => "Unprocessable Entity"
  | 423 => "Locked"
  | 424 => "Failed Dependency"
  | 425 => "Too Early"
  | 426 => "Upgrade Required"
  | 428 => "Precondition Required"
  | 429 => "Too Many Requests"
  | 431 => "Request Header Fields Too Large"
  | 451 => "Unavailable For Legal Reasons"
  | 500 => "Internal Server Error"
  | 501 => "Not Implemented"
  | 502 => "Bad Gateway"
  | 503 => "Service Unavailable"
  | 504 => "Gateway Timeout"
  | 505 => "HTTP Version Not Supported"
  | 506 => "Variant Also Negotiates"
  | 507 => "Insufficient Storage"
  | 508 => "Loop Detected"
  | 510 => "Not Extended"
  | 511 => "Network Authentication Required"
  | _ => none

/-- The code and its phrase. -/
def text (status : Status) : String :=
  String.ofList (Text.writeNat status.code) ++ " " ++
    (status.phrase?.getD "<unknown status code>")

end Status

end Fixity.Http
