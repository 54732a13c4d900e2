/-
This file reads the requests of the service from the bytes of a connection and
writes its responses. A connection carries one request; its body is not looked at.
-/

import Fixity.Http.Reply
import Fixity.Json.Printer
import Fixity.Service.Response

namespace Fixity.Service

/-! ### Requests -/

/-- The bytes that end a head. -/
def headEnd : List UInt8 := [0x0D, 0x0A, 0x0D, 0x0A]

/-- The bytes hold a whole head. -/
def holdsHead : List UInt8 → Bool
  | [] => false
  | b :: rest => headEnd.isPrefixOf (b :: rest) || holdsHead rest

/-- The request of a request line: a method, a target and the version, with spaces between them. -/
def Request.ofLine (line : List UInt8) : Except Http.Status Request :=
  match (Text.Utf8.decode? line).map (Text.splitAll ' ') with
  | some [method, target, _] => Request.ofTexts method target
  | _ => .error .badRequest

/-- The request at the beginning of some bytes. -/
def Request.ofBytes (bytes : List UInt8) : Except Http.Status Request :=
  match Http.Reply.line? false bytes with
  | some (line, _) => Request.ofLine line
  | none => .error .badRequest

/-! ### Responses -/

namespace Response

/-- The bytes of the content. -/
def contentBytes (response : Response) : List UInt8 :=
  match response.content with
  | none => []
  | some (.json value) => Text.Utf8.encode value.write
  | some (.text value) => Text.Utf8.encode value.toList

/-- A header line. -/
def headerLine (name value : String) : String :=
  name ++ ": " ++ value ++ "\r\n"

/-- The head: status, media type, methods, length, and that the connection ends. -/
def head (response : Response) : String :=
  let optional := fun name value => ((value : Option String).map (headerLine name)).getD ""
  "HTTP/1.1 " ++ response.status.text ++ "\r\n" ++
    optional "content-type" (response.content.map Content.mediaType) ++
    optional "allow" response.allowText ++
    headerLine "content-length" (String.ofList (Text.writeNat response.contentBytes.length)) ++
    headerLine "connection" "close" ++ "\r\n"

/-- The bytes of a response. -/
def bytes (response : Response) : List UInt8 :=
  Text.Utf8.encode response.head.toList ++
    (if response.sendsBody then response.contentBytes else [])

end Response

end Fixity.Service
