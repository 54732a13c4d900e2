/-
This file writes requests as the bytes that a connection carries.
-/

import Fixity.Http.Client

namespace Fixity.Http.Dispatch

/-- A header line. -/
def fieldLine (name : String) (value : List UInt8) : List UInt8 :=
  Text.Utf8.encode (name ++ ": ").toList ++ value ++ [0x0D, 0x0A]

/-- The fields that the connection itself needs. -/
def ownFields (dispatch : Dispatch) : Fields :=
  let length := if dispatch.body.isEmpty then [] else
    [Field.ofText "content-length" (String.ofList (Text.writeNat dispatch.body.length))]
  let login := match dispatch.proxy with
    | some proxy => proxy.login
    | none => []
  [.ofText "host" dispatch.url.hostText, .ofText "connection" "close"] ++ login ++ length

/-- The bytes of a request. -/
def bytes (dispatch : Dispatch) : List UInt8 :=
  Text.Utf8.encode (dispatch.method ++ " " ++ dispatch.target ++ " HTTP/1.1\r\n").toList ++
    ((dispatch.ownFields ++ dispatch.fields).flatMap fun field => fieldLine field.name field.value) ++
    [0x0D, 0x0A] ++ dispatch.body

end Fixity.Http.Dispatch
