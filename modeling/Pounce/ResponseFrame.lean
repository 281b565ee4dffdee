/-
# Response framing of the synchronous worker

The raw serializer of the synchronous path: a status line, the server's own
headers, the response headers in the order given, a blank line. Nothing here
looks at the body or at the framing headers; what a client makes of the response
is decided entirely by the headers handed in.
-/

import Pounce.Protocols.Base

namespace Pounce.ResponseFrame

open Pounce.Math Pounce.Math.Bytes

/-- The reason phrases with an entry of their own. -/
def statusReasons : List (ℕ × Bytes) :=
  [(200, ascii "OK"), (201, ascii "Created"), (204, ascii "No Content"),
    (301, ascii "Moved Permanently"), (302, ascii "Found"), (303, ascii "See Other"),
    (304, ascii "Not Modified"), (400, ascii "Bad Request"), (401, ascii "Unauthorized"),
    (403, ascii "Forbidden"), (404, ascii "Not Found"), (405, ascii "Method Not Allowed"),
    (413, ascii "Content Too Large"), (422, ascii "Unprocessable Entity"),
    (500, ascii "Internal Server Error"), (501, ascii "Not Implemented"),
    (502, ascii "Bad Gateway"), (503, ascii "Service Unavailable")]

/-- The reason phrase of a status, or a fallback. -/
def reasonOr (fallback : Bytes) (status : ℕ) : Bytes :=
  (statusReasons.lookup status).getD fallback

/-- A header line. -/
def headerLine (header : Header) : Bytes := header.1 ++ ascii ": " ++ header.2 ++ crlf

/-- No CR or LF in a header, no colon in its name. -/
def validHeader (header : Header) : Bool :=
  !(13 ∈ header.1 || 10 ∈ header.1 || 58 ∈ header.1) && !(13 ∈ header.2 || 10 ∈ header.2)

/-- Serialize a response as head and body. `none` is the injection error raised
for a header that does not validate. -/
def serializeRawResponseParts (status : ℕ) (headers : List Header) (body : Bytes)
    (serverHeader : String) (dateHeader : Option Bytes) : Option (Bytes × Bytes) :=
  if headers.all validHeader then
    some
      (ascii "HTTP/1.1 " ++ ofNat status ++ ascii " " ++ reasonOr (ascii "OK") status ++ crlf ++
          ascii "server: " ++ utf8 serverHeader ++ crlf ++ dateHeader.getD [] ++
          headers.flatMap headerLine ++ crlf,
        body)
  else none

end Pounce.ResponseFrame
