import ResultFlow.Http.Exchange

/-!
# Scripted servers

A server that answers requests by a script, in order, and keeps the requests that it received. The
body of an answer is framed by its length, in chunks, or by the end of the connection; a short frame
declares more than is sent.
-/

namespace ResultFlow.Http

/-- How the end of a body is told. -/
inductive Framing
  | length
  | chunked
  | close
  /-- By a length that is 5 bytes too great. -/
  | short
  deriving DecidableEq, Inhabited

/-- One entry of a script. -/
inductive Reply
  | answer (status : Nat) (headers : List Header) (body : Bytes) (framing : Framing)
  /-- The connection is closed without an answer. -/
  | reset
  /-- No answer is given. -/
  | stall
  deriving DecidableEq

/-- A server: its place, the replies that are left, and the requests received so far. -/
structure Server where
  authority : String
  replies : List Reply
  received : List Request := []
  /-- Whether connections are refused. -/
  refusing : Bool := false

namespace Reply

/-- What a script that is used up answers. -/
def exhausted : Reply := answer 500 [] "no more replies".toUTF8.toList .length

/-- Whether answers of a status have no body, whatever is sent. -/
def isBodiless (status : Nat) : Bool := status = 101 || status = 204 || status = 304

/-- The body that arrives of bytes in a frame. -/
def bodyOf (bytes : Bytes) (framing : Framing) : Body :=
  let pieces := if bytes = [] then [] else [bytes]
  match framing with
  | .length => { pieces, length := some bytes.length }
  | .chunked | .close => { pieces }
  | .short => { pieces, length := some (bytes.length + 5), intact := false }

/-- What a client gets of a reply. An interim status other than 101 is no answer. -/
def outcome : Reply → Except Fault Response
  | answer status headers bytes framing =>
    if isBodiless status then .ok { status, headers, body := { length := some 0 } }
    else if status < 200 then .error .lost
    else .ok { status, headers, body := bodyOf bytes framing }
  | reset => .error .lost
  | stall => .error .timedOut

end Reply

/-- The transport to a scripted server. Nothing else can be connected to. -/
def Server.transport : Transport Server where
  send r s :=
    if s.refusing ∨ r.url.authority ≠ some s.authority then (.error .refused, s)
    else
      let received := s.received ++ [r]
      match s.replies with
      | [] => (Reply.exhausted.outcome, { s with received })
      | reply :: replies => (reply.outcome, { s with replies, received })

end ResultFlow.Http
