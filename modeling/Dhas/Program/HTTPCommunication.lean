import Dhas.Library.Substring
import Dhas.Program.SprinklersNode

/-!
# Reading a page

`common/HTTPCommunication.cpp`, `getURL`. What the server sends comes as the results of `recv`,
after which it closes the connection or the time-out ends the loop. `find` and the two regular
expressions look at all that came so far, the expressions as a C string.

The undefined behaviour of a number that does not fit `num[10]`, and the exception of a `substr`
behind the end, are `none`.
-/

set_option autoImplicit false

namespace Dhas.Program

open Dhas.Library

namespace HTTPCommunication

/-- What is sent when the connection succeeds. SOURCE: HTTPCommunication.cpp:71-75, 105 -/
def requestText (server url : CString) : CString :=
  "GET ".toList ++ url ++ " HTTP/1.1".toList ++ ['\r', '\n'] ++
    "Host: ".toList ++ server ++ ['\r', '\n'] ++
    "Connection: close".toList ++ ['\r', '\n'] ++ ['\r', '\n']

/-- `"\r\n\r\n"` -/
def headerEnd : CString := ['\r', '\n', '\r', '\n']

/-- `"\r\n0\r\n\r\n"` -/
def lastChunk : CString := ['\r', '\n', '0', '\r', '\n', '\r', '\n']

def transferEncoding : CString := "transfer-encoding: chunked".toList

/-- `Transfer-Encoding: chunked` matches, upper or lower case. -/
def saysChunked (st : CString) : Bool :=
  (findSub transferEncoding ((cString st).map Char.toLower)).isSome

def contentLengthName : CString := "content-length: ".toList

/-- `content-length: ([0-9]*)`: what stands in the parentheses at the first match. -/
def contentLengthText (st : CString) : Option CString :=
  (findSub contentLengthName ((cString st).map Char.toLower)).map fun i =>
    ((cString st).drop (i + contentLengthName.length)).takeWhile isDigit

/-- An `int` that is compared with a `size_t`. -/
def sizeT (v : ℤ) : ℕ := (v % 2 ^ 64).toNat

/-- The variables of the loop. -/
structure Loop where
  st : CString
  chunked : Bool
  contentlength : ℤ

inductive Turn where
  /-- the next `recv` -/
  | next (s : Loop)
  /-- `break`, with the value of `ret` -/
  | done (s : Loop) (ret : CString)
  | undefined

/-- The content length that is known after a `recv`; `none` when it does not fit `num[10]`. -/
def newContentLength (st : CString) (contentlength : ℤ) : Option ℤ :=
  match contentLengthText st with
  | none => some contentlength
  | some num => if num.length < 10 then some (atoi num) else none

/-- The body of the loop. SOURCE: HTTPCommunication.cpp:107-147 -/
def receive (s : Loop) (buf : CString) : Turn :=
  let st := s.st ++ buf
  match findSub headerEnd st with
  | none => .next { s with st := st }
  | some p1 =>
    let chunked := s.chunked || saysChunked st
    match newContentLength st s.contentlength with
    | none => .undefined
    | some contentlength =>
      let s : Loop := ⟨st, chunked, contentlength⟩
      if (findSub lastChunk st).isSome ∧ chunked = true then
        if p1 + 8 ≤ st.length then .done s (st.drop (p1 + 8)) else .undefined
      else if chunked = false ∧ sizeT contentlength ≤ st.length - p1 - 4 then
        .done s (st.drop (p1 + 4))
      else .next s

/-- The loop over the results of `recv`: `st` and `ret` at its end. -/
def receiveAll (s : Loop) : List CString → Option (CString × CString)
  | [] => some (s.st, [])
  | buf :: rest =>
    match receive s buf with
    | .next s' => receiveAll s' rest
    | .done s' ret => some (s'.st, ret)
    | .undefined => none

/-- `recvs` are the results of `recv`, if the connection succeeds.
SOURCE: HTTPCommunication.cpp:67-168 -/
def getURL (connected : Bool) (recvs : List CString) : Option CString :=
  if connected then
    -- devices that send no response header
    (receiveAll ⟨[], false, 0⟩ recvs).map fun r => if r.2 = [] then r.1 else r.2
  else some []

end HTTPCommunication

end Dhas.Program
