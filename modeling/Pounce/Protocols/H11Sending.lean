/-
# What h11 sends

`H11` takes the connection object as a parameter. For the sending side of a server this
module states what h11 documents about it: a small state machine, `ServerSide`, that says
for each event whether h11 accepts it, what it writes and what it expects next. How the
header fields of a response are normalized is `HeaderRules`; how the framing of a response
is chosen, and which fields are rewritten for it, is spelled out.

The framing depends on the request the connection has received. A connection that has
received none knows neither method nor version, takes the client for an HTTP/1.0 client
and rejects interim responses.
-/

import Pounce.Math.Message
import Pounce.Protocols.H1

namespace Pounce

open Pounce.Math Pounce.Math.Bytes Pounce.Math.Message

universe u

/-! ## Header fields -/

/-- The fields of a response that are about its framing. -/
def isFraming (header : Header) : Bool :=
  lower header.1 = ascii "content-length" || lower header.1 = ascii "transfer-encoding"

/-- Fields without those of one name. -/
def without (name : Bytes) (headers : List Header) : List Header :=
  headers.filter fun header => lower header.1 ≠ name

/-- Fields no reading of the grammar objects to: plain names, trimmed printable values, no
transfer coding and at most one length. -/
def Regular (headers : List Header) : Prop :=
  (∀ header ∈ headers, Clean header ∧ header.1 ≠ [] ∧
      (∀ byte ∈ header.1, (97 ≤ byte ∧ byte ≤ 122) ∨ byte = 45) ∧
      ∀ byte ∈ header.2, 32 ≤ byte ∧ byte ≤ 126) ∧
    valuesOf (ascii "transfer-encoding") headers = [] ∧
    (valuesOf (ascii "content-length") headers).length ≤ 1 ∧
    ∀ value ∈ valuesOf (ascii "content-length") headers,
      value.length ≤ 20 ∧ (decimal? value).isSome

instance (headers : List Header) : Decidable (Regular headers) :=
  inferInstanceAs (Decidable (_ ∧ _ ∧ _ ∧ _))

/-- What h11 does to the header fields of a response. -/
structure HeaderRules where
  /-- Normalize and validate the fields; none is a `LocalProtocolError`. -/
  normalize : List Header → Option (List Header)
  /-- Put `Connection: close` among the fields. -/
  close : List Header → List Header
  /-- The one length that several Content-Length values stand for. -/
  lengths : List Bytes → List Bytes
  normalize_regular : ∀ headers, Regular headers → normalize headers = some headers
  normalize_clean : ∀ headers normalized, normalize headers = some normalized →
    ∀ header ∈ normalized, Clean header
  /-- Fields that are not about framing stay as they are. -/
  normalize_other : ∀ headers normalized, normalize headers = some normalized →
    normalized.filter (!isFraming ·) = headers.filter (!isFraming ·)
  normalize_length : ∀ headers normalized, normalize headers = some normalized →
    valuesOf (ascii "content-length") normalized =
      lengths (valuesOf (ascii "content-length") headers) ∧
    ∀ value ∈ valuesOf (ascii "content-length") normalized, (decimal? value).isSome
  /-- The only transfer coding is `chunked`, and it is there at most once. -/
  normalize_coding : ∀ headers normalized, normalize headers = some normalized →
    valuesOf (ascii "transfer-encoding") normalized =
      if valuesOf (ascii "transfer-encoding") headers = [] then [] else [ascii "chunked"]
  close_other : ∀ headers,
    without (ascii "connection") (close headers) = without (ascii "connection") headers
  close_clean : ∀ headers, (∀ header ∈ headers, Clean header) →
    ∀ header ∈ close headers, Clean header

/-! ## The state machine -/

/-- How the end of a body is marked. -/
inductive Delimiting
  /-- By its length, of which so much is left. -/
  | length (left : ℕ)
  | chunked
  /-- By the end of the connection. -/
  | close
  deriving DecidableEq, Repr

namespace Delimiting

/-- The piece fits into what is left of the length, and fills it if it is the last. -/
def takes (data : Bytes) (more : Bool) : Delimiting → Bool
  | .length left => data.length ≤ left && (more || left = data.length)
  | .chunked => true
  | .close => true

/-- What is left behind a piece. -/
def after (data : Bytes) : Delimiting → Delimiting
  | .length left => .length (left - data.length)
  | .chunked => .chunked
  | .close => .close

/-- The end of the body is not told by a length. -/
def isUnknown : Delimiting → Bool
  | .length _ => false
  | .chunked => true
  | .close => true

/-- The client sees the end of a body that was ended or broken off. -/
def complete (ended : Bool) : Delimiting → Bool
  | .length left => left = 0
  | .chunked => ended
  | .close => true

variable {delimiting : Delimiting} (hunknown : delimiting.isUnknown = true)

include hunknown

theorem takes_unknown (data : Bytes) (more : Bool) : delimiting.takes data more = true := by
  cases delimiting with
  | length left => cases hunknown
  | chunked | close => rfl

theorem after_unknown (data : Bytes) : delimiting.after data = delimiting := by
  cases delimiting with
  | length left => cases hunknown
  | chunked | close => rfl

end Delimiting

/-- What a connection knows of the client whose request it has received. -/
structure Peer where
  method : Bytes
  http11 : Bool
  keepAlive : Bool
  deriving DecidableEq, Repr

/-- What the server may send. -/
inductive ServerSide
  /-- A response; without a peer no request has been received. -/
  | awaiting (peer : Option Peer)
  | sendBody (delimiting : Delimiting)
  /-- Nothing: the response is done, the protocol switched, or an error was made. -/
  | done
  deriving DecidableEq, Repr

/-- A successful response to CONNECT. -/
def switchesProtocol (method : Option Bytes) (status : ℕ) : Bool :=
  method = some (ascii "CONNECT") && 200 ≤ status && status < 300

/-- The framing of a response to a request of this method. -/
def bodyFraming (method : Option Bytes) (status : ℕ) (headers : List Header) : Delimiting :=
  if status = 204 ∨ status = 304 ∨ method = some (ascii "HEAD") ∨
      switchesProtocol method status then .length 0
  else if valuesOf (ascii "transfer-encoding") headers ≠ [] then .chunked
  else
    match declaredLength headers with
    | some length => .length length
    | none => .close

/-- The response has a body whose length its fields do not tell. A HEAD response gets the
fields of the response to GET. -/
def unknownLength (peer : Option Peer) (status : ℕ) (headers : List Header) : Bool :=
  let method := peer.map (·.method)
  let method := if method = some (ascii "HEAD") then some (ascii "GET") else method
  match bodyFraming method status headers with
  | .length _ => false
  | .chunked => true
  | .close => true

/-- Chunks for an HTTP/1.1 client, and the end of the connection for any other. -/
def frameUnknown (peer : Option Peer) (headers : List Header) : List Header :=
  let headers := without (ascii "transfer-encoding") (without (ascii "content-length") headers)
  if peer.any (·.http11) then headers ++ [(ascii "Transfer-Encoding", ascii "chunked")]
  else headers

/-- The fields h11 writes for a response. -/
def cleanUp (rules : HeaderRules) (peer : Option Peer) (status : ℕ) (headers : List Header) :
    List Header :=
  let unknown := unknownLength peer status headers
  let needClose := unknown && !peer.any (·.http11) && !peer.any (·.method = ascii "HEAD")
  let headers := if unknown then frameUnknown peer headers else headers
  if peer.any (!·.keepAlive) || needClose then rules.close headers else headers

/-- A response h11 takes for one. -/
def acceptsResponse (rules : HeaderRules) (status : ℕ) (headers : List Header) : Bool :=
  200 ≤ status && status < 1000 && (rules.normalize headers).isSome

namespace ServerSide

/-- Send an event: what is written, or none for a `LocalProtocolError`, and what may be
sent next. An event that cannot be constructed leaves the connection alone. -/
def send (rules : HeaderRules) (side : ServerSide) :
    H11Send → Option (List Element) × ServerSide
  | .informational status headers =>
      match rules.normalize headers with
      | none => (none, side)
      | some normalized =>
          match side with
          | .awaiting (some _) => (some [.head status normalized], side)
          | _ => (none, .done)
  | .response status headers =>
      if 200 ≤ status ∧ status < 1000 then
        match rules.normalize headers with
        | none => (none, side)
        | some normalized =>
            match side with
            | .awaiting peer =>
                let cleaned := cleanUp rules peer status normalized
                let method := peer.map (·.method)
                (some [.head status cleaned],
                  if switchesProtocol method status then .done
                  else .sendBody (bodyFraming method status cleaned))
            | _ => (none, .done)
      else (none, side)
  | .data data =>
      match side with
      | .sendBody (.length left) =>
          if data.length ≤ left then
            (some [.raw data], .sendBody (.length (left - data.length)))
          else (none, .done)
      | .sendBody .chunked => (some (if data = [] then [] else [.chunk data]), side)
      | .sendBody .close => (some [.raw data], side)
      | _ => (none, .done)
  | .endOfMessage =>
      match side with
      | .sendBody (.length 0) => (some [], .done)
      | .sendBody .chunked => (some [.lastChunk], .done)
      | .sendBody .close => (some [], .done)
      | _ => (none, .done)

end ServerSide

/-- The only interim response the bridge sends is an early hint. -/
def H11Send.early : H11Send → Bool
  | .informational status _ => status = 103
  | _ => true

/-- h11 sends as documented, `side` being what it may send. -/
structure H11.SendsAs {Conn : Type u} (h11 : H11 Conn) (rules : HeaderRules)
    (side : Conn → ServerSide) : Prop where
  side_new : side h11.new = .awaiting none
  send_bytes : ∀ conn event, event.early →
    (h11.send conn event).1 =
      ((side conn).send rules event).1.map fun elements => elements.flatMap render
  side_send : ∀ conn event, event.early →
    side (h11.send conn event).2 = ((side conn).send rules event).2

/-! ## Sending one thing after the other -/

/-- What `H1Protocol.sendAll` comes to. -/
def ServerSide.sendAll (rules : HeaderRules) (side : ServerSide) :
    List H11Send → Option (List Element) × ServerSide
  | [] => (some [], side)
  | event :: events =>
      match side.send rules event with
      | (none, next) => (none, next)
      | (some elements, next) =>
          let rest := next.sendAll rules events
          (rest.1.map (elements ++ ·), rest.2)

/-- What `H1Protocol.sendBody` sends. -/
def bodyEvents (data : Bytes) (more : Bool) : List H11Send :=
  (if data = [] then [] else [.data data]) ++ if more then [] else [.endOfMessage]

namespace H11.SendsAs

variable {Conn : Type u} {h11 : H11 Conn} {rules : HeaderRules} {side : Conn → ServerSide}

/-- Several events are sent as documented if each of them is. -/
theorem sendAll (hsends : h11.SendsAs rules side) {events : List H11Send}
    (hearly : ∀ event ∈ events, event.early) (conn : Conn) :
    (H1Protocol.sendAll h11 conn events).1 =
        ((side conn).sendAll rules events).1.map (fun elements => elements.flatMap render) ∧
      side (H1Protocol.sendAll h11 conn events).2 = ((side conn).sendAll rules events).2 := by
  induction events generalizing conn with
  | nil => exact ⟨rfl, rfl⟩
  | cons event events ih =>
      have hfirst := hearly event (List.mem_cons_self ..)
      have hbytes := hsends.send_bytes conn event hfirst
      have hside := hsends.side_send conn event hfirst
      have hrest := ih (fun other hmem => hearly other (List.mem_cons_of_mem _ hmem))
        (h11.send conn event).2
      rw [H1Protocol.sendAll, ServerSide.sendAll]
      rcases hsend : h11.send conn event with ⟨sent, next⟩
      rcases hstep : (side conn).send rules event with ⟨elements, after⟩
      rw [hsend, hstep] at hbytes
      rw [hsend] at hrest
      rw [hsend, hstep] at hside
      simp only at hbytes hside hrest ⊢
      subst hside
      cases elements with
      | none =>
          subst hbytes
          exact ⟨rfl, rfl⟩
      | some elements =>
          subst hbytes
          simp only [Option.map_some]
          refine ⟨?_, hrest.2⟩
          rw [hrest.1]
          cases ((side next).sendAll rules events).1 with
          | none => rfl
          | some others => simp

/-- A piece of the body is sent as documented. -/
theorem sendBody (hsends : h11.SendsAs rules side) (conn : Conn) (data : Bytes) (more : Bool) :
    (H1Protocol.sendBody h11 conn data more).1 =
        ((side conn).sendAll rules (bodyEvents data more)).1.map
          (fun elements => elements.flatMap render) ∧
      side (H1Protocol.sendBody h11 conn data more).2 =
        ((side conn).sendAll rules (bodyEvents data more)).2 := by
  apply hsends.sendAll
  intro event hmem
  simp only [List.mem_append] at hmem
  rcases hmem with hdata | hend
  · split at hdata
    · cases hdata
    · rw [List.mem_singleton.mp hdata]
      rfl
  · split at hend
    · cases hend
    · rw [List.mem_singleton.mp hend]
      rfl

end H11.SendsAs

/-! ## A piece of the body -/

section

variable (rules : HeaderRules)

/-- A body that ends with the connection is written as it is. -/
theorem sendAll_close (data : Bytes) (more : Bool) :
    (ServerSide.sendBody .close).sendAll rules (bodyEvents data more) =
      (some (if data = [] then [] else [.raw data]),
        if more then .sendBody .close else .done) := by
  by_cases hdata : data = [] <;> cases more <;>
    simp [bodyEvents, hdata, ServerSide.sendAll, ServerSide.send]

/-- A body of unknown length is written in chunks. -/
theorem sendAll_chunked (data : Bytes) (more : Bool) :
    (ServerSide.sendBody .chunked).sendAll rules (bodyEvents data more) =
      (some ((if data = [] then [] else [.chunk data]) ++ if more then [] else [.lastChunk]),
        if more then .sendBody .chunked else .done) := by
  by_cases hdata : data = [] <;> cases more <;>
    simp [bodyEvents, hdata, ServerSide.sendAll, ServerSide.send]

/-- A body of declared length is written within it and ends when it is used up. -/
theorem sendAll_length (left : ℕ) (data : Bytes) (more : Bool) :
    (ServerSide.sendBody (.length left)).sendAll rules (bodyEvents data more) =
      if data.length ≤ left ∧ (more ∨ left = data.length) then
        (some (if data = [] then [] else [.raw data]),
          if more then .sendBody (.length (left - data.length)) else .done)
      else (none, .done) := by
  by_cases hdata : data = []
  · subst hdata
    cases more with
    | true => simp [bodyEvents, ServerSide.sendAll]
    | false => cases left <;> simp [bodyEvents, ServerSide.sendAll, ServerSide.send]
  · by_cases hfits : data.length ≤ left
    · cases more with
      | true => simp [bodyEvents, hdata, hfits, ServerSide.sendAll, ServerSide.send]
      | false =>
          by_cases hexact : left = data.length
          · subst hexact
            simp [bodyEvents, hdata, ServerSide.sendAll, ServerSide.send]
          · obtain ⟨rest, hrest⟩ : ∃ rest, left - data.length = rest + 1 :=
              Nat.exists_eq_succ_of_ne_zero (by omega)
            simp [bodyEvents, hdata, hfits, hexact, hrest, ServerSide.sendAll, ServerSide.send]
    · simp [bodyEvents, hdata, hfits, ServerSide.sendAll, ServerSide.send]

/-- When nothing may be sent, no head is. -/
theorem send_response_done (status : ℕ) (headers : List Header) :
    (ServerSide.done.send rules (.response status headers)) = (none, .done) := by
  simp only [ServerSide.send]
  split
  · split <;> rfl
  · rfl

end

/-! ## The fields of a head -/

@[simp]
theorem valuesOf_append (name : Bytes) (first second : List Header) :
    valuesOf name (first ++ second) = valuesOf name first ++ valuesOf name second := by
  simp [valuesOf]

/-- Fields that are removed have no values left. -/
theorem valuesOf_without_self (name : Bytes) (headers : List Header) :
    valuesOf name (without name headers) = [] := by
  simp [valuesOf, without, List.filter_filter]

/-- Removing fields of another name changes no values. -/
theorem valuesOf_without {name other : Bytes} (hne : name ≠ other) (headers : List Header) :
    valuesOf name (without other headers) = valuesOf name headers := by
  rw [valuesOf, valuesOf, without, List.filter_filter]
  congr 1
  apply List.filter_congr
  intro header _
  by_cases hname : lower header.1 = name
  · simp [hname, hne]
  · simp [hname]

/-- Fields a filter rejects may be removed before it. -/
theorem filter_without {keep : Header → Bool} {name : Bytes}
    (hname : ∀ header, keep header → lower header.1 ≠ name) (headers : List Header) :
    (without name headers).filter keep = headers.filter keep := by
  rw [without, List.filter_filter]
  apply List.filter_congr
  intro header _
  by_cases hkeep : keep header
  · simp [hkeep, hname header hkeep]
  · simp [hkeep]

/-- A filter that looks at neither framing nor connection fields. -/
structure Blind (keep : Header → Bool) : Prop where
  length : ∀ header, keep header → lower header.1 ≠ ascii "content-length"
  coding : ∀ header, keep header → lower header.1 ≠ ascii "transfer-encoding"
  connection : ∀ header, keep header → lower header.1 ≠ ascii "connection"

section

variable {rules : HeaderRules} {keep : Header → Bool}

/-- A blind filter does not see the normalization. -/
theorem filter_normalize (hblind : Blind keep) {headers normalized : List Header}
    (hnormal : rules.normalize headers = some normalized) :
    normalized.filter keep = headers.filter keep := by
  have hother := congrArg (List.filter keep) (rules.normalize_other _ _ hnormal)
  have hpass : ∀ list : List Header,
      (list.filter (!isFraming ·)).filter keep = list.filter keep := by
    intro list
    rw [List.filter_filter]
    apply List.filter_congr
    intro header _
    by_cases hkeep : keep header
    · simp [hkeep, isFraming, hblind.length header hkeep, hblind.coding header hkeep]
    · simp [hkeep]
  rwa [hpass, hpass] at hother

/-- Nor that the connection is announced to close. -/
theorem filter_close (hblind : Blind keep) (headers : List Header) :
    (rules.close headers).filter keep = headers.filter keep := by
  rw [← filter_without hblind.connection, rules.close_other, filter_without hblind.connection]

theorem valuesOf_close {name : Bytes} (hname : name ≠ ascii "connection")
    (headers : List Header) : valuesOf name (rules.close headers) = valuesOf name headers := by
  rw [← valuesOf_without hname, rules.close_other, valuesOf_without hname]

/-- A blind filter does not see the framing. -/
theorem filter_frameUnknown (hblind : Blind keep) (peer : Option Peer) (headers : List Header) :
    (frameUnknown peer headers).filter keep = headers.filter keep := by
  have hchunked : keep (ascii "Transfer-Encoding", ascii "chunked") = false := by
    by_contra hkeep
    exact hblind.coding _ (by simpa using hkeep) (by decide)
  rw [frameUnknown]
  split
  · rw [List.filter_append, filter_without hblind.coding, filter_without hblind.length]
    simp [hchunked]
  · rw [filter_without hblind.coding, filter_without hblind.length]

/-- A blind filter sees the fields the application's head was built with. -/
theorem filter_cleanUp (rules : HeaderRules) (hblind : Blind keep) (peer : Option Peer) (status : ℕ)
    (headers : List Header) :
    (cleanUp rules peer status headers).filter keep = headers.filter keep := by
  have hframed : (if unknownLength peer status headers then frameUnknown peer headers
      else headers).filter keep = headers.filter keep := by
    split
    · exact filter_frameUnknown hblind peer headers
    · rfl
  simp only [cleanUp]
  split
  · rw [filter_close hblind, hframed]
  · exact hframed

/-- The values of a name that is not `Connection` are those of the framed fields. -/
theorem valuesOf_cleanUp {name : Bytes} (hname : name ≠ ascii "connection")
    (peer : Option Peer) (status : ℕ) (headers : List Header) :
    valuesOf name (cleanUp rules peer status headers) =
      valuesOf name
        (if unknownLength peer status headers then frameUnknown peer headers else headers) := by
  simp only [cleanUp]
  split
  · exact valuesOf_close hname _
  · rfl

/-- Where the length is unknown none is declared. -/
theorem lengths_frameUnknown (peer : Option Peer) (headers : List Header) :
    valuesOf (ascii "content-length") (frameUnknown peer headers) = [] := by
  have hne : ascii "content-length" ≠ ascii "transfer-encoding" := by decide
  rw [frameUnknown]
  split
  · rw [valuesOf_append, valuesOf_without hne, valuesOf_without_self]
    decide
  · rw [valuesOf_without hne, valuesOf_without_self]

/-- Where the length is unknown an HTTP/1.1 client gets chunks, and no other does. -/
theorem codings_frameUnknown (peer : Option Peer) (headers : List Header) :
    valuesOf (ascii "transfer-encoding") (frameUnknown peer headers) =
      if peer.any (·.http11) then [ascii "chunked"] else [] := by
  rw [frameUnknown]
  split
  · rw [valuesOf_append, valuesOf_without_self]
    decide
  · exact valuesOf_without_self _ _

/-- What h11 writes can be read. -/
theorem clean_cleanUp {headers normalized : List Header}
    (hnormal : rules.normalize headers = some normalized) (peer : Option Peer) (status : ℕ) :
    ∀ header ∈ cleanUp rules peer status normalized, Clean header := by
  have hclean := rules.normalize_clean _ _ hnormal
  have hframed : ∀ header ∈ (if unknownLength peer status normalized then
      frameUnknown peer normalized else normalized), Clean header := by
    split
    · intro header hmem
      rw [frameUnknown] at hmem
      have hkept : ∀ header ∈ without (ascii "transfer-encoding")
          (without (ascii "content-length") normalized), Clean header := by
        intro header hmem
        exact hclean header (List.mem_of_mem_filter (List.mem_of_mem_filter hmem))
      split at hmem
      · rcases List.mem_append.mp hmem with hold | hnew
        · exact hkept header hold
        · rw [List.mem_singleton.mp hnew]
          decide
      · exact hkept header hmem
    · exact hclean
  simp only [cleanUp]
  split
  · exact rules.close_clean _ hframed
  · exact hframed

end

/-! ## A strict machine -/

/-- Regular fields, with or without chunks. -/
def Takes (headers : List Header) : Prop :=
  (∀ header ∈ headers, Clean header) ∧ Regular (without (ascii "transfer-encoding") headers) ∧
    (valuesOf (ascii "transfer-encoding") headers = [] ∨
      valuesOf (ascii "transfer-encoding") headers = [ascii "chunked"])

instance (headers : List Header) : Decidable (Takes headers) :=
  inferInstanceAs (Decidable (_ ∧ _ ∧ (_ ∨ _)))

/-- Nothing is removed where there is no field of the name. -/
theorem without_of_valuesOf {name : Bytes} {headers : List Header}
    (hnone : valuesOf name headers = []) : without name headers = headers := by
  rw [valuesOf, List.map_eq_nil_iff, List.filter_eq_nil_iff] at hnone
  exact List.filter_eq_self.mpr fun header hmem => by simpa using hnone header hmem

/-- Regular fields are taken. -/
theorem Regular.takes {headers : List Header} (hregular : Regular headers) : Takes headers := by
  refine ⟨fun header hmem => (hregular.1 header hmem).1, ?_, .inl hregular.2.1⟩
  rwa [without_of_valuesOf hregular.2.1]

/-- Rules that take such fields as they are and no others. -/
def strictRules : HeaderRules where
  normalize headers := if Takes headers then some headers else none
  close headers :=
    without (ascii "connection") headers ++ [(ascii "Connection", ascii "close")]
  lengths values := values
  normalize_regular _ hregular := if_pos hregular.takes
  normalize_clean headers normalized hnormal header hmem := by
    split at hnormal
    case isTrue htakes =>
      cases hnormal
      exact htakes.1 header hmem
    case isFalse => cases hnormal
  normalize_other headers normalized hnormal := by
    split at hnormal
    case isTrue => cases hnormal; rfl
    case isFalse => cases hnormal
  normalize_length headers normalized hnormal := by
    split at hnormal
    case isTrue htakes =>
      cases hnormal
      have hne : ascii "content-length" ≠ ascii "transfer-encoding" := by decide
      have hlengths := htakes.2.1.2.2.2
      rw [valuesOf_without hne] at hlengths
      exact ⟨rfl, fun value hmem => (hlengths value hmem).2⟩
    case isFalse => cases hnormal
  normalize_coding headers normalized hnormal := by
    split at hnormal
    case isTrue htakes =>
      cases hnormal
      rcases htakes.2.2 with hnone | hchunked
      · rw [hnone, if_pos rfl]
      · rw [hchunked, if_neg (by simp)]
    case isFalse => cases hnormal
  close_other headers := by
    rw [without, without, List.filter_append, List.filter_filter]
    have hnone : [(ascii "Connection", ascii "close")].filter
        (fun header => lower header.1 ≠ ascii "connection") = [] := by decide
    rw [hnone, List.append_nil]
    congr 1
    funext header
    rw [Bool.and_self]
  close_clean headers hclean header hmem := by
    rcases List.mem_append.mp hmem with hold | hnew
    · exact hclean header (List.mem_of_mem_filter hold)
    · rw [List.mem_singleton.mp hnew]
      decide

/-- A connection that is what it may send, and reads nothing. -/
def strictH11 : H11 ServerSide where
  new := .awaiting none
  receiveData side _ := side
  nextEvent side := (.needData, side)
  send side event :=
    let sent := side.send strictRules event
    (sent.1.map fun elements => elements.flatMap render, sent.2)
  startNextCycle _ := none
  clientIsWaitingFor100Continue _ := false
  buffered _ := 0
  buffered_lt := by
    intro side event next hevent
    cases hevent

/-- It sends as documented. -/
theorem sendsAs_strictH11 : strictH11.SendsAs strictRules fun side => side where
  side_new := rfl
  send_bytes _ _ _ := rfl
  side_send _ _ _ := rfl

end Pounce
