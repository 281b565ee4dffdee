/-
# Segmentation of the request stream

A client sends requests back to back; the network cuts the stream into reads
where it likes. `Delivered` is what the receiving side owes: call after call, the
next request with its body, and no further receive once the request is in the
buffer.

Every call of `recvRequestFast` receives before it parses. So the promise holds
exactly when no read brings the ends of two requests, and no read leaves a head
longer than the head limit without its blank line. `delivered_iff` states this
for all streams, segmentations and pipelining depths. The proof carries the
buffered prefix of the next request through the calls: `recvLoop_message` is one
call, and `spaced_cons` moves the condition past it.
-/

import Pounce.Math.Offset
import Pounce.SyncWorker.Recv

namespace Pounce.SyncWorker

open Pounce.Math Pounce.Math.Bytes Pounce.FastH1

variable {capacity : ℕ} {config : ServerConfig}

/-! ## Messages and their delivery -/

/-- A complete request the parser accepts, without a chunked body. -/
structure Message (config : ServerConfig) where
  wire : Bytes
  request : RequestReceived
  body : Bytes
  accepted : parseRequest wire wire.length config.maxHeaders config.maxHeaderSize =
    .ok (some { request, body, consumed := wire.length, chunked := false })

/-- The bytes up to and with the blank line. -/
def Message.headLength (message : Message config) : ℕ := (headOf message.wire).length + 4

/-- The sizes of the requests of a stream. -/
def sizes (messages : List (Message config)) : List ℕ :=
  messages.map fun message => message.wire.length

/-- A call that ends in `conn'` received no more than it needed: before each of
its receives, the request was not in the buffer. -/
def Prompt (message : Message config) (conn conn' : Conn capacity) : Prop :=
  ∃ used : List Bytes, conn.socket.recvs = used.map .data ++ conn'.socket.recvs ∧
    ∀ count < used.length, ¬ message.wire <+: conn.buffer.content ++ (used.take count).flatten

/-- Call after call returns the next request with its body, promptly. -/
def Delivered : List (Message config) → Conn capacity → Prop
  | [], _ => True
  | message :: messages, conn =>
      ∃ conn', recvRequestFast config conn = (.request message.request message.body, conn') ∧
        Prompt message conn conn' ∧ Delivered messages conn'

/-- A head that has arrived up to `count` bytes is within the limit or complete. -/
def HeadArrived (message : Message config) (count : ℕ) : Prop :=
  message.headLength ≤ count ∨ count ≤ config.maxHeaderSize

instance (message : Message config) (count : ℕ) : Decidable (HeadArrived message count) :=
  inferInstanceAs (Decidable (_ ∨ _))

/-- How reads must fall on requests, when `held` bytes are already buffered and
further reads bring `reads` bytes each. -/
structure Spaced (messages : List (Message config)) (held : ℕ) (reads : List ℕ) : Prop where
  /-- The read that completes a request stops short of the end of the next. -/
  apart : ∀ count index, index + 1 < messages.length →
    held + offset reads count < offset (sizes messages) (index + 1) →
    held + offset reads (count + 1) < offset (sizes messages) (index + 2)
  /-- A read that leaves a request incomplete does not leave an overlong head. -/
  heads : ∀ count index (hindex : index < messages.length),
    offset (sizes messages) index ≤ held + offset reads count →
    held + offset reads (count + 1) < offset (sizes messages) (index + 1) →
    HeadArrived messages[index] (held + offset reads (count + 1) - offset (sizes messages) index)

/-- Reads find room: what is buffered of a request and the next read fit the
buffer together. -/
def Fits (capacity : ℕ) (messages : List (Message config)) (held : ℕ) (reads : List ℕ) : Prop :=
  ∀ count index, index < messages.length →
    offset (sizes messages) index ≤ held + offset reads count →
    held + offset reads count < offset (sizes messages) (index + 1) →
    held + offset reads (count + 1) ≤ capacity + offset (sizes messages) index

/-! ## One turn -/

/-- With the whole request in the buffer, the turn returns it. -/
theorem afterRecv_complete (awaiting : Awaiting) {conn : Conn capacity} {message : Message config}
    {more : Bytes} (hcontent : conn.buffer.content = message.wire ++ more) :
    afterRecv config awaiting conn = .done (.request message.request message.body)
      { conn with buffer := conn.buffer.keep message.wire.length } := by
  have hlen : conn.buffer.len ≤ conn.buffer.bytes.length := by
    rw [conn.buffer.length_bytes]
    exact conn.buffer.len_le
  rw [afterRecv, parseRequest_append hcontent hlen message.accepted]
  rfl

/-- Releasing a withheld body touches neither buffer nor writability. -/
theorem sendContinue_writable (awaiting : Awaiting) {conn : Conn capacity}
    (hwritable : conn.socket.writable) :
    ∃ awaiting' socket, sendContinue awaiting conn = some (awaiting', { conn with socket }) ∧
      socket.writable ∧ socket.recvs = conn.socket.recvs := by
  simp only [sendContinue]
  split
  · exact ⟨awaiting, conn.socket, rfl, hwritable, rfl⟩
  · split
    · exact ⟨awaiting, conn.socket, rfl, hwritable, rfl⟩
    · split
      · simp only [Socket.sendall, if_pos hwritable, Option.map_some]
        exact ⟨_, _, rfl, hwritable, rfl⟩
      · exact ⟨_, conn.socket, rfl, hwritable, rfl⟩

/-- A strict prefix of the request is not parsed yet, or has an overlong head. -/
theorem Message.parse_partial {message : Message config} {buffer : RecvBuffer capacity}
    (hcontent : buffer.content = message.wire.take buffer.len)
    (hshort : buffer.len < message.wire.length) :
    parseRequest buffer.bytes buffer.len config.maxHeaders config.maxHeaderSize =
      if HeadArrived message buffer.len then .ok none
      else .error (headersTooLarge config.maxHeaderSize) :=
  parseRequest_take hcontent hshort message.accepted rfl

/-- With a strict prefix of the request in the buffer and room for more, the
turn goes round again unless the head is overlong. -/
theorem afterRecv_partial (awaiting : Awaiting) (conn : Conn capacity) {message : Message config}
    (hcontent : conn.buffer.content = message.wire.take conn.buffer.len)
    (hshort : conn.buffer.len < message.wire.length) (hroom : conn.buffer.len < capacity)
    (hwritable : conn.socket.writable) :
    if HeadArrived message conn.buffer.len then
      ∃ awaiting' socket, afterRecv config awaiting conn = .again awaiting' { conn with socket } ∧
        socket.writable
    else ∃ conn', afterRecv config awaiting conn = .done .stopped conn' := by
  rw [afterRecv, Message.parse_partial hcontent hshort]
  split
  case isTrue =>
    obtain ⟨awaiting', socket, hsend, hwritable', -⟩ :=
      sendContinue_writable awaiting hwritable
    refine ⟨awaiting', socket, ?_, hwritable'⟩
    simp only [hsend]
    rw [if_neg (by omega)]
  case isFalse => exact ⟨_, rfl⟩

/-! ## One call -/

/-- A read that fits is buffered whole. -/
theorem RecvBuffer.content_recvInto_of_fits {buffer : RecvBuffer capacity} {read : Bytes}
    (hroom : buffer.len + read.length ≤ capacity) :
    (buffer.recvInto read).content = buffer.content ++ read ∧
      (buffer.recvInto read).len = buffer.len + read.length := by
  have htake : read.take (capacity - buffer.len) = read := List.take_of_length_le (by omega)
  have hcontent : (buffer.recvInto read).content = buffer.content ++ read := by
    rw [content_recvInto, htake]
  refine ⟨hcontent, ?_⟩
  rw [← length_content, hcontent, List.length_append, length_content]

/-- A turn on a read that fits. -/
theorem recvLoop_data (config : ServerConfig) {conn : Conn capacity} {read : Bytes}
    (rest : List RecvResult)
    (awaiting : Awaiting) (hread : read ≠ []) (hroom : conn.buffer.len + read.length ≤ capacity) :
    recvLoop config (.data read :: rest) awaiting conn =
      match afterRecv config awaiting
          { buffer := conn.buffer.recvInto read, socket := { conn.socket with recvs := rest } } with
      | .done outcome conn => (outcome, conn)
      | .again awaiting conn => recvLoop config rest awaiting conn := by
  have htake : read.take (capacity - conn.buffer.len) = read :=
    List.take_of_length_le (by omega)
  have hdrop : read.drop (capacity - conn.buffer.len) = [] :=
    List.drop_eq_nil_of_le (by omega)
  rw [recvLoop]
  simp only [htake, hdrop, if_true]
  exact if_neg hread

/-- A buffered part of the stream no longer than the next request is a prefix of
that request. -/
theorem Message.content_of_short {message : Message config} {buffer : RecvBuffer capacity}
    {rest more : Bytes} (hstream : buffer.content ++ rest = message.wire ++ more)
    (hshort : buffer.len ≤ message.wire.length) :
    buffer.content = message.wire.take buffer.len := by
  have hboth := congrArg (List.take buffer.len) hstream
  rwa [List.take_append_of_le_length (by rw [RecvBuffer.length_content]),
    List.take_append_of_le_length hshort,
    List.take_of_length_le (by rw [RecvBuffer.length_content])] at hboth

/-- A buffered part of the stream at least as long as the next request starts
with it. -/
theorem Message.content_of_long {message : Message config} {buffer : RecvBuffer capacity}
    {rest more : Bytes} (hstream : buffer.content ++ rest = message.wire ++ more)
    (hlong : message.wire.length ≤ buffer.len) :
    ∃ kept, buffer.content = message.wire ++ kept := by
  have hle : message.wire.length ≤ buffer.content.length := by
    rwa [RecvBuffer.length_content]
  obtain ⟨kept, hkept⟩ := List.prefix_of_prefix_length_le
    ⟨more, hstream.symm⟩ (List.prefix_append _ _) hle
  exact ⟨kept, hkept.symm⟩

/-- The reads of one call: after `count` of them the request is complete for the
first time. -/
structure Completes (message : Message config) (held : ℕ) (reads : List ℕ) (count : ℕ) : Prop where
  pos : 0 < count
  le : count ≤ reads.length
  complete : message.wire.length ≤ held + offset reads count
  partial_ : ∀ earlier < count, held + offset reads earlier < message.wire.length

/-- No read of the call leaves an overlong head. -/
def HeadsArrive (message : Message config) (held : ℕ) (reads : List ℕ) (count : ℕ) : Prop :=
  ∀ earlier < count, 0 < earlier → HeadArrived message (held + offset reads earlier)

theorem Completes.cons {message : Message config} {held read count : ℕ} {reads : List ℕ}
    (hshort : held < message.wire.length) (hrest : Completes message (held + read) reads count) :
    Completes message held (read :: reads) (count + 1) := by
  refine ⟨Nat.succ_pos _, by simpa using hrest.le, ?_, ?_⟩
  · rw [offset_cons_succ, ← Nat.add_assoc]
    exact hrest.complete
  · rintro (_ | earlier) hlt
    · simpa using hshort
    · rw [offset_cons_succ, ← Nat.add_assoc]
      exact hrest.partial_ earlier (by omega)

theorem headsArrive_cons {message : Message config} {held read count : ℕ} {reads : List ℕ} :
    HeadsArrive message held (read :: reads) (count + 1) ↔
      (0 < count → HeadArrived message (held + read)) ∧
        HeadsArrive message (held + read) reads count := by
  constructor
  · intro hall
    refine ⟨fun hpos => by simpa using hall 1 (by omega) Nat.one_pos, fun earlier hlt hpos => ?_⟩
    simpa [Nat.add_assoc] using hall (earlier + 1) (by omega) (Nat.succ_pos _)
  · rintro ⟨hfirst, hall⟩ (_ | _ | earlier) hlt hpos
    · exact absurd hpos (Nat.lt_irrefl 0)
    · simpa using hfirst (by omega)
    · simpa [Nat.add_assoc] using hall (earlier + 1) (by omega) (Nat.succ_pos _)

/-- How a call on a buffered prefix of a request goes: it returns the request as
soon as it is complete, with the rest kept, unless an overlong head ends it. -/
theorem recvLoop_message {message : Message config} {segments : List Bytes}
    (after : List RecvResult) (awaiting : Awaiting) {conn : Conn capacity} {more : Bytes}
    (hstream : conn.buffer.content ++ segments.flatten = message.wire ++ more)
    (hshort : conn.buffer.len < message.wire.length) (hnonempty : ∀ read ∈ segments, read ≠ [])
    (hfits : ∀ count, conn.buffer.len + offset (segments.map List.length) count <
      message.wire.length →
        conn.buffer.len + offset (segments.map List.length) (count + 1) ≤ capacity)
    (hwritable : conn.socket.writable) :
    ∃ count, Completes message conn.buffer.len (segments.map List.length) count ∧
      (HeadsArrive message conn.buffer.len (segments.map List.length) count →
        ∃ conn', recvLoop config (segments.map .data ++ after) awaiting conn =
            (.request message.request message.body, conn') ∧
          conn'.buffer.content = (conn.buffer.content ++ (segments.take count).flatten).drop
            message.wire.length ∧
          conn'.socket.recvs = (segments.drop count).map .data ++ after ∧
          conn'.socket.writable) ∧
      (¬ HeadsArrive message conn.buffer.len (segments.map List.length) count →
        (recvLoop config (segments.map .data ++ after) awaiting conn).1 = .stopped) := by
  induction segments generalizing awaiting conn with
  | nil =>
      have hlength := congrArg List.length hstream
      simp only [List.flatten_nil, List.append_nil, List.length_append,
        RecvBuffer.length_content] at hlength
      omega
  | cons read segments ih =>
      have hread : read ≠ [] := hnonempty read (List.mem_cons_self ..)
      have hroom : conn.buffer.len + read.length ≤ capacity := by
        simpa using hfits 0 (by simpa using hshort)
      obtain ⟨hcontent, hlen⟩ := RecvBuffer.content_recvInto_of_fits hroom
      have hstream' : (conn.buffer.recvInto read).content ++ segments.flatten =
          message.wire ++ more := by
        rw [hcontent, ← hstream, List.flatten_cons, List.append_assoc]
      have hoffset : ∀ count, conn.buffer.len +
          offset ((read :: segments).map List.length) (count + 1) =
            (conn.buffer.recvInto read).len + offset (segments.map List.length) count := by
        intro count
        rw [List.map_cons, offset_cons_succ, hlen, Nat.add_assoc]
      have hloop := recvLoop_data config (segments.map .data ++ after) awaiting
        hread hroom
      rw [show (read :: segments).map RecvResult.data ++ after =
        .data read :: (segments.map .data ++ after) from rfl, hloop]
      by_cases hcomplete : message.wire.length ≤ (conn.buffer.recvInto read).len
      · obtain ⟨kept, hkept⟩ := Message.content_of_long hstream' hcomplete
        have hfirst : HeadsArrive message conn.buffer.len
            ((read :: segments).map List.length) 1 := by
          intro earlier hlt hpos
          omega
        refine ⟨1, ⟨Nat.one_pos, by simp, by rwa [hoffset], ?_⟩, fun _ => ?_, absurd hfirst⟩
        · intro earlier hearlier
          obtain rfl : earlier = 0 := by omega
          simpa using hshort
        · rw [afterRecv_complete awaiting hkept]
          refine ⟨_, rfl, ?_, by simp, hwritable⟩
          rw [RecvBuffer.content_keep, hcontent]
          simp
      · have hshort' : (conn.buffer.recvInto read).len < message.wire.length := by omega
        have hpartial := Message.content_of_short hstream' (by omega)
        have hfits' : ∀ count, (conn.buffer.recvInto read).len +
            offset (segments.map List.length) count < message.wire.length →
              (conn.buffer.recvInto read).len + offset (segments.map List.length) (count + 1) ≤
                capacity := by
          intro count hlt
          rw [← hoffset] at hlt ⊢
          exact hfits (count + 1) hlt
        have hroom' : (conn.buffer.recvInto read).len < capacity := by
          cases segments with
          | nil =>
              have hlength := congrArg List.length hstream'
              simp only [List.flatten_nil, List.append_nil, List.length_append,
                RecvBuffer.length_content] at hlength
              omega
          | cons next segments =>
              have hpos : 0 < next.length := List.length_pos_iff.mpr
                (hnonempty next (List.mem_cons_of_mem _ (List.mem_cons_self ..)))
              have hle := hfits' 0 (by simpa using hshort')
              simp only [List.map_cons, offset_cons_succ, offset_zero] at hle
              omega
        have hturn := afterRecv_partial awaiting
          { buffer := conn.buffer.recvInto read
            socket := { conn.socket with recvs := segments.map .data ++ after } }
          hpartial hshort' hroom' hwritable
        have hrest := fun awaiting' socket (hwritable' : Socket.writable socket) =>
          @ih awaiting' { buffer := conn.buffer.recvInto read, socket } hstream' hshort'
          (fun other hmem => hnonempty other (List.mem_cons_of_mem _ hmem)) hfits' hwritable'
        simp only [hlen] at hrest
        split at hturn
        case isTrue harrived =>
          obtain ⟨awaiting', socket, hagain, hwritable'⟩ := hturn
          obtain ⟨count, hcount, hgood, hbad⟩ := hrest awaiting' socket hwritable'
          refine ⟨count + 1, hcount.cons hshort, fun harrive => ?_, fun hlate => ?_⟩
          · simpa [hagain, hcontent] using hgood (headsArrive_cons.mp harrive).2
          · simp only [hagain]
            rw [hlen] at harrived
            exact hbad fun harrive => hlate (headsArrive_cons.mpr ⟨fun _ => harrived, harrive⟩)
        case isFalse hlate =>
          obtain ⟨conn', hdone⟩ := hturn
          obtain ⟨count, hcount, -⟩ := hrest awaiting conn.socket hwritable
          refine ⟨count + 1, hcount.cons hshort, fun harrive => ?_, fun _ => ?_⟩
          · rw [hlen] at hlate
            exact absurd ((headsArrive_cons.mp harrive).1 hcount.pos) hlate
          · rw [hdone]

/-- A call on a buffer that already holds the request receives all the same. -/
theorem recvRequestFast_receives {message : Message config} {conn conn' : Conn capacity}
    {request : RequestReceived} {body : Bytes}
    (hheld : message.wire <+: conn.buffer.content)
    (hcall : recvRequestFast config conn = (.request request body, conn')) :
    conn'.socket.recvs ≠ conn.socket.recvs := by
  obtain ⟨kept, hkept⟩ := hheld
  rw [recvRequestFast] at hcall
  cases hrecvs : conn.socket.recvs with
  | nil => simp [hrecvs, recvLoop] at hcall
  | cons result rest =>
      rw [hrecvs] at hcall
      cases result with
      | osError => simp [recvLoop] at hcall
      | timeout => simp [recvLoop] at hcall
      | data read =>
          rw [recvLoop] at hcall
          simp only at hcall
          split at hcall
          · simp at hcall
          case isFalse hgot =>
            have hcontent : (conn.buffer.recvInto read).content =
                message.wire ++ (kept ++ read.take (capacity - conn.buffer.len)) := by
              rw [RecvBuffer.content_recvInto, ← hkept, List.append_assoc]
            rw [afterRecv_complete _ hcontent] at hcall
            obtain ⟨-, rfl⟩ := Prod.mk.inj hcall
            simp only
            split
            · exact fun heq => absurd (congrArg List.length heq) (by simp)
            · intro heq
              have hsame : read.drop (capacity - conn.buffer.len) = read := by
                simpa using congrArg List.head? heq
              have hlength := congrArg List.length hsame
              rw [List.length_drop] at hlength
              refine hgot ?_
              rw [List.take_eq_nil_iff]
              by_cases hempty : read = []
              · exact Or.inr hempty
              · have := List.length_pos_iff.mpr hempty
                exact Or.inl (by omega)

/-! ## The whole stream -/

@[simp]
theorem sizes_cons (message : Message config) (messages : List (Message config)) :
    sizes (message :: messages) = message.wire.length :: sizes messages := rfl

/-- The offsets of the reads after a call, seen from the start of the next
request. -/
theorem Completes.offset_drop {message : Message config} {held count : ℕ} {reads : List ℕ}
    (hcount : Completes message held reads count) (more : ℕ) :
    held + offset reads (count + more) = message.wire.length +
      (held + offset reads count - message.wire.length + offset (reads.drop count) more) := by
  have hcomplete := hcount.complete
  rw [offset_add]
  omega

/-- Past the first request, spacing is a matter of its own call and of the rest. -/
theorem spaced_cons {message : Message config} {messages : List (Message config)}
    {held count : ℕ} {reads : List ℕ} (hcount : Completes message held reads count) :
    Spaced (message :: messages) held reads ↔
      HeadsArrive message held reads count ∧
        (∀ next ∈ messages.head?, held + offset reads count - message.wire.length <
          next.wire.length) ∧
        Spaced messages (held + offset reads count - message.wire.length) (reads.drop count) := by
  have hcomplete := hcount.complete
  have hbefore : ∀ earlier, held + offset reads earlier < message.wire.length → earlier < count := by
    intro earlier hlt
    by_contra hge
    have hmono := offset_mono reads (show count ≤ earlier by omega)
    omega
  constructor
  · intro hspaced
    refine ⟨fun earlier hlt hpos => ?_, fun next hnext => ?_, fun more index hindex hlt => ?_,
      fun more index hindex hle hlt => ?_⟩
    · obtain ⟨previous, rfl⟩ := Nat.exists_eq_add_of_le' hpos
      have hhead := hspaced.heads previous 0 (by simp) (by simp)
        (by simpa using hcount.partial_ _ hlt)
      simpa using hhead
    · cases messages with
      | nil => simp at hnext
      | cons following messages =>
          obtain rfl : following = next := by simpa using hnext
          obtain ⟨previous, hprevious⟩ := Nat.exists_eq_add_of_le' hcount.pos
          have hlast := hspaced.apart previous 0 (by simp)
            (by simpa using hcount.partial_ previous (by omega))
          simp only [← hprevious, sizes_cons, offset_cons_succ, offset_zero] at hlast
          omega
    · have hnext := hspaced.apart (count + more) (index + 1) (by simpa using hindex)
        (by simp only [hcount.offset_drop, sizes_cons, offset_cons_succ]; omega)
      simp only [Nat.add_assoc count, hcount.offset_drop, sizes_cons, offset_cons_succ] at hnext
      omega
    · have hnext := hspaced.heads (count + more) (index + 1) (by simpa using hindex)
        (by simp only [hcount.offset_drop, sizes_cons, offset_cons_succ]; omega)
        (by
          simp only [Nat.add_assoc count, hcount.offset_drop, sizes_cons, offset_cons_succ]
          omega)
      simp only [Nat.add_assoc count, hcount.offset_drop, sizes_cons, offset_cons_succ,
        Nat.add_sub_add_left] at hnext
      exact hnext
  · rintro ⟨harrive, hnext, hrest⟩
    refine ⟨fun earlier index hindex hlt => ?_, fun earlier index hindex hle hlt => ?_⟩
    · cases messages with
      | nil => simp at hindex
      | cons next messages =>
          have hshort := hnext next (by simp)
          rcases Nat.lt_or_ge earlier count with hearly | hlate
          · -- the read belongs to the first call, which stops short of the next request
            have hmono := offset_mono reads (show earlier + 1 ≤ count from hearly)
            simp only [sizes_cons, offset_cons_succ]
            omega
          · obtain ⟨more, rfl⟩ := Nat.exists_eq_add_of_le hlate
            rw [hcount.offset_drop, sizes_cons, offset_cons_succ] at hlt
            rw [Nat.add_assoc, hcount.offset_drop, sizes_cons, offset_cons_succ]
            cases index with
            | zero =>
                rw [offset_zero] at hlt
                omega
            | succ index =>
                have hlater : _ < offset (sizes (next :: messages)) (index + 1 + 1) :=
                  hrest.apart more index (by simpa using hindex) (by omega)
                omega
    · cases index with
      | zero =>
          simp only [sizes_cons, offset_cons_succ, offset_zero, Nat.add_zero] at hlt
          simpa using harrive (earlier + 1) (hbefore _ hlt) (Nat.succ_pos _)
      | succ index =>
          rw [sizes_cons, offset_cons_succ] at hle
          have hlate : count ≤ earlier := by
            by_contra hearly
            have hshort := hcount.partial_ earlier (by omega)
            omega
          obtain ⟨more, rfl⟩ := Nat.exists_eq_add_of_le hlate
          rw [hcount.offset_drop] at hle
          simp only [Nat.add_assoc count, hcount.offset_drop, sizes_cons, offset_cons_succ] at hlt
          simp only [Nat.add_assoc count, hcount.offset_drop, sizes_cons, offset_cons_succ,
            Nat.add_sub_add_left]
          exact hrest.heads more index (by simpa using hindex) (by omega) (by omega)

/-- Room for the reads of the first call, and for those of the rest. -/
theorem Fits.cons {message : Message config} {messages : List (Message config)} {held : ℕ}
    {reads : List ℕ} (hfits : Fits capacity (message :: messages) held reads) :
    (∀ count, held + offset reads count < message.wire.length →
      held + offset reads (count + 1) ≤ capacity) ∧
    ∀ {count}, Completes message held reads count →
      Fits capacity messages (held + offset reads count - message.wire.length)
        (reads.drop count) := by
  refine ⟨fun count hlt => ?_, fun hcount more index hindex hle hlt => ?_⟩
  · simpa using hfits count 0 (by simp) (by simp) (by simpa using hlt)
  · rename_i count
    have hroom := hfits (count + more) (index + 1) (by simpa using hindex)
      (by rw [hcount.offset_drop, sizes_cons, offset_cons_succ]; omega)
      (by rw [hcount.offset_drop, sizes_cons, offset_cons_succ]; omega)
    rw [Nat.add_assoc count, hcount.offset_drop, sizes_cons, offset_cons_succ] at hroom
    omega

/-- The first request is not in the buffer when delivery begins. -/
theorem Delivered.short {message : Message config} {messages : List (Message config)}
    {conn : Conn capacity} {rest more : Bytes}
    (hstream : conn.buffer.content ++ rest = message.wire ++ more)
    (hdelivered : Delivered (message :: messages) conn) :
    conn.buffer.len < message.wire.length := by
  obtain ⟨conn', hcall, ⟨used, hused, hprompt⟩, -⟩ := hdelivered
  by_contra hlong
  obtain ⟨kept, hkept⟩ := Message.content_of_long hstream (Nat.le_of_not_lt hlong)
  have hheld : message.wire <+: conn.buffer.content := ⟨kept, hkept.symm⟩
  cases used with
  | nil => exact recvRequestFast_receives hheld hcall hused.symm
  | cons read used =>
      exact hprompt 0 (Nat.succ_pos _) (by simpa using hheld)

/-- From any buffered prefix of the next request on: delivery is spacing. -/
theorem delivered_iff_spaced {messages : List (Message config)} {segments : List Bytes}
    (after : List RecvResult) {conn : Conn capacity}
    (hrecvs : conn.socket.recvs = segments.map .data ++ after)
    (hstream : conn.buffer.content ++ segments.flatten = messages.flatMap (·.wire))
    (hnonempty : ∀ read ∈ segments, read ≠ [])
    (hfits : Fits capacity messages conn.buffer.len (segments.map List.length))
    (hwritable : conn.socket.writable) :
    Delivered messages conn ↔
      (∀ next ∈ messages.head?, conn.buffer.len < next.wire.length) ∧
        Spaced messages conn.buffer.len (segments.map List.length) := by
  induction messages generalizing segments conn with
  | nil =>
      refine ⟨fun _ => ⟨by simp, ?_, ?_⟩, fun _ => trivial⟩
      · exact fun _ _ hindex => absurd hindex (Nat.not_lt_zero _)
      · exact fun _ _ hindex => absurd hindex (Nat.not_lt_zero _)
  | cons message messages ih =>
      rw [List.flatMap_cons] at hstream
      by_cases hshort : conn.buffer.len < message.wire.length
      · obtain ⟨hroom, hfitsRest⟩ := hfits.cons
        obtain ⟨count, hcount, hgood, hbad⟩ :=
          recvLoop_message after {} hstream hshort hnonempty hroom hwritable
        rw [← hrecvs] at hgood hbad
        rw [spaced_cons hcount]
        by_cases harrive : HeadsArrive message conn.buffer.len (segments.map List.length) count
        · obtain ⟨conn', hcall, hcontent, hrecvs', hwritable'⟩ := hgood harrive
          have hlen : conn'.buffer.len = conn.buffer.len +
              offset (segments.map List.length) count - message.wire.length := by
            rw [← RecvBuffer.length_content, hcontent, List.length_drop, List.length_append,
              RecvBuffer.length_content, length_flatten_take]
          have hstream' : conn'.buffer.content ++ (segments.drop count).flatten =
              messages.flatMap (·.wire) := by
            have hsplit : conn.buffer.content ++ (segments.take count).flatten ++
                (segments.drop count).flatten = message.wire ++ messages.flatMap (·.wire) := by
              rw [List.append_assoc, ← List.flatten_append, List.take_append_drop, hstream]
            have hdrop := congrArg (List.drop message.wire.length) hsplit
            rw [List.drop_left, List.drop_append_of_le_length, ← hcontent] at hdrop
            · exact hdrop
            · rw [List.length_append, RecvBuffer.length_content, length_flatten_take]
              exact hcount.complete
          have hfits' : Fits capacity messages conn'.buffer.len
              ((segments.drop count).map List.length) := by
            rw [hlen, List.map_drop]
            exact hfitsRest hcount
          have hrest := ih hrecvs' hstream'
            (fun read hmem => hnonempty read (List.mem_of_mem_drop hmem)) hfits' hwritable'
          rw [hlen, List.map_drop] at hrest
          have hprompt : Prompt message conn conn' := by
            refine ⟨segments.take count, ?_, fun earlier hlt hprefix => ?_⟩
            · rw [hrecvs, hrecvs', ← List.append_assoc, ← List.map_append, List.take_append_drop]
            · have hle : earlier < count := by
                rw [List.length_take] at hlt
                omega
              have hlength := hprefix.length_le
              rw [List.take_take, Nat.min_eq_left hle.le, List.length_append,
                RecvBuffer.length_content, length_flatten_take] at hlength
              have hpartial := hcount.partial_ earlier hle
              omega
          constructor
          · rintro ⟨conn'', hcall', -, hdelivered⟩
            obtain rfl : conn' = conn'' := (Prod.mk.inj (hcall.symm.trans hcall')).2
            exact ⟨by simpa using hshort, harrive, hrest.mp hdelivered⟩
          · rintro ⟨-, -, hspaced⟩
            exact ⟨conn', hcall, hprompt, hrest.mpr hspaced⟩
        · constructor
          · rintro ⟨conn', hcall, -⟩
            have hstopped := hbad harrive
            rw [recvRequestFast] at hcall
            rw [hcall] at hstopped
            cases hstopped
          · rintro ⟨-, harrive', -⟩
            exact absurd harrive' harrive
      · constructor
        · exact fun hdelivered => absurd (hdelivered.short hstream) hshort
        · exact fun hspaced => absurd (hspaced.1 message (by simp)) hshort

/-- A stream of accepted requests, cut into reads for which the buffer has room,
is delivered call by call and without needless receives exactly when no read
ends two requests and no read leaves an overlong incomplete head. -/
theorem delivered_iff {messages : List (Message config)} {segments : List Bytes}
    (after : List RecvResult) {conn : Conn capacity} (hfresh : conn.buffer.len = 0)
    (hrecvs : conn.socket.recvs = segments.map .data ++ after)
    (hstream : segments.flatten = messages.flatMap (·.wire))
    (hnonempty : ∀ read ∈ segments, read ≠ [])
    (hfits : Fits capacity messages 0 (segments.map List.length))
    (hwritable : conn.socket.writable) :
    Delivered messages conn ↔ Spaced messages 0 (segments.map List.length) := by
  have hcontent : conn.buffer.content = [] := by
    rw [← List.length_eq_zero_iff, RecvBuffer.length_content, hfresh]
  have hiff := delivered_iff_spaced after hrecvs (by rw [hcontent]; exact hstream)
    hnonempty (by rwa [hfresh]) hwritable
  rw [hfresh] at hiff
  rw [hiff, and_iff_right_iff_imp]
  intro _ next _
  have hlong := parseRequest_some.mp next.accepted
  obtain ⟨headerEnd, _, _, _, _, _, hle, _⟩ := hlong
  omega

/-- The shortest request for the root. -/
def getRoot : Message {} where
  wire := ascii "GET / HTTP/1.1\r\n\r\n"
  request := { method := ascii "GET", target := ascii "/", headers := [], httpVersion := .http11 }
  body := []
  accepted := by decide

/-- A connection before its first call, on a buffer of 64 bytes. -/
def freshConn (reads : List Bytes) : Conn 64 where
  buffer := { bytes := List.replicate 64 0, len := 0, length_bytes := by decide
              len_le := Nat.zero_le _ }
  socket := { recvs := reads.map .data }

/-- Two pipelined requests that arrive in a read each. -/
theorem delivered_iff_getRoot :
    Delivered [getRoot, getRoot] (freshConn [getRoot.wire, getRoot.wire]) ↔
      Spaced [getRoot, getRoot] 0 ([getRoot.wire, getRoot.wire].map List.length) := by
  refine delivered_iff [] rfl rfl rfl (by decide) ?_ rfl
  intro count index hindex hle hlt
  have hsize : getRoot.wire.length = 18 := by decide
  have hreads : ∀ count, offset [18, 18] count ≤ 36 := fun count => by
    rcases count with _ | _ | count <;> simp [offset]
  have htotal := hreads (count + 1)
  simp only [List.map_cons, List.map_nil, hsize]
  omega

/-- Two pipelined requests that arrive in one read: the second is in the buffer,
and yet its call waits for another receive. -/
theorem delivered_pipelined :
    ¬ ∀ (config : ServerConfig) (capacity : ℕ) (messages : List (Message config))
      (segments : List Bytes) (after : List RecvResult) (conn : Conn capacity),
      conn.buffer.len = 0 → conn.socket.recvs = segments.map .data ++ after →
      segments.flatten = messages.flatMap (·.wire) → (∀ read ∈ segments, read ≠ []) →
      Fits capacity messages 0 (segments.map List.length) → conn.socket.writable →
        Delivered messages conn := by
  intro hclaim
  have hfits : Fits 64 [getRoot, getRoot] 0
      ([getRoot.wire ++ getRoot.wire].map List.length) := by
    intro count index hindex hle hlt
    have hsize : (getRoot.wire ++ getRoot.wire).length = 36 := by decide
    have hreads : ∀ count, offset [36] count ≤ 36 := fun count => by
      rcases count with _ | count <;> simp [offset]
    have htotal := hreads (count + 1)
    simp only [List.map_cons, List.map_nil, hsize]
    omega
  have hrecvs : (freshConn [getRoot.wire ++ getRoot.wire]).socket.recvs =
      [getRoot.wire ++ getRoot.wire].map .data ++ [] := rfl
  have hdelivered := hclaim {} 64 [getRoot, getRoot] [getRoot.wire ++ getRoot.wire] []
    (freshConn [getRoot.wire ++ getRoot.wire]) rfl rfl (by decide) (by decide) hfits rfl
  have hspaced := (delivered_iff_spaced [] hrecvs
    (by decide) (by decide) hfits rfl).mp hdelivered
  exact absurd (hspaced.2.apart 0 0 (by decide) (by decide)) (by decide)

end Pounce.SyncWorker
