/-
# Requests for a WebSocket

A request asks for a WebSocket if one of its Connection headers lists `upgrade` and one of its
Upgrade headers is `websocket`. Both kinds of worker look for that in one pass over the headers, but
not in the same way.

The pass of a synchronous worker remembers what it has seen. The one of an asynchronous worker goes
by the last header of each name so far, and stops once both are there, so a later Connection header
may hide an earlier one. And either takes a Connection header for an upgrade if `upgrade` occurs in
it anywhere. `upgrade_iff` says for which requests neither matters.
-/

import Pounce.Worker
import Pounce.SyncWorker.Connection

namespace Pounce.Worker

open Pounce.Math Pounce.Math.Bytes
open Pounce.Asgi (fields fieldValues fieldValues_append fieldValues_nil fieldValues_of_ne)
open Pounce.SyncWorker (RequestScan scanHeader classifyRequest)

/-! ## What is asked for -/

/-- The list in a value has the token, in either case. -/
def ListsToken (token value : Bytes) : Prop :=
  ∃ part ∈ value.splitOn 44, lower (trimOws part) = token

/-- The value has an upgrade in it somewhere. -/
def mentionsUpgrade (value : Bytes) : Bool := contains (ascii "upgrade") (lower value)

/-- The value is the one for a WebSocket. -/
def isWebsocketValue (value : Bytes) : Bool := lower value = ascii "websocket"

/-- The headers ask for a WebSocket. -/
def AsksForWebsocket (headers : List Header) : Prop :=
  (∃ value ∈ fieldValues (ascii "connection") headers, ListsToken (ascii "upgrade") value) ∧
    ∃ value ∈ fieldValues (ascii "upgrade") headers, isWebsocketValue value = true

/-- The last Connection and the last Upgrade header are those of an upgrade. -/
def lastAsk (headers : List Header) : Bool :=
  (fieldValues (ascii "connection") headers).getLast?.any mentionsUpgrade &&
    (fieldValues (ascii "upgrade") headers).getLast?.any isWebsocketValue

/-- What is between two commas occurs in the text. -/
theorem infix_of_mem_splitOn {text part : Bytes} (hmem : part ∈ text.splitOn 44) :
    part <:+: text := by
  have hjoin : ∀ parts : List Bytes, part ∈ parts → part <:+: [44].intercalate parts := by
    intro parts
    induction parts with
    | nil => nofun
    | cons first parts ih =>
        intro hmem
        cases parts with
        | nil =>
            obtain rfl := List.mem_singleton.mp hmem
            rw [List.intercalate, List.intersperse_singleton, List.flatten_singleton]
        | cons second rest =>
            have hcons : [44].intercalate (first :: second :: rest) =
                first ++ ([44] ++ [44].intercalate (second :: rest)) := rfl
            rw [hcons]
            rcases List.mem_cons.mp hmem with rfl | hmem
            · exact (List.prefix_append _ _).isInfix
            · have hrest : [44].intercalate (second :: rest) <:+
                  first ++ ([44] ++ [44].intercalate (second :: rest)) :=
                (List.suffix_append _ _).trans (List.suffix_append _ _)
              exact (ih hmem).trans hrest.isInfix
  have hinfix := hjoin _ hmem
  rwa [List.intercalate_splitOn] at hinfix

/-- A value that lists the token has it in it. -/
theorem mentionsUpgrade_of_listsToken {value : Bytes}
    (hlists : ListsToken (ascii "upgrade") value) : mentionsUpgrade value = true := by
  obtain ⟨part, hmem, htoken⟩ := hlists
  obtain ⟨before, after, hpart, -⟩ := stripWhile_split isOws part
  have htrimmed : trimOws part <:+: part := ⟨before, after, by
    rw [List.append_assoc]
    exact hpart.symm⟩
  rw [mentionsUpgrade, contains_iff, ← htoken]
  exact (htrimmed.trans (infix_of_mem_splitOn hmem)).map lowerByte

/-! ## The passes -/

variable (headers : List Header)

/-- The values of one more header of the name. -/
theorem fieldValues_concat (name : Bytes) (header : Header) :
    fieldValues name (headers ++ [header]) =
      fieldValues name headers ++ if lower header.1 = name then [header.2] else [] := by
  rw [fieldValues_append]
  congr 1
  split
  case isTrue hname => simp [fieldValues, fields, hname]
  case isFalse hname => exact fieldValues_of_ne header hname

/-- The pass of a synchronous worker sees what any header says. -/
theorem foldl_scanHeader :
    let scan := (headers.map fun header => (lower header.1, header.2)).foldl scanHeader {}
    scan.upgradeConn = (fieldValues (ascii "connection") headers).any mentionsUpgrade ∧
      scan.wsUpgrade = (fieldValues (ascii "upgrade") headers).any isWebsocketValue := by
  induction headers using List.reverseRecOn with
  | nil => exact ⟨rfl, rfl⟩
  | append_singleton headers header ih =>
      obtain ⟨hconn, hws⟩ := ih
      simp only [List.map_append, List.map_cons, List.map_nil, List.foldl_append, List.foldl_cons,
        List.foldl_nil, fieldValues_concat, List.any_append]
      rw [← hconn, ← hws]
      generalize (headers.map fun header => (lower header.1, header.2)).foldl scanHeader {} = scan
      rw [scanHeader]
      by_cases hconnection : lower header.1 = ascii "connection"
      · have hne : ¬ (ascii "connection" : Bytes) = ascii "upgrade" := by decide
        rw [if_pos hconnection, if_pos hconnection, hconnection, if_neg hne]
        simp [mentionsUpgrade]
      · rw [if_neg hconnection, if_neg hconnection]
        by_cases hupgrade : lower header.1 = ascii "upgrade"
        · by_cases hvalue : lower header.2 = ascii "websocket"
          · rw [if_pos ⟨hupgrade, hvalue⟩, if_pos hupgrade]
            simp [isWebsocketValue, hvalue]
          · have hother : ¬ (ascii "upgrade" : Bytes) = ascii "accept-encoding" ∧
                ¬ (ascii "upgrade" : Bytes) = ascii "available-dictionary" := by decide
            rw [if_neg fun hboth => hvalue hboth.2, hupgrade, if_neg hother.1, if_neg hother.2,
              if_pos rfl]
            simp [isWebsocketValue, hvalue]
        · rw [if_neg fun hboth => hupgrade hboth.1, if_neg hupgrade]
          (repeat' split) <;> simp

/-- A synchronous worker takes a request for one that asks for a WebSocket if some Connection header
has an upgrade in it and some Upgrade header is the one for a WebSocket. -/
theorem classifyRequest_isWebsocket (request : RequestReceived) :
    (classifyRequest { request with
        headers := request.headers.map fun header => (lower header.1, header.2) }).isWebsocket =
      ((fieldValues (ascii "connection") request.headers).any mentionsUpgrade &&
        (fieldValues (ascii "upgrade") request.headers).any isWebsocketValue) := by
  obtain ⟨hconn, hws⟩ := foldl_scanHeader request.headers
  rw [← hconn, ← hws]
  rfl

/-- The last value of one more header of the name. -/
theorem getLast?_fieldValues_concat (name : Bytes) (header : Header) :
    (fieldValues name (headers ++ [header])).getLast? =
      if lower header.1 = name then some header.2 else (fieldValues name headers).getLast? := by
  rw [fieldValues_concat]
  split <;> simp

/-- Some first headers end with an upgrade. -/
def AskedSoFar : Prop := ∃ first rest, headers = first ++ rest ∧ lastAsk first = true

/-- The pass of an asynchronous worker stops where the last headers so far are those of an upgrade.
Until then it knows what the last ones are. -/
theorem foldl_upgradeScan :
    (AskedSoFar headers ∧ headers.foldl upgradeScan (false, false) = (true, true)) ∨
      (¬ AskedSoFar headers ∧ headers.foldl upgradeScan (false, false) =
        ((fieldValues (ascii "connection") headers).getLast?.any mentionsUpgrade,
          (fieldValues (ascii "upgrade") headers).getLast?.any isWebsocketValue)) := by
  induction headers using List.reverseRecOn with
  | nil =>
      right
      refine ⟨?_, rfl⟩
      rintro ⟨first, rest, hnil, hask⟩
      rw [(List.append_eq_nil_iff.mp hnil.symm).1] at hask
      cases hask
  | append_singleton headers header ih =>
      rw [List.foldl_append, List.foldl_cons, List.foldl_nil]
      have hsplit : AskedSoFar (headers ++ [header]) ↔
          AskedSoFar headers ∨ lastAsk (headers ++ [header]) = true := by
        constructor
        · rintro ⟨first, rest, heq, hask⟩
          rcases List.eq_nil_or_concat rest with rfl | ⟨before, last, rfl⟩
          · right
            rw [heq, List.append_nil]
            exact hask
          · left
            rw [List.concat_eq_append, ← List.append_assoc] at heq
            exact ⟨first, before, (List.append_inj' heq rfl).1, hask⟩
        · rintro (⟨first, rest, rfl, hask⟩ | hask)
          · exact ⟨first, rest ++ [header], List.append_assoc .., hask⟩
          · exact ⟨_, [], (List.append_nil _).symm, hask⟩
      rcases ih with ⟨hasked, hscan⟩ | ⟨hnot, hscan⟩
      · left
        rw [hscan]
        exact ⟨hsplit.mpr (.inl hasked), rfl⟩
      · have hopen : lastAsk headers = false := by
          by_contra hask
          rw [Bool.not_eq_false] at hask
          exact hnot ⟨headers, [], (List.append_nil _).symm, hask⟩
        have hstep : upgradeScan
            ((fieldValues (ascii "connection") headers).getLast?.any mentionsUpgrade,
              (fieldValues (ascii "upgrade") headers).getLast?.any isWebsocketValue) header =
            ((fieldValues (ascii "connection") (headers ++ [header])).getLast?.any mentionsUpgrade,
              (fieldValues (ascii "upgrade") (headers ++ [header])).getLast?.any
                isWebsocketValue) := by
          rw [getLast?_fieldValues_concat, getLast?_fieldValues_concat]
          rw [lastAsk] at hopen
          rw [upgradeScan, hopen, if_neg Bool.false_ne_true]
          by_cases hconnection : lower header.1 = ascii "connection"
          · have hne : ¬ (ascii "connection" : Bytes) = ascii "upgrade" := by decide
            rw [if_pos hconnection, if_pos hconnection, hconnection, if_neg hne]
            rfl
          · rw [if_neg hconnection, if_neg hconnection]
            split <;> rfl
        rw [hscan, hstep]
        cases hask : lastAsk (headers ++ [header]) with
        | true =>
            left
            refine ⟨hsplit.mpr (.inr hask), ?_⟩
            rw [lastAsk, Bool.and_eq_true] at hask
            rw [hask.1, hask.2]
        | false =>
            right
            refine ⟨?_, rfl⟩
            rw [hsplit, hask]
            rintro (hasked | hnever)
            · exact hnot hasked
            · cases hnever

/-- An asynchronous worker takes a request for one that asks for a WebSocket if some first headers
end with an upgrade. -/
theorem isWebsocketUpgrade_iff (request : RequestReceived) :
    isWebsocketUpgrade request = true ↔ AskedSoFar request.headers := by
  rw [isWebsocketUpgrade]
  rcases foldl_upgradeScan request.headers with ⟨hasked, hscan⟩ | ⟨hnot, hscan⟩
  · rw [hscan]
    exact iff_of_true rfl hasked
  · rw [hscan]
    apply iff_of_false _ hnot
    intro hask
    exact hnot ⟨_, [], (List.append_nil _).symm, hask⟩

/-- Then the headers of an upgrade are among all of them. -/
theorem exists_of_askedSoFar {headers : List Header} (hasked : AskedSoFar headers) :
    (∃ value ∈ fieldValues (ascii "connection") headers, mentionsUpgrade value = true) ∧
      ∃ value ∈ fieldValues (ascii "upgrade") headers, isWebsocketValue value = true := by
  obtain ⟨first, rest, rfl, hask⟩ := hasked
  have hmem : ∀ {name : Bytes} {holds : Bytes → Bool},
      (fieldValues name first).getLast?.any holds = true →
        ∃ value ∈ fieldValues name (first ++ rest), holds value = true := by
    intro name holds hany
    obtain ⟨value, hvalue, hholds⟩ := (Option.any_eq_true ..).mp hany
    refine ⟨value, ?_, hholds⟩
    rw [fieldValues_append]
    exact List.mem_append_left _ (List.mem_of_getLast? hvalue)
  rw [lastAsk, Bool.and_eq_true] at hask
  exact ⟨hmem hask.1, hmem hask.2⟩

/-! ## Agreement -/

/-- Both kinds of worker take a request for one that asks for a WebSocket if it does. -/
structure UpgradeAgrees (request : RequestReceived) : Prop where
  sync : (classifyRequest { request with
      headers := request.headers.map fun header => (lower header.1, header.2) }).isWebsocket =
    true ↔ AsksForWebsocket request.headers
  async : isWebsocketUpgrade request = true ↔ AsksForWebsocket request.headers

/-- They do exactly if a request with a Connection header that has an upgrade in it and an Upgrade
header for a WebSocket has a Connection header that lists the token, and some point before which
the last headers of both names are such. -/
theorem upgrade_iff (request : RequestReceived) :
    UpgradeAgrees request ↔
      ((∃ value ∈ fieldValues (ascii "connection") request.headers, mentionsUpgrade value = true) →
        (∃ value ∈ fieldValues (ascii "upgrade") request.headers, isWebsocketValue value = true) →
        (∃ value ∈ fieldValues (ascii "connection") request.headers,
            ListsToken (ascii "upgrade") value) ∧
          AskedSoFar request.headers) := by
  have hsync := classifyRequest_isWebsocket request
  constructor
  · intro hagrees hconnection hupgrade
    have hasks : AsksForWebsocket request.headers := by
      apply hagrees.sync.mp
      rw [hsync, Bool.and_eq_true, List.any_eq_true, List.any_eq_true]
      exact ⟨hconnection, hupgrade⟩
    exact ⟨hasks.1, (isWebsocketUpgrade_iff request).mp (hagrees.async.mpr hasks)⟩
  · intro hplain
    constructor
    case sync =>
      rw [hsync, Bool.and_eq_true, List.any_eq_true, List.any_eq_true]
      constructor
      · rintro ⟨hconnection, hupgrade⟩
        exact ⟨(hplain hconnection hupgrade).1, hupgrade⟩
      · rintro ⟨⟨value, hmem, hlists⟩, hupgrade⟩
        exact ⟨⟨value, hmem, mentionsUpgrade_of_listsToken hlists⟩, hupgrade⟩
    case async =>
      rw [isWebsocketUpgrade_iff]
      constructor
      · intro hasked
        obtain ⟨hconnection, hupgrade⟩ := exists_of_askedSoFar hasked
        exact ⟨(hplain hconnection hupgrade).1, hupgrade⟩
      · rintro ⟨⟨value, hmem, hlists⟩, hupgrade⟩
        exact (hplain ⟨value, hmem, mentionsUpgrade_of_listsToken hlists⟩ hupgrade).2

/-- A later Connection header hides an earlier one from an asynchronous worker. -/
theorem upgrade_keepAlive : ¬ ∀ request : RequestReceived, UpgradeAgrees request := by
  intro hall
  have hagrees := hall
    { method := ascii "GET", target := ascii "/", httpVersion := .http11
      headers := [(ascii "Connection", ascii "Upgrade"), (ascii "Connection", ascii "keep-alive"),
        (ascii "Upgrade", ascii "websocket")] }
  have hsame := hagrees.sync.trans hagrees.async.symm
  exact absurd (hsame.mp (by decide +kernel)) (by decide +kernel)

end Pounce.Worker
