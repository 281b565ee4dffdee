/-
# Built-in endpoints

`maybe_build_builtin_response` looks at the method and the decoded path of a request, before the
application is called. The decoded path is text: what is not ASCII in the raw path, and what is no
UTF-8 in its escapes, reads as replacement characters.

`pathText_of_isLiteral` and `length_pathText_lt` say when a raw path is its own text: a path with
an escape never is, since an escape takes more room than what it stands for.
-/

import Pounce.Asgi.Scope
import Pounce.Math.Utf8

namespace Pounce

open Pounce.Math Pounce.Math.Bytes Pounce.Asgi
open Pounce.Math.Message (hexValue)
open Pounce.SyncWorker (Builtin)

/-! ## Paths -/

/-- The `path` of a scope. A replacement character is its own UTF-8 and ends a sequence before it,
so it makes no difference that the parts between those are decoded each for itself. -/
def pathText (rawPath : Bytes) : List Char := Utf8.decode (decodePath rawPath)

/-- There is an escape in the text. -/
def HasEscape (text : Bytes) : Prop :=
  ∃ before high low after, text = before ++ 37 :: high :: low :: after ∧
    (hexValue high).isSome = true ∧ (hexValue low).isSome = true

/-- Nothing in a raw path is decoded. -/
def IsLiteral (rawPath : Bytes) : Prop := (∀ byte ∈ rawPath, byte < 128) ∧ ¬HasEscape rawPath

theorem HasEscape.cons {text : Bytes} (hescape : HasEscape text) (byte : UInt8) :
    HasEscape (byte :: text) := by
  obtain ⟨before, high, low, after, rfl, hhigh, hlow⟩ := hescape
  exact ⟨byte :: before, high, low, after, rfl, hhigh, hlow⟩

/-- An escape that is not at the beginning is behind it. -/
theorem HasEscape.of_cons {byte : UInt8} {text : Bytes} (hescape : HasEscape (byte :: text))
    (hnot : byte = 37 → ∀ high low after, text = high :: low :: after →
      (hexValue high).isSome = true → (hexValue low).isSome = true → False) : HasEscape text := by
  obtain ⟨before, high, low, after, htext, hhigh, hlow⟩ := hescape
  cases before with
  | nil =>
      obtain ⟨hpercent, hbehind⟩ := List.cons.inj htext
      exact (hnot hpercent high low after hbehind hhigh hlow).elim
  | cons first before => exact ⟨before, high, low, after, (List.cons.inj htext).2, hhigh, hlow⟩

/-- Without escapes nothing is unquoted. -/
theorem unquote_of_not_hasEscape {text : Bytes} (hnone : ¬HasEscape text) : unquote text = text := by
  induction text using unquote.induct with
  | case1 => rfl
  | case2 => rfl
  | case3 => rfl
  | case4 high low rest upper lower hlower hupper ih =>
      exact absurd ⟨[], high, low, rest, rfl, by simp [*], by simp [*]⟩ hnone
  | case5 high low rest hnot ih =>
      have hrest := ih fun hescape => hnone (hescape.cons 37)
      rw [unquote, if_pos rfl]
      split
      case h_1 upper lower hhigh hlow => exact absurd hlow (hnot upper lower hhigh)
      case h_2 => rw [hrest]
  | case6 byte high low rest hbyte ih =>
      rw [unquote, if_neg hbyte, ih fun hescape => hnone (hescape.cons byte)]

/-- An escape is longer than what it stands for. -/
theorem length_unquote_le (text : Bytes) :
    (unquote text).length ≤ text.length ∧
      (HasEscape text → (unquote text).length < text.length) := by
  have hshort : ∀ text : Bytes, HasEscape text → 3 ≤ text.length := by
    rintro text ⟨before, high, low, after, rfl, -⟩
    simp only [List.length_append, List.length_cons]
    omega
  induction text using unquote.induct with
  | case1 => exact ⟨Nat.le_refl _, fun hescape => absurd (hshort _ hescape) (by decide)⟩
  | case2 byte => exact ⟨Nat.le_refl _, fun hescape => absurd (hshort _ hescape) (by simp)⟩
  | case3 first second => exact ⟨Nat.le_refl _, fun hescape => absurd (hshort _ hescape) (by simp)⟩
  | case4 high low rest upper lower hlower hupper ih =>
      have hunquoted : unquote (37 :: high :: low :: rest) =
          UInt8.ofNat (16 * upper + lower) :: unquote rest := by
        simp [unquote, hlower, hupper]
      rw [hunquoted]
      simp only [List.length_cons]
      omega
  | case5 high low rest hnot ih =>
      have hunquoted : unquote (37 :: high :: low :: rest) = 37 :: unquote (high :: low :: rest) := by
        rw [unquote, if_pos rfl]
        split
        case h_1 upper lower hhigh hlow => exact absurd hlow (hnot upper lower hhigh)
        case h_2 => rfl
      have hlater : HasEscape (37 :: high :: low :: rest) → HasEscape (high :: low :: rest) := by
        intro hescape
        refine hescape.of_cons fun _ first second after hrest hfirst hsecond => ?_
        obtain ⟨rfl, htail⟩ := List.cons.inj hrest
        obtain ⟨rfl, -⟩ := List.cons.inj htail
        obtain ⟨upper, hupper⟩ := Option.isSome_iff_exists.mp hfirst
        obtain ⟨lower, hlower⟩ := Option.isSome_iff_exists.mp hsecond
        exact hnot upper lower hupper hlower
      rw [hunquoted, List.length_cons, List.length_cons]
      exact ⟨Nat.succ_le_succ ih.1, fun hescape => Nat.succ_lt_succ (ih.2 (hlater hescape))⟩
  | case6 byte high low rest hbyte ih =>
      have hlater : HasEscape (byte :: high :: low :: rest) → HasEscape (high :: low :: rest) :=
        fun hescape => hescape.of_cons fun hpercent => absurd hpercent hbyte
      rw [unquote, if_neg hbyte, List.length_cons, List.length_cons]
      exact ⟨Nat.succ_le_succ ih.1, fun hescape => Nat.succ_lt_succ (ih.2 (hlater hescape))⟩

theorem utf8_replaceAscii {rawPath : Bytes} (hascii : ∀ byte ∈ rawPath, byte < 128) :
    utf8 (replaceAscii rawPath) = rawPath := by
  have hencode : ∀ byte ∈ rawPath, String.utf8EncodeChar (if byte < 128 then
      Char.ofNat byte.toNat else Char.ofNat 0xFFFD) = [byte] := by
    intro byte hmem
    have hlt := hascii byte hmem
    have hbyte : byte.toNat < 128 := UInt8.lt_iff_toNat_lt.mp hlt
    have hvalue : (Char.ofNat byte.toNat).val.toNat = byte.toNat := toNat_charOfByte byte
    rw [if_pos hlt, String.utf8EncodeChar]
    simp only [hvalue]
    rw [if_pos (by omega)]
    simp
  rw [utf8, replaceAscii, String.toList_ofList, List.flatMap_map, List.flatMap_congr hencode]
  exact List.flatMap_singleton' rawPath

/-- A literal path is its own text. -/
theorem pathText_of_isLiteral {rawPath : Bytes} (hliteral : IsLiteral rawPath) :
    pathText rawPath = rawPath.map fun byte => Char.ofNat byte.toNat := by
  rw [pathText, decodePath, utf8_replaceAscii hliteral.1, unquote_of_not_hasEscape hliteral.2,
    Utf8.decode_ascii hliteral.1]

/-- A path in ASCII that has an escape is longer than its text. -/
theorem length_pathText_lt {rawPath : Bytes} (hascii : ∀ byte ∈ rawPath, byte < 128)
    (hescape : HasEscape rawPath) : (pathText rawPath).length < rawPath.length := by
  have hshorter := (length_unquote_le rawPath).2 hescape
  have hdecoded := Utf8.length_decode_le (unquote rawPath)
  rw [pathText, decodePath, utf8_replaceAscii hascii]
  omega

/-! ## Responses -/

/-- What the built-in endpoints report. -/
structure EndpointState where
  workerId : ℕ := 0
  activeConnections : ℕ := 0
  draining : Bool := false
  /-- The seconds since the start, rounded to one digit behind the point. -/
  uptime : Bytes := ascii "0.0"
  introspection : Bytes := []
  content : CompressionDictionary → Bytes := fun _ => []

/-- The payload of `build_health_response`. -/
def EndpointState.healthPayload (state : EndpointState) : Bytes :=
  ascii "\x7b\"status\": \"" ++ (if state.draining then ascii "draining" else ascii "ok") ++
    ascii "\", \"uptime_seconds\": " ++ state.uptime ++
    ascii ", \"worker_id\": " ++ ofNat state.workerId ++
    ascii ", \"active_connections\": " ++ ofNat state.activeConnections ++ ascii "\x7d"

/-- `build_health_response`. -/
def EndpointState.health (state : EndpointState) : Builtin :=
  .health state.draining state.healthPayload

/-- `DICTIONARY_PATH_PREFIX`. -/
def dictionaryPathPrefix : List Char := "/.well-known/compression-dictionary/".toList

/-- `build_dictionary_response`. -/
def buildDictionaryResponse (dictionaries : List CompressionDictionary) (state : EndpointState)
    (path : List Char) : Option Builtin :=
  if dictionaryPathPrefix.isPrefixOf path then
    let requestedHash := path.drop dictionaryPathPrefix.length
    if requestedHash = [] then some .dictionaryMissing
    else
      match dictionaries.find? fun dictionary =>
        (latin1 dictionary.sfHash).toList = requestedHash with
      | some dictionary => some (.dictionary (state.content dictionary))
      | none => some .dictionaryMissing
  else none

/-- `maybe_build_builtin_response`. -/
def maybeBuildBuiltinResponse (config : ServerConfig) (state : EndpointState) (method : Bytes)
    (path : List Char) : Option Builtin :=
  if method = ascii "GET" ∨ method = ascii "HEAD" then
    if config.healthCheckPath.map String.toList = some path then some state.health
    else if config.introspectionEnabled ∧ path = config.introspectionPath.toList then
      some (.introspection state.introspection)
    else if config.compressionDictionaries ≠ [] then
      buildDictionaryResponse config.compressionDictionaries state path
    else none
  else none

end Pounce
