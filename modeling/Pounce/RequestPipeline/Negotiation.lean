/-
# What a client accepts

A client lists the codings it accepts, each with a weight; a weight that is not positive declines
the coding. A `*` stands for the codings that are not listed, so a listed coding is covered by it
only if it is not declined.

`_parse_accept_encoding` drops the codings that are declined, and to the `*` they then look as if
they were not listed. It also looks for the weight under a lower-case q, though names of parameters
have no case. And a dictionary is used whenever "zstd" occurs in the value, whether or not the client
accepts `dcz`. `negotiation_iff` says that nothing else does harm.
-/

import Pounce.RequestPipeline

namespace Pounce

open Pounce.Math Pounce.Math.Bytes

/-! ## Listings -/

/-- A coding as it is listed: its name in lower case, and its parameters. -/
abbrev Listing := Bytes × List Bytes

/-- The listing in one part of the value, unless that is blank. -/
def listing? (part : Bytes) : Option Listing :=
  let part := stripWhile isTextSpace part
  if part = [] then none
  else
    let segments := part.splitOn 59
    some (lower (stripWhile isTextSpace (segments.headD [])), segments.tail)

/-- The listings in a value of Accept-Encoding. -/
def listings (acceptEncoding : Bytes) : List Listing := (acceptEncoding.splitOn 44).filterMap listing?

/-- What the parser takes for a weight. -/
def lowerWeight (segment : Bytes) : Bool := (ascii "q=").isPrefixOf segment

/-- A weight, its name in either case. -/
def anyWeight (segment : Bytes) : Bool := lowerWeight (lower segment)

/-- The weight of a listing is positive, or there is none. A malformed one is not positive; of
several the last one counts. -/
def isPositive (isWeight : Bytes → Bool) (listing : Listing) : Bool :=
  listing.2.foldl (fun positive segment =>
    let segment := stripWhile isTextSpace segment
    if isWeight segment then (floatIsPositive (segment.drop 2)).getD false else positive) true

section Value

variable (acceptEncoding : Bytes)

/-- Some listing of the name has a positive weight. -/
def Lists (isWeight : Bytes → Bool) (name : Bytes) : Prop :=
  ∃ listing ∈ listings acceptEncoding, listing.1 = name ∧ isPositive isWeight listing = true

/-- Some listing of the name has a weight that is not. -/
def Declines (name : Bytes) : Prop :=
  ∃ listing ∈ listings acceptEncoding, listing.1 = name ∧ isPositive anyWeight listing = false

/-- The client accepts the coding: it is listed with a positive weight, or it is covered by `*`. -/
def Accepts (name : Bytes) : Prop :=
  Lists acceptEncoding anyWeight name ∨
    Lists acceptEncoding anyWeight (ascii "*") ∧ ¬ Declines acceptEncoding name

/-- Some listing of the name is declined under an upper-case Q only, which the parser does not
see. -/
def DeclinesUnseen (name : Bytes) : Prop :=
  ∃ listing ∈ listings acceptEncoding, listing.1 = name ∧
    isPositive anyWeight listing = false ∧ isPositive lowerWeight listing = true

/-- The values that are misread: a coding without a listing of positive weight is declined under an
upper-case Q, or declined beside a `*`, or there is only a `*` that is declined under an upper-case
Q itself. -/
inductive Misread (name : Bytes) : Prop
  /-- As in `gzip;Q=0`. -/
  | unseen (hname : ¬ Lists acceptEncoding anyWeight name)
      (hunseen : DeclinesUnseen acceptEncoding name)
  /-- As in `gzip;q=0, *`. -/
  | covered (hname : ¬ Lists acceptEncoding anyWeight name)
      (hdeclined : Declines acceptEncoding name)
      (hstar : Lists acceptEncoding lowerWeight (ascii "*"))
  /-- As in `*;Q=0`. -/
  | star (hname : ¬ Lists acceptEncoding anyWeight name)
      (hstar : ¬ Lists acceptEncoding anyWeight (ascii "*"))
      (hunseen : DeclinesUnseen acceptEncoding (ascii "*"))

instance (isWeight : Bytes → Bool) (name : Bytes) :
    Decidable (Lists acceptEncoding isWeight name) :=
  inferInstanceAs (Decidable (∃ listing ∈ listings acceptEncoding, _ ∧ _))

instance (name : Bytes) : Decidable (Declines acceptEncoding name) :=
  inferInstanceAs (Decidable (∃ listing ∈ listings acceptEncoding, _ ∧ _))

instance (name : Bytes) : Decidable (Accepts acceptEncoding name) :=
  inferInstanceAs (Decidable (_ ∨ _))

variable {acceptEncoding} in
/-- What the parser takes for a positive weight is one, or it does not see what declines. -/
theorem lists_or_declinesUnseen {name : Bytes} (hlists : Lists acceptEncoding lowerWeight name) :
    Lists acceptEncoding anyWeight name ∨ DeclinesUnseen acceptEncoding name := by
  obtain ⟨listing, hlisting, hname, hlower⟩ := hlists
  cases hany : isPositive anyWeight listing with
  | true => exact .inl ⟨listing, hlisting, hname, hany⟩
  | false => exact .inr ⟨listing, hlisting, hname, hany, hlower⟩

variable {acceptEncoding} in
theorem DeclinesUnseen.lists {name : Bytes} (hunseen : DeclinesUnseen acceptEncoding name) :
    Lists acceptEncoding lowerWeight name := by
  obtain ⟨listing, hlisting, hname, -, hlower⟩ := hunseen
  exact ⟨listing, hlisting, hname, hlower⟩

variable {acceptEncoding} in
theorem DeclinesUnseen.declines {name : Bytes} (hunseen : DeclinesUnseen acceptEncoding name) :
    Declines acceptEncoding name := by
  obtain ⟨listing, hlisting, hname, hany, -⟩ := hunseen
  exact ⟨listing, hlisting, hname, hany⟩

/-- To the parser a coding is acceptable that is not, exactly in the values that are misread. -/
theorem misread_iff (name : Bytes) :
    Misread acceptEncoding name ↔
      (Lists acceptEncoding lowerWeight name ∨ Lists acceptEncoding lowerWeight (ascii "*")) ∧
        ¬ Accepts acceptEncoding name := by
  constructor
  · rintro (⟨hname, hunseen⟩ | ⟨hname, hdeclined, hstar⟩ | ⟨hname, hstar, hunseen⟩)
    · refine ⟨.inl hunseen.lists, ?_⟩
      rintro (hlists | ⟨-, hkept⟩)
      · exact hname hlists
      · exact hkept hunseen.declines
    · refine ⟨.inr hstar, ?_⟩
      rintro (hlists | ⟨-, hkept⟩)
      · exact hname hlists
      · exact hkept hdeclined
    · refine ⟨.inr hunseen.lists, ?_⟩
      rintro (hlists | ⟨hlisted, -⟩)
      · exact hname hlists
      · exact hstar hlisted
  · rintro ⟨hparsed, hnot⟩
    have hname : ¬ Lists acceptEncoding anyWeight name := fun hlists => hnot (.inl hlists)
    rcases hparsed with hlower | hlower
    · exact .unseen hname ((lists_or_declinesUnseen hlower).resolve_left hname)
    · rcases lists_or_declinesUnseen hlower with hstar | hunseen
      · refine .covered hname ?_ hlower
        by_contra hkept
        exact hnot (.inr ⟨hstar, hkept⟩)
      · by_cases hstar : Lists acceptEncoding anyWeight (ascii "*")
        · refine .covered hname ?_ hlower
          by_contra hkept
          exact hnot (.inr ⟨hstar, hkept⟩)
        · exact .star hname hstar hunseen

/-- One part of the value lists what is accepted by its weight. -/
theorem acceptedCoding_eq (part : Bytes) :
    acceptedCoding part =
      (listing? part).bind fun listing =>
        if isPositive lowerWeight listing then some listing.1 else none := by
  rw [acceptedCoding, listing?]
  dsimp only
  by_cases hblank : stripWhile isTextSpace part = []
  · rw [if_pos hblank, if_neg fun hboth => hboth.1 hblank]
    rfl
  · rw [if_neg hblank]
    simp only [ne_eq, hblank, not_false_eq_true, true_and, Option.bind_some]
    rfl

/-- The parser keeps the names that are listed with what it takes for a positive weight. -/
theorem mem_parseAcceptEncoding (name : Bytes) :
    name ∈ parseAcceptEncoding acceptEncoding ↔ Lists acceptEncoding lowerWeight name := by
  rw [parseAcceptEncoding, List.mem_filterMap, Lists]
  constructor
  · rintro ⟨part, hpart, haccepted⟩
    rw [acceptedCoding_eq, Option.bind_eq_some_iff] at haccepted
    obtain ⟨listing, hlisting, hname⟩ := haccepted
    split at hname
    case isTrue hpositive =>
      exact ⟨listing, List.mem_filterMap.mpr ⟨part, hpart, hlisting⟩, Option.some.inj hname,
        hpositive⟩
    case isFalse => cases hname
  · rintro ⟨listing, hlisting, rfl, hpositive⟩
    obtain ⟨part, hpart, hlisting⟩ := List.mem_filterMap.mp hlisting
    refine ⟨part, hpart, ?_⟩
    rw [acceptedCoding_eq, hlisting, Option.bind_some, if_pos hpositive]

/-- The codings that are found acceptable. -/
theorem mem_acceptedEncodings (hasZstd : Bool) (coding : ContentCoding) :
    coding ∈ acceptedEncodings hasZstd acceptEncoding ↔
      coding ∈ encodingPriority hasZstd ∧ (Lists acceptEncoding lowerWeight coding.token ∨
        Lists acceptEncoding lowerWeight (ascii "*")) := by
  rw [acceptedEncodings, List.mem_filter, Bool.or_eq_true, decide_eq_true_eq, decide_eq_true_eq,
    mem_parseAcceptEncoding, mem_parseAcceptEncoding]

/-- The best coding is the first one that is acceptable. -/
theorem negotiateEncoding_eq_head? (hasZstd : Bool) :
    negotiateEncoding hasZstd acceptEncoding =
      (acceptedEncodings hasZstd acceptEncoding).head? := by
  rw [negotiateEncoding, acceptedEncodings, List.head?_filter]

/-! ## Negotiating -/

variable (encoders : Encoders) (config : ServerConfig) (available : Option Bytes)
  (requestTarget : Bytes)

/-- The dictionary that is used: compression is on, the value has a "zstd" somewhere, and the
client has the dictionary. -/
def usedDictionary : Option CompressionDictionary :=
  if config.compression = true ∧ contains (ascii "zstd") acceptEncoding = true then
    (available.filter (· ≠ [])).bind fun hash =>
      negotiateDictionary hash config.compressionDictionaries requestTarget
  else none

/-- The client has a dictionary of the server for the target, and the value has a "zstd" somewhere,
with compression on. -/
def HasDictionary : Prop :=
  config.compression = true ∧ ascii "zstd" <:+: acceptEncoding ∧
    ∃ hash ∈ available, stripWhile isTextSpace hash ≠ [] ∧
      ∃ dictionary ∈ config.compressionDictionaries,
        dictionary.sfHash = stripWhile isTextSpace hash ∧
          (dictionary.urlMatch = [] ∨ requestTarget = [] ∨
            matchPattern dictionary.urlMatch requestTarget = true)

/-- Then a dictionary is used. -/
theorem usedDictionary_isSome_iff :
    (usedDictionary acceptEncoding config available requestTarget).isSome = true ↔
      HasDictionary acceptEncoding config available requestTarget := by
  rw [usedDictionary, HasDictionary, ← contains_iff]
  split
  case isFalse hnot =>
    exact iff_of_false Bool.false_ne_true fun hhas => hnot ⟨hhas.1, hhas.2.1⟩
  case isTrue hboth =>
    rw [and_iff_right hboth.1, and_iff_right hboth.2]
    cases available with
    | none =>
        refine iff_of_false Bool.false_ne_true ?_
        rintro ⟨hash, hnot, -⟩
        cases hnot
    | some hash =>
        have hblank : stripWhile isTextSpace [] = [] := rfl
        simp only [Option.mem_def, Option.some.injEq, exists_eq_left', Option.filter_some]
        by_cases hempty : hash = []
        · simp [hempty, hblank]
        · simp only [hempty, ne_eq, not_false_eq_true, decide_true, if_true, Option.bind_some,
            negotiateDictionary]
          split
          case isTrue hstripped => simp [hstripped]
          case isFalse hstripped =>
            rw [List.find?_isSome, and_iff_right hstripped]
            simp only [decide_eq_true_eq]

/-- The server has the coding. -/
def Supports (coding : ContentCoding) : Prop :=
  coding = .dcz ∨ coding ∈ encodingPriority encoders.hasZstd

/-- What is negotiated is accepted by the client. -/
structure Negotiates : Prop where
  elements : ∀ coding ∈ acceptedEncodings encoders.hasZstd acceptEncoding,
    Accepts acceptEncoding coding.token
  selected : ∀ compressor, (negotiateCompressorFromMeta encoders config (some acceptEncoding)
    available requestTarget).1 = some compressor →
      ∃ coding, Supports encoders coding ∧ compressor.encoding = coding.token ∧
        Accepts acceptEncoding coding.token
  nothing : (∀ coding, Supports encoders coding → ¬ Accepts acceptEncoding coding.token) →
    (negotiateCompressorFromMeta encoders config (some acceptEncoding) available
      requestTarget).1 = none
  head : negotiateEncoding encoders.hasZstd acceptEncoding =
    (acceptedEncodings encoders.hasZstd acceptEncoding).head?

/-- The encoder is the one of the dictionary, or the one of the best coding. -/
theorem negotiateCompressorFromMeta_fst :
    (negotiateCompressorFromMeta encoders config (some acceptEncoding) available
        requestTarget).1 =
      if config.compression = true ∧ acceptEncoding ≠ [] then
        match usedDictionary acceptEncoding config available requestTarget with
        | some dictionary => some (encoders.createCompressor .dcz (some dictionary))
        | none => (negotiateEncoding encoders.hasZstd acceptEncoding).map fun coding =>
            encoders.createCompressor coding none
      else none := by
  unfold negotiateCompressorFromMeta usedDictionary
  dsimp only
  cases hcompression : config.compression with
  | false => simp
  | true =>
      by_cases hempty : acceptEncoding = []
      · simp [hempty]
      · simp only [hempty, Bool.not_true, Bool.false_eq_true, or_self, if_false, ne_eq,
          not_false_eq_true, and_self, if_true, true_and]
        cases available with
        | none =>
            simp only [Option.filter_none, Option.bind_none, ite_self]
        | some hash =>
            by_cases hhash : hash = []
            · simp [hhash, Option.filter_some]
            · by_cases hzstd : contains (ascii "zstd") acceptEncoding = true
              · simp only [hhash, hzstd, not_false_eq_true, and_self, if_true, decide_true,
                  Option.filter_some, Option.bind_some]
                cases negotiateDictionary hash config.compressionDictionaries requestTarget <;> rfl
              · simp [hhash, hzstd]

/-- What is negotiated is accepted by the client exactly if the value is not misread for a coding of
the server, and lists `dcz` where a dictionary is at hand. -/
theorem negotiation_iff :
    Negotiates acceptEncoding encoders config available requestTarget ↔
      (∀ coding ∈ encodingPriority encoders.hasZstd, ¬ Misread acceptEncoding coding.token) ∧
        (HasDictionary acceptEncoding config available requestTarget →
          Accepts acceptEncoding ContentCoding.dcz.token) := by
  have hread : ∀ coding ∈ encodingPriority encoders.hasZstd,
      (¬ Misread acceptEncoding coding.token ↔
        (coding ∈ acceptedEncodings encoders.hasZstd acceptEncoding →
          Accepts acceptEncoding coding.token)) := by
    intro coding hcoding
    rw [mem_acceptedEncodings, and_iff_right hcoding, misread_iff, not_and_not_right]
  have hcompressor := negotiateCompressorFromMeta_fst acceptEncoding encoders config available
    requestTarget
  constructor
  · intro hnegotiates
    constructor
    · intro coding hcoding
      exact (hread coding hcoding).mpr (hnegotiates.elements coding)
    · intro hhas
      have hne : acceptEncoding ≠ [] := by
        rintro rfl
        exact absurd (List.eq_nil_of_infix_nil hhas.2.1) (by decide)
      obtain ⟨dictionary, hused⟩ := Option.isSome_iff_exists.mp
        ((usedDictionary_isSome_iff ..).mpr hhas)
      rw [if_pos ⟨hhas.1, hne⟩, hused] at hcompressor
      obtain ⟨coding, -, hencoding, haccepts⟩ := hnegotiates.selected _ hcompressor
      rw [encoders.encoding_createCompressor] at hencoding
      rwa [hencoding]
  · rintro ⟨hall, hdictionary⟩
    have helements : ∀ coding ∈ acceptedEncodings encoders.hasZstd acceptEncoding,
        Accepts acceptEncoding coding.token := by
      intro coding hmem
      have hcoding := ((mem_acceptedEncodings acceptEncoding _ coding).mp hmem).1
      exact (hread coding hcoding).mp (hall coding hcoding) hmem
    have hselected : ∀ compressor, (negotiateCompressorFromMeta encoders config
        (some acceptEncoding) available requestTarget).1 = some compressor →
          ∃ coding, Supports encoders coding ∧ compressor.encoding = coding.token ∧
            Accepts acceptEncoding coding.token := by
      intro compressor hsome
      rw [hcompressor] at hsome
      split at hsome
      case isFalse => cases hsome
      case isTrue =>
        cases hused : usedDictionary acceptEncoding config available requestTarget with
        | some dictionary =>
            rw [hused] at hsome
            obtain rfl := Option.some.inj hsome
            exact ⟨.dcz, .inl rfl, encoders.encoding_createCompressor .dcz (some dictionary),
              hdictionary ((usedDictionary_isSome_iff ..).mp (by rw [hused]; rfl))⟩
        | none =>
            rw [hused] at hsome
            obtain ⟨coding, hcoding, rfl⟩ := Option.map_eq_some_iff.mp hsome
            rw [negotiateEncoding_eq_head?] at hcoding
            have hmem := List.mem_of_head? hcoding
            exact ⟨coding, .inr ((mem_acceptedEncodings acceptEncoding _ coding).mp hmem).1,
              encoders.encoding_createCompressor coding none, helements coding hmem⟩
    refine ⟨helements, hselected, ?_, negotiateEncoding_eq_head? acceptEncoding _⟩
    intro hnone
    apply Option.eq_none_iff_forall_not_mem.mpr
    intro compressor hsome
    obtain ⟨coding, hsupports, -, haccepts⟩ := hselected compressor hsome
    exact hnone coding hsupports haccepts

end Value

/-- Encoders whose output is a single byte. -/
def byteEncoders : Encoders where
  createCompressor coding _ :=
    { encoding := coding.token
      output := fun _ => [0]
      oneShot_ne_nil := fun _ => List.cons_ne_nil _ _ }
  encoding_createCompressor _ _ := rfl

/-- A coding that is declined is taken to be covered by `*`. -/
theorem negotiation_declined :
    ¬ ∀ (acceptEncoding : Bytes) (encoders : Encoders) (config : ServerConfig)
      (available : Option Bytes) (requestTarget : Bytes),
        Negotiates acceptEncoding encoders config available requestTarget := by
  intro hall
  have haccepts := (hall (ascii "gzip;q=0, *") byteEncoders {} none []).elements .gzip
    (by decide +kernel)
  exact absurd haccepts (by decide +kernel)

end Pounce
