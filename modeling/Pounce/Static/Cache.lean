/-
# The stat cache of the static file handler

Where a mount asks for it, `StaticFiles` keeps what it has found for a URL path and an
Accept-Encoding, and looks for it again only if the file it has found is gone, or has another
time or size than before. Precompressed variants are not kept.

The model answers requests while the disk changes in between. With every answer it records the
one that would have been given without the cache.

The cache is never fuller than it may be. What it answers is what would be found as long as
no change of the disk is hidden from it: a look at the file itself does not tell that a variant
of the file has appeared, or that a link on the way leads elsewhere.
-/

import Pounce.Math.Bytes
import Pounce.Math.Dict
import Pounce.Math.Transition
import Pounce.Static.Resolve

namespace Pounce.Static

open Pounce.Math Pounce.Math.Bytes

/-! ## The cache -/

/-- What a handler is made with. -/
structure StaticConfig where
  /-- The mounts, as they have been prepared. -/
  mounts : List StaticMount
  /-- `accepted_encodings`, for the value of a header. -/
  acceptedEncodings : Bytes → List Coding

/-- What is kept: files by normal path and Accept-Encoding. -/
abbrev StatCache : Type := Dict (Text × Bytes) ResolvedFile

namespace StaticConfig

variable (config : StaticConfig)

/-- A mount asks for the cache. -/
def caches : Bool := config.mounts.any (·.statCache)

/-- `_stat_cache_max`. -/
def cacheMax : ℕ :=
  (config.mounts.filter (·.statCache)).foldl (fun most mount => max most mount.statCacheSize) 1

/-- The codings that are acceptable. Without a header there are none. -/
def codings (accept : Bytes) : List Coding :=
  if accept = [] then [] else config.acceptedEncodings accept

/-- A mount matches a normal path. -/
def mountMatches (path : Text) (mount : StaticMount) : Bool :=
  if mount.urlPath = ['/'] then path = ['/'] || path.head? = some '/'
  else path = mount.urlPath || (mount.urlPath ++ ['/']).isPrefixOf path

/-- `_mount_caches`. -/
def mountCaches (urlPath : Text) : Bool :=
  (config.mounts.find? (mountMatches (normpath urlPath))).any (·.statCache)

/-- `_resolve_file_uncached`, by the value of the header. -/
def resolveUncached (disk : Disk) (urlPath : Text) (accept : Bytes) : Option ResolvedFile :=
  disk.resolveFileUncached config.mounts urlPath (config.codings accept)

/-- Look for a file, and keep it if it is not a variant. -/
def resolveAndKeep (disk : Disk) (cache : StatCache) (urlPath : Text) (accept : Bytes) :
    StatCache × Option ResolvedFile :=
  match config.resolveUncached disk urlPath accept with
  | none => (cache, none)
  | some file =>
      if file.coding = none ∧ config.mountCaches urlPath then
        let key := (normpath urlPath, accept)
        (((cache.set key file).moveToEnd key).shrink config.cacheMax, some file)
      else (cache, some file)

/-- The file is still as it was. -/
def isFresh (disk : Disk) (file : ResolvedFile) : Bool :=
  ((disk.stat file.path).bind statOf).any fun stat =>
    stat.mtime = file.mtime && stat.size = file.size

/-- `_resolve_file`. -/
def resolveFile (disk : Disk) (cache : StatCache) (urlPath : Text) (accept : Bytes) :
    StatCache × Option ResolvedFile :=
  if config.caches then
    let key := (normpath urlPath, accept)
    match cache.get key with
    | none => config.resolveAndKeep disk cache urlPath accept
    | some file =>
        if isFresh disk file then (cache.moveToEnd key, some file)
        else config.resolveAndKeep disk (cache.pop key) urlPath accept
  else (cache, config.resolveUncached disk urlPath accept)

end StaticConfig

/-! ## The machine -/

/-- What was answered to a request, and what would have been without the cache. -/
structure Answer where
  given : Option ResolvedFile
  plain : Option ResolvedFile
  deriving DecidableEq, Repr

/-- The disk, the cache, and the answers so far. -/
structure StaticFiles where
  disk : Disk
  cache : StatCache := {}
  answers : List Answer := []

/-- What happens to a handler. -/
inductive StaticAction where
  /-- The disk changes in any way. -/
  | change (disk : Disk)
  | request (urlPath : Text) (accept : Bytes)

namespace StaticFiles

variable (config : StaticConfig) (files : StaticFiles)

/-- Answer a request. -/
def answer (urlPath : Text) (accept : Bytes) : StaticFiles :=
  let resolved := config.resolveFile files.disk files.cache urlPath accept
  { files with
    cache := resolved.1
    answers := files.answers ++
      [⟨resolved.2, config.resolveUncached files.disk urlPath accept⟩] }

/-- One step. -/
def step : StaticAction → Option StaticFiles
  | .change disk => some { files with disk }
  | .request urlPath accept => some (files.answer config urlPath accept)

/-- The answers are those that would be given without the cache, and it is not too full. -/
structure Transparent : Prop where
  same : ∀ answer ∈ files.answers, answer.given = answer.plain
  bounded : files.cache.size ≤ config.cacheMax

/-- What a change of the disk may do to a file that is kept for a path and an Accept-Encoding, and
that a look at the file does not show. -/
inductive Hidden (disk : Disk) (path : Text) (accept : Bytes) (file : ResolvedFile) : Prop
  /-- The path leads elsewhere, or nowhere: a link on the way was changed, or a directory. -/
  | moved (hmoved : ∀ mount relative, mountOf config.mounts path = some (mount, relative) →
      ∀ entry, disk.locate mount relative ≠ some (file.path, entry))
  /-- In place of the file there is something that is no regular file. -/
  | replaced (hreplaced : ∀ stat, disk.stat file.path ≠ some (.regular stat))
  /-- There is an acceptable variant, not older than the file. -/
  | variant (mount : StaticMount) (relative : Text) (stat : FileStat) (coding : Coding)
      (hmount : mountOf config.mounts path = some (mount, relative))
      (hstat : disk.stat file.path = some (.regular stat)) (hprecompressed : mount.precompressed)
      (hcoding : coding ∈ config.codings accept)
      (hvariant : (disk.variant? mount file.path stat coding).isSome)

/-- A change of the disk is seen: to a file that is kept, nothing happens that is hidden while the
file itself is as it was. -/
def Seen : StaticAction → Prop
  | .change disk => ∀ key file, files.cache.get key = some file →
      StaticConfig.isFresh disk file → ¬ Hidden config disk key.1 key.2 file
  | .request .. => True

end StaticFiles

/-- A handler on a disk that changes. -/
def staticMachine (config : StaticConfig) : Machine StaticFiles StaticAction where
  init files := ∃ disk, files = { disk }
  step files action := files.step config action

/-! ## One step -/

/-- What is not a variant is the file that is found, with what it is found to have. -/
theorem identity_of_resolve {config : StaticConfig} {disk : Disk} {urlPath : Text} {accept : Bytes}
    {file : ResolvedFile} (hfile : config.resolveUncached disk urlPath accept = some file)
    (hcoding : file.coding = none) :
    file.etag = generateEtag ⟨file.mtime, file.size⟩ none := by
  obtain ⟨⟨mount, relative⟩, -, hfile⟩ := Option.bind_eq_some_iff.mp hfile
  obtain ⟨⟨path, found⟩, -, hchoose⟩ := Option.bind_eq_some_iff.mp hfile
  obtain ⟨original, stat, rfl, hstat, rfl⟩ := Disk.choose_eq_some hchoose
  rcases Disk.findPrecompressed_cases disk mount (config.codings accept) path
    original with hself | ⟨coding, hvariant, -⟩
  · rw [hself, if_pos rfl] at hstat
    obtain rfl := Option.some.inj hstat
    simp only [hself]
  · dsimp only at hcoding
    rw [hvariant] at hcoding
    cases hcoding

/-- A file that is still found, and is as it was, is found as it was. -/
theorem resolve_of_current {config : StaticConfig} {disk : Disk} {mount : StaticMount}
    {relative urlPath : Text} {accept : Bytes} {file : ResolvedFile} {original : FileStat}
    (hmount : mountOf config.mounts (normpath urlPath) = some (mount, relative))
    (hlocate : disk.locate mount relative = some (file.path, .regular original))
    (hplain : (disk.findPrecompressed mount file.path (config.codings accept) original).2 = none)
    (hfresh : StaticConfig.isFresh disk file) (hcoding : file.coding = none)
    (hetag : file.etag = generateEtag ⟨file.mtime, file.size⟩ none) :
    config.resolveUncached disk urlPath accept = some file := by
  have hself : disk.findPrecompressed mount file.path (config.codings accept) original =
      (file.path, none) := by
    rcases Disk.findPrecompressed_cases disk mount (config.codings accept) file.path
      original with hself | ⟨coding, hvariant, -⟩
    · exact hself
    · rw [hvariant] at hplain
      cases hplain
  have hstat : original = ⟨file.mtime, file.size⟩ := by
    rw [StaticConfig.isFresh, Disk.stat_of_locate hlocate] at hfresh
    obtain ⟨hmtime, hsize⟩ : original.mtime = file.mtime ∧ original.size = file.size := by
      simpa [statOf] using hfresh
    rw [← hmtime, ← hsize]
  rw [StaticConfig.resolveUncached, Disk.resolveFileUncached, hmount, Option.bind_some]
  show disk.resolveIn mount relative (config.codings accept) = some file
  subst hstat
  rw [Disk.resolveIn, hlocate, Option.bind_some, Disk.choose]
  simp only [regularStat, Option.bind_some, hself, if_true, Option.map_some]
  rw [← hetag, ← hcoding]

namespace StaticFiles

variable {config : StaticConfig} {files next : StaticFiles}

/-- A variant has a coding. -/
theorem coding_of_variant? {disk : Disk} {mount : StaticMount} {path : List (PathStep Text)}
    {original : FileStat} {coding : Coding} {found : List (PathStep Text) × Option Coding}
    (hvariant : disk.variant? mount path original coding = some found) :
    found.2 = some coding := by
  rw [Disk.variant?] at hvariant
  split at hvariant
  case isFalse => cases hvariant
  case isTrue =>
    split at hvariant
    case h_2 => cases hvariant
    case h_1 =>
      obtain ⟨-, hserved⟩ := Option.ite_none_right_eq_some.mp hvariant
      obtain rfl := Option.some.inj hserved
      rfl

/-- Where no acceptable variant is to be served, none is found. -/
theorem findPrecompressed_eq_none {disk : Disk} {mount : StaticMount}
    {path : List (PathStep Text)} {original : FileStat} {codings : List Coding} :
    (disk.findPrecompressed mount path codings original).2 = none ↔
      (mount.precompressed → ∀ coding ∈ codings, disk.variant? mount path original coding = none) := by
  rw [Disk.findPrecompressed]
  split
  case isFalse hnot => exact iff_of_true rfl fun hprecompressed => absurd hprecompressed hnot
  case isTrue hprecompressed =>
    rw [forall_prop_of_true hprecompressed, ← List.findSome?_eq_none_iff]
    cases hfirst : codings.findSome? (disk.variant? mount path original) with
    | none => exact iff_of_true rfl rfl
    | some found =>
        obtain ⟨coding, -, hvariant⟩ := List.exists_of_findSome?_eq_some hfirst
        refine iff_of_false ?_ fun hnot => (by cases hnot)
        rw [Option.getD_some, coding_of_variant? hvariant]
        exact fun hnot => by cases hnot

/-- What is found, and is not a variant, is not hidden. -/
theorem not_hidden_of_resolve {disk : Disk} {path urlPath : Text} {accept : Bytes}
    {file : ResolvedFile} (hpath : path = normpath urlPath)
    (hfile : config.resolveUncached disk urlPath accept = some file) (hcoding : file.coding = none) :
    ¬ Hidden config disk path accept file := by
  subst hpath
  obtain ⟨⟨mount, relative⟩, hmount, hfile⟩ := Option.bind_eq_some_iff.mp hfile
  obtain ⟨⟨path, found⟩, hlocate, hchoose⟩ := Option.bind_eq_some_iff.mp hfile
  obtain ⟨original, stat, rfl, -, rfl⟩ := Disk.choose_eq_some hchoose
  dsimp only at hcoding hlocate
  have hself : disk.findPrecompressed mount path (config.codings accept) original =
      (path, none) := by
    rcases Disk.findPrecompressed_cases disk mount (config.codings accept) path original with
      hself | ⟨coding, hvariant, -⟩
    · exact hself
    · rw [hvariant] at hcoding
      cases hcoding
  have hstat := Disk.stat_of_locate hlocate
  rintro (hmoved | hreplaced | ⟨other, _, kept, coding, hother, hkept, hprecompressed, hmem,
    hvariant⟩)
  · apply hmoved mount relative hmount (.regular original)
    rw [hself]
    exact hlocate
  · apply hreplaced original
    rw [hself]
    exact hstat
  · obtain ⟨rfl, -⟩ := Prod.mk.inj (Option.some.inj (hmount.symm.trans hother))
    rw [hself] at hkept hvariant
    obtain rfl := TreeEntry.regular.inj (Option.some.inj (hstat.symm.trans hkept))
    have hnone := findPrecompressed_eq_none.mp (congrArg Prod.snd hself) hprecompressed coding hmem
    rw [hnone] at hvariant
    cases hvariant

/-- What is not hidden is still found. -/
theorem found_of_not_hidden {disk : Disk} {path : Text} {accept : Bytes} {file : ResolvedFile}
    (hseen : ¬ Hidden config disk path accept file) :
    ∃ mount relative original, mountOf config.mounts path = some (mount, relative) ∧
      disk.locate mount relative = some (file.path, .regular original) ∧
      (disk.findPrecompressed mount file.path (config.codings accept) original).2 = none := by
  have hthere : ∃ mount relative entry, mountOf config.mounts path = some (mount, relative) ∧
      disk.locate mount relative = some (file.path, entry) := by
    by_contra hnot
    push Not at hnot
    exact hseen (.moved fun mount relative hmount entry => hnot mount relative entry hmount)
  obtain ⟨mount, relative, entry, hmount, hlocate⟩ := hthere
  have hregular : ∃ stat, disk.stat file.path = some (.regular stat) := by
    by_contra hnot
    push Not at hnot
    exact hseen (.replaced hnot)
  obtain ⟨original, hstat⟩ := hregular
  obtain rfl := Option.some.inj ((Disk.stat_of_locate hlocate).symm.trans hstat)
  refine ⟨mount, relative, original, hmount, hlocate, findPrecompressed_eq_none.mpr ?_⟩
  intro hprecompressed coding hmem
  rw [← Option.not_isSome_iff_eq_none]
  exact fun hvariant =>
    hseen (.variant mount relative original coding hmount hstat hprecompressed hmem hvariant)

variable (config files) in
/-- What is kept are files as they were found, none of them a variant, and nothing is hidden of
them. -/
structure Kept : Prop where
  transparent : files.Transparent config
  plain : ∀ key file, files.cache.get key = some file →
    file.coding = none ∧ file.etag = generateEtag ⟨file.mtime, file.size⟩ none
  seen : ∀ key file, files.cache.get key = some file → StaticConfig.isFresh files.disk file →
    ¬ Hidden config files.disk key.1 key.2 file

/-- To look for a file and keep it answers what is found. -/
theorem resolveAndKeep_eq (disk : Disk) (cache : StatCache) (urlPath : Text) (accept : Bytes) :
    (config.resolveAndKeep disk cache urlPath accept).2 =
      config.resolveUncached disk urlPath accept := by
  rw [StaticConfig.resolveAndKeep]
  split
  case h_1 hnone => exact hnone.symm
  case h_2 file hfile =>
    split
    · exact hfile.symm
    · exact hfile.symm

/-- What is kept after that was kept before, or is what was found. -/
theorem get_resolveAndKeep {disk : Disk} {cache : StatCache} {urlPath : Text} {accept : Bytes}
    {key : Text × Bytes} {file : ResolvedFile}
    (hfile : (config.resolveAndKeep disk cache urlPath accept).1.get key = some file) :
    cache.get key = some file ∨ (key = (normpath urlPath, accept) ∧
      config.resolveUncached disk urlPath accept = some file ∧ file.coding = none) := by
  rw [StaticConfig.resolveAndKeep] at hfile
  split at hfile
  case h_1 => exact .inl hfile
  case h_2 found hfound =>
    split at hfile
    case isFalse => exact .inl hfile
    case isTrue hkeeps =>
      have hset := Dict.get_shrink hfile
      rw [Dict.get_moveToEnd] at hset
      by_cases hkey : key = (normpath urlPath, accept)
      case pos =>
        subst hkey
        rw [Dict.get_set_self] at hset
        obtain rfl := Option.some.inj hset
        exact .inr ⟨rfl, hfound, hkeeps.1⟩
      case neg =>
        rw [Dict.get_set_of_ne hkey] at hset
        exact .inl hset

/-- Nor is the cache too full after that. -/
theorem size_resolveAndKeep {disk : Disk} {cache : StatCache} {urlPath : Text} {accept : Bytes}
    (hcache : cache.size ≤ config.cacheMax) :
    (config.resolveAndKeep disk cache urlPath accept).1.size ≤ config.cacheMax := by
  rw [StaticConfig.resolveAndKeep]
  split
  case h_1 => exact hcache
  case h_2 =>
    split
    · exact Dict.size_shrink_le _
    · exact hcache

/-- An answer after which the same is kept, or what was found, keeps the cache sound. -/
theorem Kept.push (hkept : files.Kept config) {urlPath : Text} {accept : Bytes} {cache : StatCache}
    {given : Option ResolvedFile}
    (hgiven : given = config.resolveUncached files.disk urlPath accept)
    (hsize : cache.size ≤ config.cacheMax)
    (hget : ∀ key file, cache.get key = some file → files.cache.get key = some file ∨
      (key = (normpath urlPath, accept) ∧
        config.resolveUncached files.disk urlPath accept = some file ∧ file.coding = none)) :
    ({ files with
      cache
      answers := files.answers ++
        [⟨given, config.resolveUncached files.disk urlPath accept⟩] } : StaticFiles).Kept
      config := by
  constructor
  case transparent =>
    refine ⟨?_, hsize⟩
    intro answer hanswer
    rcases List.mem_append.mp hanswer with hanswer | hanswer
    · exact hkept.transparent.same answer hanswer
    · obtain rfl := List.mem_singleton.mp hanswer
      exact hgiven
  case plain =>
    intro key file hfile
    rcases hget key file hfile with hfile | ⟨-, hfound, hcoding⟩
    · exact hkept.plain key file hfile
    · exact ⟨hcoding, identity_of_resolve hfound hcoding⟩
  case seen =>
    intro key file hfile hfresh
    rcases hget key file hfile with hfile | ⟨rfl, hfound, hcoding⟩
    · exact hkept.seen key file hfile hfresh
    · exact not_hidden_of_resolve rfl hfound hcoding

/-- An answer keeps the cache sound. -/
theorem Kept.answer (hkept : files.Kept config) (urlPath : Text) (accept : Bytes) :
    (files.answer config urlPath accept).Kept config := by
  have hbounded := hkept.transparent.bounded
  rw [StaticFiles.answer, StaticConfig.resolveFile]
  split
  case isFalse => exact hkept.push rfl hbounded fun key file hfile => .inl hfile
  case isTrue =>
    dsimp only
    split
    case h_1 =>
      exact hkept.push (resolveAndKeep_eq ..) (size_resolveAndKeep hbounded)
        fun key file hfile => get_resolveAndKeep hfile
    case h_2 file hfile =>
      split
      case isTrue hfresh =>
        obtain ⟨hcoding, hetag⟩ := hkept.plain _ file hfile
        obtain ⟨mount, relative, original, hmount, hlocate, hplain⟩ :=
          found_of_not_hidden (hkept.seen _ file hfile hfresh)
        apply hkept.push
        · exact (resolve_of_current hmount hlocate hplain hfresh hcoding hetag).symm
        · exact Dict.size_moveToEnd_le.trans hbounded
        · intro key other hother
          exact .inl (Dict.get_moveToEnd.symm.trans hother)
      case isFalse =>
        apply hkept.push (resolveAndKeep_eq ..)
        · exact size_resolveAndKeep (Dict.size_pop_le.trans hbounded)
        · intro key other hother
          rcases get_resolveAndKeep hother with hother | hfound
          · exact .inl (Dict.get_pop_eq_some.mp hother).2
          · exact .inr hfound

/-- A step keeps the cache sound, unless it is a change that is hidden. -/
theorem kept_step {action : StaticAction} (hkept : files.Kept config)
    (hseen : files.Seen config action) (hstep : files.step config action = some next) :
    next.Kept config := by
  cases action with
  | change disk =>
      obtain rfl := Option.some.inj hstep
      exact ⟨⟨hkept.transparent.same, hkept.transparent.bounded⟩, hkept.plain, hseen⟩
  | request urlPath accept =>
      obtain rfl := Option.some.inj hstep
      exact hkept.answer urlPath accept

end StaticFiles

/-- In every run in which no change of the disk is hidden from the cache, the answers are those
that would be given without the cache. -/
theorem cache_transparent (config : StaticConfig) {files : StaticFiles}
    (hreach : (staticMachine config).Reach (fun files action => files.Seen config action)
      files) : files.Transparent config := by
  have hkept : files.Kept config := by
    apply hreach.invariant
    · rintro _ ⟨disk, rfl⟩
      refine ⟨⟨fun answer hnot => absurd hnot List.not_mem_nil, Nat.zero_le _⟩, ?_, ?_⟩
      · exact fun key file hnot => (by cases hnot)
      · exact fun key file hnot => (by cases hnot)
    · exact fun files action next hkept hseen hstep => StaticFiles.kept_step hkept hseen hstep
  exact hkept.transparent

/-! ## A variant that appears -/

/-- What is on a disk with a style sheet, and perhaps a variant of it. -/
def sheetEntries (sheet : FileStat) (variant : Option FileStat) :
    List (List Text × TreeEntry Text FileStat) :=
  [([], .directory ⟨0, 0⟩),
    (["srv".toList], .directory ⟨0, 0⟩),
    (["srv".toList, "app.css".toList], .regular sheet)] ++
  (variant.map fun stat => (["srv".toList, "app.css.gz".toList], .regular stat)).toList

/-- A disk with a style sheet. -/
def sheetDisk (sheet : FileStat) (variant : Option FileStat) : Disk where
  tree := match variant with
    | none => .ofEntries (sheetEntries sheet none) rfl
    | some stat => .ofEntries (sheetEntries sheet (some stat)) rfl

/-- A mount with a cache. -/
def sheetMount : StaticMount :=
  { urlPath := "/static".toList, directory := ["srv".toList], statCache := true }

/-- The handler of the mount. -/
def sheetConfig : StaticConfig where
  mounts := [sheetMount]
  acceptedEncodings _ := [.zstd, .gzip]

/-- What is found for the sheet. -/
def sheetFile : ResolvedFile where
  path := [.into "srv".toList, .into "app.css".toList]
  size := 5
  mtime := 1
  etag := "W/\"f4240-5\"".toList
  coding := none

/-- The sheet is asked for. -/
def askSheet : StaticAction := .request "/static/app.css".toList (ascii "gzip")

/-- A handler on the disk without a variant. -/
def freshFiles : StaticFiles := { disk := sheetDisk ⟨1, 5⟩ none }

theorem freshFiles_init : (staticMachine sheetConfig).init freshFiles :=
  ⟨sheetDisk ⟨1, 5⟩ none, rfl⟩

/-- The codings of the answers, and of those that would have been given. -/
def codingsOf (actions : List StaticAction) :
    Option (List (Option (Option Coding) × Option (Option Coding))) :=
  ((staticMachine sheetConfig).run freshFiles actions).map fun files =>
    files.answers.map fun answer => (answer.given.map (·.coding), answer.plain.map (·.coding))

/-- The sheet is asked for, gets a variant that is older, is asked for, is written again with a
variant that is not, and is asked for. -/
def rewrittenSheet : List StaticAction :=
  [askSheet, .change (sheetDisk ⟨1, 5⟩ (some ⟨0, 3⟩)), askSheet,
    .change (sheetDisk ⟨2, 7⟩ (some ⟨3, 3⟩)), askSheet]

theorem cache_transparent_rewritten :
    ∃ files, (staticMachine sheetConfig).run freshFiles rewrittenSheet = some files ∧
      files.answers.map (fun answer => answer.given.map (·.coding)) =
        [some none, some none, some (some .gzip)] ∧
      files.Transparent sheetConfig := by
  have halong : (staticMachine sheetConfig).Along
      (fun files action => files.Seen sheetConfig action) freshFiles rewrittenSheet := by
    have hself : ∀ {cache : StatCache} {key file},
        cache.entries = [((normpath "/static/app.css".toList, ascii "gzip"), sheetFile)] →
          cache.get key = some file →
            key = (normpath "/static/app.css".toList, ascii "gzip") ∧ file = sheetFile := by
      intro cache key file hentries hfile
      have hmem := Dict.mem_entries_iff.mpr hfile
      rw [hentries] at hmem
      exact Prod.mk.inj (List.mem_singleton.mp hmem)
    refine .cons trivial rfl (.cons ?_ rfl (.cons trivial rfl (.cons ?_ rfl
      (.cons trivial rfl trivial))))
    · intro key file hfile _
      obtain ⟨rfl, rfl⟩ := hself (by decide +kernel) hfile
      have hfound : sheetConfig.resolveUncached (sheetDisk ⟨1, 5⟩ (some ⟨0, 3⟩))
          "/static/app.css".toList (ascii "gzip") = some sheetFile := by
        decide +kernel
      exact StaticFiles.not_hidden_of_resolve rfl hfound rfl
    · intro key file hfile hfresh
      obtain ⟨rfl, rfl⟩ := hself (by decide +kernel) hfile
      exact absurd hfresh (by decide +kernel)
  exact ⟨_, rfl, by decide +kernel,
    cache_transparent sheetConfig (Machine.Reach.run (.init freshFiles_init) halong rfl)⟩

/-- The sheet is asked for, and again when there is a variant that is not older. -/
def compressedSheet : List StaticAction :=
  [askSheet, .change (sheetDisk ⟨1, 5⟩ (some ⟨2, 3⟩)), askSheet]

theorem codingsOf_compressed :
    codingsOf compressedSheet = some [(some none, some none), (some none, some (some .gzip))] := by
  decide +kernel

/-- The file is served from the cache where its variant would be served without. -/
theorem cache_transparent_compressed :
    ¬ ∀ files, (staticMachine sheetConfig).Reachable files → files.Transparent sheetConfig := by
  intro hclaim
  obtain ⟨files, hrun, hcodings⟩ := Option.map_eq_some_iff.mp codingsOf_compressed
  have hsame := (hclaim files (Machine.reachable_run freshFiles_init hrun)).same
  have hequal : ∀ pair ∈ files.answers.map fun answer =>
      (answer.given.map (·.coding), answer.plain.map (·.coding)), pair.1 = pair.2 := by
    intro pair hpair
    obtain ⟨answer, hanswer, rfl⟩ := List.mem_map.mp hpair
    rw [hsame answer hanswer]
  rw [hcodings] at hequal
  exact absurd hequal (by decide)

end Pounce.Static
