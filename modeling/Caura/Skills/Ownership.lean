import Caura.Skills.Lifecycle
import Caura.Transition.Core

/-!
# Writes by callers without privileges

A write reads the live document of its id, has its body validated and, if the validator
returns, replaces the document.  Along every sequence of such writes the documents in a
protected status stay as they are, a document that names its author is replaced only by
that author, and what is stored carries the caller, its scan and a status that follows
from the scan.

The hash of the content is filled in only when there is content.  An imported document
without content keeps the hash that its body claims, and an update that names that hash is
then bound to nothing: the hashes are right along the runs in which no such body claims
one.
-/

namespace Caura.Skills

open Caura.Transition Caura.Value Option Function

/-! ## Writes -/

/-- The documents of the collection. -/
abbrev SkillStore := String → Option Data

/-- A write by a caller that is neither admin nor the Forge worker. -/
structure SkillWrite where
  docId : String
  callerAgentId : Option String
  caps : Caps := {}
  now : String := ""
  body : Json

/-- The context of a write by an agent. -/
def SkillWrite.context (write : SkillWrite) : SkillWriteContext :=
  { callerAgentId := write.callerAgentId, isAdmin := false, isInternalForge := false
    caps := write.caps }

section Runs

variable (platform : Platform) (patterns : Patterns)

/-- What the validator returns for a write. -/
def validated (store : SkillStore) (write : SkillWrite) : Except Raised (Data × ScanResult) :=
  validateAndNormalizeSkillWrite platform patterns write.context write.now (store write.docId)
    write.body

/-- The store after a write. -/
def writeSkill (store : SkillStore) (write : SkillWrite) : SkillStore :=
  match validated platform patterns store write with
  | .ok (data, _) => update store write.docId (some data)
  | .error _ => store

/-- One write of a run. -/
def skillStep : Step SkillStore SkillWrite := fun store write =>
  some (writeSkill platform patterns store write)

/-! ## What a write respects -/

/-- A document in a protected status. -/
def IsProtected (data : Data) : Prop :=
  ∃ status ∈ protectedLiveStatuses, data.get "status" = some (.str status)

/-- What is stored: a status by the scan of the document, its author, and the hash of its
content. -/
structure Stamped (write : SkillWrite) (data : Data) (result : ScanResult) : Prop where
  scanned : ∃ draft, scanSkillDoc platform patterns write.caps write.now (.obj draft) =
      .ok result ∧
    ∀ key, key ∉ ["status", "quarantined_at", "scan"] → Dict.get draft key = data.get key
  scan : data.get "scan" = some result.asDocField
  quarantined : (∃ finding ∈ result.findings, finding.severity = .critical) →
    data.get "status" = some (.str "quarantined")
  staged : (∀ finding ∈ result.findings, finding.severity ≠ .critical) →
    data.get "status" = some (.str "staged")
  author : ∃ origin, data.get "origin" = some (.obj origin) ∧
    Dict.get origin "agent_id" = some (.str (stampOf write.context))
  hash : ∀ text, data.get "content" = some (.str text) →
    data.get "content_hash" = some (.str (contentHash text))

/-- A write leaves protected documents alone, replaces a document only as its author, and
stamps what it stores. -/
structure Respected (store : SkillStore) (write : SkillWrite) : Prop where
  unchanged : ∀ id data, store id = some data → IsProtected data →
    writeSkill platform patterns store write id = some data
  owned : ∀ data result, validated platform patterns store write = .ok (data, result) →
    ∀ live owner, store write.docId = some live → liveOwner live = some owner →
      ∃ agent, owner = .str agent ∧ write.callerAgentId = some agent
  stamped : ∀ data result, validated platform patterns store write = .ok (data, result) →
    Stamped platform patterns write data result

/-- A stored document without content has no hash, and an update replaces a document whose
content has the hash it names. -/
structure HashBound (store : SkillStore) (write : SkillWrite) : Prop where
  absent : ∀ data result, validated platform patterns store write = .ok (data, result) →
    valueAt data "content" = none → data.get "content_hash" = none
  bound : ∀ data result, validated platform patterns store write = .ok (data, result) →
    data.get "kind" = some (.str "update") →
      ∃ live text, store write.docId = some live ∧ live.get "content" = some (.str text) ∧
        targetHash data = some (.str (contentHash text))

end Runs

/-- An imported body without content claims no hash. -/
def ClaimsNoHash (_ : SkillStore) (write : SkillWrite) : Prop :=
  ∀ body, write.body = .obj body → Dict.get body "source" = some (.str "imported") →
    valueAt body "content" = none → Dict.get body "content_hash" = none

/-- Every hash in the store is that of its document's content. -/
def HonestHashes (store : SkillStore) : Prop :=
  ∀ id data, store id = some data → ∀ hash, valueAt data "content_hash" = some hash →
    ∃ text, data.get "content" = some (.str text) ∧ hash = .str (contentHash text)

/-! ## One write -/

section Step

variable {platform : Platform} {patterns : Patterns} {store : SkillStore} {write : SkillWrite}
  {data : Data} {result : ScanResult}

section

variable (valid : validated platform patterns store write = .ok (data, result))

include valid

theorem stages_of_validated : ∃ body header content filled, write.body = .obj body ∧
      Stages platform patterns write.context write.now (store write.docId) data result body header
        content filled :=
  stages_of_validate valid

theorem writeSkill_of_validated :
    writeSkill platform patterns store write = update store write.docId (some data) := by
  unfold writeSkill
  rw [valid]

/-- A live document that is replaced is in no protected status. -/
theorem not_isProtected_of_validated {live : Data} (isLive : store write.docId = some live) :
    ¬ IsProtected live := by
  obtain ⟨body, header, content, filled, isBody, stages⟩ := stages_of_validated valid
  have checked := stages.live
  rw [isLive] at checked
  rintro ⟨status, statusMem, isStatus⟩
  have notIn := (of_checkLive rfl rfl checked).1
  rw [isStatus, getD_some, isIn_eq_ok_true_iff.mpr ⟨status, statusMem, rfl⟩] at notIn
  cases notIn

theorem stamped_of_validated : Stamped platform patterns write data result := by
  obtain ⟨body, header, content, filled, isBody, stages⟩ := stages_of_validated valid
  obtain ⟨noFatal, status, scan, others⟩ := of_applyScan stages.applied
  have quarantine := state_of_scan stages.scanned noFatal
  obtain ⟨origin, isOrigin, author⟩ := (of_fill stages.filledIn).1
  refine ⟨⟨filled, stages.scanned, fun key other => (others key other).symm⟩, scan, ?_, ?_, ?_, ?_⟩
  · intro critical
    rw [status, if_pos (quarantine.mpr critical)]
  · intro noCritical
    rw [status, if_neg, stages.status_filled rfl rfl]
    intro isQuarantined
    obtain ⟨finding, findingMem, critical⟩ := quarantine.mp isQuarantined
    exact noCritical finding findingMem critical
  · exact ⟨origin, (others "origin" (by decide)).trans isOrigin, author⟩
  · intro text isText
    have isContent := stages.content_eq.symm.trans (valueAt_eq_some_iff.mpr ⟨isText, nofun⟩)
    rw [map_eq_some_iff] at isContent
    obtain ⟨_, isSome, same⟩ := isContent
    cases same
    rw [stages.hash_eq, isSome]
    rfl

end

theorem respected (store : SkillStore) (write : SkillWrite) :
    Respected platform patterns store write where
  unchanged id live isLive isProtected := by
    cases valid : validated platform patterns store write with
    | error raised =>
      unfold writeSkill
      rwa [valid]
    | ok written =>
      rw [writeSkill_of_validated valid, update_of_ne, isLive]
      rintro rfl
      exact not_isProtected_of_validated valid isLive isProtected
  owned data result valid live owner isLive isOwner := by
    obtain ⟨body, header, content, filled, isBody, stages⟩ := stages_of_validated valid
    have checked := stages.live
    rw [isLive] at checked
    obtain ⟨caller, isCaller, same⟩ := (of_checkLive rfl rfl checked).2 owner isOwner
    exact ⟨caller, same, isCaller⟩
  stamped data result valid := stamped_of_validated valid

/-- A stored document without content keeps the hash of its body, which claims none. -/
theorem hash_of_claimsNoHash (claims : ClaimsNoHash store write)
    (valid : validated platform patterns store write = .ok (data, result))
    (noContent : valueAt data "content" = none) : data.get "content_hash" = none := by
  obtain ⟨body, header, content, filled, isBody, stages⟩ := stages_of_validated valid
  have isNone : content = none := by
    rwa [stages.content_eq, map_eq_none_iff] at noContent
  have imported := (content_of_checkSizes stages.sizes).2 isNone
  have source := (get_of_readHeader stages.read).2
  rw [imported] at source
  have bodyContent : valueAt body "content" = none := by
    unfold valueAt at noContent ⊢
    rwa [stages.get_eq (by decide)] at noContent
  rw [stages.hash_eq, isNone, claims body isBody source bodyContent]
  rfl

theorem hashBound (honest : HonestHashes store) (claims : ClaimsNoHash store write) :
    HashBound platform patterns store write where
  absent data result valid noContent := hash_of_claimsNoHash claims valid noContent
  bound data result valid isUpdate := by
    obtain ⟨body, header, content, filled, isBody, stages⟩ := stages_of_validated valid
    have kind := (get_of_readHeader stages.read).1
    rw [← stages.get_eq (by decide), isUpdate] at kind
    obtain ⟨target, live, liveHash, isTarget, isLive, isHash, notNull, same⟩ :=
      of_checkBinding stages.binding (Json.str.inj (Option.some.inj kind)).symm
    obtain ⟨text, isText, rfl⟩ := honest write.docId live isLive liveHash
      (valueAt_eq_some_iff.mpr ⟨isHash, notNull⟩)
    refine ⟨live, text, isLive, isText, ?_⟩
    rw [← Json.equals_str_iff.mp same, ← isTarget]
    unfold targetHash
    rw [(of_applyScan stages.applied).2.2.2 _ (by decide)]

/-- The hashes stay right. -/
theorem HonestHashes.writeSkill (honest : HonestHashes store) (claims : ClaimsNoHash store write) :
    HonestHashes (Skills.writeSkill platform patterns store write) := by
  cases valid : validated platform patterns store write with
  | error raised =>
    unfold Skills.writeSkill
    rwa [valid]
  | ok written =>
    intro id data isData hash isHash
    rw [writeSkill_of_validated valid] at isData
    by_cases same : id = write.docId
    · rw [same, update_self] at isData
      cases isData
      have stamped := stamped_of_validated valid
      cases content : valueAt written.1 "content" with
      | none =>
        have noHash := hash_of_claimsNoHash claims valid content
        rw [(valueAt_eq_some_iff.mp isHash).1] at noHash
        cases noHash
      | some value =>
        obtain ⟨_, _, _, _, _, stages⟩ := stages_of_validated valid
        obtain ⟨text, _, rfl⟩ := map_eq_some_iff.mp (stages.content_eq ▸ content)
        have isText := (valueAt_eq_some_iff.mp content).1
        refine ⟨text, isText, Option.some.inj ?_⟩
        rw [← (valueAt_eq_some_iff.mp isHash).1, stamped.hash text isText]
    · rw [update_of_ne same] at isData
      exact honest id data isData hash isHash

end Step

/-! ## Runs -/

/-- Along every sequence of writes without privileges from every store, each write respects
the documents it meets; and if the hashes of the store are right and no imported body without
content claims one, each write is bound by them. -/
theorem unprivileged_writes_respected (platform : Platform) (patterns : Patterns)
    (store : SkillStore) (writes : List SkillWrite) :
    GuardedRun (skillStep platform patterns) (Respected platform patterns) store writes ∧
      (HonestHashes store → GuardedRun (skillStep platform patterns) ClaimsNoHash store writes →
        GuardedRun (skillStep platform patterns) (HashBound platform patterns) store writes) := by
  refine ⟨guardedRun_of_forall (fun state write _ => respected state write) store, ?_⟩
  intro honest claims
  refine guardedRun_of_invariant ?_ ?_ honest claims
  · intro source write target honest claims stepEq
    cases stepEq
    exact honest.writeSkill claims
  · intro source write honest claims
    exact hashBound honest claims

/-- An imported pointer, with what its body has besides. -/
def pointerOf (kind : String) (others : Data) : SkillWrite where
  docId := "s"
  callerAgentId := some "a"
  body := .obj ([("name", .str "n"), ("slug", .str "s"), ("description", .str ""),
    ("domain", .str ""), ("kind", .str kind), ("source", .str "imported")] ++ others)

/-- An imported pointer without a hash. -/
def plainPointer : SkillWrite :=
  pointerOf "create" []

/-- The write of a pointer without a hash to an empty store is bound by the hashes. -/
theorem unprivileged_writes_respected_pointer :
    Respected plainPlatform noPatterns (fun _ => none) plainPointer ∧
      HashBound plainPlatform noPatterns (fun _ => none) plainPointer := by
  have run := unprivileged_writes_respected plainPlatform noPatterns (fun _ => none) [plainPointer]
  have honest : HonestHashes fun _ => none := by
    intro id data isData
    cases isData
  have claims : ClaimsNoHash (fun _ => none) plainPointer := by
    intro body isBody _ _
    cases isBody
    rfl
  exact ⟨run.1.1, (run.2 honest ⟨claims, fun _ _ => trivial⟩).1⟩

/-! ## A hash without content -/

/-- An imported pointer with a hash of its own. -/
def pointerWrite : SkillWrite :=
  pointerOf "create" [("content_hash", .str "sha256:0")]

/-- An update that names that hash. -/
def pointerUpdate : SkillWrite :=
  pointerOf "update" [("target", .obj [("target_content_hash", .str "sha256:0")])]

/-- The first write is stored. -/
def pointerStore : SkillStore :=
  writeSkill plainPlatform noPatterns (fun _ => none) pointerWrite

/-- The claimed hash is stored, and the update is stored over a document without content. -/
theorem claimed_hash_is_stored : ¬ HashBound plainPlatform noPatterns (fun _ => none) pointerWrite ∧
      ¬ HashBound plainPlatform noPatterns pointerStore pointerUpdate := by
  constructor
  · intro bound
    have valid : validated plainPlatform noPatterns (fun _ => none) pointerWrite = .ok (_, _) := rfl
    cases bound.absent _ _ valid rfl
  · intro bound
    have valid : validated plainPlatform noPatterns pointerStore pointerUpdate = .ok (_, _) := rfl
    obtain ⟨live, text, isLive, isText, _⟩ := bound.bound _ _ valid rfl
    cases isLive
    cases isText

end Caura.Skills
