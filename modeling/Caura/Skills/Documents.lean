import Caura.Skills.Lifecycle
import Caura.Transition.Core

/-!
# Conditional writes of skill documents

The store replaces a document only over a status that the writer names: an upsert with the
expected statuses, where no document may be among them, and a flip of the status alone.
The check is part of the write, and a miss writes nothing.
-/

namespace Caura.Skills

open Caura.Transition Caura.Value Function

/-- A document of the collection. -/
structure Document where
  fleetId : Option String
  data : Data

/-- The documents of a tenant's collection by their ids. -/
abbrev Documents := String → Option Document

/-- `data.get("status")`. -/
def Document.status (doc : Document) : Json :=
  (doc.data.get "status").getD .null

/-- `data->>'status' = status`. -/
def Document.hasStatus (doc : Document) (status : String) : Bool :=
  match doc.data.get "status" with
  | some (.str text) => text == status
  | _ => false

variable {status other : String} {doc : Document}

theorem Document.hasStatus_iff :
    doc.hasStatus status = true ↔ doc.data.get "status" = some (.str status) := by
  unfold hasStatus
  split
  next text isText => simp [isText]
  next noText => exact iff_of_false nofun (noText status)

theorem Document.hasStatus_unique (isStatus : doc.hasStatus status = true)
    (isOther : doc.hasStatus other = true) : status = other := by
  have same := (hasStatus_iff.mp isStatus).symm.trans (hasStatus_iff.mp isOther)
  exact Json.str.inj (Option.some.inj same)

/-- The document under an id has a status. -/
def Documents.Has (store : Documents) (id status : String) : Prop :=
  ∃ doc, store id = some doc ∧ doc.hasStatus status = true

instance (store : Documents) (id status : String) : Decidable (store.Has id status) := by
  unfold Documents.Has
  infer_instance

/-- What a step is told: the time, and how the write of a poisoned fingerprint ended. -/
structure Answer where
  now : String := ""
  poison : Except Raised Unit := .ok ()

/-! ## The texts that a skill ships -/

/-- `name`, `content`, `description` and `summary`. -/
def shippedTexts : List String :=
  ["name", "content", "description", "summary"]

/-- Two documents ship the same texts. -/
def SameTexts (data other : Data) : Prop :=
  ∀ key ∈ shippedTexts, data.get key = other.get key

theorem SameTexts.refl (data : Data) : SameTexts data data :=
  fun _ _ => rfl

theorem SameTexts.trans {first second third : Data} (same : SameTexts first second)
    (others : SameTexts second third) : SameTexts first third :=
  fun key isText => (same key isText).trans (others key isText)

/-- What is written at other keys leaves the texts as they are. -/
theorem SameTexts.of_get_eq {data other : Data} (keys : List String)
    (same : ∀ key, key ∉ keys → data.get key = other.get key)
    (disjoint : ∀ key ∈ shippedTexts, key ∉ keys) : SameTexts data other :=
  fun key isText => same key (disjoint key isText)

/-! ## The writes -/

section Writes

variable (platform : Platform)

/-- `_guard_document_shrink`. -/
def guardDocumentShrink (id : String) (stored : Option Document) (data : Data) :
    Except Raised Unit :=
  match stored with
  | none => .ok ()
  | some stored =>
    let oldLen := platform.dumpsLength stored.data
    let newLen := platform.dumpsLength data
    refuseIf (2048 ≤ oldLen && !platform.isTenth newLen oldLen) <| .http 400
      (s!"refusing to shrink document 'skills/{id}' from {oldLen} to {newLen} bytes " ++
        s!"({platform.percent newLen oldLen} of the stored size). " ++
        "A truncated payload from a failed read " ++
        "looks exactly like this. Retry with force=true if the shrink is intended.")

/-- A write may replace what is stored: a document in an expected status, or nothing if that
is expected. -/
def mayReplaceStored (expected : List (Option String)) : Option Document → Bool
  | none => expected.contains none
  | some stored => expected.any fun status => status.any stored.hasStatus

/-- `document_upsert` with `expected_status`. -/
def documentUpsert (store : Documents) (id : String) (doc : Document) (force : Bool)
    (expected : List (Option String)) : Except Raised Documents := do
  (if force then .ok () else guardDocumentShrink platform id (store id) doc.data)
  if mayReplaceStored expected (store id) then
    return update store id (some doc)
  else
    .error (.exception "DocumentStatusChangedError")

end Writes

/-- The data with a status and when it was set. -/
def flipped (now newStatus : String) (data : Data) : Data :=
  (data.set "status" (.str newStatus)).set (newStatus ++ "_at") (.str now)

/-- `document_update_status`: the store after the flip, if the status is the expected one. -/
def documentUpdateStatus (store : Documents) (id now newStatus expectedStatus : String) :
    Option Documents :=
  match store id with
  | none => none
  | some stored =>
    if stored.hasStatus expectedStatus then
      some (update store id
        (some { stored with data := flipped now newStatus stored.data }))
    else
      none

/-! ## What the writes do -/

section Guarantees

variable {platform : Platform} {store after : Documents} {id : String}

theorem of_documentUpsert {force : Bool} {expected : List (Option String)}
    (written : documentUpsert platform store id doc force expected = .ok after) :
    after = update store id (some doc) ∧ mayReplaceStored expected (store id) = true := by
  obtain ⟨_, _, written⟩ := bind_eq_ok_iff.mp written
  split at written <;> cases written
  next may =>
    exact ⟨rfl, may⟩

variable {status now newStatus expectedStatus key : String}

/-- A write over one status finds a document in it. -/
theorem has_of_mayReplaceStored (may : mayReplaceStored [some status] (store id) = true) :
    store.Has id status := by
  cases stored : store id with
  | none =>
    rw [stored] at may
    cases may
  | some doc =>
    rw [stored] at may
    refine ⟨doc, stored, ?_⟩
    simpa [mayReplaceStored] using may

theorem of_documentUpdateStatus
    (updated : documentUpdateStatus store id now newStatus expectedStatus = some after) :
    ∃ stored, store id = some stored ∧ stored.hasStatus expectedStatus = true ∧
      after = update store id (some { stored with data := flipped now newStatus stored.data }) := by
  unfold documentUpdateStatus at updated
  split at updated
  · cases updated
  next stored isStored =>
    split at updated <;> cases updated
    next has =>
      exact ⟨stored, isStored, has, rfl⟩

/-- A flip writes the status and the time of it. -/
theorem get_flipped_status (data : Data) (different : newStatus ++ "_at" ≠ "status") :
    (flipped now newStatus data).get "status" = some (.str newStatus) := by
  simp [flipped, different.symm]

theorem get_flipped_of_ne (data : Data) (notStatus : key ≠ "status")
    (notTime : key ≠ newStatus ++ "_at") :
    (flipped now newStatus data).get key = data.get key := by
  simp [flipped, notStatus, notTime]

end Guarantees

end Caura.Skills
