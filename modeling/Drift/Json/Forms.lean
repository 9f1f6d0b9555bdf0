import Drift.Collection.Arrangement
import Drift.Json.Expect
import Drift.Json.Printer
import Drift.Settings
import Drift.Snapshot

/-!
# JSON forms

How digests, fingerprints, collections, snapshots and settings are written as
JSON values and read from them.
-/

namespace Drift

open Json

/-- A digest is the array of its bytes. -/
def Digest.toJson (digest : Digest) : Value :=
  .ofItems (digest.bytes.map fun byte => .ofNat byte.toNat)

/-- Reads one byte. -/
def byteOfJson (value : Value) : Read UInt8 := do
  return UInt8.ofNat (← asNatural 256 "u8" value)

/-- Reads a digest. -/
def Digest.ofJson (value : Value) : Read Digest := do
  let expected := "an array of length 32"
  let bytes ← asItems 32 expected byteOfJson value
  if long : bytes.length = 32 then return ⟨bytes, long⟩
  else .error (.mismatch (.wrongLength bytes.length expected))

/-- A file type is its name. -/
def FileType.toJson (fileType : FileType) : Value :=
  .ofText fileType.identifier

/-- Reads a file type. -/
def FileType.ofJson : Value → Read FileType :=
  asVariant ofIdentifier? (all.map identifier)

/-- A policy is its name. -/
def Policy.toJson (policy : Policy) : Value :=
  .ofText policy.identifier

/-- Reads a policy. -/
def Policy.ofJson : Value → Read Policy :=
  asVariant ofIdentifier? (all.map identifier)

namespace Fingerprint

/-- A fingerprint is an object of its fields. -/
def toJson (fingerprint : Fingerprint) : Value :=
  .ofMembers [("normalized_path", .ofText fingerprint.normalizedPath),
    ("file_type", fingerprint.fileType.toJson), ("content_hash", fingerprint.digest.toJson)]

/-- The fields of a fingerprint. -/
def record : Record String FileType Digest where
  name := "struct Fingerprint"
  first := ⟨"normalized_path", asText, none⟩
  second := ⟨"file_type", FileType.ofJson, none⟩
  third := ⟨"content_hash", Digest.ofJson, none⟩

/-- Reads a fingerprint. -/
def ofJson (value : Value) : Read Fingerprint := do
  let (normalizedPath, fileType, digest) ← record.read value
  return ⟨normalizedPath, fileType, digest⟩

end Fingerprint

namespace Collection

/-- A collection is an object of its fingerprints under their paths. -/
def toJson (collection : Collection) : Value :=
  .ofMembers (collection.entries.map fun entry => (entry.path, entry.fingerprint.toJson))

/-- Reads a collection. The last of several members with one path counts, at
the place of the first. -/
def ofJson (value : Value) : Read Collection := do
  let entries ← foldMembers (fun entries path value => do
    return entries.push ⟨path, ← Fingerprint.ofJson value⟩) #[] value
  return ofEntries entries.toList

end Collection

namespace Settings

/-- Settings are an object of their fields. -/
def toJson (settings : Settings) : Value :=
  .ofMembers [("strategy", settings.policy.toJson),
    ("include_added", .ofBool settings.includeAdded),
    ("max_reported_changes", .ofNat settings.cap.toNat)]

/-- The fields of settings, each of which may be left out. -/
def record : Record Policy Bool UInt64 where
  name := "struct ChangeReportConfig"
  first := ⟨"strategy", Policy.ofJson, some standard.policy⟩
  second := ⟨"include_added", asBoolean, some standard.includeAdded⟩
  third := ⟨"max_reported_changes",
    fun value => do return UInt64.ofNat (← asNatural UInt64.size "usize" value),
    some standard.cap⟩

/-- Reads settings. -/
def ofJson (value : Value) : Read Settings := do
  let (policy, includeAdded, cap) ← record.read value
  return ⟨policy, includeAdded, cap⟩

end Settings

namespace Snapshot

/-- A snapshot is an object of its fields. -/
def toJson (snapshot : Snapshot) : Value :=
  .ofMembers [("title", .ofText snapshot.title), ("strategy", snapshot.policy.toJson),
    ("fingerprints", snapshot.collection.toJson)]

/-- The fields of a snapshot. -/
def record : Record String Policy Collection where
  name := "struct PropertySnapshot"
  first := ⟨"title", asText, none⟩
  second := ⟨"strategy", Policy.ofJson, none⟩
  third := ⟨"fingerprints", Collection.ofJson, none⟩

/-- Reads a snapshot. -/
def ofJson (value : Value) : Read Snapshot := do
  let (title, policy, collection) ← record.read value
  return ⟨title, policy, collection⟩

end Snapshot

end Drift
