import Drift.Json.Forms
import Drift.Proofs.Json.Expect

/-!
# Documents read back

Digests, fingerprints, collections, snapshots and settings are written faithfully. The
form of each is put together from the forms of its parts, so a document is read back as
soon as its parts are: a snapshot with its title, its policy and its entries in their
order, whatever characters its texts have, and settings with any number of changes.
-/

namespace Drift

open Json

theorem faithful_byteOfJson : Faithful (fun byte : UInt8 => .ofNat byte.toNat) byteOfJson :=
  faithful_word UInt8.toNat_lt (by decide) (fun _ => UInt8.ofNat_toNat) "u8"

namespace Digest

theorem faithful_ofJson : Faithful toJson ofJson where
  spelled digest :=
    .ofItems (List.forall_mem_map.mpr fun byte _ => faithful_byteOfJson.spelled byte)
  read_write digest := by
    have long := digest.length_bytes
    rw [ofJson, toJson, asItems_ofItems faithful_byteOfJson (Nat.le_of_eq long)]
    exact dif_pos long

end Digest

theorem FileType.faithful_ofJson : Faithful toJson ofJson :=
  faithful_asVariant ofIdentifier?_identifier _

theorem Policy.faithful_ofJson : Faithful toJson ofJson :=
  faithful_asVariant ofIdentifier?_identifier _

theorem Fingerprint.faithful_ofJson : Faithful toJson ofJson :=
  (faithful_record record (by decide) faithful_asText FileType.faithful_ofJson
    Digest.faithful_ofJson).through
    (fun fingerprint : Fingerprint =>
      (fingerprint.normalizedPath, fingerprint.fileType, fingerprint.digest))
    (fun fields => ⟨fields.1, fields.2.1, fields.2.2⟩)
    fun _ => rfl

theorem Collection.faithful_ofJson : Faithful toJson ofJson where
  spelled collection :=
    .ofMembers (List.forall_mem_map.mpr fun entry _ =>
      Fingerprint.faithful_ofJson.spelled entry.fingerprint)
  read_write collection := by
    have adds (entries : Array Entry) (entry : Entry) : (do
        return entries.push ⟨entry.path, ← Fingerprint.ofJson entry.fingerprint.toJson⟩) =
          (.ok (entries.push entry) : Read (Array Entry)) := by
      rw [Fingerprint.faithful_ofJson.read_write]
      rfl
    rw [ofJson, toJson, foldMembers_ofMembers adds, List.foldl_push_eq_append',
      Array.empty_append]
    exact congrArg Except.ok (ofEntries_entries collection)

theorem Settings.faithful_ofJson : Faithful toJson ofJson :=
  (faithful_record record (by decide) Policy.faithful_ofJson faithful_asBoolean
    (faithful_word UInt64.toNat_lt (Nat.le_refl _) (fun _ => UInt64.ofNat_toNat)
      "usize")).through
    (fun settings : Settings => (settings.policy, settings.includeAdded, settings.cap))
    (fun fields => ⟨fields.1, fields.2.1, fields.2.2⟩)
    fun _ => rfl

theorem Snapshot.faithful_ofJson : Faithful toJson ofJson :=
  (faithful_record record (by decide) faithful_asText Policy.faithful_ofJson
    Collection.faithful_ofJson).through
    (fun snapshot : Snapshot => (snapshot.title, snapshot.policy, snapshot.collection))
    (fun fields => ⟨fields.1, fields.2.1, fields.2.2⟩)
    fun _ => rfl

/-- Every snapshot is read back from the text it is written as: its title, its policy and
its entries in their order, and so with the same cache key and the same changes since any
other snapshot. All settings are read back from theirs. -/
theorem readDocument_toJson_toText (snapshot : Snapshot) (settings : Settings) :
    readDocument Snapshot.ofJson snapshot.toJson.toText = .ok snapshot ∧
      readDocument Settings.ofJson settings.toJson.toText = .ok settings :=
  ⟨Snapshot.faithful_ofJson.readDocument_toText snapshot,
    Settings.faithful_ofJson.readDocument_toText settings⟩

end Drift
