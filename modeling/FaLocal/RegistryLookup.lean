import FaLocal.Contracts

/-!
# Lookups in a registry

The record that a registry answers with is the first one that carries the
identifier; records behind it are never read.
-/
namespace FaLocal

namespace CapabilityRegistry

/-- The first record of a registry with an identifier. -/
structure FirstRecord (registry : CapabilityRegistry) (capabilityId : CapabilityId)
    (record : CapabilityRecord) : Prop where
  identified : record.capabilityId = capabilityId
  split : ∃ earlier later, registry.capabilities = earlier ++ record :: later ∧
    ∀ other ∈ earlier, other.capabilityId ≠ capabilityId

variable {registry : CapabilityRegistry} {capabilityId : CapabilityId}
  {record : CapabilityRecord}

theorem capabilityFor_eq_some :
    registry.capabilityFor capabilityId = some record ↔
      registry.FirstRecord capabilityId record := by
  rw [capabilityFor, List.find?_eq_some_iff_append]
  constructor
  · rintro ⟨hid, earlier, later, hsplit, hearlier⟩
    exact ⟨by simpa using hid, earlier, later, hsplit, by simpa using hearlier⟩
  · rintro ⟨hid, earlier, later, hsplit, hearlier⟩
    exact ⟨by simpa using hid, earlier, later, hsplit, by simpa using hearlier⟩

theorem capabilityFor_eq_none :
    registry.capabilityFor capabilityId = none ↔
      ∀ record ∈ registry.capabilities, record.capabilityId ≠ capabilityId := by
  simp [capabilityFor]

theorem FirstRecord.mem (h : registry.FirstRecord capabilityId record) :
    record ∈ registry.capabilities := by
  obtain ⟨earlier, later, hsplit, -⟩ := h.split
  simp [hsplit]

end CapabilityRegistry

end FaLocal
