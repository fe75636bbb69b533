import FaLocal.GnatReport

/-!
# The identifiers of shards

Enrichments, results and events are found by the identifier of a shard. Neither the
schema nor the negotiation asks that the identifiers of an envelope differ.
-/
namespace FaLocal

open GnatWorldEvent (deliveries records)

namespace GnatDispatchEnvelope

/-- The identifiers of the declared shards, by position. -/
def shardIds (envelope : GnatDispatchEnvelope) : List String :=
  envelope.plan.shards.map (·.shardId)

/-- The identifier of exactly one declared shard. -/
def Identifies (envelope : GnatDispatchEnvelope) (shardId : String) : Prop :=
  ∃! index : Nat, envelope.shardIds[index]? = some shardId

theorem identifies_of_mem {envelope : GnatDispatchEnvelope} {shardId : String}
    (hdistinct : envelope.shardIds.Nodup) (hmem : shardId ∈ envelope.shardIds) :
    envelope.Identifies shardId := by
  obtain ⟨index, hindex⟩ := List.mem_iff_getElem?.mp hmem
  refine ⟨index, hindex, fun other hother => ?_⟩
  have hlt : other < envelope.shardIds.length := (List.getElem?_eq_some_iff.mp hother).1
  exact (List.getElem?_inj hlt hdistinct).mp (hother.trans hindex.symm)

/-- The negotiation admits the envelope for dispatch. -/
def Admitted (envelope : GnatDispatchEnvelope)
    (faLocalCapabilities : GnatFaLocalCapabilityState) : Prop :=
  ∃ utcNow admission,
    GnatDispatchValidator.negotiate utcNow envelope faLocalCapabilities = .ok admission ∧
      admission.state = .readyForFaLocalDispatch

end GnatDispatchEnvelope

namespace GnatDispatchPipelineService

/-- The entries and the result of a run that tells its shards apart. -/
structure TellsApart (envelope : GnatDispatchEnvelope)
    (shardEnrichments : String → Option GnatShardEnrichment)
    (r : FaLocalResult GnatDispatchRunResult) (entries : List GnatWorldEvent) : Prop where
  once : ((deliveries entries).map (·.1.shardId)).Nodup
  own : ∀ delivery ∈ deliveries entries, envelope.Identifies delivery.1.shardId ∧
    ∃ shard ∈ envelope.plan.shards, ∃ enrichment,
      shardEnrichments shard.shardId = some enrichment ∧
        delivery.1 = .fromDeclaredShard envelope.plan.runId shard enrichment
  results : ∀ result, r = .ok result →
    ∀ shardResult ∈ result.outcome.shardResults, envelope.Identifies shardResult.1
  events : ∀ record ∈ records entries, ∀ shardId, record.event.event.shardId = some shardId →
    envelope.Identifies shardId

/-- Every run of an envelope tells its shards apart. -/
def RunsTellApart (envelope : GnatDispatchEnvelope)
    (faLocalCapabilities : GnatFaLocalCapabilityState) : Prop :=
  ∀ (env : GnatRunEnvironment) (sink : Option GnatForensicEventExportAdapter)
    (now : TimestampUtc) (shardEnrichments : String → Option GnatShardEnrichment)
    (log entries : List GnatWorldEvent),
    (run env envelope sink now faLocalCapabilities shardEnrichments log).2 = log ++ entries →
      TellsApart envelope shardEnrichments
        (run env envelope sink now faLocalCapabilities shardEnrichments log).1 entries

section
variable {env : GnatRunEnvironment} {envelope : GnatDispatchEnvelope}
  {sink : Option GnatForensicEventExportAdapter} {now : TimestampUtc}
  {faLocalCapabilities : GnatFaLocalCapabilityState}
  {shardEnrichments : String → Option GnatShardEnrichment}
  {log entries later : List GnatWorldEvent} {requests : List GnatShardDispatchRequest}

/-! ## Events -/

theorem negotiation_shardId {negotiationOutcome : GnatNegotiationOutcome}
    {event : ValidatedGnatDispatchForensicEvent}
    (h : ReportsNegotiation envelope negotiationOutcome event.event) :
    event.event.shardId = none := by
  have hfields := (GnatDispatchForensicEvent.validate_eq_ok.mp event.valid).2.2.2
  rw [GnatDispatchForensicEvent.FieldsFit, h.eventType] at hfields
  exact hfields.1

theorem Pushed.no_record {event : ValidatedGnatDispatchForensicEvent} {error : Abort}
    (h : Pushed sink event (.error error) entries) : records entries = [] := by
  cases h
  rfl

/-- The records of a round, if there are any, name its request. -/
theorem Round.record_shardId {request : GnatShardDispatchRequest}
    {r : FaLocalResult (GnatForensicRecordOutcome × String × GnatShardDispatchResult)}
    (h : Round env envelope sink now log request r entries) :
    ∀ record ∈ records entries, record.event.event.shardId = some request.shardId := by
  intro record hrecord
  cases r with
  | error e =>
    have hnone : records entries = [] := by
      cases h with
      | unreported _ => rfl
      | refused hp => exact hp.no_record
    rw [hnone] at hrecord
    cases hrecord
  | ok pushed =>
    obtain ⟨-, hone, hreports⟩ := h.reports
    rw [hone, List.mem_singleton] at hrecord
    rw [hrecord]
    exact hreports.shardId

theorem rounds_record_shardId
    {r : FaLocalResult (List (GnatForensicRecordOutcome × String × GnatShardDispatchResult))}
    (h : Traced.Rounds (Round env envelope sink now) log requests r later) :
    ∀ record ∈ records later, ∃ request ∈ requests,
      record.event.event.shardId = some request.shardId := by
  induction h with
  | ended => exact fun _ h => absurd h List.not_mem_nil
  | next hround _ ih =>
    intro record hrecord
    rw [GnatWorldEvent.records_append, List.mem_append] at hrecord
    rcases hrecord with hrecord | hrecord
    · exact ⟨_, List.mem_cons_self, hround.record_shardId record hrecord⟩
    · obtain ⟨request, hmem, hid⟩ := ih record hrecord
      exact ⟨request, List.mem_cons_of_mem _ hmem, hid⟩
  | broken hround =>
    exact fun record hrecord => ⟨_, List.mem_cons_self, hround.record_shardId record hrecord⟩

/-! ## Runs -/

theorem tellsApart_of_quiet {r : FaLocalResult GnatDispatchRunResult}
    (hquiet : deliveries entries = [])
    (hresults : ∀ result, r = .ok result → result.outcome.shardResults = [])
    (hrecords : ∀ record ∈ records entries, record.event.event.shardId = none) :
    TellsApart envelope shardEnrichments r entries where
  once := by
    rw [hquiet]
    exact List.nodup_nil
  own := by
    rw [hquiet]
    exact fun _ h => absurd h List.not_mem_nil
  results := by
    intro result hr
    rw [hresults result hr]
    exact fun _ h => absurd h List.not_mem_nil
  events := by
    intro record hrecord shardId hid
    rw [hrecords record hrecord] at hid
    cases hid

theorem request_declared (hrequests : buildShardRequests envelope shardEnrichments = .ok requests)
    {request : GnatShardDispatchRequest} (hmem : request ∈ requests) :
    ∃ shard ∈ envelope.plan.shards, ∃ enrichment,
      shardEnrichments shard.shardId = some enrichment ∧
        request = .fromDeclaredShard envelope.plan.runId shard enrichment :=
  exists_mem_of_forall₂ (buildShardRequests_eq_ok.mp hrequests) hmem

theorem trail_tellsApart {r : FaLocalResult GnatDispatchRunResult}
    (hdistinct : envelope.Admitted faLocalCapabilities → RunIdFits envelope.plan.runId →
      envelope.shardIds.Nodup)
    (h : Trail env envelope sink now faLocalCapabilities shardEnrichments log r entries) :
    TellsApart envelope shardEnrichments r entries := by
  cases h with
  | unenriched _ => exact tellsApart_of_quiet rfl (by rintro _ ⟨⟩) (by rintro _ ⟨⟩)
  | unrecorded _ => exact tellsApart_of_quiet rfl (by rintro _ ⟨⟩) (by rintro _ ⟨⟩)
  | refused hp =>
    refine tellsApart_of_quiet hp.no_delivery (by rintro _ ⟨⟩) ?_
    rw [hp.no_record]
    exact fun _ h => absurd h List.not_mem_nil
  | settled hsettles hrep hp =>
    refine tellsApart_of_quiet hp.no_delivery ?_ ?_
    · rintro result ⟨⟩
      exact hsettles.shardResults_eq
    · rw [hp.records_eq]
      intro record hrecord
      rw [List.mem_singleton.mp hrecord, hp.event_eq]
      exact negotiation_shardId hrep
  | @dispatched requests admission event record entries later r hrequests hneg hstate hrep hp
      hrounds =>
    have hnodup := hdistinct ⟨env.utcNow, admission, hneg, hstate⟩ (runIdFits_of_reports hrep)
    have hquiet := hp.no_delivery
    have hids : requests.map (·.shardId) = envelope.shardIds := requests_shardIds hrequests
    have hcalls : deliveries (entries ++ later) = deliveries later := by
      rw [GnatWorldEvent.deliveries_append, hquiet, List.nil_append]
    have hidentifies : ∀ request ∈ requests, envelope.Identifies request.shardId := by
      intro request hmem
      refine GnatDispatchEnvelope.identifies_of_mem hnodup ?_
      rw [← hids]
      exact List.mem_map_of_mem hmem
    have hcalled : ∀ delivery ∈ deliveries later, delivery.1 ∈ requests := fun delivery hmem =>
      (rounds_called hrounds).subset (List.mem_map_of_mem hmem)
    refine ⟨?_, ?_, ?_, ?_⟩
    · have hids_called := (rounds_called hrounds).map (·.shardId)
      rw [hids, List.map_map] at hids_called
      rw [hcalls]
      exact hnodup.sublist hids_called.sublist
    · intro delivery hmem
      rw [hcalls] at hmem
      have hrequest := hcalled delivery hmem
      exact ⟨hidentifies _ hrequest, request_declared hrequests hrequest⟩
    · intro result hr
      cases r with
      | error e => cases hr
      | ok pushed =>
        cases hr
        intro shardResult hmem
        have hmem' : shardResult ∈ pushed.map Prod.snd := hmem
        rw [← rounds_delivered hrounds] at hmem'
        obtain ⟨delivery, hd, rfl⟩ := List.mem_map.mp hmem'
        exact hidentifies _ (hcalled delivery hd)
    · intro q hq shardId hid
      rw [GnatWorldEvent.records_append, hp.records_eq, List.singleton_append,
        List.mem_cons] at hq
      rcases hq with rfl | hq
      · rw [hp.event_eq, negotiation_shardId hrep] at hid
        cases hid
      · obtain ⟨request, hmem, hr⟩ := rounds_record_shardId hrounds q hq
        rw [hr] at hid
        cases hid
        exact hidentifies request hmem

theorem runsTellApart_of_distinct
    (hdistinct : envelope.Admitted faLocalCapabilities → RunIdFits envelope.plan.runId →
      envelope.shardIds.Nodup) : RunsTellApart envelope faLocalCapabilities := by
  intro env sink now shardEnrichments log entries hout
  obtain ⟨entries', hout', htrail⟩ :=
    @run_trail env envelope sink now faLocalCapabilities shardEnrichments log
  have hentries : entries = entries' := List.append_cancel_left (hout.symm.trans hout')
  rw [hentries]
  exact trail_tellsApart hdistinct htrail

theorem resultsOf_shardIds (results : Nat → GnatShardDispatchResult) (index : Nat)
    (shardIds : List String) : (resultsOf results index shardIds).map Prod.fst = shardIds := by
  rw [resultsOf, List.map_map]
  exact List.zipIdx_map_fst index shardIds

/-- An admitted run whose adapter is unavailable delivers all declared shards. -/
theorem run_delivers_declared (env : GnatRunEnvironment) (now : TimestampUtc)
    (shardEnrichments : String → Option GnatShardEnrichment) {admission : GnatDispatchAdmission}
    (henriched : ∀ shard ∈ envelope.plan.shards, (shardEnrichments shard.shardId).isSome = true)
    (hrun : RunIdFits envelope.plan.runId)
    (hneg : GnatDispatchValidator.negotiate env.utcNow envelope faLocalCapabilities =
      .ok admission)
    (hstate : admission.state = .readyForFaLocalDispatch) (summary : String) :
    ((deliveries (run (env.answering fun _ => .dispatchUnavailable summary) envelope none now
      faLocalCapabilities shardEnrichments []).2).map (·.1.shardId)) = envelope.shardIds := by
  obtain ⟨entries, hout, htrail⟩ := @run_trail
    (env.answering fun _ => .dispatchUnavailable summary) envelope none now faLocalCapabilities
    shardEnrichments []
  obtain ⟨r, hr⟩ := (trail_returns_iff henriched (fun _ => .inr ⟨summary, rfl⟩) htrail).mpr
    ⟨hrun, fun _ _ _ _ _ _ h => by cases h⟩
  rw [hr] at htrail
  have hreported := trail_reported htrail
  have hshards : r.outcome.shardResults = resultsOf (fun _ => .dispatchUnavailable summary) 0
      envelope.shardIds := by
    have houtcome := hreported.outcome
    rw [hneg] at houtcome
    generalize r.outcome = outcome at houtcome
    cases houtcome with
    | settled hsettles => exact absurd hsettles (not_settles_ready hstate)
    | dispatched _ => rfl
  rw [hout, List.nil_append, ← resultsOf_shardIds (fun _ => .dispatchUnavailable summary) 0
    envelope.shardIds, ← hshards, ← hreported.delivered, List.map_map]
  rfl

end

/-- The runs of an accepted envelope tell its shards apart if the declared identifiers
differ or nothing comes to dispatch, and not otherwise. -/
theorem shards_told_apart_iff {envelope : GnatDispatchEnvelope} (haccepted : envelope.Accepted)
    (faLocalCapabilities : GnatFaLocalCapabilityState) :
    (((envelope.Admitted faLocalCapabilities → envelope.shardIds.Nodup) ∧
        RunsTellApart envelope faLocalCapabilities) ↔
      ¬ envelope.Admitted faLocalCapabilities ∨ envelope.shardIds.Nodup) ∧
    (RunsTellApart envelope faLocalCapabilities ↔
      ¬ envelope.Admitted faLocalCapabilities ∨ envelope.shardIds.Nodup ∨
        120 < envelope.plan.runId.utf8ByteSize) := by
  have hfits := runIdFits_iff haccepted
  constructor
  · constructor
    · rintro ⟨hdistinct, -⟩
      by_cases hadmitted : envelope.Admitted faLocalCapabilities
      · exact .inr (hdistinct hadmitted)
      · exact .inl hadmitted
    · intro h
      have hdistinct : envelope.Admitted faLocalCapabilities → envelope.shardIds.Nodup :=
        fun hadmitted => h.resolve_left (not_not.mpr hadmitted)
      exact ⟨hdistinct, runsTellApart_of_distinct fun hadmitted _ => hdistinct hadmitted⟩
  · constructor
    · intro h
      by_cases hadmitted : envelope.Admitted faLocalCapabilities
      · refine .inr ?_
        by_cases hrun : envelope.plan.runId.utf8ByteSize ≤ 120
        · obtain ⟨utcNow, admission, hneg, hstate⟩ := hadmitted
          have hrepeat := run_delivers_declared { Fixture.gnatRun with utcNow := utcNow } utcNow
            (fun shardId => some (Fixture.gnatEnrichment shardId)) (fun _ _ => rfl)
            (hfits.mpr hrun) hneg hstate ""
          refine .inl ?_
          rw [← hrepeat]
          exact (h _ none utcNow _ [] _ rfl).once
        · exact .inr (Nat.lt_of_not_le hrun)
      · exact .inl hadmitted
    · intro h
      refine runsTellApart_of_distinct fun hadmitted hrun => ?_
      rcases h with h | h | h
      · exact absurd hadmitted h
      · exact h
      · exact absurd (hfits.mp hrun) (Nat.not_le_of_lt h)

theorem shards_told_apart_two :
    (Fixture.twoShards.Admitted .readyDefault → Fixture.twoShards.shardIds.Nodup) ∧
      RunsTellApart Fixture.twoShards .readyDefault :=
  (shards_told_apart_iff Fixture.twoShards_accepted .readyDefault).1.mpr (.inr (by decide +kernel))

end GnatDispatchPipelineService

namespace Fixture

/-- Two shards of different sources under one identifier. -/
def repeatedShard : GnatDispatchEnvelope := gnatEnvelope "gnat-run-fixture-001" [
  gnatShard "gnat-run-fixture-001-shard-0000" 0 .markdownSyntax "chapter-01" 'a',
  gnatShard "gnat-run-fixture-001-shard-0000" 1 .plainTextSyntax "note-plain" 'b']

end Fixture

namespace GnatDispatchPipelineService

/-- Both shards are delivered, with the local file of one enrichment. -/
theorem shards_not_told_apart_repeated :
    Fixture.repeatedShard.Accepted ∧
      (run Fixture.gnatRun Fixture.repeatedShard none (Fixture.at2030 600) .readyDefault
        Fixture.gnatEnrichments []).1.toBool = true ∧
      (deliveries (run Fixture.gnatRun Fixture.repeatedShard none (Fixture.at2030 600)
        .readyDefault Fixture.gnatEnrichments []).2).map
          (fun delivery => (delivery.1.shardId, delivery.1.sourceRef, delivery.1.localPath)) =
        [("gnat-run-fixture-001-shard-0000", "chapter-01", "/tmp/unused-chapter-01"),
          ("gnat-run-fixture-001-shard-0000", "note-plain", "/tmp/unused-chapter-01")] ∧
      ¬ ((deliveries (run Fixture.gnatRun Fixture.repeatedShard none (Fixture.at2030 600)
        .readyDefault Fixture.gnatEnrichments []).2).map (·.1.shardId)).Nodup := by
  decide +kernel

end GnatDispatchPipelineService

end FaLocal
