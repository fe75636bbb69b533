import FaLocal.GnatOrder
import FaLocal.GnatSchema

/-!
# What a Gnat run reports

Which events pass validation, which results the adapter of Cortex can produce, and
when a run reports all of them.
-/
namespace FaLocal

open GnatWorldEvent (deliveries records)

/-! ## Valid events -/

/-- A run identifier that the events take, which is bounded in bytes. -/
def RunIdFits (runId : String) : Prop := runId.isEmpty = false ∧ runId.utf8ByteSize ≤ 120

namespace GnatDispatchForensicEvent

/-- The fields that go with the type of an event. -/
def FieldsFit (event : GnatDispatchForensicEvent) : Prop :=
  match event.eventType with
  | .gnatDispatchNegotiated => event.shardId = none ∧ event.workerType = none ∧
      event.shardOutcome = none ∧ event.receiptState = none
  | .gnatShardDispatched => event.negotiationOutcome = .readyForFaLocalDispatch ∧
      event.shardId.isSome = true ∧ event.workerType.isSome = true ∧
      ∃ outcome, event.shardOutcome = some outcome ∧
        (event.receiptState.isSome = true ↔ outcome ≠ .dispatchUnavailable)

theorem requireSome_seq_eq_ok {β γ : Type} {value : Option β} {field : String}
    {f : β → FaLocalResult γ} {c : γ} :
    (requireSome value field >>= f) = .ok c ↔ ∃ b, value = some b ∧ f b = .ok c := by
  cases value with
  | none => simp [requireSome, bind, Except.bind]
  | some b => simp [requireSome, bind, Except.bind]

theorem validate_eq_ok {event : GnatDispatchForensicEvent} :
    event.validate = .ok () ↔
      (event.summary.isEmpty = false ∧ event.summary.toList.length ≤ 160) ∧
        RunIdFits event.runId ∧ event.payloadMinimized = true ∧ event.FieldsFit := by
  simp only [validate, seq_eq_ok, require_eq_ok, Bool.and_eq_true, Bool.not_eq_true',
    decide_eq_true_eq, RunIdFits]
  refine and_congr Iff.rfl (and_congr Iff.rfl (and_congr Iff.rfl ?_))
  rw [FieldsFit]
  cases event.eventType with
  | gnatDispatchNegotiated =>
    simp [seq_eq_ok, requireNone]
  | gnatShardDispatched =>
    simp only [seq_eq_ok, require_eq_ok, requireSome_seq_eq_ok, beq_iff_eq]
    refine and_congr Iff.rfl ?_
    constructor
    · rintro ⟨shardId, hs, worker, hw, outcome, ho, h⟩
      refine ⟨by simp [hs], by simp [hw], outcome, ho, ?_⟩
      cases outcome <;> cases hr : event.receiptState <;> simp_all [requireSome]
    · rintro ⟨hs, hw, outcome, ho, h⟩
      obtain ⟨shardId, hs⟩ := Option.isSome_iff_exists.mp hs
      obtain ⟨worker, hw⟩ := Option.isSome_iff_exists.mp hw
      refine ⟨shardId, hs, worker, hw, outcome, ho, ?_⟩
      cases outcome <;> cases hr : event.receiptState <;> simp_all [requireSome]

/-- An event can be built if it is valid. -/
theorem new_validated_returns {event : GnatDispatchForensicEvent} :
    (∃ v, (do let event ← GnatDispatchForensicEvent.new event; event.validated) = .ok v) ↔
      event.validate = .ok () := by
  simp only [new_validated_eq_ok]
  constructor
  · rintro ⟨v, rfl⟩
    exact v.valid
  · intro h
    exact ⟨⟨event, h⟩, rfl⟩

end GnatDispatchForensicEvent

/-! ## Receipts -/

/-- What `deliver_shard` makes of a receipt that it could parse. -/
def CortexSubprocessGnatShardAdapter.classifyReceipt (receipt : Value) : GnatShardDispatchResult :=
  match GnatDispatchPipelineService.stateText receipt with
  | some "complete" => .completed receipt
  | some _ => .notCompleted receipt
  | none => .dispatchUnavailable "Cortex Gnat shard runner produced a receipt with no state field"

namespace GnatShardDispatchResult

/-- A result that the adapter of Cortex can produce. -/
def Produced (result : GnatShardDispatchResult) : Prop :=
  (∃ receipt, result = CortexSubprocessGnatShardAdapter.classifyReceipt receipt) ∨
    ∃ summary, result = .dispatchUnavailable summary

/-- Every state that the receipt names is one of the four. -/
def Recognized (result : GnatShardDispatchResult) : Prop :=
  ∀ state, result.stateText = some state → state ∈ ["complete", "denied", "stale", "failed"]

instance : DecidablePred Recognized := fun result =>
  match h : result.stateText with
  | none => .isTrue fun state hs => by simp [h] at hs
  | some state =>
    decidable_of_iff (state ∈ ["complete", "denied", "stale", "failed"])
      ⟨fun hm other ho => by rw [h] at ho; cases ho; exact hm, fun hr => hr state h⟩

/-- The receipts of the adapter name a state. -/
theorem Produced.stateText_isSome {result : GnatShardDispatchResult} (h : result.Produced) :
    result.stateText.isSome = result.receipt.isSome := by
  rcases h with ⟨receipt, rfl⟩ | ⟨summary, rfl⟩
  · rw [CortexSubprocessGnatShardAdapter.classifyReceipt]
    split <;> rename_i hs <;> simp [stateText, GnatShardDispatchResult.receipt, hs]
  · rfl

end GnatShardDispatchResult

theorem GnatReceiptState.exists_serdeName_iff {name : String} :
    (∃ state : GnatReceiptState, state.serdeName = name) ↔
      name ∈ ["complete", "denied", "stale", "failed"] := by
  constructor
  · rintro ⟨state, rfl⟩
    cases state <;> decide
  · intro h
    simp only [List.mem_cons, List.not_mem_nil, or_false] at h
    rcases h with rfl | rfl | rfl | rfl
    · exact ⟨.complete, rfl⟩
    · exact ⟨.denied, rfl⟩
    · exact ⟨.stale, rfl⟩
    · exact ⟨.failed, rfl⟩

namespace GnatDispatchPipelineService

theorem buildNegotiationEvent_returns {freshEventId : ForensicEventId}
    {envelope : GnatDispatchEnvelope} {negotiationOutcome : GnatNegotiationOutcome}
    {summary : String} {now : TimestampUtc} :
    (∃ v, buildNegotiationEvent freshEventId envelope negotiationOutcome summary now = .ok v) ↔
      RunIdFits envelope.plan.runId := by
  refine GnatDispatchForensicEvent.new_validated_returns.trans ?_
  rw [GnatDispatchForensicEvent.validate_eq_ok]
  exact ⟨fun h => h.2.1, fun h => ⟨boundedSummary_fits _, h, rfl, rfl, rfl, rfl, rfl⟩⟩

theorem shardReport_returns (plainChar : Char → Bool) {result : GnatShardDispatchResult}
    (hproduced : result.Produced) :
    (∃ report, shardReport plainChar result = .ok report) ↔ result.Recognized := by
  have hsome := hproduced.stateText_isSome
  constructor
  · rintro ⟨report, h⟩ state hstate
    obtain ⟨-, -, hname⟩ := shardReport_eq_ok.mp h
    rw [hstate] at hname
    obtain ⟨s, -, hs⟩ := Option.map_eq_some_iff.mp hname
    exact GnatReceiptState.exists_serdeName_iff.mp ⟨s, hs⟩
  · intro h
    cases hstate : result.stateText with
    | none => exact ⟨(result.outcome, none), shardReport_eq_ok.mpr
        ⟨rfl, by rw [← hsome, hstate]; rfl, hstate.symm⟩⟩
    | some state =>
      obtain ⟨s, hs⟩ := GnatReceiptState.exists_serdeName_iff.mpr (h state hstate)
      exact ⟨(result.outcome, some s), shardReport_eq_ok.mpr
        ⟨rfl, by rw [← hsome, hstate]; rfl, by rw [hstate, ← hs]; rfl⟩⟩

theorem buildShardEvent_returns {plainChar : Char → Bool} {freshEventId : ForensicEventId}
    {envelope : GnatDispatchEnvelope} {request : GnatShardDispatchRequest}
    {result : GnatShardDispatchResult} {now : TimestampUtc} (hproduced : result.Produced) :
    (∃ v, buildShardEvent plainChar freshEventId envelope request result now = .ok v) ↔
      RunIdFits envelope.plan.runId ∧ result.Recognized := by
  rw [← shardReport_returns plainChar hproduced, buildShardEvent]
  cases hreport : shardReport plainChar result with
  | error e =>
    constructor
    · rintro ⟨v, ⟨⟩⟩
    · rintro ⟨-, report, ⟨⟩⟩
  | ok report =>
    obtain ⟨outcome, receiptState⟩ := report
    obtain ⟨houtcome, hreceipt, -⟩ := shardReport_eq_ok.mp hreport
    refine GnatDispatchForensicEvent.new_validated_returns.trans ?_
    rw [GnatDispatchForensicEvent.validate_eq_ok]
    refine ⟨fun h => ⟨h.2.1, _, rfl⟩, fun h => ⟨boundedSummary_fits _, h.1, rfl, rfl, rfl, rfl,
      outcome, rfl, ?_⟩⟩
    simp only at houtcome hreceipt
    rw [hreceipt, houtcome]
    cases result <;> simp [GnatShardDispatchResult.receipt, GnatShardDispatchResult.outcome]

end GnatDispatchPipelineService

/-! ## Runs -/

/-- The shard adapter answers its calls by a sequence of results. -/
def GnatRunEnvironment.answering (env : GnatRunEnvironment)
    (results : Nat → GnatShardDispatchResult) : GnatRunEnvironment :=
  { env with deliverShard := fun log _ => results (deliveries log).length }

def GnatDispatchRunOutcome.shardResults :
    GnatDispatchRunOutcome → List (String × GnatShardDispatchResult)
  | .dispatched _ shardResults => shardResults
  | _ => []

/-- The results of a sequence, each under the identifier of its shard. -/
def resultsOf (results : Nat → GnatShardDispatchResult) (index : Nat) (shardIds : List String) :
    List (String × GnatShardDispatchResult) :=
  (shardIds.zipIdx index).map fun shard => (shard.1, results shard.2)

namespace GnatDispatchPipelineService

section
variable {env : GnatRunEnvironment} {envelope : GnatDispatchEnvelope} {now : TimestampUtc}
  {results : Nat → GnatShardDispatchResult} {log later : List GnatWorldEvent}
  {requests : List GnatShardDispatchRequest}
  {pushed : List (GnatForensicRecordOutcome × String × GnatShardDispatchResult)}

theorem rounds_results
    (h : Traced.Rounds (Round (env.answering results) envelope none now) log requests (.ok pushed)
      later) :
    pushed.map Prod.snd =
      resultsOf results (deliveries log).length (requests.map (·.shardId)) := by
  refine Traced.Rounds.ok_induction (motive := fun log requests pushed _ =>
    pushed.map Prod.snd = resultsOf results (deliveries log).length (requests.map (·.shardId)))
    (fun _ => rfl) ?_ h
  intro log request served rest pushed entries later hround ih
  rw [GnatWorldEvent.deliveries_append, hround.deliveries_eq, List.length_append] at ih
  rw [List.map_cons, ih, hround.reports.1]
  rfl

theorem rounds_delivered {sink : Option GnatForensicEventExportAdapter}
    (h : Traced.Rounds (Round env envelope sink now) log requests (.ok pushed) later) :
    (deliveries later).map (fun delivery => (delivery.1.shardId, delivery.2)) =
      pushed.map Prod.snd := by
  rw [GnatWorldEvent.deliveries, List.map_filterMap]
  refine h.outputs fun _ _ _ entries hround => ?_
  rw [← List.map_filterMap, hround.reports.1]
  exact congrArg (List.map _) hround.deliveries_eq

theorem rounds_reported {sink : Option GnatForensicEventExportAdapter}
    (h : Traced.Rounds (Round env envelope sink now) log requests (.ok pushed) later) :
    List.Forall₂ (fun result record =>
      ReportsShard envelope result.1 result.2 record.event.event)
      (pushed.map Prod.snd) (pushed.map Prod.fst) := by
  have hreports := rounds_reports h
  rw [rounds_records h] at hreports
  rw [← rounds_delivered h, List.forall₂_map_left_iff]
  exact hreports

theorem not_pushed_none_error {event : ValidatedGnatDispatchForensicEvent} {error : Abort}
    {entries : List GnatWorldEvent} : ¬ Pushed none event (.error error) entries := by
  rintro (_ | _ | ⟨_, _, ⟨⟩⟩)

/-- Without a sink only an unrecognized receipt breaks the loop off. -/
theorem rounds_return_iff {r : FaLocalResult
      (List (GnatForensicRecordOutcome × String × GnatShardDispatchResult))}
    (hrun : RunIdFits envelope.plan.runId) (hproduced : ∀ i, (results i).Produced)
    (h : Traced.Rounds (Round (env.answering results) envelope none now) log requests r later) :
    (∃ pushed, r = .ok pushed) ↔
      ∀ i < requests.length, (results ((deliveries log).length + i)).Recognized := by
  induction h with
  | ended log => exact ⟨fun _ i hi => absurd hi (Nat.not_lt_zero i), fun _ => ⟨[], rfl⟩⟩
  | @next log request served rest r entries later hround _ ih =>
    have hfirst : (results (deliveries log).length).Recognized := by
      cases hround with
      | served he _ => exact ((buildShardEvent_returns (hproduced _)).mp ⟨_, he⟩).2
    have hreturns : (∃ pushed, r.map (served :: ·) = .ok pushed) ↔ ∃ pushed, r = .ok pushed := by
      cases r <;> simp [Except.map]
    rw [hreturns, ih, List.length_cons, Nat.forall_lt_succ_left, GnatWorldEvent.deliveries_append,
      hround.deliveries_eq, List.length_append, List.length_singleton]
    simp only [Nat.add_zero, hfirst, true_and, Nat.add_assoc, Nat.add_comm 1]
  | @broken log request rest e entries hround =>
    have hfirst : ¬ (results (deliveries log).length).Recognized := by
      intro hrec
      cases hround with
      | unreported he =>
        obtain ⟨v, hv⟩ := (buildShardEvent_returns (hproduced _)).mpr ⟨hrun, hrec⟩
        rw [GnatRunEnvironment.answering] at he
        exact absurd (he.symm.trans hv) (by simp)
      | refused hp => exact not_pushed_none_error hp
    constructor
    · rintro ⟨pushed, ⟨⟩⟩
    · intro hall
      exact absurd (hall 0 (Nat.succ_pos _)) hfirst

/-- The outcome of a run that returns: that of its negotiation, with a result for every
shard if there is dispatch. -/
inductive OutcomeOf (envelope : GnatDispatchEnvelope) (results : Nat → GnatShardDispatchResult) :
    Except DenialGuard GnatDispatchAdmission → GnatDispatchRunOutcome → Prop where
  | settled {negotiated : Except DenialGuard GnatDispatchAdmission}
      {outcome : GnatDispatchRunOutcome} : Settles negotiated outcome →
      OutcomeOf envelope results negotiated outcome
  | dispatched {admission : GnatDispatchAdmission} :
      admission.state = .readyForFaLocalDispatch →
      OutcomeOf envelope results (.ok admission) (.dispatched admission
        (resultsOf results 0 (envelope.plan.shards.map (·.shardId))))

/-- A run that returns reports its negotiation and the result of every delivery, each
by one valid event. -/
structure Reported (envelope : GnatDispatchEnvelope) (results : Nat → GnatShardDispatchResult)
    (negotiated : Except DenialGuard GnatDispatchAdmission) (r : GnatDispatchRunResult)
    (out : List GnatWorldEvent) : Prop where
  outcome : OutcomeOf envelope results negotiated r.outcome
  delivered : (deliveries out).map (fun delivery => (delivery.1.shardId, delivery.2)) =
    r.outcome.shardResults
  events : ∃ negotiation shardRecords, r.forensicEvents = negotiation :: shardRecords ∧
    ReportsNegotiation envelope (posture negotiated) negotiation.event.event ∧
    List.Forall₂ (fun result record => ReportsShard envelope result.1 result.2 record.event.event)
      r.outcome.shardResults shardRecords
  valid : ∀ record ∈ r.forensicEvents, record.event.event.validate = .ok ()

theorem not_settles_ready {admission : GnatDispatchAdmission} {outcome : GnatDispatchRunOutcome}
    (hstate : admission.state = .readyForFaLocalDispatch) : ¬ Settles (.ok admission) outcome := by
  rintro (_ | ⟨_, hserial⟩)
  rw [hstate] at hserial
  cases hserial

theorem runIdFits_of_reports {negotiationOutcome : GnatNegotiationOutcome}
    {event : ValidatedGnatDispatchForensicEvent}
    (h : ReportsNegotiation envelope negotiationOutcome event.event) :
    RunIdFits envelope.plan.runId := by
  rw [← h.runId]
  exact (GnatDispatchForensicEvent.validate_eq_ok.mp event.valid).2.1

theorem Settles.shardResults_eq {negotiated : Except DenialGuard GnatDispatchAdmission}
    {outcome : GnatDispatchRunOutcome} (h : Settles negotiated outcome) :
    outcome.shardResults = [] := by
  cases h <;> rfl

variable {faLocalCapabilities : GnatFaLocalCapabilityState}
  {shardEnrichments : String → Option GnatShardEnrichment} {entries : List GnatWorldEvent}

theorem requests_shardIds (h : buildShardRequests envelope shardEnrichments = .ok requests) :
    requests.map (·.shardId) = envelope.plan.shards.map (·.shardId) := by
  refine (List.forall₂_eq_eq_eq ▸ List.forall₂_map_left_iff.mpr
    (List.forall₂_map_right_iff.mpr ?_) : _ = _).symm
  exact (requests_declaredBy h).imp fun _ _ hd => hd.shardId.symm

theorem buildShardRequests_returns
    (h : ∀ shard ∈ envelope.plan.shards, (shardEnrichments shard.shardId).isSome = true) :
    ∃ requests, buildShardRequests envelope shardEnrichments = .ok requests := by
  simp only [buildShardRequests_eq_ok]
  generalize envelope.plan.shards = shards at h
  induction shards with
  | nil => exact ⟨[], .nil⟩
  | cons shard shards ih =>
    obtain ⟨hfirst, hrest⟩ := List.forall_mem_cons.mp h
    obtain ⟨enrichment, he⟩ := Option.isSome_iff_exists.mp hfirst
    obtain ⟨requests, hr⟩ := ih hrest
    exact ⟨_, .cons ⟨enrichment, he, rfl⟩ hr⟩

/-- What a run that returns has reported. -/
theorem trail_reported {r : GnatDispatchRunResult}
    (h : Trail (env.answering results) envelope none now faLocalCapabilities shardEnrichments []
      (.ok r) entries) :
    Reported envelope results
      (GnatDispatchValidator.negotiate env.utcNow envelope faLocalCapabilities) r entries := by
  generalize hr : (.ok r : FaLocalResult GnatDispatchRunResult) = x at h
  cases h with
  | unenriched _ => cases hr
  | unrecorded _ => cases hr
  | refused _ => cases hr
  | @settled outcome event record entries hsettles hrep hp =>
    cases hr
    have hresults : outcome.shardResults = [] := hsettles.shardResults_eq
    have hevent : record.event = event := hp.event_eq
    refine ⟨.settled hsettles, ?_, ⟨record, [], rfl, hevent ▸ hrep, ?_⟩, fun q _ => q.event.valid⟩
    · rw [hp.no_delivery]
      exact hresults.symm
    · simp only [hresults]
      exact .nil
  | @dispatched requests admission event record entries later r hrequests hneg hstate hrep hp
      hrounds =>
    cases r with
    | error e => cases hr
    | ok pushed =>
      cases hr
      have hquiet := hp.no_delivery
      have hresults := rounds_results hrounds
      rw [List.nil_append, hquiet, requests_shardIds hrequests] at hresults
      have hneg' : GnatDispatchValidator.negotiate env.utcNow envelope faLocalCapabilities =
          .ok admission := hneg
      rw [hneg']
      have hdispatched : OutcomeOf envelope results (.ok admission)
          (.dispatched admission (pushed.map Prod.snd)) := by
        rw [hresults]
        exact .dispatched hstate
      refine ⟨hdispatched, ?_, ⟨record, pushed.map Prod.fst, rfl, ?_, rounds_reported hrounds⟩,
        fun q _ => q.event.valid⟩
      · rw [GnatWorldEvent.deliveries_append, hquiet, List.nil_append]
        exact rounds_delivered hrounds
      · rw [posture, hstate, hp.event_eq]
        exact hrep

/-- The schema bounds the identifier of a run in characters only. -/
theorem runIdFits_iff (haccepted : envelope.Accepted) :
    RunIdFits envelope.plan.runId ↔ envelope.plan.runId.utf8ByteSize ≤ 120 := by
  refine and_iff_right ?_
  have hlength := (GnatDispatchEnvelopeSchema.envelope_accepted_iff.mp haccepted).plan.runId.1
  rw [Bool.eq_false_iff, ne_eq, String.isEmpty_iff]
  intro hempty
  rw [hempty] at hlength
  exact absurd hlength (by decide)

/-- With an enrichment for every shard, a run without a sink returns if the events take
its identifier and the receipts that it is given are recognized. -/
theorem trail_returns_iff {r : FaLocalResult GnatDispatchRunResult}
    (henriched : ∀ shard ∈ envelope.plan.shards, (shardEnrichments shard.shardId).isSome = true)
    (hproduced : ∀ i, (results i).Produced)
    (h : Trail (env.answering results) envelope none now faLocalCapabilities shardEnrichments []
      r entries) :
    (∃ result, r = .ok result) ↔ RunIdFits envelope.plan.runId ∧
      ∀ admission, GnatDispatchValidator.negotiate env.utcNow envelope faLocalCapabilities =
          .ok admission →
        admission.state = .readyForFaLocalDispatch →
        ∀ i < envelope.plan.shards.length, (results i).Recognized := by
  cases h with
  | unenriched he =>
    obtain ⟨requests, hr⟩ := buildShardRequests_returns henriched
    rw [hr] at he
    cases he
  | unrecorded he =>
    constructor
    · rintro ⟨result, ⟨⟩⟩
    · rintro ⟨hrun, -⟩
      obtain ⟨v, hv⟩ := buildNegotiationEvent_returns.mpr hrun
      exact absurd (he.symm.trans hv) (by simp)
  | refused hp => exact absurd hp not_pushed_none_error
  | settled hsettles hrep hp =>
    refine ⟨fun _ => ⟨runIdFits_of_reports hrep, fun admission hneg hstate => ?_⟩,
      fun _ => ⟨_, rfl⟩⟩
    have hneg' : GnatDispatchValidator.negotiate (env.answering results).utcNow envelope
        faLocalCapabilities = .ok admission := hneg
    rw [hneg'] at hsettles
    exact absurd hsettles (not_settles_ready hstate)
  | @dispatched requests admission event record entries later r hrequests hneg hstate hrep hp
      hrounds =>
    have hrun := runIdFits_of_reports hrep
    have hlength : requests.length = envelope.plan.shards.length :=
      (requests_declaredBy hrequests).length_eq.symm
    have hreturns : (∃ result : GnatDispatchRunResult, r.map (fun pushed =>
        { outcome := .dispatched admission (pushed.map Prod.snd),
          forensicEvents := record :: pushed.map Prod.fst }) = .ok result) ↔
        ∃ pushed, r = .ok pushed := by
      cases r <;> simp [Except.map]
    have hall := rounds_return_iff hrun hproduced hrounds
    rw [List.nil_append, hp.no_delivery, hlength] at hall
    rw [hreturns, hall]
    simp only [List.length_nil, Nat.zero_add]
    exact ⟨fun h => ⟨hrun, fun _ _ _ => h⟩, fun h => h.2 admission hneg hstate⟩

end

/-- A run of an accepted envelope reports everything exactly if its identifier is no
longer than 120 bytes and, once it is admitted, every receipt names one of the four states. -/
theorem run_reported_iff (env : GnatRunEnvironment) {envelope : GnatDispatchEnvelope}
    (now : TimestampUtc) (faLocalCapabilities : GnatFaLocalCapabilityState)
    {shardEnrichments : String → Option GnatShardEnrichment}
    {results : Nat → GnatShardDispatchResult} (haccepted : envelope.Accepted)
    (henriched : ∀ shard ∈ envelope.plan.shards, (shardEnrichments shard.shardId).isSome = true)
    (hproduced : ∀ i, (results i).Produced) :
    (∃ r out, run (env.answering results) envelope none now faLocalCapabilities shardEnrichments
        [] = (.ok r, out) ∧
      Reported envelope results
        (GnatDispatchValidator.negotiate env.utcNow envelope faLocalCapabilities) r out) ↔
    envelope.plan.runId.utf8ByteSize ≤ 120 ∧
      ∀ admission, GnatDispatchValidator.negotiate env.utcNow envelope faLocalCapabilities =
          .ok admission →
        admission.state = .readyForFaLocalDispatch →
        ∀ i < envelope.plan.shards.length, (results i).Recognized := by
  obtain ⟨entries, hout, htrail⟩ :=
    @run_trail (env.answering results) envelope none now faLocalCapabilities shardEnrichments []
  have hreturns := trail_returns_iff henriched hproduced htrail
  rw [runIdFits_iff haccepted] at hreturns
  rw [← hreturns]
  constructor
  · rintro ⟨r, out, hrun, -⟩
    exact ⟨r, by rw [hrun]⟩
  · rintro ⟨r, hr⟩
    rw [hr] at htrail
    exact ⟨r, entries, Prod.ext hr hout, trail_reported htrail⟩

end GnatDispatchPipelineService

namespace Fixture

theorem twoShards_accepted : twoShards.Accepted := by decide +kernel

def receiptOf (state : String) : Value := .object [("state", .string state)]

def staleReceipts (_ : Nat) : GnatShardDispatchResult :=
  CortexSubprocessGnatShardAdapter.classifyReceipt (receiptOf "stale")

/-- The first receipt names a state of its own. -/
def retryingFirst (index : Nat) : GnatShardDispatchResult :=
  CortexSubprocessGnatShardAdapter.classifyReceipt
    (receiptOf (if index = 0 then "retrying" else "complete"))

end Fixture

namespace GnatDispatchPipelineService

theorem run_reported_stale : ∃ r out,
    run (Fixture.gnatRun.answering Fixture.staleReceipts) Fixture.twoShards none
      (Fixture.at2030 600) .readyDefault Fixture.gnatEnrichments [] = (.ok r, out) ∧
    Reported Fixture.twoShards Fixture.staleReceipts
      (GnatDispatchValidator.negotiate Fixture.gnatRun.utcNow Fixture.twoShards .readyDefault)
      r out :=
  (run_reported_iff Fixture.gnatRun (Fixture.at2030 600) .readyDefault
    Fixture.twoShards_accepted (by decide +kernel) fun _ => .inl ⟨_, rfl⟩).mpr
      ⟨by decide +kernel, fun _ _ _ _ _ => by decide +kernel⟩

/-- The run throws at the first of two shards and delivers nothing more. -/
theorem run_not_reported_retrying :
    Fixture.twoShards.Accepted ∧
      (∀ shard ∈ Fixture.twoShards.plan.shards,
        (Fixture.gnatEnrichments shard.shardId).isSome = true) ∧
      (∀ i, (Fixture.retryingFirst i).Produced) ∧
      (deliveries (run (Fixture.gnatRun.answering Fixture.retryingFirst) Fixture.twoShards none
        (Fixture.at2030 600) .readyDefault Fixture.gnatEnrichments []).2).length = 1 ∧
      ¬ ∃ r out, run (Fixture.gnatRun.answering Fixture.retryingFirst) Fixture.twoShards none
        (Fixture.at2030 600) .readyDefault Fixture.gnatEnrichments [] = (.ok r, out) := by
  refine ⟨Fixture.twoShards_accepted, by decide +kernel, fun _ => .inl ⟨_, rfl⟩,
    by decide +kernel, ?_⟩
  rintro ⟨r, out, h⟩
  have hthrows : (run (Fixture.gnatRun.answering Fixture.retryingFirst) Fixture.twoShards none
      (Fixture.at2030 600) .readyDefault Fixture.gnatEnrichments []).1.toBool = false := by
    decide +kernel
  rw [h] at hthrows
  cases hthrows

end GnatDispatchPipelineService

end FaLocal
