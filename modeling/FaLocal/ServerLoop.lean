import FaLocal.HttpServer

/-!
# The serving loop

`run_server` on everything that can reach it: signals, and rounds with a request or
without one. Every record it sends was answered by a lookup in the registry as it was
then, and a caller without a token sees the same answers over all files.
-/
namespace FaLocal.HttpServer

/-- What `run_server` holds between two rounds. -/
structure Listener where
  service : ServeService
  reloadRequested : Bool

/-- A `SIGHUP`, or a round of the loop: what a reload finds on the disk, and what
`recv_timeout` returns. -/
inductive Arrival where
  | hangup
  | round (disk : Disk) (received : Option Request)

def Arrival.request : Arrival → Option Request
  | .hangup => none
  | .round _ received => received

section
variable {κ : Type} (tools : JsonTools) (jwt : Jwt κ) (times : DateTimes)
  (publicKeys : PublicKeys)

/-- The service that answers in this round. -/
def Listener.current (listener : Listener) (disk : Disk) : ServeService :=
  if listener.reloadRequested then (listener.service.reload tools disk).2 else listener.service

def Listener.next (listener : Listener) : Arrival → Listener
  | .hangup => { listener with reloadRequested := true }
  | .round disk _ => { service := listener.current tools disk, reloadRequested := false }

def Listener.answer (listener : Listener) : Arrival → Option Response
  | .hangup => none
  | .round disk received =>
    received.map fun request => buildResponse jwt times request publicKeys
      (listener.current tools disk)

def runServer (listener : Listener) : List Arrival → List Response
  | [] => []
  | arrival :: rest =>
    (listener.answer tools jwt times publicKeys arrival).toList ++
      runServer (listener.next tools arrival) rest

end

section
variable {κ : Type} {tools : JsonTools} {jwt : Jwt κ} {times : DateTimes}
  {publicKeys : PublicKeys}

/-- Requests that do not pass are answered alike whatever is loaded, and when. -/
theorem runServer_refused (listener : Listener) (arrivals : List Arrival)
    (h : ∀ request ∈ arrivals.filterMap Arrival.request,
      ∀ capabilityId, ¬ Admitted jwt request publicKeys capabilityId) (service : ServeService) :
    runServer tools jwt times publicKeys listener arrivals =
      (arrivals.filterMap Arrival.request).map fun request =>
        buildResponse jwt times request publicKeys service := by
  induction arrivals generalizing listener with
  | nil => rfl
  | cons arrival rest ih =>
    cases arrival with
    | hangup => exact ih _ h
    | round disk received =>
      cases received with
      | none => exact ih _ h
      | some request =>
        have hrest := ih (listener.next tools (.round disk (some request))) fun other hother =>
          h other (List.mem_cons_of_mem request hother)
        have hhead : buildResponse jwt times request publicKeys (listener.current tools disk) =
            buildResponse jwt times request publicKeys service :=
          buildResponse_refused (h request List.mem_cons_self) service
        rw [runServer, hrest, Listener.answer, Option.map_some, hhead]
        rfl

/-- Two runs with the same requests, none of which passes: the answers do not tell the
files, the signals or the registries apart. -/
theorem runServer_blind {listener listener' : Listener} {arrivals arrivals' : List Arrival}
    {tools' : JsonTools}
    (hsame : arrivals.filterMap Arrival.request = arrivals'.filterMap Arrival.request)
    (h : ∀ request ∈ arrivals.filterMap Arrival.request,
      ∀ capabilityId, ¬ Admitted jwt request publicKeys capabilityId) :
    runServer tools jwt times publicKeys listener arrivals =
      runServer tools' jwt times publicKeys listener' arrivals' := by
  rw [runServer_refused listener arrivals h listener.service,
    runServer_refused listener' arrivals' (hsame ▸ h) listener.service, hsame]

/-- Without keys, a loaded registry shows as little as a missing one. -/
theorem runServer_blind_keyless :
    runServer Fixture.jsonTools Fixture.jwt Fixture.provenanceTimes [] ⟨⟨none⟩, false⟩
        [.round Fixture.missingFile (some Fixture.recordRequest)] =
      runServer Fixture.jsonTools Fixture.jwt Fixture.provenanceTimes []
        ⟨⟨some Fixture.registry⟩, true⟩
        [.hangup, .round Fixture.disk (some Fixture.recordRequest), .round Fixture.disk none] := by
  refine runServer_blind rfl fun request hm capabilityId hadmitted => ?_
  obtain rfl := List.mem_singleton.mp hm
  cases hadmitted.authorized

/-! ## The registry of a round -/

def Arrival.isHangup : Arrival → Bool
  | .hangup => true
  | .round _ _ => false

/-- What the loop holds behind some arrivals. -/
def Listener.afterAll (tools : JsonTools) (listener : Listener) (arrivals : List Arrival) :
    Listener :=
  arrivals.foldl (Listener.next tools) listener

/-- The registries that could be loaded in the rounds right behind a signal. -/
def reloaded (tools : JsonTools) (requested : Bool) (arrivals : List Arrival) :
    List CapabilityRegistry :=
  ((requested :: arrivals.map Arrival.isHangup).zip arrivals).filterMap fun
    | (true, .round disk _) => (loadRegistryFromFile tools disk).toOption
    | _ => none

theorem runServer_append (listener : Listener) (before after : List Arrival) :
    runServer tools jwt times publicKeys listener (before ++ after) =
      runServer tools jwt times publicKeys listener before ++
        runServer tools jwt times publicKeys (listener.afterAll tools before) after := by
  induction before generalizing listener with
  | nil => rfl
  | cons arrival rest ih =>
    rw [List.cons_append, runServer, runServer, ih, List.append_assoc]
    rfl

theorem current_registry (tools : JsonTools) (listener : Listener) (disk : Disk)
    (received : Option Request) : (listener.current tools disk).registry =
      (reloaded tools listener.reloadRequested [.round disk received]).getLast?.or
        listener.service.registry := by
  obtain ⟨service, reloadRequested⟩ := listener
  cases reloadRequested with
  | false => rfl
  | true =>
    have hone : reloaded tools true [.round disk received] =
        [(loadRegistryFromFile tools disk).toOption].filterMap id := by
      rw [reloaded]
      cases hload : (loadRegistryFromFile tools disk).toOption <;> simp [hload]
    rw [hone, Listener.current, ServeService.reload]
    cases loadRegistryFromFile tools disk <;> rfl

/-- By induction on the arrivals: a round without a signal in front of it changes nothing. -/
theorem afterAll_registry (tools : JsonTools) (listener : Listener) (arrivals : List Arrival) :
    (listener.afterAll tools arrivals).service.registry =
      (reloaded tools listener.reloadRequested arrivals).getLast?.or
        listener.service.registry := by
  induction arrivals generalizing listener with
  | nil => rfl
  | cons arrival rest ih =>
    have hsplit : reloaded tools listener.reloadRequested (arrival :: rest) =
        reloaded tools listener.reloadRequested [arrival] ++
          reloaded tools arrival.isHangup rest := by
      simp only [reloaded, List.map_cons, List.zip_cons_cons, List.filterMap_cons]
      split <;> simp
    rw [Listener.afterAll, List.foldl_cons, ← Listener.afterAll, ih, hsplit, List.getLast?_append,
      Option.or_assoc]
    cases arrival with
    | hangup =>
      cases hrequested : listener.reloadRequested <;> rfl
    | round disk received =>
      rw [← current_registry]
      rfl

/-- A request is answered over the last registry that could be loaded right behind a signal, or
over the first one: a reload that fails changes nothing, and neither does a file without a
signal. -/
theorem runServer_lastGood (tools : JsonTools) (jwt : Jwt κ) (times : DateTimes)
    (publicKeys : PublicKeys) (listener : Listener) (before after : List Arrival) (disk : Disk)
    (request : Request) :
    runServer tools jwt times publicKeys listener (before ++ .round disk (some request) :: after) =
      runServer tools jwt times publicKeys listener before ++
        buildResponse jwt times request publicKeys ⟨(reloaded tools listener.reloadRequested
          (before ++ [.round disk (some request)])).getLast?.or listener.service.registry⟩ ::
        runServer tools jwt times publicKeys
          (listener.afterAll tools (before ++ [.round disk (some request)])) after := by
  have hlast : listener.afterAll tools (before ++ [.round disk (some request)]) =
      (listener.afterAll tools before).next tools (.round disk (some request)) :=
    List.foldl_append
  rw [runServer_append, runServer, ← afterAll_registry, hlast]
  rfl

/-! ## The loop as a run of calls -/

open Versions

/-- The calls of the loop come one after another. -/
abbrev History := List (ServeService.Event Unit)

/-- A response with a record answers a lookup of the history. -/
def Answered (times : DateTimes) (history : History) (response : Response) : Prop :=
  response.status = 200 → ∃ capabilityId record,
    .answered () capabilityId (.found record) ∈ history ∧
    response = jsonResponse 200 (record.toValue times)

theorem current_run (tools : JsonTools) (listener : Listener) (disk : Disk) :
    ∃ history : History, (ServeService.cell tools).Run (.idle listener.service.registry) history
      (.idle (listener.current tools disk).registry) ∧
      ∀ source, .loaded () source ∈ history → source = disk := by
  rw [Listener.current]
  split
  · obtain ⟨history, hrun, hloaded, -⟩ := ServeService.reload_run tools disk listener.service ()
    exact ⟨history, hrun, hloaded ()⟩
  · exact ⟨[], .nil _, by simp⟩

theorem buildResponse_run (tools : JsonTools) (jwt : Jwt κ) (times : DateTimes)
    (request : Request) (publicKeys : PublicKeys) (service : ServeService) :
    ∃ history : History, (ServeService.cell tools).Run (.idle service.registry) history
      (.idle service.registry) ∧ (∀ source, .loaded () source ∉ history) ∧
      Answered times history (buildResponse jwt times request publicKeys service) := by
  rw [buildResponse_screen]
  cases hscreen : screen jwt request publicKeys with
  | error response =>
    exact ⟨[], .nil _, by simp, fun h => absurd h (screen_error_status hscreen)⟩
  | ok capabilityId =>
    obtain ⟨looks, hrun⟩ := ServeService.lookup_run tools service () capabilityId
    refine ⟨_, hrun, by simp [List.mem_replicate], fun h => ?_⟩
    obtain ⟨record, hfound⟩ := respond_ok h
    exact ⟨capabilityId, record, by simp [hfound], congrArg (respond times) hfound⟩

theorem Answered.mono {history later : History} {response : Response}
    (h : Answered times history response) (hsub : history ⊆ later) :
    Answered times later response := by
  intro hok
  obtain ⟨capabilityId, record, hmem, hresponse⟩ := h hok
  exact ⟨capabilityId, record, hsub hmem, hresponse⟩

theorem round_run (tools : JsonTools) (jwt : Jwt κ) (times : DateTimes) (publicKeys : PublicKeys)
    (listener : Listener) (arrival : Arrival) :
    ∃ history : History, (ServeService.cell tools).Run (.idle listener.service.registry) history
      (.idle (listener.next tools arrival).service.registry) ∧
      (∀ source, .loaded () source ∈ history → ∃ received, arrival = .round source received) ∧
      ∀ response ∈ listener.answer tools jwt times publicKeys arrival,
        Answered times history response := by
  cases arrival with
  | hangup => exact ⟨[], .nil _, by simp, by simp [Listener.answer]⟩
  | round disk received =>
    obtain ⟨before, hbefore, hloaded⟩ := current_run tools listener disk
    cases received with
    | none =>
      refine ⟨before, hbefore, fun source hmem => ?_, by simp [Listener.answer]⟩
      exact ⟨none, by rw [hloaded source hmem]⟩
    | some request =>
      obtain ⟨after, hafter, hnone, hanswered⟩ := buildResponse_run tools jwt times request
        publicKeys (listener.current tools disk)
      refine ⟨before ++ after, Cell.run_append_iff.mpr ⟨_, hbefore, hafter⟩, fun source hmem => ?_,
        ?_⟩
      · rcases List.mem_append.mp hmem with hreload | hlookup
        · exact ⟨some request, by rw [hloaded source hreload]⟩
        · exact absurd hlookup (hnone source)
      · rintro response ⟨⟩
        exact hanswered.mono (List.subset_append_right before after)

/-- Every run of the loop is a run of reloads and lookups, and every record it sends was
answered by one of the lookups. -/
theorem runServer_run (tools : JsonTools) (jwt : Jwt κ) (times : DateTimes)
    (publicKeys : PublicKeys) (listener : Listener) (arrivals : List Arrival) :
    ∃ (history : History) (state : ServeService.State Unit),
      (ServeService.cell tools).Run (.idle listener.service.registry) history state ∧
      (∀ source, .loaded () source ∈ history → ∃ received, .round source received ∈ arrivals) ∧
      ∀ response ∈ runServer tools jwt times publicKeys listener arrivals,
        Answered times history response := by
  induction arrivals generalizing listener with
  | nil => exact ⟨[], _, .nil _, by simp, by simp [runServer]⟩
  | cons arrival rest ih =>
    obtain ⟨before, hbefore, hsource, hround⟩ :=
      round_run tools jwt times publicKeys listener arrival
    obtain ⟨after, state, hafter, hsources, hrest⟩ := ih (listener.next tools arrival)
    refine ⟨before ++ after, state, Cell.run_append_iff.mpr ⟨_, hbefore, hafter⟩, ?_, ?_⟩
    · intro source hmem
      rcases List.mem_append.mp hmem with hhead | htail
      · obtain ⟨received, rfl⟩ := hsource source hhead
        exact ⟨received, List.mem_cons_self⟩
      · obtain ⟨received, hlater⟩ := hsources source htail
        exact ⟨received, List.mem_cons_of_mem arrival hlater⟩
    · intro response hresponse
      rw [runServer, List.mem_append, Option.mem_toList] at hresponse
      rcases hresponse with hhead | htail
      · exact (hround response hhead).mono (List.subset_append_left before after)
      · exact (hrest response htail).mono (List.subset_append_right before after)

/-- After a load, every record that the loop sends is the first one of its identifier in a
registry that the file held at the start or in one of the rounds. -/
theorem runServer_held {disk : Disk} {listener : Listener} {arrivals : List Arrival}
    {response : Response} (hload : ServeService.load tools disk = .ok listener.service)
    (hmem : response ∈ runServer tools jwt times publicKeys listener arrivals)
    (hok : response.status = 200) :
    ∃ source registry capabilityId record,
      (source = disk ∨ ∃ received, .round source received ∈ arrivals) ∧
      loadRegistryFromFile tools source = .ok registry ∧
      registry.FirstRecord capabilityId record ∧
      response = jsonResponse 200 (record.toValue times) := by
  obtain ⟨history, state, hrun, hsources, hanswered⟩ :=
    runServer_run tools jwt times publicKeys listener arrivals
  obtain ⟨capabilityId, record, hlookup, hresponse⟩ := hanswered response hmem hok
  obtain ⟨before, after, rfl⟩ := List.append_of_mem hlookup
  obtain ⟨registry, -, ⟨source, hsource, hfile⟩, hfirst⟩ := ServeService.run_answer hload hrun
  refine ⟨source, registry, capabilityId, record, ?_, hfile, hfirst, hresponse⟩
  rcases hsource with hdisk | ⟨⟨⟩, hloaded⟩
  · exact .inl hdisk
  · exact .inr (hsources source (List.mem_append_left _ hloaded))

end

end FaLocal.HttpServer
