import SettlementOracle.Inventory.AttestTrail
import SettlementOracle.Inventory.Quality

/-! What the cache serves. Every entry goes back to a run of the handler for the
subject in its key, and it is served while it is young. -/
namespace SettlementOracle

open Checked

section Clock

variable {F : FloatFormat} {service : InventoryAttestationState} {s s' : AttestState F}
  {action : AttestAction} {actions : List AttestAction} {now : Nat} {subject : Subject}
  {entry : CachedInventoryAttestation F} {entries entries' : CacheEntries F}
  {phase phase' : AttestPhase F} {event : AttestEvent}

/-- The stamp of a request is not in the future. -/
def AttestPhase.StampedBy (now : Nat) : AttestPhase F → Prop
  | .stamped entry | .inserted entry => entry.insertedAt ≤ now
  | _ => True

theorem AttestPhase.StampedBy.mono {later : Nat} (h : phase.StampedBy now) (hLater : now ≤ later) :
    phase.StampedBy later := by
  cases phase with
  | stamped entry | inserted entry => exact Nat.le_trans h hLater
  | _ => trivial

theorem AttestMove.stampedBy
    (h : AttestMove service now entries subject phase event phase' entries')
    (hBefore : phase.StampedBy now) : phase'.StampedBy now := by
  cases h with
  | stamp => exact Nat.le_refl now
  | insert => exact hBefore
  | _ => trivial

theorem now_le_of_attestStep (h : attestStep service s action = some s') : s.now ≤ s'.now := by
  cases action with
  | tick elapsed =>
      cases h
      exact Nat.le_add_right ..
  | evict | attest =>
      cases h
      exact Nat.le_refl _
  | stepAttest index event =>
      obtain ⟨_, _, _, _, _, _, rfl⟩ := move_of_attestStep h
      exact Nat.le_refl _

theorem now_le_of_run (h : run (attestStep service) s actions = some s') : s.now ≤ s'.now :=
  run_relation (R := fun a b => a.now ≤ b.now) (fun _ => Nat.le_refl _) Nat.le_trans
    (fun _ _ _ => now_le_of_attestStep) h

theorem stampedBy_of_attestStep (hStep : attestStep service s action = some s')
    (h : ∀ request ∈ s.requests, request.phase.StampedBy s.now) :
    ∀ request ∈ s'.requests, request.phase.StampedBy s'.now := by
  cases action with
  | tick elapsed =>
      cases hStep
      exact fun request hMem => (h request hMem).mono (Nat.le_add_right ..)
  | evict =>
      cases hStep
      exact h
  | attest subject =>
      cases hStep
      intro request hMem
      rcases List.mem_append.mp hMem with hOld | hNew
      · exact h request hOld
      · obtain rfl := List.mem_singleton.mp hNew
        trivial
  | stepAttest index event =>
      obtain ⟨_, _, _, _, hRequest, hMove, rfl⟩ := move_of_attestStep hStep
      intro request hMem
      rcases List.mem_or_eq_of_mem_set hMem with hOld | rfl
      · exact h request hOld
      · exact hMove.stampedBy (h _ (List.mem_of_getElem? hRequest))

theorem stampedBy_of_run (h : run (attestStep service) (AttestState.start F) actions = some s) :
    ∀ request ∈ s.requests, request.phase.StampedBy s.now :=
  run_invariant (P := fun s : AttestState F => ∀ request ∈ s.requests, request.phase.StampedBy s.now)
    (fun _ _ _ hBefore hStep => stampedBy_of_attestStep hStep hBefore)
    (fun _ hMem => absurd hMem List.not_mem_nil) h

/-- A request has inserted its entry by its own insertion. -/
theorem insertion_of_attestStep {index : Nat} (h : attestStep service s action = some s')
    (hBefore : s.requests[index]? ≠ some ⟨subject, .inserted entry⟩)
    (hAfter : s'.requests[index]? = some ⟨subject, .inserted entry⟩) :
    action = .stepAttest index .insert ∧ s.requests[index]? = some ⟨subject, .stamped entry⟩ := by
  cases action with
  | tick | evict =>
      cases h
      exact absurd hAfter hBefore
  | attest =>
      cases h
      obtain hOld | hNew := getElem?_push_cases hAfter
      · exact absurd hOld hBefore
      · cases hNew
  | stepAttest other event =>
      obtain ⟨_, _, _, _, hRequest, hMove, rfl⟩ := move_of_attestStep h
      obtain ⟨rfl, hNew⟩ | hOld := getElem?_set_cases hAfter
      · cases hNew
        cases hMove with
        | insert => exact ⟨rfl, hRequest⟩
      · exact absurd hOld hBefore

end Clock

section Soundness

variable {F : FloatFormat} {service : InventoryAttestationState} {s s' : AttestState F}
  {actions before : List AttestAction} {index : Nat} {subject : Subject}
  {phase : AttestPhase F} {entry : CachedInventoryAttestation F}
  {response : InventoryAttestationSuccess F}

/-- Request `index` inserted the entry for the subject at this time of the run. -/
def InsertedAt (service : InventoryAttestationState) (actions : List AttestAction) (index : Nat)
    (subject : Subject) (entry : CachedInventoryAttestation F) (time : Nat) : Prop :=
  ∃ s s', Takes (attestStep service) (AttestState.start F) actions s
      (.stepAttest index .insert) s' ∧
    s.requests[index]? = some ⟨subject, .stamped entry⟩ ∧ s.now = time

/-- The action is a step of the request, its arrival included. -/
def AttestState.owns (s : AttestState F) (index : Nat) : AttestAction → Prop
  | .attest _ => s.requests.length = index
  | .stepAttest other _ => other = index
  | _ => False

/-- The step inserts and alters nothing, and removes nothing that is young enough. -/
def KeepsEntries (ttl : Nat) (s s' : AttestState F) : Prop :=
  (∀ key entry, s'.entries key = some entry → s.entries key = some entry) ∧
    ∀ key entry, s.entries key = some entry → s.now ≤ entry.insertedAt + ttl →
      s'.entries key = some entry

theorem insertedAt_of_run
    (hRun : run (attestStep service) (AttestState.start F) actions = some s)
    (hRequest : s.requests[index]? = some ⟨subject, .inserted entry⟩) :
    ∃ time, InsertedAt service actions index subject entry time ∧ entry.insertedAt ≤ time ∧
      time ≤ s.now := by
  obtain ⟨s₁, action, s₂, hTakes, hBefore, hAfter⟩ :=
    exists_takes (P := fun s => s.requests[index]? = some ⟨subject, .inserted entry⟩) hRun nofun
      hRequest
  obtain ⟨hVisits, _⟩ := hTakes.visits
  obtain ⟨_, _, _, hPrefix, hStep⟩ := id hTakes
  obtain ⟨rfl, hStamped⟩ := insertion_of_attestStep hStep hBefore hAfter
  obtain ⟨rest, hRest⟩ := hVisits.run_rest hRun
  have hBound := stampedBy_of_run hPrefix _ (List.mem_of_getElem? hStamped)
  exact ⟨s₁.now, ⟨s₁, s₂, hTakes, hStamped, rfl⟩, hBound, now_le_of_run hRest⟩

/-- What a lookup serves is a young entry under the key of its subject. -/
theorem entry_of_served
    (hStep : attestStep service s (.stepAttest index .lookUp) = some s')
    (hServed : s'.requests[index]? = some ⟨subject, .served response⟩) :
    ∃ entry, s.entries (cacheKey subject) = some entry ∧ entry.response = response ∧
      s.now ≤ entry.insertedAt + service.ttl := by
  obtain ⟨owner, phase, phase', entries', hRequest, hMove, rfl⟩ := move_of_attestStep hStep
  have hIndex : index < s.requests.length := (List.getElem?_eq_some_iff.mp hRequest).1
  cases (List.getElem?_set_self hIndex).symm.trans hServed
  cases hMove with
  | @serve entry hEntry hYoung => exact ⟨entry, hEntry, rfl, hYoung⟩

theorem Attested.assetId {later : List AttestAction}
    (h : Attested service actions subject index response later) :
    response.assetId = toString subject.2 := by
  obtain ⟨_, _, _, _, _, _, hBuilt⟩ := h
  exact assetId_of_buildAttestationResponse hBuilt

/-- A response from the cache was made for the subject that asks, and is young. -/
theorem served_sound (hRun : run (attestStep service) (AttestState.start F) before = some s)
    (hStep : attestStep service s (.stepAttest index .lookUp) = some s')
    (hServed : s'.requests[index]? = some ⟨subject, .served response⟩) :
    ∃ entry owner time, entry.response = response ∧
      Attested service before subject owner response
        [.stepAttest owner .stamp, .stepAttest owner .insert] ∧
      response.assetId = toString subject.2 ∧
      InsertedAt service before owner subject entry time ∧
      time ≤ s.now ∧ s.now ≤ time + service.ttl ∧
      ∀ s₀, Visits (attestStep service) (AttestState.start F) before s₀ →
        s₀.now ≤ entry.insertedAt + service.ttl := by
  obtain ⟨entry, hEntry, rfl, hYoung⟩ := entry_of_served hStep hServed
  obtain ⟨owner, hRequest, hAttested⟩ := (attestTrailInv_of_run hRun).attested hEntry
  obtain ⟨time, hInserted, hStamp, hTime⟩ := insertedAt_of_run hRun hRequest
  refine ⟨entry, owner, time, rfl, hAttested, hAttested.assetId, hInserted, hTime, by omega, ?_⟩
  intro s₀ hVisits
  obtain ⟨rest, hRest⟩ := hVisits.run_rest hRun
  exact Nat.le_trans (now_le_of_run hRest) hYoung

/-- A request that has not inserted an entry has kept the cache. -/
theorem keepsEntries_of_not_inserted
    (hRun : run (attestStep service) (AttestState.start F) actions = some s)
    (hRequest : s.requests[index]? = some ⟨subject, phase⟩)
    (hOpen : ∀ entry, phase ≠ .inserted entry) {s₁ s₂ : AttestState F} {action : AttestAction}
    (hTakes : Takes (attestStep service) (AttestState.start F) actions s₁ action s₂)
    (hOwn : s₁.owns index action) : KeepsEntries service.ttl s₁ s₂ := by
  obtain ⟨rest, hRest⟩ := hTakes.visits.2.run_rest hRun
  obtain ⟨_, _, _, _, hStep⟩ := hTakes
  cases action with
  | tick | evict => exact hOwn.elim
  | attest =>
      cases hStep
      exact ⟨fun _ _ hEntry => hEntry, fun _ _ hEntry _ => hEntry⟩
  | stepAttest other event =>
      obtain rfl : other = index := hOwn
      obtain ⟨owner, _, phase', entries', hBefore, hMove, rfl⟩ := move_of_attestStep hStep
      have hIndex : other < s₁.requests.length := (List.getElem?_eq_some_iff.mp hBefore).1
      -- an insertion by this request would still be there at the end of the run
      have hNone : ∀ entry, phase' ≠ .inserted entry := by
        rintro entry rfl
        have hLast := run_invariant
          (P := fun s => s.requests[other]? = some ⟨owner, .inserted entry⟩)
          (fun _ _ _ hKept hNext => inserted_kept hNext hKept) (List.getElem?_set_self hIndex) hRest
        cases hRequest.symm.trans hLast
        exact hOpen entry rfl
      refine ⟨fun key entry hEntry => ?_, fun key entry hEntry hYoung => ?_⟩
      · obtain hOld | ⟨hInserted, _⟩ := hMove.entries_cases hEntry
        · exact hOld
        · exact absurd hInserted (hNone entry)
      · obtain hKept | ⟨own, hInserted⟩ := hMove.young_kept hEntry hYoung
        · exact hKept
        · exact absurd hInserted (hNone own)

/-- In every interleaving, the cache serves a subject what one request for this subject
has fetched, resolved, signed and inserted, the insertion at most a time to live ago.
Nothing is served that has ever been older. Keys are not shared between subjects, and
a failed run leaves the entries alone. -/
theorem attestation_cache_sound (service : InventoryAttestationState) :
    (∀ before (s s' : AttestState F) index subject response,
      run (attestStep service) (AttestState.start F) before = some s →
      attestStep service s (.stepAttest index .lookUp) = some s' →
      s'.requests[index]? = some ⟨subject, .served response⟩ →
      ∃ entry owner time, entry.response = response ∧
        Attested service before subject owner response
          [.stepAttest owner .stamp, .stepAttest owner .insert] ∧
        response.assetId = toString subject.2 ∧
        InsertedAt service before owner subject entry time ∧
        time ≤ s.now ∧ s.now ≤ time + service.ttl ∧
        ∀ s₀, Visits (attestStep service) (AttestState.start F) before s₀ →
          s₀.now ≤ entry.insertedAt + service.ttl) ∧
      (∀ subject other, cacheKey subject = cacheKey other → subject = other) ∧
      ∀ actions (s : AttestState F) index subject error,
        run (attestStep service) (AttestState.start F) actions = some s →
        s.requests[index]? = some ⟨subject, .failed error⟩ →
        ∀ s₁ action s₂, Takes (attestStep service) (AttestState.start F) actions s₁ action s₂ →
          s₁.owns index action → KeepsEntries service.ttl s₁ s₂ := by
  refine ⟨?_, fun _ _ => cacheKey_inj, ?_⟩
  · exact fun _ _ _ _ _ _ hRun hStep hServed => served_sound hRun hStep hServed
  · exact fun _ _ _ _ _ hRun hFailed _ _ _ hTakes hOwn =>
      keepsEntries_of_not_inserted hRun hFailed nofun hTakes hOwn

/-- The subject and the detail of a request that the cache has served. -/
def AttestState.servedDetail (s : AttestState F) (index : Nat) : Option (Subject × String) :=
  match s.requests[index]? with
  | some ⟨subject, .served response⟩ => some (subject, response.itemDetail)
  | _ => none

theorem AttestState.served_of_servedDetail {detail : String}
    (h : s.servedDetail index = some (subject, detail)) :
    ∃ response, s.requests[index]? = some ⟨subject, .served response⟩ ∧
      response.itemDetail = detail := by
  unfold AttestState.servedDetail at h
  split at h
  · cases h
    exact ⟨_, ‹_›, rfl⟩
  · cases h

end Soundness

def graffitiName : String := "Sealed Graffiti | Toasted (Desert Amber)"

def graffitiEntry : CatalogItem :=
  ⟨graffitiName, some 1727, none, some 5, "graffiti", none, none, none, false, false⟩

def graffitiCatalog : CatalogArtifact where
  items := [graffitiEntry]
  specialClassification := []

/-- The handler with a catalog of one graffiti and two minutes to live. -/
def graffitiService : InventoryAttestationState where
  resolver := CatalogResolver.load sampleFloats graffitiCatalog
  keccak256 := sampleKeccak
  signer := sampleSigner
  ttl := 120

def graffitiSubject : Subject := (76561198366018280, 40964044588)

/-- The one page of the inventory. -/
def graffitiPage : InventoryResponse where
  assets := [⟨"40964044588", "310776560", "302028390"⟩]
  descriptions := [⟨"310776560", "302028390", some graffitiName, [⟨"Quality", "Normal"⟩]⟩]
  assetProperties := []
  moreItems := none
  lastAssetid := none

/-- A run for the graffiti, and a second request for it a minute later. -/
def graffitiActions : List AttestAction :=
  [.attest graffitiSubject, .stepAttest 0 .lookUp,
    .stepAttest 0 (.endFetch fun _ _ => .ok graffitiPage), .stepAttest 0 .resolve,
    .stepAttest 0 .sign, .stepAttest 0 .stamp, .stepAttest 0 .insert, .tick 60,
    .attest graffitiSubject]

theorem attestation_cache_sound_graffiti :
    ∃ (s s' : AttestState sampleFloats) (response : InventoryAttestationSuccess sampleFloats)
      (owner : Nat),
      run (attestStep graffitiService) (AttestState.start sampleFloats) graffitiActions = some s ∧
      attestStep graffitiService s (.stepAttest 1 .lookUp) = some s' ∧
      s'.requests[1]? = some ⟨graffitiSubject, .served response⟩ ∧
      response.itemDetail = "43980521734112" ∧ response.assetId = "40964044588" ∧
      Attested graffitiService graffitiActions graffitiSubject owner response
        [.stepAttest owner .stamp, .stepAttest owner .insert] := by
  have hServed : ((run (attestStep graffitiService) (AttestState.start sampleFloats)
      graffitiActions).bind fun s => (attestStep graffitiService s (.stepAttest 1 .lookUp)).bind
        fun s' => s'.servedDetail 1) = some (graffitiSubject, "43980521734112") := by
    decide +kernel
  obtain ⟨s, hRun, hServed⟩ := Option.bind_eq_some_iff.mp hServed
  obtain ⟨s', hStep, hServed⟩ := Option.bind_eq_some_iff.mp hServed
  obtain ⟨response, hRequest, hDetail⟩ := AttestState.served_of_servedDetail hServed
  obtain ⟨_, owner, _, _, hAttested, hAsset, _⟩ :=
    (attestation_cache_sound graffitiService).1 _ _ _ _ _ _ hRun hStep hRequest
  exact ⟨s, s', response, owner, hRun, hStep, hRequest, hDetail, hAsset.trans (by decide),
    hAttested⟩

end SettlementOracle
