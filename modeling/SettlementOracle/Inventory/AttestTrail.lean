import SettlementOracle.Inventory.Attestation

/-! The moves of a request, and the trace they leave. A response is read backwards to
the fetch of its own request. The steps on the way are a subsequence of the run, so
they happened in this order. -/
namespace SettlementOracle

open Checked

section Keys

theorem toList_toString (n : UInt64) : (toString n).toList = Nat.toDigits 10 n.toNat := by
  show (Nat.repr n.toNat).toList = _
  simp [Nat.repr]

theorem toList_cacheKey (subject : Subject) :
    (cacheKey subject).toList =
      Nat.toDigits 10 subject.1.toNat ++ ':' :: Nat.toDigits 10 subject.2.toNat := by
  simp [cacheKey, toList_toString]

theorem colon_not_mem_toDigits (n : Nat) : ':' ∉ Nat.toDigits 10 n := by
  intro hMem
  have hDigit := Nat.isDigit_of_mem_toDigits (by decide) (by decide) hMem
  exact absurd hDigit (by decide)

theorem toDigits_inj {a b : UInt64} (h : Nat.toDigits 10 a.toNat = Nat.toDigits 10 b.toNat) :
    a = b := by
  have hValue := congrArg (Nat.ofDigitChars 10 · 0) h
  simp only [Nat.ofDigitChars_ten_toDigits] at hValue
  exact UInt64.toNat_inj.mp hValue

/-- A key names one subject: the colon is not a digit. -/
theorem cacheKey_inj {subject other : Subject} (h : cacheKey subject = cacheKey other) :
    subject = other := by
  have hLists := congrArg String.toList h
  rw [toList_cacheKey, toList_cacheKey, List.append_cons_inj_of_notMem
    (colon_not_mem_toDigits _) (colon_not_mem_toDigits _)] at hLists
  exact Prod.ext (toDigits_inj hLists.1) (toDigits_inj hLists.2.2)

end Keys

section Moves

variable {F : FloatFormat} {service : InventoryAttestationState} {now : Nat}
  {entries entries' : CacheEntries F} {subject : Subject} {phase phase' : AttestPhase F}
  {event : AttestEvent} {key : String} {entry : CachedInventoryAttestation F}
  {response : InventoryAttestationSuccess F}

/-- A lookup only removes what is too old, and serves what is not. -/
theorem CacheEntries.get_cases (entries : CacheEntries F) (ttl now : Nat) (key : String) :
    (entries.get ttl now key = (none, entries) ∧ entries key = none) ∨
      ∃ entry, entries key = some entry ∧
        ((entry.insertedAt + ttl < now ∧
            entries.get ttl now key = (none, Function.update entries key none)) ∨
          (now ≤ entry.insertedAt + ttl ∧
            entries.get ttl now key = (some entry.response, entries))) := by
  unfold CacheEntries.get
  split
  · exact Or.inl ⟨rfl, ‹_›⟩
  · rename_i entry hEntry
    refine Or.inr ⟨entry, hEntry, ?_⟩
    split
    · exact Or.inl ⟨by omega, rfl⟩
    · exact Or.inr ⟨by omega, rfl⟩

/-- The moves of a request. -/
inductive AttestMove (service : InventoryAttestationState) (now : Nat) (entries : CacheEntries F)
    (subject : Subject) : AttestPhase F → AttestEvent → AttestPhase F → CacheEntries F → Prop where
  | serve {entry : CachedInventoryAttestation F} (hEntry : entries (cacheKey subject) = some entry)
      (hYoung : now ≤ entry.insertedAt + service.ttl) :
      AttestMove service now entries subject .arrived .lookUp (.served entry.response) entries
  | miss (hEntry : entries (cacheKey subject) = none) :
      AttestMove service now entries subject .arrived .lookUp .fetching entries
  | expire {entry : CachedInventoryAttestation F} (hEntry : entries (cacheKey subject) = some entry)
      (hOld : entry.insertedAt + service.ttl < now) :
      AttestMove service now entries subject .arrived .lookUp .fetching
        (Function.update entries (cacheKey subject) none)
  | fetch {fetch : Nat → String → Except InventoryError InventoryResponse} {item : InventoryItem F}
      (hItem : findAsset F fetch subject.1 subject.2 = .ok item) :
      AttestMove service now entries subject .fetching (.endFetch fetch) (.fetched item) entries
  | resolve {item : InventoryItem F} {resolved : ResolvedCatalogIdentity F}
      (hResolved : service.resolver.resolve item = .ok resolved) :
      AttestMove service now entries subject (.fetched item) .resolve (.identified resolved) entries
  | sign {resolved : ResolvedCatalogIdentity F} {response : InventoryAttestationSuccess F}
      (hSigned : buildAttestationResponse service subject.2 resolved = .ok response) :
      AttestMove service now entries subject (.identified resolved) .sign (.signed response) entries
  | stamp {response : InventoryAttestationSuccess F} :
      AttestMove service now entries subject (.signed response) .stamp (.stamped ⟨response, now⟩)
        entries
  | insert {entry : CachedInventoryAttestation F} :
      AttestMove service now entries subject (.stamped entry) .insert (.inserted entry)
        (Function.update entries (cacheKey subject) (some entry))
  | fail {phase : AttestPhase F} {event : AttestEvent} {error : AttestationError}
      (hOpen : ∀ entry, phase ≠ .inserted entry) :
      AttestMove service now entries subject phase event (.failed error) entries
  | leave {phase : AttestPhase F} (hOpen : ∀ entry, phase ≠ .inserted entry) :
      AttestMove service now entries subject phase .disconnect .abandoned entries

theorem AttestPhase.move_of_step
    (h : phase.step service now entries subject event = some (phase', entries')) :
    AttestMove service now entries subject phase event phase' entries' := by
  unfold AttestPhase.step at h
  split at h
  · obtain ⟨hGet, hNone⟩ | ⟨entry, hEntry, ⟨hOld, hGet⟩ | ⟨hYoung, hGet⟩⟩ :=
      entries.get_cases service.ttl now (cacheKey subject) <;> rw [hGet] at h <;> cases h
    · exact .miss hNone
    · exact .expire hEntry hOld
    · exact .serve hEntry hYoung
  · split at h <;> cases h
    · exact .fetch ‹_›
    · exact .fail nofun
  · split at h <;> cases h
    · exact .resolve ‹_›
    · exact .fail nofun
  · split at h <;> cases h
    · exact .sign ‹_›
    · exact .fail nofun
  · cases h
    exact .stamp
  · cases h
    exact .insert
  · cases h
    exact .leave nofun
  · cases h
    exact .leave nofun
  · cases h

/-- A request that has inserted its entry is over. -/
theorem AttestMove.not_inserted
    (h : AttestMove service now entries subject phase event phase' entries')
    (entry : CachedInventoryAttestation F) : phase ≠ .inserted entry := by
  cases h with
  | fail hOpen => exact hOpen entry
  | leave hOpen => exact hOpen entry
  | _ => exact nofun

/-- An entry behind a move was there before, or is the one that was inserted. -/
theorem AttestMove.entries_cases
    (h : AttestMove service now entries subject phase event phase' entries')
    (hEntry : entries' key = some entry) :
    entries key = some entry ∨ (phase' = .inserted entry ∧ key = cacheKey subject) := by
  cases h with
  | expire =>
      rcases eq_or_ne key (cacheKey subject) with rfl | hNe
      · simp at hEntry
      · exact Or.inl ((Function.update_of_ne hNe ..).symm.trans hEntry)
  | insert =>
      obtain ⟨rfl, rfl⟩ | ⟨_, hOld⟩ := update_eq_some_iff.mp hEntry
      · exact Or.inr ⟨rfl, rfl⟩
      · exact Or.inl hOld
  | _ => exact Or.inl hEntry

/-- Only an insertion and the removal of an old entry touch the cache. -/
theorem AttestMove.young_kept
    (h : AttestMove service now entries subject phase event phase' entries')
    (hEntry : entries key = some entry) (hYoung : now ≤ entry.insertedAt + service.ttl) :
    entries' key = some entry ∨ ∃ own, phase' = .inserted own := by
  cases h with
  | expire hFound hOld =>
      refine Or.inl ?_
      rcases eq_or_ne key (cacheKey subject) with rfl | hNe
      · obtain rfl := Option.some.inj (hFound.symm.trans hEntry)
        omega
      · exact (Function.update_of_ne hNe ..).trans hEntry
  | insert => exact Or.inr ⟨_, rfl⟩
  | _ => exact Or.inl hEntry

theorem assetId_of_buildAttestationResponse {assetId : UInt64}
    {resolved : ResolvedCatalogIdentity F}
    (h : buildAttestationResponse service assetId resolved = .ok response) :
    response.assetId = toString assetId := by
  obtain ⟨_, _, rfl⟩ := map_eq_ok.mp h
  rfl

end Moves

section Steps

variable {F : FloatFormat} {service : InventoryAttestationState} {s s' : AttestState F}
  {action : AttestAction} {actions : List AttestAction} {index : Nat} {event : AttestEvent}
  {subject : Subject} {entry : CachedInventoryAttestation F}

/-- A step of a request. -/
theorem move_of_attestStep (h : attestStep service s (.stepAttest index event) = some s') :
    ∃ subject phase phase' entries',
      s.requests[index]? = some ⟨subject, phase⟩ ∧
      AttestMove service s.now s.entries subject phase event phase' entries' ∧
      s' = { s with requests := s.requests.set index ⟨subject, phase'⟩, entries := entries' } := by
  obtain ⟨⟨subject, phase⟩, hRequest, h⟩ := Option.bind_eq_some_iff.mp h
  obtain ⟨⟨phase', entries'⟩, hPhase, h⟩ := Option.bind_eq_some_iff.mp h
  exact ⟨subject, phase, phase', entries', hRequest, AttestPhase.move_of_step hPhase,
    (Option.some.inj h).symm⟩

/-- A request that has inserted its entry stays as it is. -/
theorem inserted_kept (h : attestStep service s action = some s')
    (hRequest : s.requests[index]? = some ⟨subject, .inserted entry⟩) :
    s'.requests[index]? = some ⟨subject, .inserted entry⟩ := by
  have hIndex : index < s.requests.length := (List.getElem?_eq_some_iff.mp hRequest).1
  cases action with
  | tick | evict =>
      cases h
      exact hRequest
  | attest =>
      cases h
      exact (List.getElem?_append_left hIndex).trans hRequest
  | stepAttest other event =>
      obtain ⟨_, _, _, _, hOther, hMove, rfl⟩ := move_of_attestStep h
      have hNe : other ≠ index := by
        rintro rfl
        cases hRequest.symm.trans hOther
        exact hMove.not_inserted entry rfl
      exact (List.getElem?_set_ne hNe).trans hRequest

end Steps

/-- The steps of a request up to its signature. -/
def signTrail (subject : Subject) (index : Nat)
    (fetch : Nat → String → Except InventoryError InventoryResponse) : List AttestAction :=
  [.attest subject, .stepAttest index .lookUp, .stepAttest index (.endFetch fetch),
    .stepAttest index .resolve, .stepAttest index .sign]

/-- The steps of a request up to the insertion of its response. -/
def attestTrail (subject : Subject) (index : Nat)
    (fetch : Nat → String → Except InventoryError InventoryResponse) : List AttestAction :=
  signTrail subject index fetch ++ [AttestAction.stepAttest index .stamp, .stepAttest index .insert]

section Trails

variable {F : FloatFormat}

/-- Request `index` made this response for the subject, and `later` followed. -/
def Attested (service : InventoryAttestationState) (actions : List AttestAction)
    (subject : Subject) (index : Nat) (response : InventoryAttestationSuccess F)
    (later : List AttestAction) : Prop :=
  ∃ fetch item resolved, (signTrail subject index fetch ++ later).Sublist actions ∧
    findAsset F fetch subject.1 subject.2 = .ok item ∧
    service.resolver.resolve item = .ok resolved ∧
    buildAttestationResponse service subject.2 resolved = .ok response

/-- What has happened to a request that got this far. -/
def AttestPhase.Trail (service : InventoryAttestationState) (actions : List AttestAction)
    (subject : Subject) (index : Nat) : AttestPhase F → Prop
  | .arrived => ([.attest subject] : List AttestAction).Sublist actions
  | .fetching =>
      ([.attest subject, .stepAttest index .lookUp] : List AttestAction).Sublist actions
  | .fetched item => ∃ fetch,
      ([.attest subject, .stepAttest index .lookUp, .stepAttest index (.endFetch fetch)] :
        List AttestAction).Sublist actions ∧
      findAsset F fetch subject.1 subject.2 = .ok item
  | .identified resolved => ∃ fetch item,
      ([.attest subject, .stepAttest index .lookUp, .stepAttest index (.endFetch fetch),
        .stepAttest index .resolve] : List AttestAction).Sublist actions ∧
      findAsset F fetch subject.1 subject.2 = .ok item ∧
      service.resolver.resolve item = .ok resolved
  | .signed response => Attested service actions subject index response []
  | .stamped entry =>
      Attested service actions subject index entry.response [.stepAttest index .stamp]
  | .inserted entry =>
      Attested service actions subject index entry.response
        [.stepAttest index .stamp, .stepAttest index .insert]
  | .served response => ∃ owner, Attested service actions subject owner response
      [.stepAttest owner .stamp, .stepAttest owner .insert, .stepAttest index .lookUp]
  | .failed _ | .abandoned => True

structure AttestTrailInv (service : InventoryAttestationState) (actions : List AttestAction)
    (s : AttestState F) : Prop where
  requests : ∀ (index : Nat) (request : Party Subject (AttestPhase F)),
    s.requests[index]? = some request →
    request.phase.Trail service actions request.key index
  entries : ∀ key entry, s.entries key = some entry →
    ∃ (subject : Subject) (owner : Nat), key = cacheKey subject ∧
      s.requests[owner]? = some ⟨subject, .inserted entry⟩

variable {service : InventoryAttestationState} {actions later : List AttestAction}
  {action : AttestAction} {subject : Subject} {index now : Nat} {phase phase' : AttestPhase F}
  {event : AttestEvent} {entries entries' : CacheEntries F}
  {response : InventoryAttestationSuccess F} {s s' : AttestState F}

theorem Attested.mono (h : Attested service actions subject index response later)
    (action : AttestAction) :
    Attested service (actions ++ [action]) subject index response later := by
  obtain ⟨fetch, item, resolved, hTrail, hFacts⟩ := h
  exact ⟨fetch, item, resolved, hTrail.trans (List.sublist_append_left actions [action]), hFacts⟩

theorem Attested.snoc (h : Attested service actions subject index response later)
    (action : AttestAction) :
    Attested service (actions ++ [action]) subject index response (later ++ [action]) := by
  obtain ⟨fetch, item, resolved, hTrail, hFacts⟩ := h
  refine ⟨fetch, item, resolved, ?_, hFacts⟩
  rw [← List.append_assoc]
  exact hTrail.append (List.Sublist.refl [action])

/-- A trail is not lost by what happens elsewhere. -/
theorem AttestPhase.Trail.mono (h : phase.Trail service actions subject index)
    (action : AttestAction) : phase.Trail service (actions ++ [action]) subject index := by
  have hMore : ∀ {trail : List AttestAction}, trail.Sublist actions →
      trail.Sublist (actions ++ [action]) :=
    fun hTrail => hTrail.trans (List.sublist_append_left actions [action])
  cases phase with
  | arrived | fetching => exact hMore h
  | fetched item =>
      obtain ⟨fetch, hTrail, hItem⟩ := h
      exact ⟨fetch, hMore hTrail, hItem⟩
  | identified resolved =>
      obtain ⟨fetch, item, hTrail, hFacts⟩ := h
      exact ⟨fetch, item, hMore hTrail, hFacts⟩
  | signed | stamped | inserted => exact Attested.mono h action
  | served response =>
      obtain ⟨owner, hAttested⟩ := h
      exact ⟨owner, hAttested.mono action⟩
  | failed | abandoned => exact trivial

/-- Every move of a request leaves its trace. -/
theorem AttestPhase.Trail.move (h : phase.Trail service actions subject index)
    (hMove : AttestMove service now entries subject phase event phase' entries')
    (hEntries : ∀ entry, entries (cacheKey subject) = some entry → ∃ owner,
      Attested service actions subject owner entry.response
        [.stepAttest owner .stamp, .stepAttest owner .insert]) :
    phase'.Trail service (actions ++ [AttestAction.stepAttest index event]) subject index := by
  cases hMove with
  | serve hEntry =>
      obtain ⟨owner, hAttested⟩ := hEntries _ hEntry
      exact ⟨owner, hAttested.snoc _⟩
  | miss | expire => exact List.Sublist.append h (List.Sublist.refl _)
  | @fetch fetch item hItem =>
      exact ⟨fetch, List.Sublist.append h (List.Sublist.refl _), hItem⟩
  | @resolve item resolved hResolved =>
      obtain ⟨fetch, hTrail, hItem⟩ := h
      exact ⟨fetch, item, hTrail.append (List.Sublist.refl _), hItem, hResolved⟩
  | @sign resolved response hSigned =>
      obtain ⟨fetch, item, hTrail, hItem, hResolved⟩ := h
      exact ⟨fetch, item, resolved, hTrail.append (List.Sublist.refl _), hItem, hResolved, hSigned⟩
  | stamp | insert => exact Attested.snoc h _
  | fail | leave => exact trivial

/-- A cached entry goes back to the request that inserted it. -/
theorem AttestTrailInv.attested {entry : CachedInventoryAttestation F}
    (h : AttestTrailInv service actions s) (hEntry : s.entries (cacheKey subject) = some entry) :
    ∃ owner, s.requests[owner]? = some ⟨subject, .inserted entry⟩ ∧
      Attested service actions subject owner entry.response
        [.stepAttest owner .stamp, .stepAttest owner .insert] := by
  obtain ⟨other, owner, hKey, hRequest⟩ := h.entries _ entry hEntry
  obtain rfl := cacheKey_inj hKey
  exact ⟨owner, hRequest, h.requests owner _ hRequest⟩

theorem AttestTrailInv.step (h : AttestTrailInv service actions s)
    (hStep : attestStep service s action = some s') :
    AttestTrailInv service (actions ++ [action]) s' := by
  have hOld : ∀ key entry, s.entries key = some entry →
      ∃ (subject : Subject) (owner : Nat), key = cacheKey subject ∧
        s'.requests[owner]? = some ⟨subject, .inserted entry⟩ := by
    intro key entry hEntry
    obtain ⟨subject, owner, hKey, hRequest⟩ := h.entries key entry hEntry
    exact ⟨subject, owner, hKey, inserted_kept hStep hRequest⟩
  cases action with
  | tick elapsed =>
      cases hStep
      exact ⟨fun index request hRequest => (h.requests index request hRequest).mono _, hOld⟩
  | evict key =>
      cases hStep
      refine ⟨fun index request hRequest => (h.requests index request hRequest).mono _, ?_⟩
      intro other entry hEntry
      rcases eq_or_ne other key with rfl | hNe
      · simp at hEntry
      · exact hOld other entry ((Function.update_of_ne hNe ..).symm.trans hEntry)
  | attest subject =>
      cases hStep
      refine ⟨fun index request hRequest => ?_, hOld⟩
      obtain hRequest | rfl := getElem?_push_cases hRequest
      · exact (h.requests index request hRequest).mono _
      · exact List.sublist_append_right actions [.attest subject]
  | stepAttest index event =>
      obtain ⟨subject, phase, phase', entries', hRequest, hMove, rfl⟩ := move_of_attestStep hStep
      have hIndex : index < s.requests.length := (List.getElem?_eq_some_iff.mp hRequest).1
      refine ⟨fun other request hOther => ?_, fun key entry hEntry => ?_⟩
      · obtain ⟨rfl, rfl⟩ | hBefore := getElem?_set_cases hOther
        · refine (h.requests index _ hRequest).move hMove fun entry hEntry => ?_
          obtain ⟨owner, _, hAttested⟩ := h.attested hEntry
          exact ⟨owner, hAttested⟩
        · exact (h.requests other request hBefore).mono _
      · obtain hBefore | ⟨rfl, rfl⟩ := hMove.entries_cases hEntry
        · exact hOld key entry hBefore
        · exact ⟨subject, index, rfl, List.getElem?_set_self hIndex⟩

theorem attestTrailInv_of_run
    (hRun : run (attestStep service) (AttestState.start F) actions = some s) :
    AttestTrailInv service actions s := by
  induction actions using List.reverseRecOn generalizing s with
  | nil =>
      obtain rfl : AttestState.start F = s := Option.some.inj hRun
      refine ⟨fun index request hRequest => ?_, fun key entry hEntry => ?_⟩
      · exact absurd hRequest (by simp [AttestState.start])
      · cases hEntry
  | append_singleton actions action ih =>
      obtain ⟨middle, hBefore, hNext⟩ := run_snoc_eq_some.mp hRun
      exact (ih hBefore).step hNext

end Trails

end SettlementOracle
