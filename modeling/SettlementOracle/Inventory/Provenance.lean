import SettlementOracle.Inventory.AssetSearch
import SettlementOracle.Inventory.CacheSoundness

/-! Where an attestation comes from. Behind the trail of a response stand the page of
the inventory that lists the asset, the entry of the catalog and the signature. -/
namespace SettlementOracle

open Checked

section Contents

variable {F : FloatFormat} {service : InventoryAttestationState} {actions : List AttestAction}
  {subject : Subject} {index : Nat} {phase : AttestPhase F} {s : AttestState F}
  {response : InventoryAttestationSuccess F} {catalog : CatalogArtifact} {item : InventoryItem F}
  {resolved : ResolvedCatalogIdentity F}

/-- What the handler answers with. -/
def AttestPhase.answer : AttestPhase F → Option (InventoryAttestationSuccess F)
  | .served response => some response
  | .inserted entry => some entry.response
  | _ => none

theorem exists_entry_of_resolve (h : (CatalogResolver.load F catalog).resolve item = .ok resolved) :
    ∃ entry ∈ catalog.items,
      (CatalogResolver.load F catalog).resolveCatalogItem item item.finishCatalog = .ok entry := by
  obtain ⟨entry, hEntry, _⟩ := bind_eq_ok.mp h
  exact ⟨entry, mem_of_resolveCatalogItem hEntry, hEntry⟩

/-- A response was made by a request for its subject. The request that answers with it
is that one, or looked it up later. -/
theorem AttestPhase.Trail.attested (h : phase.Trail service actions subject index)
    (hAnswer : phase.answer = some response) :
    ∃ owner reuse, Attested service actions subject owner response
        (.stepAttest owner .stamp :: .stepAttest owner .insert :: reuse) ∧
      ((owner = index ∧ reuse = []) ∨ reuse = [.stepAttest index .lookUp]) := by
  cases phase with
  | inserted entry =>
      obtain rfl := Option.some.inj hAnswer
      exact ⟨index, [], h, Or.inl ⟨rfl, rfl⟩⟩
  | served found =>
      obtain rfl := Option.some.inj hAnswer
      obtain ⟨owner, hAttested⟩ := h
      exact ⟨owner, [.stepAttest index .lookUp], hAttested, Or.inr rfl⟩
  | _ => cases hAnswer

/-- Every attestation that is answered in any run, fresh or from the cache, goes back
to steps of one request for the same owner and asset. They fetched the owner's pages up
to the first that lists the asset, resolved the item built from its rows to the entry of
the catalog that is found for this item, and signed the asset with the detail that the
response carries. -/
theorem attestation_end_to_end (hLoaded : service.resolver = CatalogResolver.load F catalog)
    (hRun : run (attestStep service) (AttestState.start F) actions = some s)
    (hRequest : s.requests[index]? = some ⟨subject, phase⟩)
    (hAnswer : phase.answer = some response) :
    ∃ owner fetch reuse, (attestTrail subject owner fetch ++ reuse).Sublist actions ∧
      ((owner = index ∧ reuse = []) ∨ reuse = [.stepAttest index .lookUp]) ∧
      ∃ k page rows entry resolved attestation, k < 50 ∧ pageAt fetch subject.1 k = some page ∧
        (∀ j < k, ∀ earlier, pageAt fetch subject.1 j = some earlier →
          ¬earlier.lists subject.2) ∧
        page.rows subject.2 = some rows ∧ entry ∈ catalog.items ∧
        service.resolver.resolveCatalogItem (rows.item F) (rows.item F).finishCatalog = .ok entry ∧
        service.resolver.resolve (rows.item F) = .ok resolved ∧
        ResolvesTo service.resolver (rows.item F) entry resolved ∧
        service.signer.signHash (computeEip712Digest service.keccak256
          service.signer.domainSeparator (computeItemAttestationStructHash service.keccak256
            subject.2 (encodeResolvedItemDetail resolved))) = .ok attestation ∧
        response.assetId = toString subject.2 ∧
        response.itemDetail = toString (encodeResolvedItemDetail resolved) ∧
        response.oracleAttestation = "0x" ++ hexEncode attestation := by
  have hTrail := (attestTrailInv_of_run hRun).requests index _ hRequest
  obtain ⟨owner, reuse, ⟨fetch, item, resolved, hSteps, hItem, hResolved, hBuilt⟩, hReuse⟩ :=
    hTrail.attested hAnswer
  refine ⟨owner, fetch, reuse, ?_, hReuse, ?_⟩
  · rw [attestTrail, List.append_assoc]
    exact hSteps
  obtain ⟨k, hk, page, rows, hPage, hEarlier, hRows, rfl⟩ := findAsset_eq_ok_iff.mp hItem
  obtain ⟨entry, hMem, hEntry⟩ := exists_entry_of_resolve (hLoaded ▸ hResolved)
  have hResolves := resolvesTo_of_resolve (hLoaded ▸ hEntry) hResolved
  obtain ⟨attestation, hSigned, rfl⟩ := map_eq_ok.mp hBuilt
  exact ⟨k, page, rows, entry, resolved, attestation, hk, hPage, hEarlier, hRows, hMem,
    hResolves.found, hResolved, hResolves, mapError_eq_ok.mp hSigned, rfl, rfl, rfl⟩

/-- The second request for the graffiti is answered from the cache. -/
def reuseActions : List AttestAction := graffitiActions ++ [AttestAction.stepAttest 1 .lookUp]

theorem attestation_end_to_end_graffiti :
    ∃ (s : AttestState sampleFloats) (response : InventoryAttestationSuccess sampleFloats)
      (owner : Nat) (fetch : Nat → String → Except InventoryError InventoryResponse),
      run (attestStep graffitiService) (AttestState.start sampleFloats) reuseActions = some s ∧
      s.requests[1]? = some ⟨graffitiSubject, .served response⟩ ∧
      response.itemDetail = "43980521734112" ∧
      (attestTrail graffitiSubject owner fetch).Sublist reuseActions := by
  have hServed : ((run (attestStep graffitiService) (AttestState.start sampleFloats)
      reuseActions).bind fun s => s.servedDetail 1) = some (graffitiSubject, "43980521734112") := by
    decide +kernel
  obtain ⟨s, hRun, hServed⟩ := Option.bind_eq_some_iff.mp hServed
  obtain ⟨response, hRequest, hDetail⟩ := AttestState.served_of_servedDetail hServed
  have hLoaded : graffitiService.resolver = CatalogResolver.load sampleFloats graffitiCatalog := rfl
  obtain ⟨owner, fetch, reuse, hTrail, _⟩ := attestation_end_to_end hLoaded hRun hRequest rfl
  exact ⟨s, response, owner, fetch, hRun, hRequest, hDetail,
    (List.sublist_append_left _ reuse).trans hTrail⟩

end Contents

end SettlementOracle
