import SettlementOracle.Inventory.Quality

/-! The search for an asset over the pages of an inventory: which page answers it,
with which rows, and what an unsuccessful search has seen. -/
namespace SettlementOracle

open Checked

section Requests

/-- A response of Steam. `display` is its status as text. -/
structure SteamResponse where
  status : Nat
  display : String
  text : Except String String
  deriving DecidableEq, Repr

/-- What one attempt ends with. A request that is not answered has the text of its
error. -/
abbrev SteamReply := Except String SteamResponse

/-- The errors of a request, none of which speaks about an asset. -/
def parseInventoryResponse (parse : String → Except String InventoryResponse)
    (resp : SteamResponse) : Except InventoryError InventoryResponse :=
  if resp.status = 403 ∨ resp.status = 401 then .error .privateInventory
  else if ¬(200 ≤ resp.status ∧ resp.status < 300) then
    .error (.steamApiError ("HTTP " ++ resp.display))
  else
    match resp.text with
    | .error error => .error (.requestFailed error)
    | .ok body =>
        if trim isWhitespace body.toList = "null".toList ∨ body = "" then .error .privateInventory
        else
          match parse body with
          | .error error => .error (.steamApiError ("Failed to parse response: " ++ error))
          | .ok inv => .ok inv

def maxRetriesWithoutProxy : Nat := 3

def maxProxyAttempts : Nat := 10

def maxAttempts (proxies : Option Nat) : Nat :=
  match proxies with
  | some count => 1 + min count maxProxyAttempts
  | none => maxRetriesWithoutProxy

/-- The attempts that are left. The waits between them are left out. -/
def fetchAttempts (parse : String → Except String InventoryResponse) (total : Nat)
    (send : Nat → SteamReply) :
    Nat → Option InventoryError → Except InventoryError InventoryResponse
  | 0, lastError =>
      .error (lastError.getD (.requestFailed "All Steam inventory attempts failed"))
  | left + 1, lastError =>
      match send (total - (left + 1)) with
      | .error error => fetchAttempts parse total send left (some (.requestFailed error))
      | .ok response =>
          if response.status = 429 ∧ left ≠ 0 then fetchAttempts parse total send left lastError
          else parseInventoryResponse parse response

def fetchInventoryResponse (parse : String → Except String InventoryResponse)
    (proxies : Option Nat) (send : Nat → SteamReply) : Except InventoryError InventoryResponse :=
  fetchAttempts parse (maxAttempts proxies) send (maxAttempts proxies) none

variable {parse : String → Except String InventoryResponse}

theorem parseInventoryResponse_ne_assetNotFound (resp : SteamResponse) (assetId : UInt64) :
    parseInventoryResponse parse resp ≠ .error (.assetNotFound assetId) := by
  unfold parseInventoryResponse
  split
  · simp
  · split
    · simp
    · split
      · simp
      · split
        · simp
        · split <;> simp

theorem fetchAttempts_ne_assetNotFound {total : Nat} {send : Nat → SteamReply} (left : Nat)
    {lastError : Option InventoryError} (assetId : UInt64)
    (hLast : lastError ≠ some (.assetNotFound assetId)) :
    fetchAttempts parse total send left lastError ≠ .error (.assetNotFound assetId) := by
  induction left generalizing lastError with
  | zero =>
      cases lastError with
      | none => simp [fetchAttempts]
      | some error => simpa [fetchAttempts] using hLast
  | succ left ih =>
      rw [fetchAttempts]
      split
      · exact ih (by simp)
      · split_ifs
        · exact ih hLast
        · exact parseInventoryResponse_ne_assetNotFound _ assetId

/-- No request says that an asset is missing. -/
theorem fetchInventoryResponse_ne_assetNotFound (proxies : Option Nat) (send : Nat → SteamReply)
    (assetId : UInt64) :
    fetchInventoryResponse parse proxies send ≠ .error (.assetNotFound assetId) :=
  fetchAttempts_ne_assetNotFound _ assetId (by simp)

end Requests

section Rows

variable {F : FloatFormat}

def InventoryResponse.lists (page : InventoryResponse) (assetId : UInt64) : Prop :=
  ∃ asset ∈ page.assets, asset.assetid = toString assetId.toNat

/-- The last property of each id. -/
def AssetPropertiesEntry.byId (entry : AssetPropertiesEntry) : PropertyMap := fun id =>
  (entry.assetProperties.filter fun property => property.propertyid = id).getLast?

/-- The rows of one page that an asset is read from. -/
structure AssetRows where
  asset : AssetEntry
  description : DescriptionEntry
  properties : Option AssetPropertiesEntry
  deriving DecidableEq, Repr

/-- The last description of the asset's class and instance. -/
def InventoryResponse.descriptionOf (page : InventoryResponse) (asset : AssetEntry) :
    Option DescriptionEntry :=
  (page.descriptions.filter fun description =>
    (description.classid, description.instanceid) = (asset.classid, asset.instanceid)).getLast?

/-- The last properties that are listed under the asset's own id. -/
def InventoryResponse.propertiesOf (page : InventoryResponse) (assetid : String) :
    Option AssetPropertiesEntry :=
  (page.assetProperties.filter fun entry =>
    entry.assetid = assetid ∧ entry.assetProperties ≠ []).getLast?

def InventoryResponse.rows (page : InventoryResponse) (assetId : UInt64) : Option AssetRows :=
  (page.assets.find? fun asset => asset.assetid = toString assetId.toNat).bind fun asset =>
    (page.descriptionOf asset).map fun description =>
      ⟨asset, description, page.propertiesOf (toString assetId.toNat)⟩

variable (F) in
def AssetRows.item (rows : AssetRows) : InventoryItem F :=
  buildInventoryItem F rows.description (rows.properties.map AssetPropertiesEntry.byId)

theorem buildDescriptionMap_eq (page : InventoryResponse) (asset : AssetEntry) :
    buildDescriptionMap page.descriptions (asset.classid, asset.instanceid) =
      page.descriptionOf asset := by
  rw [buildDescriptionMap, collect_map]
  exact Option.map_id'

theorem buildAssetPropertyMap_eq (page : InventoryResponse) (assetid : String) :
    buildAssetPropertyMap page.assetProperties assetid =
      (page.propertiesOf assetid).map AssetPropertiesEntry.byId := by
  have hById : AssetPropertiesEntry.byId = fun entry =>
      collect (entry.assetProperties.map fun property => (property.propertyid, property)) := by
    funext entry id
    rw [collect_map]
    exact Option.map_id'.symm
  rw [buildAssetPropertyMap, collect_map, List.filter_filter, hById]
  unfold InventoryResponse.propertiesOf
  congr 2
  refine List.filter_congr fun entry _ => ?_
  rw [Bool.eq_iff_iff]
  simp

theorem readAsset_eq_none {page : InventoryResponse} {assetId : UInt64} :
    readAsset F assetId page = none ↔ ¬page.lists assetId := by
  rw [readAsset, Option.map_eq_none_iff, List.find?_eq_none]
  simp only [InventoryResponse.lists, not_exists, not_and, decide_eq_true_eq]
  rfl

/-- A page answers the search from the rows of the asset, and from no other row. -/
theorem readAsset_eq_ok {page : InventoryResponse} {assetId : UInt64} {item : InventoryItem F} :
    readAsset F assetId page = some (.ok item) ↔
      ∃ rows, page.rows assetId = some rows ∧ rows.item F = item := by
  simp only [readAsset, InventoryResponse.rows, buildDescriptionMap_eq, buildAssetPropertyMap_eq]
  change (page.assets.find? fun asset => asset.assetid = toString assetId.toNat).map _ = _ ↔ _
  cases hAsset : page.assets.find? fun asset => asset.assetid = toString assetId.toNat with
  | none => simp
  | some asset =>
      have hId : asset.assetid = toString assetId.toNat := by
        simpa using List.find?_some hAsset
      simp only [Option.map_some, Option.some.injEq, hId, Option.bind_some]
      cases page.descriptionOf asset with
      | none => simp
      | some description => simp [AssetRows.item]

theorem readAsset_ne_assetNotFound {page : InventoryResponse} {assetId missing : UInt64} :
    readAsset F assetId page ≠ some (.error (.assetNotFound missing)) := by
  intro h
  obtain ⟨asset, _, hRead⟩ := Option.map_eq_some_iff.mp h
  split at hRead <;> simp at hRead

end Rows

section Chain

variable {F : FloatFormat} {fetch : Nat → String → Except InventoryError InventoryResponse}
  {steamId assetId : UInt64} {request count : Nat} {cursor : Option String}
  {page : InventoryResponse}

/-- The pages that the cursors lead to, from the given request on. -/
def pageFrom (fetch : Nat → String → Except InventoryError InventoryResponse) (steamId : UInt64)
    (request : Nat) (cursor : Option String) : Nat → Option InventoryResponse
  | 0 => (fetch request (inventoryUrl steamId cursor)).toOption
  | k + 1 => (fetch request (inventoryUrl steamId cursor)).toOption.bind fun inv =>
      (nextCursor inv).bind fun last => pageFrom fetch steamId (request + 1) (some last) k

/-- The pages of the inventory, counted from zero. -/
def pageAt (fetch : Nat → String → Except InventoryError InventoryResponse) (steamId : UInt64) :
    Nat → Option InventoryResponse :=
  pageFrom fetch steamId 1 none

/-- Behind a page with a cursor, the chain goes on from that cursor. -/
theorem pageFrom_succ {last : String} (hPage : pageFrom fetch steamId request cursor 0 = some page)
    (hNext : nextCursor page = some last) (k : Nat) :
    pageFrom fetch steamId request cursor (k + 1) =
      pageFrom fetch steamId (request + 1) (some last) k := by
  have hFetch : (fetch request (inventoryUrl steamId cursor)).toOption = some page := hPage
  rw [pageFrom, hFetch, Option.bind_some, hNext, Option.bind_some]

/-- The page that a later page is reached from. -/
theorem pageFrom_succ_eq_some {k : Nat}
    (h : pageFrom fetch steamId request cursor (k + 1) = some page) :
    ∃ first last, pageFrom fetch steamId request cursor 0 = some first ∧
      nextCursor first = some last ∧ pageFrom fetch steamId (request + 1) (some last) k = some page := by
  rw [pageFrom, Option.bind_eq_some_iff] at h
  obtain ⟨first, hFirst, hRest⟩ := h
  obtain ⟨last, hNext, hPage⟩ := Option.bind_eq_some_iff.mp hRest
  exact ⟨first, last, hFirst, hNext, hPage⟩

/-- The pages in front of position `k` neither list the asset nor end the chain. -/
def Passed (pages : Nat → Option InventoryResponse) (assetId : UInt64) (k : Nat) : Prop :=
  ∀ j < k, ∃ page, pages j = some page ∧ ¬page.lists assetId ∧ nextCursor page ≠ none

/-- A page is reached through pages with cursors. -/
theorem passed_of_unlisted {k : Nat} (hPage : pageFrom fetch steamId request cursor k = some page)
    (hUnlisted : ∀ j < k, ∀ earlier, pageFrom fetch steamId request cursor j = some earlier →
      ¬earlier.lists assetId) :
    Passed (pageFrom fetch steamId request cursor) assetId k := by
  induction k generalizing request cursor with
  | zero => exact fun j hj => absurd hj (Nat.not_lt_zero j)
  | succ k ih =>
      obtain ⟨first, last, hFirst, hNext, hRest⟩ := pageFrom_succ_eq_some hPage
      have hShift := pageFrom_succ hFirst hNext
      intro j hj
      cases j with
      | zero => exact ⟨first, hFirst, hUnlisted 0 hj first hFirst, by simp [hNext]⟩
      | succ j =>
          rw [hShift]
          refine ih hRest (fun i hi earlier hEarlier => ?_) j (Nat.lt_of_succ_lt_succ hj)
          exact hUnlisted (i + 1) (Nat.succ_lt_succ hi) earlier (by rw [hShift, hEarlier])

/-- The pages pass up to a position, or stop in front of it. -/
theorem passed_or_stops (pages : Nat → Option InventoryResponse) (assetId : UInt64) (count : Nat) :
    Passed pages assetId count ∨
      ∃ k < count, Passed pages assetId k ∧
        ∀ page, pages k = some page → page.lists assetId ∨ nextCursor page = none := by
  induction count with
  | zero => exact Or.inl fun j hj => absurd hj (Nat.not_lt_zero j)
  | succ count ih =>
      obtain hPassed | ⟨k, hk, hStops⟩ := ih
      · by_cases hPage : ∃ page, pages count = some page ∧ ¬page.lists assetId ∧
            nextCursor page ≠ none
        · refine Or.inl fun j hj => ?_
          obtain hEarlier | rfl := Nat.lt_succ_iff_lt_or_eq.mp hj
          · exact hPassed j hEarlier
          · exact hPage
        · refine Or.inr ⟨count, Nat.lt_succ_self count, hPassed, fun page hAt => ?_⟩
          by_contra hNeither
          rw [not_or] at hNeither
          exact hPage ⟨page, hAt, hNeither⟩
      · exact Or.inr ⟨k, Nat.lt_succ_of_lt hk, hStops⟩

end Chain

section Search

variable {F : FloatFormat} {fetch : Nat → String → Except InventoryError InventoryResponse}
  {steamId assetId : UInt64} {request count : Nat} {cursor : Option String}
  {page : InventoryResponse}

/-- A page that passes hands the search to the next one. -/
theorem findAssetFrom_succ {last : String} (hCount : request + count = maxPages)
    (hPage : pageFrom fetch steamId request cursor 0 = some page)
    (hUnlisted : ¬page.lists assetId) (hNext : nextCursor page = some last) :
    findAssetFrom F fetch steamId assetId (count + 1) cursor =
      findAssetFrom F fetch steamId assetId count (some last) := by
  have hRequest : maxPages - count = request := by omega
  have hFetch : fetch request (inventoryUrl steamId cursor) = .ok page := toOption_eq_some.mp hPage
  rw [findAssetFrom, hRequest, bind_of_ok hFetch, readAsset_eq_none.mpr hUnlisted]
  simp only [hNext]

/-- Pages that pass are skipped. -/
theorem findAssetFrom_skip {k : Nat} (hCount : request + (count + k) = maxPages + 1)
    (hPassed : Passed (pageFrom fetch steamId request cursor) assetId k) :
    ∃ cursor', findAssetFrom F fetch steamId assetId (count + k) cursor =
        findAssetFrom F fetch steamId assetId count cursor' ∧
      ∀ j, pageFrom fetch steamId request cursor (k + j) =
        pageFrom fetch steamId (request + k) cursor' j := by
  induction k generalizing request cursor with
  | zero => exact ⟨cursor, rfl, fun j => by rw [Nat.zero_add, Nat.add_zero]⟩
  | succ k ih =>
      obtain ⟨page, hPage, hUnlisted, hContinues⟩ := hPassed 0 (Nat.succ_pos k)
      obtain ⟨last, hNext⟩ := Option.ne_none_iff_exists'.mp hContinues
      have hShift := pageFrom_succ hPage hNext
      have hRest : Passed (pageFrom fetch steamId (request + 1) (some last)) assetId k := by
        intro j hj
        rw [← hShift]
        exact hPassed (j + 1) (Nat.succ_lt_succ hj)
      obtain ⟨cursor', hFind, hPages⟩ := ih (by omega) hRest
      have hStep : request + (count + k) = maxPages := by omega
      refine ⟨cursor', ?_, fun j => ?_⟩
      · rw [← hFind]
        exact findAssetFrom_succ hStep hPage hUnlisted hNext
      · rw [Nat.add_right_comm k 1 j, hShift, hPages, Nat.add_assoc, Nat.add_comm 1 k]

/-- Behind the pages that pass, the search depends on the next request. -/
theorem findAsset_at {k : Nat} (hk : k < maxPages)
    (hPassed : Passed (pageAt fetch steamId) assetId k) :
    ∃ left cursor,
      pageAt fetch steamId k = (fetch (1 + k) (inventoryUrl steamId cursor)).toOption ∧
      findAsset F fetch steamId assetId = (do
        let inv ← fetch (1 + k) (inventoryUrl steamId cursor)
        match readAsset F assetId inv with
        | some found => found
        | none =>
            match nextCursor inv with
            | some last => findAssetFrom F fetch steamId assetId left (some last)
            | none => .error (.assetNotFound assetId)) := by
  obtain ⟨left, hLeft⟩ := Nat.exists_eq_add_of_lt hk
  obtain ⟨cursor, hFind, hPages⟩ :=
    @findAssetFrom_skip F fetch steamId assetId 1 (left + 1) none k (by omega) hPassed
  have hRequest : maxPages - left = 1 + k := by omega
  refine ⟨left, cursor, hPages 0, ?_⟩
  rw [findAsset, show maxPages = left + 1 + k by omega, hFind, ← hRequest]
  rfl

/-- A page that lists the asset or ends the chain decides the search. -/
theorem findAsset_of_stop {k : Nat} (hk : k < maxPages)
    (hPassed : Passed (pageAt fetch steamId) assetId k) (hPage : pageAt fetch steamId k = some page)
    (hStop : page.lists assetId ∨ nextCursor page = none) :
    findAsset F fetch steamId assetId =
      (readAsset F assetId page).getD (.error (.assetNotFound assetId)) := by
  obtain ⟨left, cursor, hAt, hFind⟩ := @findAsset_at F _ _ _ _ hk hPassed
  rw [hFind, bind_of_ok (toOption_eq_some.mp (hAt.symm.trans hPage))]
  cases hRead : readAsset F assetId page with
  | some found => rfl
  | none =>
      have hEnd : nextCursor page = none := hStop.resolve_left (readAsset_eq_none.mp hRead)
      simp only [hEnd]
      rfl

/-- A failed request ends the search with its error. -/
theorem findAsset_of_error {k : Nat} (hk : k < maxPages)
    (hPassed : Passed (pageAt fetch steamId) assetId k) (hPage : pageAt fetch steamId k = none) :
    ∃ url error, fetch (1 + k) url = .error error ∧
      findAsset F fetch steamId assetId = .error error := by
  obtain ⟨left, cursor, hAt, hFind⟩ := @findAsset_at F _ _ _ _ hk hPassed
  obtain ⟨error, hFetch⟩ := toOption_eq_none.mp (hAt.symm.trans hPage)
  refine ⟨_, error, hFetch, ?_⟩
  rw [hFind, hFetch]
  rfl

/-- A chain longer than the budget is given up. -/
theorem findAsset_of_passed (hPassed : Passed (pageAt fetch steamId) assetId maxPages) :
    findAsset F fetch steamId assetId =
      .error (.steamApiError "Inventory pagination exceeded limit") := by
  obtain ⟨cursor, hFind, _⟩ :=
    @findAssetFrom_skip F fetch steamId assetId 1 0 none maxPages (by omega) hPassed
  rw [findAsset, ← Nat.zero_add maxPages, hFind]
  rfl

end Search

section Evidence

variable (F : FloatFormat) (fetch : Nat → String → Except InventoryError InventoryResponse)
  (steamId assetId : UInt64)

variable {F fetch steamId assetId}

/-- The search succeeds exactly at the first page that lists the asset. -/
theorem findAsset_eq_ok_iff {item : InventoryItem F} :
    findAsset F fetch steamId assetId = .ok item ↔
      ∃ k < maxPages, ∃ page rows, pageAt fetch steamId k = some page ∧
        (∀ j < k, ∀ earlier, pageAt fetch steamId j = some earlier → ¬earlier.lists assetId) ∧
        page.rows assetId = some rows ∧ rows.item F = item := by
  constructor
  · intro hOk
    obtain hPassed | ⟨k, hk, hPassed, hStops⟩ :=
      passed_or_stops (pageAt fetch steamId) assetId maxPages
    · rw [findAsset_of_passed hPassed] at hOk
      cases hOk
    · cases hPage : pageAt fetch steamId k with
      | none =>
          obtain ⟨_, _, _, hError⟩ := @findAsset_of_error F _ _ _ _ hk hPassed hPage
          rw [hError] at hOk
          cases hOk
      | some page =>
          rw [findAsset_of_stop hk hPassed hPage (hStops page hPage)] at hOk
          cases hRead : readAsset F assetId page with
          | none =>
              rw [hRead] at hOk
              cases hOk
          | some found =>
              rw [hRead] at hOk
              obtain rfl : found = .ok item := hOk
              obtain ⟨rows, hRows, hItem⟩ := readAsset_eq_ok.mp hRead
              refine ⟨k, hk, page, rows, hPage, fun j hj earlier hEarlier => ?_, hRows, hItem⟩
              obtain ⟨_, hAt, hUnlisted, _⟩ := hPassed j hj
              rw [hEarlier] at hAt
              cases hAt
              exact hUnlisted
  · rintro ⟨k, hk, page, rows, hPage, hUnlisted, hRows, hItem⟩
    have hRead : readAsset F assetId page = some (.ok item) := readAsset_eq_ok.mpr ⟨rows, hRows, hItem⟩
    have hLists : page.lists assetId := by
      by_contra hMissing
      rw [readAsset_eq_none.mpr hMissing] at hRead
      cases hRead
    rw [findAsset_of_stop hk (passed_of_unlisted hPage hUnlisted) hPage (Or.inl hLists), hRead]
    rfl

end Evidence

section NotFound

variable {F : FloatFormat} {parse : String → Except String InventoryResponse}
  {proxies : Option Nat} {server : Nat → String → Nat → SteamReply} {steamId assetId : UInt64}

/-- The answers of Steam to the requests of one search, by request, address and
attempt. -/
def steamFetch (parse : String → Except String InventoryResponse) (proxies : Option Nat)
    (server : Nat → String → Nat → SteamReply) :
    Nat → String → Except InventoryError InventoryResponse :=
  fun request url => fetchInventoryResponse parse proxies (server request url)

/-- Neither this page nor one in front of it lists the asset. -/
def UnlistedTo (pages : Nat → Option InventoryResponse) (assetId : UInt64) (k : Nat) : Prop :=
  ∀ j ≤ k, ∀ page, pages j = some page → ¬page.lists assetId

/-- An asset is reported missing only when the chain has ended, and every other end
of the search is an error of the interface. -/
structure NotFoundLaw (F : FloatFormat)
    (fetch : Nat → String → Except InventoryError InventoryResponse)
    (steamId assetId : UInt64) : Prop where
  searched : ∀ missing, findAsset F fetch steamId assetId = .error (.assetNotFound missing) →
    ∃ k < maxPages, ∃ page, pageAt fetch steamId k = some page ∧ page.moreItems ≠ some 1 ∧
      UnlistedTo (pageAt fetch steamId) assetId k
  stuck : ∀ k < maxPages, ∀ page, pageAt fetch steamId k = some page →
    UnlistedTo (pageAt fetch steamId) assetId k → page.moreItems = some 1 →
    page.lastAssetid = none →
      ∃ message, findAsset F fetch steamId assetId = .error (.steamApiError message)
  exhausted : ∀ page, pageAt fetch steamId (maxPages - 1) = some page →
    UnlistedTo (pageAt fetch steamId) assetId (maxPages - 1) → page.moreItems = some 1 →
      ∃ message, findAsset F fetch steamId assetId = .error (.steamApiError message)

/-- No page that the search passes promises more items without a cursor. -/
def Continues (fetch : Nat → String → Except InventoryError InventoryResponse)
    (steamId assetId : UInt64) : Prop :=
  ∀ k < maxPages, ∀ page, pageAt fetch steamId k = some page →
    UnlistedTo (pageAt fetch steamId) assetId k → page.moreItems = some 1 →
      page.lastAssetid ≠ none

theorem nextCursor_eq_none {page : InventoryResponse} :
    nextCursor page = none ↔ page.moreItems = some 1 → page.lastAssetid = none := by
  unfold nextCursor
  split_ifs with hMore <;> simp [hMore]

theorem unlistedTo_of_passed {pages : Nat → Option InventoryResponse} {k : Nat}
    {page : InventoryResponse} (hPassed : Passed pages assetId k) (hPage : pages k = some page)
    (hUnlisted : ¬page.lists assetId) : UnlistedTo pages assetId k := by
  intro j hj other hOther
  obtain hEarlier | rfl := Nat.lt_or_eq_of_le hj
  · obtain ⟨_, hAt, hMissing, _⟩ := hPassed j hEarlier
    rw [hOther] at hAt
    cases hAt
    exact hMissing
  · rw [hPage] at hOther
    cases hOther
    exact hUnlisted

theorem UnlistedTo.passed {fetch : Nat → String → Except InventoryError InventoryResponse} {k : Nat}
    {page : InventoryResponse} (h : UnlistedTo (pageAt fetch steamId) assetId k)
    (hPage : pageAt fetch steamId k = some page) : Passed (pageAt fetch steamId) assetId k :=
  passed_of_unlisted hPage fun j hj earlier hEarlier => h j (Nat.le_of_lt hj) earlier hEarlier

/-- A missing asset was looked for up to the end of the chain. -/
theorem searched_of_assetNotFound {missing : UInt64}
    (hContinues : Continues (steamFetch parse proxies server) steamId assetId)
    (h : findAsset F (steamFetch parse proxies server) steamId assetId =
      .error (.assetNotFound missing)) :
    ∃ k < maxPages, ∃ page, pageAt (steamFetch parse proxies server) steamId k = some page ∧
      page.moreItems ≠ some 1 ∧
      UnlistedTo (pageAt (steamFetch parse proxies server) steamId) assetId k := by
  obtain hPassed | ⟨k, hk, hPassed, hStops⟩ :=
    passed_or_stops (pageAt (steamFetch parse proxies server) steamId) assetId maxPages
  · rw [findAsset_of_passed hPassed] at h
    cases h
  · cases hPage : pageAt (steamFetch parse proxies server) steamId k with
    | none =>
        obtain ⟨_, _, hFetch, hError⟩ := @findAsset_of_error F _ _ _ _ hk hPassed hPage
        rw [hError] at h
        cases h
        exact absurd hFetch (fetchInventoryResponse_ne_assetNotFound _ _ _)
    | some page =>
        have hStop := hStops page hPage
        rw [findAsset_of_stop hk hPassed hPage hStop] at h
        cases hRead : readAsset F assetId page with
        | some found =>
            rw [hRead] at h
            obtain rfl : found = .error (.assetNotFound missing) := h
            exact absurd hRead readAsset_ne_assetNotFound
        | none =>
            have hMissing := readAsset_eq_none.mp hRead
            have hUnlisted := unlistedTo_of_passed hPassed hPage hMissing
            have hEnd := nextCursor_eq_none.mp (hStop.resolve_left hMissing)
            exact ⟨k, hk, page, hPage,
              fun hMore => hContinues k hk page hPage hUnlisted hMore (hEnd hMore), hUnlisted⟩

/-- A missing asset means that the inventory was searched exactly when no page of the
chain promises more items without a cursor. -/
theorem notFoundLaw_iff :
    NotFoundLaw F (steamFetch parse proxies server) steamId assetId ↔
      Continues (steamFetch parse proxies server) steamId assetId := by
  constructor
  · intro hLaw k hk page hPage hUnlisted hMore hLast
    obtain ⟨message, hError⟩ := hLaw.stuck k hk page hPage hUnlisted hMore hLast
    have hEnd : nextCursor page = none := nextCursor_eq_none.mpr fun _ => hLast
    have hMissing := hUnlisted k (Nat.le_refl k) page hPage
    rw [findAsset_of_stop hk (hUnlisted.passed hPage) hPage (Or.inr hEnd),
      readAsset_eq_none.mpr hMissing] at hError
    cases hError
  · intro hContinues
    refine ⟨fun missing => searched_of_assetNotFound hContinues, ?_, ?_⟩
    · intro k hk page hPage hUnlisted hMore hLast
      exact absurd hLast (hContinues k hk page hPage hUnlisted hMore)
    · intro page hPage hUnlisted hMore
      have hLast : maxPages - 1 < maxPages := by decide
      have hNext : nextCursor page ≠ none := fun hNone =>
        hContinues _ hLast page hPage hUnlisted hMore (nextCursor_eq_none.mp hNone hMore)
      refine ⟨_, findAsset_of_passed fun j hj => ?_⟩
      obtain hEarlier | rfl : j < maxPages - 1 ∨ j = maxPages - 1 := by omega
      · exact hUnlisted.passed hPage j hEarlier
      · exact ⟨page, hPage, hUnlisted _ (Nat.le_refl _) page hPage, hNext⟩

/-- A page that promises more items and has no cursor for them. -/
def stuckText : String := "\x7b\"more_items\":1\x7d"

def stuckPage : InventoryResponse := ⟨[], [], [], some 1, none⟩

/-- Steam answers every request with that page. -/
def stuckServer : Nat → String → Nat → SteamReply :=
  fun _ _ _ => .ok ⟨200, "200 OK", .ok stuckText⟩

def stuckFetch : Nat → String → Except InventoryError InventoryResponse :=
  steamFetch (fun body => if body = stuckText then .ok stuckPage else .error "expected value") none
    stuckServer

/-- The rest of the inventory is not searched, and the asset reported missing. -/
theorem not_notFoundLaw_stuck :
    ¬NotFoundLaw sampleFloats stuckFetch 76561198000000001 44001 := by
  intro hLaw
  have hMissing : findAsset sampleFloats stuckFetch 76561198000000001 44001 =
      .error (.assetNotFound 44001) := rfl
  have hFirst : pageAt stuckFetch 76561198000000001 0 = some stuckPage := rfl
  obtain ⟨k, _, page, hPage, hMore, _⟩ := hLaw.searched 44001 hMissing
  cases k with
  | zero =>
      rw [hFirst] at hPage
      cases hPage
      exact hMore rfl
  | succ k =>
      obtain ⟨first, last, hZero, hNext, _⟩ := pageFrom_succ_eq_some hPage
      cases hFirst.symm.trans hZero
      cases hNext

end NotFound

end SettlementOracle
