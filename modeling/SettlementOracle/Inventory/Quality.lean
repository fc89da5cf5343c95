import SettlementOracle.Inventory.Resolution

/-! The quality of an item is read twice: from its name and tags, and from the
flags of its catalog entry. The two readings part at the names with a star. -/
namespace SettlementOracle

open Checked

/-- The qualities of Steam's items. -/
inductive SteamQuality where
  | normal
  | statTrak
  | souvenir
  | star
  | starStatTrak
  deriving DecidableEq, Repr

def SteamQuality.label : SteamQuality → String
  | .normal => "Normal"
  | .statTrak => "StatTrak™"
  | .souvenir => "Souvenir"
  | .star => "★"
  | .starStatTrak => "★ StatTrak™"

/-- Steam gives an item a quality that its name bears out. -/
def SteamQuality.Fits (name : String) : SteamQuality → Prop
  | .normal => True
  | .statTrak => startsWith name "StatTrak™ " = true
  | .souvenir => startsWith name "Souvenir " = true
  | .star => startsWith name "★ " = true
  | .starStatTrak => startsWith name "★ StatTrak™ " = true

/-- The description has the quality tag that Steam gives the item, and no other
tag with such a label. -/
def TaggedBySteam (desc : DescriptionEntry) : Prop :=
  ∃ (quality : SteamQuality) (before after : List TagEntry),
    quality.Fits (desc.marketHashName.getD "") ∧
    desc.tags = before ++ ⟨"Quality", quality.label⟩ :: after ∧
    ∀ tag ∈ before ++ after, ∀ other : SteamQuality, tag.localizedTagName ≠ other.label

def afterStar (name : String) : List Char := dropWord "★ ".toList name.toList

/-- The flags of the catalog are those of its names. `starred` says whether a
souvenir may stand behind a star, as a StatTrak may. -/
def FlagsFollowNames (starred : Bool) (catalog : CatalogArtifact) : Prop :=
  ∀ item ∈ catalog.items,
    item.statTrak = "StatTrak™ ".toList.isPrefixOf (afterStar item.marketHashName) ∧
      item.souvenir = "Souvenir ".toList.isPrefixOf
        (if starred then afterStar item.marketHashName else item.marketHashName.toList)

/-- The name carries its variant behind a star. -/
def HasStarVariant (starred : Bool) (name : String) : Prop :=
  startsWith name "★ StatTrak™ " = true ∨ (starred = true ∧ startsWith name "★ Souvenir " = true)

section Flags

variable {F : FloatFormat} {desc : DescriptionEntry} {properties : Option PropertyMap}

theorem SteamQuality.label_injective {quality other : SteamQuality}
    (h : quality.label = other.label) : quality = other := by
  cases quality <;> cases other <;> first | rfl | exact absurd h (by decide)

/-- A quality label among the tags is the one that Steam gave. -/
theorem TaggedBySteam.fits (h : TaggedBySteam desc) {quality : SteamQuality}
    (hTag : hasQualityTag desc.tags quality.label = true) :
    quality.Fits (desc.marketHashName.getD "") := by
  obtain ⟨given, before, after, hFits, hTags, hOthers⟩ := h
  rw [hasQualityTag, hTags] at hTag
  obtain ⟨tag, hMem, hLabel⟩ := List.any_eq_true.mp hTag
  have hSame : tag.localizedTagName = quality.label := of_decide_eq_true hLabel
  rcases List.mem_append.mp hMem with hBefore | hRest
  · exact absurd hSame (hOthers tag (List.mem_append_left _ hBefore) quality)
  · rcases List.mem_cons.mp hRest with rfl | hAfter
    · rwa [← SteamQuality.label_injective hSame]
    · exact absurd hSame (hOthers tag (List.mem_append_right _ hAfter) quality)

/-- Beside Steam's tags, the flags of the item only depend on its name. -/
theorem TaggedBySteam.flags (h : TaggedBySteam desc) :
    (buildInventoryItem F desc properties).isStattrak =
        startsWith (desc.marketHashName.getD "") "StatTrak™ " ∧
      (buildInventoryItem F desc properties).isSouvenir =
        startsWith (desc.marketHashName.getD "") "Souvenir " := by
  have hStatTrak : hasQualityTag desc.tags "StatTrak™" = true →
      startsWith (desc.marketHashName.getD "") "StatTrak™ " = true :=
    fun hTag => @TaggedBySteam.fits desc h .statTrak hTag
  have hSouvenir : hasQualityTag desc.tags "Souvenir" = true →
      startsWith (desc.marketHashName.getD "") "Souvenir " = true :=
    fun hTag => @TaggedBySteam.fits desc h .souvenir hTag
  constructor
  · show (_ || hasQualityTag desc.tags "StatTrak™") = _
    cases hTag : hasQualityTag desc.tags "StatTrak™" with
    | false => exact Bool.or_false _
    | true => rw [hStatTrak hTag]; rfl
  · show (_ || hasQualityTag desc.tags "Souvenir") = _
    cases hTag : hasQualityTag desc.tags "Souvenir" with
    | false => exact Bool.or_false _
    | true => rw [hSouvenir hTag]; rfl

/-- A variant behind a star is read off the name behind the star. -/
theorem startsWith_star {name word variant : String}
    (hWord : word.toList = "★ ".toList ++ variant.toList) :
    startsWith name word =
      ("★ ".toList.isPrefixOf name.toList && variant.toList.isPrefixOf (afterStar name)) := by
  rw [startsWith, hWord, isPrefixOf_append]
  cases hStar : "★ ".toList.isPrefixOf name.toList with
  | false => rfl
  | true => rw [afterStar, dropWord, if_pos hStar]

theorem afterStar_of_plain {name : String} (h : "★ ".toList.isPrefixOf name.toList = false) :
    afterStar name = name.toList := by
  rw [afterStar, dropWord, if_neg (Bool.eq_false_iff.mp h)]

theorem hasStarVariant_iff {starred : Bool} {name : String} :
    HasStarVariant starred name ↔
      "★ ".toList.isPrefixOf name.toList = true ∧
        ("StatTrak™ ".toList.isPrefixOf (afterStar name) = true ∨
          starred = true ∧ "Souvenir ".toList.isPrefixOf (afterStar name) = true) := by
  rw [HasStarVariant, @startsWith_star name "★ StatTrak™ " "StatTrak™ " (by decide),
    @startsWith_star name "★ Souvenir " "Souvenir " (by decide)]
  cases "★ ".toList.isPrefixOf name.toList <;> simp

/-- No variant stands in front of a star. -/
theorem not_startsWith_of_star {name : String} (h : "★ ".toList.isPrefixOf name.toList = true) :
    startsWith name "StatTrak™ " = false ∧ startsWith name "Souvenir " = false := by
  constructor
  · refine Bool.eq_false_iff.mpr fun hVariant => ?_
    exact absurd (head_eq_of_isPrefixOf (a := '★') (b := 'S') h hVariant) (by decide)
  · refine Bool.eq_false_iff.mpr fun hVariant => ?_
    exact absurd (head_eq_of_isPrefixOf (a := '★') (b := 'S') h hVariant) (by decide)

end Flags

section Agreement

variable {F : FloatFormat} {catalog : CatalogArtifact} {desc : DescriptionEntry}
  {properties : Option PropertyMap} {entry : CatalogItem} {resolved : ResolvedCatalogIdentity F}

/-- Read off one name, the two qualities agree unless the variant stands behind a
star. -/
theorem qualityFromFlags_names_iff (starred : Bool) (name : String) :
    qualityFromFlags (startsWith name "Souvenir ") (startsWith name "StatTrak™ ") =
        qualityFromFlags
          ("Souvenir ".toList.isPrefixOf (if starred then afterStar name else name.toList))
          ("StatTrak™ ".toList.isPrefixOf (afterStar name)) ↔
      ¬HasStarVariant starred name := by
  rw [hasStarVariant_iff]
  cases hStar : "★ ".toList.isPrefixOf name.toList with
  | false =>
      rw [afterStar_of_plain hStar, ite_self]
      exact iff_of_true rfl (by simp)
  | true =>
      obtain ⟨hStatTrak, hSouvenir⟩ := not_startsWith_of_star hStar
      rw [hStatTrak, hSouvenir]
      -- without `starred` the catalog looks for a souvenir in front of the star
      have hFront : "Souvenir ".toList.isPrefixOf name.toList = false := hSouvenir
      cases starred with
      | false =>
          simp only [Bool.false_eq_true, if_false, hFront]
          cases "StatTrak™ ".toList.isPrefixOf (afterStar name) <;> simp [qualityFromFlags]
      | true =>
          simp only [if_true]
          cases "StatTrak™ ".toList.isPrefixOf (afterStar name) <;>
            cases "Souvenir ".toList.isPrefixOf (afterStar name) <;> simp [qualityFromFlags]

/-- The quality that is signed for an item of Steam is that of its catalog entry,
unless its name carries the variant behind a star. -/
theorem resolved_quality_iff (starred : Bool) (hFlags : FlagsFollowNames starred catalog)
    (hTags : TaggedBySteam desc)
    (hEntry : (CatalogResolver.load F catalog).resolveCatalogItem
      (buildInventoryItem F desc properties) (buildInventoryItem F desc properties).finishCatalog =
        .ok entry)
    (hName : entry.marketHashName = (buildInventoryItem F desc properties).marketHashName)
    (hResolved : (CatalogResolver.load F catalog).resolve (buildInventoryItem F desc properties) =
      .ok resolved) :
    resolved.quality = qualityFromCatalogItem entry ↔
      ¬HasStarVariant starred (buildInventoryItem F desc properties).marketHashName := by
  obtain ⟨hStatTrak, hSouvenir⟩ := @TaggedBySteam.flags F desc properties hTags
  obtain ⟨hEntryStatTrak, hEntrySouvenir⟩ := hFlags entry (mem_of_resolveCatalogItem hEntry)
  rw [(resolvesTo_of_resolve hEntry hResolved).quality, qualityFromInventoryItem, hStatTrak,
    hSouvenir, qualityFromCatalogItem, hEntryStatTrak, hEntrySouvenir, hName]
  exact qualityFromFlags_names_iff starred _

end Agreement

/-- The attested quality is that of the catalog entry under the item's name. -/
def QualityLaw (F : FloatFormat) (starred : Bool) (catalog : CatalogArtifact)
    (desc : DescriptionEntry) (properties : Option PropertyMap) : Prop :=
  FlagsFollowNames starred catalog → TaggedBySteam desc → ∀ entry resolved,
    (CatalogResolver.load F catalog).resolveCatalogItem (buildInventoryItem F desc properties)
      (buildInventoryItem F desc properties).finishCatalog = .ok entry →
    entry.marketHashName = (buildInventoryItem F desc properties).marketHashName →
    (CatalogResolver.load F catalog).resolve (buildInventoryItem F desc properties) =
      .ok resolved →
    resolved.quality = qualityFromCatalogItem entry

/-- Floats given in millionths. -/
def sampleFloats : FloatFormat where
  Value := UInt64
  zero := 0
  parse text := if text = "0.25" then some 250000 else none
  scaled value := value
  scaled_zero := rfl

def karambitName : String := "★ StatTrak™ Karambit | Fade (Factory New)"

def nexusName : String := "StatTrak™ MP9 | Nexus (Field-Tested)"

def karambitEntry : CatalogItem :=
  ⟨karambitName, some 507, some 38, none, "knife", some "Karambit", some "Fade",
    some "Factory New", true, false⟩

def nexusEntry : CatalogItem :=
  ⟨nexusName, some 34, some 1193, none, "weapon_skin", some "MP9", some "Nexus",
    some "Field-Tested", true, false⟩

/-- Two entries of the shipped catalog. -/
def sampleCatalog : CatalogArtifact where
  items := [karambitEntry, nexusEntry]
  specialClassification := []

/-- Paint seed and float of a painted item. -/
def sampleProperties : Option PropertyMap :=
  some (collect [(1, ⟨1, some "766", none, none⟩), (2, ⟨2, none, some "0.25", none⟩)])

/-- A description of Steam with a quality and an exterior. -/
def sampleDescription (name : String) (quality : SteamQuality) (exterior : String) :
    DescriptionEntry where
  classid := "310776560"
  instanceid := "302028390"
  marketHashName := some name
  tags := [⟨"Quality", quality.label⟩, ⟨"Exterior", exterior⟩]

theorem sampleCatalog_flags (starred : Bool) : FlagsFollowNames starred sampleCatalog := by
  intro item hMem
  rcases List.mem_cons.mp hMem with rfl | hRest
  · cases starred <;> decide +kernel
  · obtain rfl := List.mem_singleton.mp hRest
    cases starred <;> decide +kernel

theorem sampleDescription_tagged {name exterior : String} {quality : SteamQuality}
    (hFits : quality.Fits name) (hExterior : ∀ other : SteamQuality, exterior ≠ other.label) :
    TaggedBySteam (sampleDescription name quality exterior) := by
  refine ⟨quality, [], [⟨"Exterior", exterior⟩], hFits, rfl, fun tag hMem => ?_⟩
  obtain rfl := List.mem_singleton.mp hMem
  exact hExterior

def karambitDescription : DescriptionEntry :=
  sampleDescription karambitName .starStatTrak "Factory New"

def nexusDescription : DescriptionEntry := sampleDescription nexusName .statTrak "Field-Tested"

theorem karambitDescription_tagged : TaggedBySteam karambitDescription := by
  refine sampleDescription_tagged ?_ fun other => by cases other <;> decide
  show startsWith karambitName "★ StatTrak™ " = true
  decide +kernel

theorem nexusDescription_tagged : TaggedBySteam nexusDescription := by
  refine sampleDescription_tagged ?_ fun other => by cases other <;> decide
  show startsWith nexusName "StatTrak™ " = true
  decide +kernel

theorem resolved_quality_iff_nexus :
    ∃ resolved, (CatalogResolver.load sampleFloats sampleCatalog).resolve
        (buildInventoryItem sampleFloats nexusDescription sampleProperties) = .ok resolved ∧
      (resolved.quality = qualityFromCatalogItem nexusEntry ↔ ¬HasStarVariant false nexusName) ∧
      resolved.quality = 9 := by
  have hQuality : ((CatalogResolver.load sampleFloats sampleCatalog).resolve
      (buildInventoryItem sampleFloats nexusDescription sampleProperties)).map
        ResolvedCatalogIdentity.quality = .ok 9 := by
    decide +kernel
  obtain ⟨resolved, hResolved, hNine⟩ := map_eq_ok.mp hQuality
  refine ⟨resolved, hResolved, ?_, hNine⟩
  exact resolved_quality_iff false (sampleCatalog_flags false) nexusDescription_tagged
    (by decide +kernel) rfl hResolved

theorem karambit_signed_normal (starred : Bool) :
    ¬QualityLaw sampleFloats starred sampleCatalog karambitDescription sampleProperties := by
  intro hLaw
  have hQuality : ((CatalogResolver.load sampleFloats sampleCatalog).resolve
      (buildInventoryItem sampleFloats karambitDescription sampleProperties)).map
        ResolvedCatalogIdentity.quality = .ok 4 := by
    decide +kernel
  obtain ⟨resolved, hResolved, hFour⟩ := map_eq_ok.mp hQuality
  have hEntry := hLaw (sampleCatalog_flags starred) karambitDescription_tagged karambitEntry
    resolved (by decide +kernel) rfl hResolved
  rw [hFour] at hEntry
  exact absurd hEntry (by decide)

/-- A StatTrak knife is signed as a normal one, whichever way the catalog reads its
souvenirs. -/
theorem not_qualityLaw_karambit :
    ¬QualityLaw sampleFloats false sampleCatalog karambitDescription sampleProperties ∧
      ¬QualityLaw sampleFloats true sampleCatalog karambitDescription sampleProperties :=
  ⟨karambit_signed_normal false, karambit_signed_normal true⟩

end SettlementOracle
