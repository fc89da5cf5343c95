import SettlementOracle.Inventory.Quality

/-! The family and the tier of a skin under the spellings of its name. The variant
of a starred name stands behind the star, where it is not removed. -/
namespace SettlementOracle

open Checked

/-- A part of a skin's name. -/
structure PlainPart (text : String) : Prop where
  nonempty : text.toList ≠ []
  trimmed : trim isWhitespace text.toList = text.toList
  noSeparator : ¬" | ".toList <:+: text.toList
  noBracket : ¬" (".toList <:+: text.toList
  noStar : '★' ∉ text.toList
  notStatTrak : ¬"StatTrak™ ".toList <+: text.toList
  notSouvenir : ¬"Souvenir ".toList <+: text.toList

structure Skin where
  weapon : String
  pattern : String
  weapon_plain : PlainPart weapon
  pattern_plain : PlainPart pattern

/-- An exterior without another bracket. -/
abbrev Exterior := {text : String // ¬" (".toList <:+: text.toList}

inductive Variant where
  | normal
  | statTrak
  | souvenir
  | star
  | starStatTrak
  deriving DecidableEq, Repr

/-- What Steam writes in front of the weapon. -/
def Variant.mark : Variant → String
  | .normal => ""
  | .statTrak => "StatTrak™ "
  | .souvenir => "Souvenir "
  | .star => "★ "
  | .starStatTrak => "★ StatTrak™ "

/-- What is left of it in the group's names. -/
def Variant.groupMark : Variant → String
  | .normal | .statTrak | .souvenir => ""
  | .star | .starStatTrak => "★ "

def Skin.marketHashName (skin : Skin) (variant : Variant) (exterior : Exterior) : String :=
  variant.mark ++ skin.weapon ++ " | " ++ skin.pattern ++ " (" ++ exterior.val ++ ")"

/-- The name of a group, without variant and exterior. -/
def Skin.baseText (skin : Skin) (front : List Char) : List Char :=
  front ++ skin.weapon.toList ++ " | ".toList ++ skin.pattern.toList

section Normalisation

variable {skin : Skin}

theorem stripTrailingExterior_append (text : List Char) (exterior : Exterior) :
    stripTrailingExterior (text ++ " (".toList ++ (exterior.val.toList ++ [')'])) = text := by
  have hLater : ¬" (".toList <:+: " (".toList.tail ++ (exterior.val.toList ++ [')']) := by
    change ¬[' ', '('] <:+: '(' :: (exterior.val.toList ++ [')'])
    rw [List.infix_cons_iff, List.infix_concat_iff]
    rintro (hHere | ⟨front, hEnd⟩ | hInside)
    · exact absurd (List.cons_prefix_cons.mp hHere).1 (by decide)
    · exact absurd (congrArg List.getLast? hEnd) (by simp)
    · exact exterior.property hInside
  have hLast : (text ++ " (".toList ++ (exterior.val.toList ++ [')'])).getLast? = some ')' := by
    rw [← List.append_assoc, List.getLast?_concat]
  rw [stripTrailingExterior, if_pos hLast, beforeLast_append (by decide) text hLater]
  rfl

theorem marketHashName_toList (variant : Variant) (exterior : Exterior) :
    (skin.marketHashName variant exterior).toList =
      skin.baseText variant.mark.toList ++ " (".toList ++ (exterior.val.toList ++ [')']) := by
  simp [Skin.marketHashName, Skin.baseText]

theorem baseName_eq (variant : Variant) (exterior : Exterior) :
    baseName (skin.marketHashName variant exterior) =
      trim isWhitespace (stripVariantPrefixes (skin.baseText variant.mark.toList)) := by
  rw [baseName, marketHashName_toList, stripTrailingExterior_append]

/-- The parts of a name are cut at its first separator. -/
theorem parseFamily_eq_cut (name : String) :
    parseFamilyFromMarketHashName name =
      (cut " | ".toList (baseName name)).map fun parts =>
        (String.ofList (trim isWhitespace (dropWords "★ ".toList (trim isWhitespace parts.1))),
          String.ofList (trim isWhitespace parts.2)) := by
  have hWord : " | ".toList ≠ [] := by decide
  unfold parseFamilyFromMarketHashName
  cases hCut : cut " | ".toList (baseName name) with
  | none => rw [splitWord_of_cut_none hWord hCut]; rfl
  | some parts =>
      obtain ⟨before, after⟩ := parts
      rw [splitWord_of_cut hWord hCut]
      obtain ⟨first, rest, hParts⟩ := List.exists_cons_of_ne_nil (@splitWord_ne_nil _ _ _ after hWord)
      rw [hParts]
      simp only [Option.map_some]
      rw [← hParts, intercalate_splitWord hWord after]

/-- The variant in front of the weapon is removed, and no more than that. -/
def Variant.strips (weapon : String) : Variant → Prop
  | .normal => weapon ≠ "StatTrak™" ∧ weapon ≠ "Souvenir"
  | .statTrak => weapon ≠ "Souvenir"
  | .souvenir | .star => True
  | .starStatTrak => False

theorem dropWord_baseText {word name : String} (hWord : word.toList = name.toList ++ [' '])
    (hBlank : ' ' ∉ name.toList) (hWeapon : ¬word.toList <+: skin.weapon.toList) :
    dropWord word.toList (skin.baseText []) =
      if skin.weapon = name then "| ".toList ++ skin.pattern.toList else skin.baseText [] := by
  rw [hWord] at hWeapon ⊢
  have hText : skin.baseText [] =
      skin.weapon.toList ++ ' ' :: ("| ".toList ++ skin.pattern.toList) := by
    simp [Skin.baseText]
  rw [hText, dropWord_separated hBlank hWeapon]
  simp only [String.toList_inj]

theorem dropWord_statTrak :
    dropWord "StatTrak™ ".toList (skin.baseText []) =
      if skin.weapon = "StatTrak™" then "| ".toList ++ skin.pattern.toList
      else skin.baseText [] :=
  dropWord_baseText (by decide) (by decide) skin.weapon_plain.notStatTrak

theorem dropWord_souvenir :
    dropWord "Souvenir ".toList (skin.baseText []) =
      if skin.weapon = "Souvenir" then "| ".toList ++ skin.pattern.toList
      else skin.baseText [] :=
  dropWord_baseText (by decide) (by decide) skin.weapon_plain.notSouvenir

theorem trim_baseText {front : List Char}
    (hFront : trim isWhitespace (front ++ skin.weapon.toList) = front ++ skin.weapon.toList) :
    trim isWhitespace (skin.baseText front) = skin.baseText front :=
  trim_append _ hFront skin.pattern_plain.trimmed
    (List.append_ne_nil_of_right_ne_nil _ skin.weapon_plain.nonempty) skin.pattern_plain.nonempty

theorem trim_starred (rest : List Char) :
    trim isWhitespace (['★'] ++ rest ++ skin.weapon.toList) = ['★'] ++ rest ++ skin.weapon.toList :=
  trim_append rest (by decide) skin.weapon_plain.trimmed (by decide) skin.weapon_plain.nonempty

theorem trim_unstripped :
    trim isWhitespace ("| ".toList ++ skin.pattern.toList) = "| ".toList ++ skin.pattern.toList :=
  trim_append [' '] (show trim isWhitespace ['|'] = ['|'] by decide) skin.pattern_plain.trimmed
    (by decide) skin.pattern_plain.nonempty

theorem trim_groupMark (variant : Variant) :
    trim isWhitespace (variant.groupMark.toList ++ skin.weapon.toList) =
      variant.groupMark.toList ++ skin.weapon.toList := by
  cases variant with
  | normal | statTrak | souvenir => exact skin.weapon_plain.trimmed
  | star | starStatTrak => exact trim_starred [' ']

/-- The name of the group, whatever the exterior. -/
theorem baseName_of_strips {variant : Variant} (h : variant.strips skin.weapon)
    (exterior : Exterior) :
    baseName (skin.marketHashName variant exterior) =
      skin.baseText variant.groupMark.toList := by
  rw [baseName_eq, ← trim_baseText (trim_groupMark variant)]
  congr 1
  cases variant with
  | normal =>
      change dropWord _ (dropWord _ (skin.baseText [])) = _
      rw [dropWord_statTrak, if_neg h.1, dropWord_souvenir, if_neg h.2]
      rfl
  | statTrak =>
      change dropWord _ (skin.baseText []) = _
      rw [dropWord_souvenir, if_neg h]
      rfl
  | souvenir => rfl
  | star => rfl
  | starStatTrak => exact h.elim

/-- A weapon that reads like a variant is removed instead. -/
theorem baseName_of_not_strips {variant : Variant} (h : ¬variant.strips skin.weapon)
    (hVariant : variant ≠ .starStatTrak) (exterior : Exterior) :
    (skin.weapon = "StatTrak™" ∨ skin.weapon = "Souvenir") ∧
      baseName (skin.marketHashName variant exterior) =
        "| ".toList ++ skin.pattern.toList := by
  rw [baseName_eq, ← trim_unstripped]
  cases variant with
  | normal =>
      change _ ∧ trim _ (dropWord _ (dropWord _ (skin.baseText []))) = _
      rw [dropWord_statTrak]
      by_cases hStatTrak : skin.weapon = "StatTrak™"
      · rw [if_pos hStatTrak]
        exact ⟨Or.inl hStatTrak, rfl⟩
      · have hSouvenir : skin.weapon = "Souvenir" := by
          by_contra hOther
          exact h ⟨hStatTrak, hOther⟩
        rw [if_neg hStatTrak, dropWord_souvenir, if_pos hSouvenir]
        exact ⟨Or.inr hSouvenir, rfl⟩
  | statTrak =>
      have hSouvenir : skin.weapon = "Souvenir" := not_not.mp h
      change _ ∧ trim _ (dropWord _ (skin.baseText [])) = _
      rw [dropWord_souvenir, if_pos hSouvenir]
      exact ⟨Or.inr hSouvenir, rfl⟩
  | souvenir => exact absurd trivial h
  | star => exact absurd trivial h
  | starStatTrak => exact absurd rfl hVariant

theorem baseName_starStatTrak (exterior : Exterior) :
    baseName (skin.marketHashName .starStatTrak exterior) =
      skin.baseText "★ StatTrak™ ".toList := by
  have hMark : ['★'] ++ " StatTrak™ ".toList = "★ StatTrak™ ".toList := by decide
  have hTrim := trim_baseText (@trim_starred skin " StatTrak™ ".toList)
  rw [hMark] at hTrim
  rw [baseName_eq]
  exact hTrim

end Normalisation

section Parsing

variable {skin : Skin} {name weapon pattern : String}

/-- The weapon that is read from what stands in front of the separator. -/
def readWeapon (before : List Char) : List Char :=
  trim isWhitespace (dropWords "★ ".toList (trim isWhitespace before))

theorem cut_of_parse (h : parseFamilyFromMarketHashName name = some (weapon, pattern)) :
    ∃ before after, baseName name = before ++ " | ".toList ++ after ∧
      cut " | ".toList (baseName name) = some (before, after) ∧
      weapon.toList = readWeapon before := by
  rw [parseFamily_eq_cut] at h
  obtain ⟨⟨before, after⟩, hCut, hParts⟩ := Option.map_eq_some_iff.mp h
  obtain ⟨rfl, rfl⟩ := Prod.mk.inj hParts
  exact ⟨before, after, (cut_eq_some hCut).1, hCut, String.toList_ofList⟩

theorem readWeapon_length_le (before : List Char) : (readWeapon before).length ≤ before.length :=
  trim_length_le.trans (dropWords_length_le.trans trim_length_le)

theorem head?_readWeapon {c : Char} (hBlank : isWhitespace c = false) (hStar : c ≠ '★')
    (rest : List Char) : (readWeapon (c :: rest)).head? = some c := by
  have hHead := head?_trim_cons hBlank rest
  obtain ⟨rest', hTrim⟩ := List.head?_eq_some_iff.mp hHead
  have hFront : ¬"★ ".toList <+: c :: rest' := fun hPrefix =>
    hStar (List.cons_prefix_cons.mp hPrefix).1.symm
  rw [readWeapon, hTrim, dropWords_of_not_prefix hFront, head?_trim_cons hBlank]

/-- Behind a star, the weapon is read without it, or the star is read alone. -/
theorem readWeapon_starred (rest : List Char) :
    (readWeapon ('★' :: rest)).length + 1 ≤ rest.length ∨ '★' ∈ readWeapon ('★' :: rest) := by
  have hBlank : isWhitespace '★' = false := by decide
  have hHead := head?_trim_cons hBlank rest
  obtain ⟨rest', hTrim⟩ := List.head?_eq_some_iff.mp hHead
  by_cases hFront : "★ ".toList <+: '★' :: rest'
  · obtain ⟨text, hText⟩ := hFront
    have hWord : "★ ".toList ≠ [] := by decide
    have hLength : (trim isWhitespace ('★' :: rest)).length ≤ rest.length + 1 := trim_length_le
    refine Or.inl ?_
    rw [readWeapon, hTrim, ← hText, dropWords_append hWord]
    rw [hTrim, ← hText] at hLength
    have hShort : (trim isWhitespace (dropWords "★ ".toList text)).length ≤ text.length :=
      trim_length_le.trans dropWords_length_le
    have hTwo : "★ ".toList.length = 2 := by decide
    rw [List.length_append, hTwo] at hLength
    omega
  · refine Or.inr (List.mem_of_mem_head? ?_)
    rw [readWeapon, hTrim, dropWords_of_not_prefix hFront]
    exact head?_trim_cons hBlank rest'

/-- A word behind the star that the first separator cannot reach is read. -/
theorem prefix_of_parse {first last : Char} {middle : List Char} (next : Char) (rest : List Char)
    (h : parseFamilyFromMarketHashName name = some (weapon, pattern))
    (hBase : baseName name = '★' :: ' ' :: first :: middle ++ [last] ++ next :: rest)
    (hFirst : isWhitespace first = false) (hLast : isWhitespace last = false)
    (hStar : first ≠ '★') (hBar : '|' ∉ '★' :: ' ' :: first :: middle ++ [last] ++ [next]) :
    first :: middle ++ [last] <+: weapon.toList := by
  obtain ⟨before, after, hSplit, _, hWeapon⟩ := cut_of_parse h
  have hWord : '★' :: ' ' :: first :: middle ++ [last] <+: baseName name :=
    ⟨next :: rest, hBase.symm⟩
  have hNext : '★' :: ' ' :: first :: middle ++ [last] ++ [next] <+: baseName name :=
    ⟨rest, by rw [hBase]; simp⟩
  have hBefore : before <+: baseName name := ⟨" | ".toList ++ after, by rw [hSplit]; simp⟩
  have hBarAt : before ++ [' ', '|'] <+: baseName name := ⟨' ' :: after, by rw [hSplit]; simp⟩
  have hLong : ('★' :: ' ' :: first :: middle ++ [last]).length ≤ before.length := by
    by_contra hShort
    refine hBar ((List.prefix_of_prefix_length_le hBarAt hNext ?_).subset (by simp))
    simp only [List.length_append, List.length_cons, List.length_nil] at hShort ⊢
    omega
  obtain ⟨tail, rfl⟩ := List.prefix_of_prefix_length_le hWord hBefore hLong
  have hTrim : '★' :: ' ' :: first :: middle ++ [last] <+:
      trim isWhitespace ('★' :: ' ' :: first :: middle ++ [last] ++ tail) :=
    (@prefix_trim_iff _ isWhitespace '★' last (' ' :: first :: middle) _ (by decide) hLast).mpr
      ⟨[], tail, by simp, by simp⟩
  obtain ⟨back, hBack⟩ := hTrim
  have hDrop : dropWords "★ ".toList ("★ ".toList ++ (first :: middle ++ [last] ++ back)) =
      first :: middle ++ [last] ++ back := by
    rw [dropWords_append (by decide)]
    exact dropWords_of_not_prefix fun hPrefix => hStar (List.cons_prefix_cons.mp hPrefix).1.symm
  rw [hWeapon, readWeapon, ← hBack]
  change _ <+: trim isWhitespace (dropWords _ ("★ ".toList ++ (first :: middle ++ [last] ++ back)))
  rw [hDrop]
  exact (prefix_trim_iff hFirst hLast).mpr ⟨[], back, by simp, by simp⟩

/-- The weapon of a starred StatTrak name is read with its variant. -/
theorem parse_starStatTrak_ne (exterior : Exterior) :
    parseFamilyFromMarketHashName (skin.marketHashName .starStatTrak exterior) ≠
      some (skin.weapon, skin.pattern) := by
  intro h
  have hBase : baseName (skin.marketHashName .starStatTrak exterior) =
      "★ StatTrak™ ".toList ++ (skin.weapon.toList ++ " | ".toList ++ skin.pattern.toList) := by
    rw [baseName_starStatTrak]
    simp [Skin.baseText]
  have hVariant : 'S' :: "tatTrak".toList ++ ['™'] <+: skin.weapon.toList :=
    prefix_of_parse ' ' (skin.weapon.toList ++ " | ".toList ++ skin.pattern.toList) h
      (by simp [hBase]) (by decide) (by decide) (by decide) (by decide)
  obtain ⟨rest, hRest⟩ := hVariant
  -- the weapon would have to repeat its own first word behind a blank
  have hLonger : 'S' :: "tatTrak™ ".toList ++ ['S'] <+: skin.weapon.toList :=
    prefix_of_parse 't' ("atTrak™".toList ++ rest ++ " | ".toList ++ skin.pattern.toList) h
      (by simp [hBase, ← hRest]) (by decide) (by decide) (by decide) (by decide)
  have hWord : 'S' :: "tatTrak™ ".toList ++ ['S'] = "StatTrak™ ".toList ++ ['S'] := by decide
  rw [hWord] at hLonger
  exact skin.weapon_plain.notStatTrak ((List.prefix_append _ _).trans hLonger)

/-- A weapon that reads like a variant is not read. -/
theorem parse_unstripped_ne {variant : Variant} (hStrips : ¬variant.strips skin.weapon)
    (hVariant : variant ≠ .starStatTrak) (exterior : Exterior) :
    parseFamilyFromMarketHashName (skin.marketHashName variant exterior) ≠
      some (skin.weapon, skin.pattern) := by
  intro h
  obtain ⟨hName, hBase⟩ := baseName_of_not_strips hStrips hVariant exterior
  obtain ⟨before, after, hSplit, _, hWeapon⟩ := cut_of_parse h
  rw [hBase] at hSplit
  cases before with
  | nil => exact absurd (List.cons.inj hSplit).1 (by decide)
  | cons c rest =>
      obtain rfl : '|' = c := (List.cons.inj hSplit).1
      have hHead := @head?_readWeapon '|' (by decide) (by decide) rest
      rw [← hWeapon] at hHead
      obtain hName | hName := hName <;> rw [hName] at hHead <;> exact absurd hHead (by decide)

/-- The separator that is found first is the one behind the weapon. -/
def Variant.separates (weapon : String) (variant : Variant) : Prop :=
  ¬" | ".toList <:+: variant.groupMark.toList ++ weapon.toList ++ " |".toList

theorem readWeapon_groupMark (variant : Variant) :
    readWeapon (variant.groupMark.toList ++ skin.weapon.toList) = skin.weapon.toList := by
  have hWeapon : dropWords "★ ".toList skin.weapon.toList = skin.weapon.toList :=
    dropWords_of_not_prefix fun hPrefix =>
      skin.weapon_plain.noStar (hPrefix.subset (by decide))
  have hWord : "★ ".toList ≠ [] := by decide
  rw [readWeapon, trim_groupMark]
  cases variant with
  | normal | statTrak | souvenir =>
      change trim _ (dropWords _ skin.weapon.toList) = _
      rw [hWeapon, skin.weapon_plain.trimmed]
  | star | starStatTrak =>
      change trim _ (dropWords _ ("★ ".toList ++ skin.weapon.toList)) = _
      rw [dropWords_append hWord, hWeapon, skin.weapon_plain.trimmed]

/-- What is read from a shorter text is not the weapon. -/
theorem readWeapon_ne_of_shorter {variant : Variant} {before : List Char}
    (hPrefix : before <+: variant.groupMark.toList ++ skin.weapon.toList)
    (hShorter : before.length < (variant.groupMark.toList ++ skin.weapon.toList).length) :
    readWeapon before ≠ skin.weapon.toList := by
  intro h
  have hRead := readWeapon_length_le before
  rw [h] at hRead
  cases variant with
  | normal | statTrak | souvenir => exact absurd hShorter (Nat.not_lt.mpr hRead)
  | star | starStatTrak =>
      cases before with
      | nil => exact skin.weapon_plain.nonempty (List.eq_nil_of_length_eq_zero (Nat.le_zero.mp hRead))
      | cons c rest =>
          obtain rfl : c = '★' := (List.cons_prefix_cons.mp hPrefix).1
          obtain hFewer | hStar := readWeapon_starred rest
          · change rest.length + 1 < skin.weapon.toList.length + 1 + 1 at hShorter
            rw [h] at hFewer
            omega
          · exact skin.weapon_plain.noStar (h ▸ hStar)

/-- Where the variant is removed, the family is read exactly when no other separator
comes first. -/
theorem parse_of_strips_iff {variant : Variant} (hStrips : variant.strips skin.weapon)
    (exterior : Exterior) :
    parseFamilyFromMarketHashName (skin.marketHashName variant exterior) =
        some (skin.weapon, skin.pattern) ↔ variant.separates skin.weapon := by
  have hBase := baseName_of_strips hStrips exterior
  have hFirst := firstMatch_append_iff (show " | ".toList ≠ [] by decide)
    (variant.groupMark.toList ++ skin.weapon.toList) skin.pattern.toList
  constructor
  · intro h
    obtain ⟨before, after, hSplit, hCut, hWeapon⟩ := cut_of_parse h
    rw [hBase] at hSplit hCut
    obtain ⟨_, hMatch⟩ := cut_eq_some hCut
    have hLength : before.length ≤ (variant.groupMark.toList ++ skin.weapon.toList).length :=
      firstMatch_le hMatch
    refine hFirst.mp ?_
    rcases hLength.eq_or_lt with hSame | hShorter
    · exact hMatch.trans (congrArg some hSame)
    · have hPrefix : before <+: variant.groupMark.toList ++ skin.weapon.toList :=
        List.prefix_of_prefix_length_le ⟨_, (List.append_assoc _ _ _).symm.trans hSplit.symm⟩
          ⟨_, (List.append_assoc _ _ _).symm⟩ hLength
      exact absurd hWeapon.symm (readWeapon_ne_of_shorter hPrefix hShorter)
  · intro hSeparates
    have hCut := cut_of_firstMatch rfl (hFirst.mpr hSeparates)
    rw [parseFamily_eq_cut, hBase, Skin.baseText, hCut, Option.map_some]
    change some (String.ofList (readWeapon _), _) = _
    rw [readWeapon_groupMark, skin.pattern_plain.trimmed, String.ofList_toList,
      String.ofList_toList]

/-- The variant is removed and the weapon ends where its separator stands. -/
def Variant.reads (weapon : String) (variant : Variant) : Prop :=
  variant.strips weapon ∧ variant.separates weapon

theorem parseFamily_iff (variant : Variant) (exterior : Exterior) :
    parseFamilyFromMarketHashName (skin.marketHashName variant exterior) =
        some (skin.weapon, skin.pattern) ↔ variant.reads skin.weapon := by
  by_cases hStrips : variant.strips skin.weapon
  · rw [parse_of_strips_iff hStrips, Variant.reads, and_iff_right hStrips]
  · refine iff_of_false ?_ fun hReads => hStrips hReads.1
    by_cases hVariant : variant = .starStatTrak
    · rw [hVariant]
      exact parse_starStatTrak_ne exterior
    · exact parse_unstripped_ne hStrips hVariant exterior

end Parsing

section Law

variable (F : FloatFormat) (families : List SpecialFamilyConfig) (skin : Skin)

/-- The family of a name is the one that the catalog gives to the skin. -/
structure FamilyLaw (variant : Variant) (exterior : Exterior) : Prop where
  parsed : parseFamilyFromMarketHashName (skin.marketHashName variant exterior) =
    some (skin.weapon, skin.pattern)
  key : ∀ (item : InventoryItem F) (entry : CatalogItem),
    item.marketHashName = skin.marketHashName variant exterior →
    entry.weaponType = some skin.weapon → entry.patternName = some skin.pattern →
    item.exterior = entry.exterior → item.isStattrak = entry.statTrak →
    item.isSouvenir = entry.souvenir →
      FamilyKey.fromInventoryItem F item = FamilyKey.fromCatalogItem entry

/-- Two names of one skin have its family, and its tier where both are starred or
both are not. -/
structure VariantLaw (first second : Variant) (exterior exterior' : Exterior)
    (defindex paintIndex paintSeed : UInt32) : Prop where
  tier : first.groupMark = second.groupMark →
    classifySpecialPatternTier families (skin.marketHashName first exterior) defindex paintIndex
        paintSeed =
      classifySpecialPatternTier families (skin.marketHashName second exterior') defindex paintIndex
        paintSeed
  firstFamily : FamilyLaw F skin first exterior
  secondFamily : FamilyLaw F skin second exterior'

theorem familyLaw_iff {variant : Variant} {exterior : Exterior} :
    FamilyLaw F skin variant exterior ↔ variant.reads skin.weapon := by
  rw [← parseFamily_iff variant exterior]
  refine ⟨FamilyLaw.parsed, fun hParsed => ⟨hParsed, ?_⟩⟩
  intro item entry hName hWeapon hPattern hExterior hStatTrak hSouvenir
  simp only [FamilyKey.fromInventoryItem, FamilyKey.fromCatalogItem, hName, hParsed, hWeapon,
    hPattern, hExterior, hStatTrak, hSouvenir]
  rfl

theorem classify_of_baseName {name name' : String} (h : baseName name = baseName name')
    (defindex paintIndex paintSeed : UInt32) :
    classifySpecialPatternTier families name defindex paintIndex paintSeed =
      classifySpecialPatternTier families name' defindex paintIndex paintSeed := by
  simp only [classifySpecialPatternTier, toCatalogKey, h]

/-- Family and tier are those of the skin exactly when both variants are removed and
both weapons end at their separator. -/
theorem variantLaw_iff (first second : Variant) (exterior exterior' : Exterior)
    (defindex paintIndex paintSeed : UInt32) :
    VariantLaw F families skin first second exterior exterior' defindex paintIndex paintSeed ↔
      first.reads skin.weapon ∧ second.reads skin.weapon := by
  constructor
  · rintro ⟨_, hFirst, hSecond⟩
    exact ⟨(familyLaw_iff F skin).mp hFirst, (familyLaw_iff F skin).mp hSecond⟩
  · rintro ⟨hFirst, hSecond⟩
    refine ⟨fun hGroup => ?_, (familyLaw_iff F skin).mpr hFirst, (familyLaw_iff F skin).mpr hSecond⟩
    apply classify_of_baseName
    rw [baseName_of_strips hFirst.1, baseName_of_strips hSecond.1, hGroup]

end Law

def caseHardened : Skin where
  weapon := "Karambit"
  pattern := "Case Hardened"
  weapon_plain := by constructor <;> decide
  pattern_plain := by constructor <;> decide

def factoryNew : Exterior := ⟨"Factory New", by decide⟩

/-- The best pattern of the knife, as the catalog lists it. -/
def caseHardenedFamily : SpecialFamilyConfig where
  catalogMatchers := [.exact "★ Karambit | Case Hardened"]
  buckets := [⟨"case_hardened:tier_0", 1⟩]
  classifier := .paintSeedMap [⟨[], [507], some 44, [⟨"case_hardened:tier_0", [387], []⟩]⟩]

/-- The StatTrak knife is signed without the tier of the plain one. -/
theorem not_variantLaw_karambit :
    ¬VariantLaw sampleFloats [caseHardenedFamily] caseHardened .star .starStatTrak factoryNew
      factoryNew 507 44 387 := by
  intro hLaw
  have hTier := hLaw.tier rfl
  exact absurd hTier (by decide +kernel)

end SettlementOracle
