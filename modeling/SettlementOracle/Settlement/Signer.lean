import SettlementOracle.Checked.Abi
import SettlementOracle.Settlement.ChainReader
import SettlementOracle.Settlement.Soundness

/-! The EIP-712 signer. Three encodings are nested in a digest, each hashed by
`keccak256`, which is a parameter of the model. -/
namespace SettlementOracle

open Checked

abbrev B256 := Word

def leftPaddingFrom (bytes : List UInt8) : List UInt8 := leftPad 32 bytes

/-- `u64::to_be_bytes`. -/
def toBeBytes (value : UInt64) : List UInt8 := bigEndian 8 value.toNat

def settlementType : List UInt8 :=
  ascii "Settlement(uint64 assetId,uint48 tradeOfferId,uint8 decision,uint8 refundReason)"

def itemAttestationType : List UInt8 := ascii "ItemAttestation(uint64 assetId,uint64 itemDetail)"

def eip712DomainType : List UInt8 :=
  ascii "EIP712Domain(string name,string version,uint256 chainId,address verifyingContract)"

def domainName : List UInt8 := ascii "JJSKIN"

def domainVersion : List UInt8 := ascii "1"

section Hashing

variable (keccak256 : List UInt8 → B256)

def domainPreimage (chainId : UInt64) (contractAddress : Address) : List UInt8 :=
  (keccak256 eip712DomainType).toList ++ (keccak256 domainName).toList ++
    (keccak256 domainVersion).toList ++ leftPaddingFrom (toBeBytes chainId) ++
    leftPaddingFrom contractAddress.toList

def computeDomainSeparator (chainId : UInt64) (contractAddress : Address) : B256 :=
  keccak256 (domainPreimage keccak256 chainId contractAddress)

def settlementPreimage (settlement : Settlement) : List UInt8 :=
  (keccak256 settlementType).toList ++ leftPaddingFrom (toBeBytes settlement.assetId) ++
    leftPaddingFrom (toBeBytes settlement.tradeOfferId) ++
    leftPaddingFrom [settlement.decision.toU8] ++ leftPaddingFrom [settlement.refundReason.toU8]

def computeStructHash (settlement : Settlement) : B256 :=
  keccak256 (settlementPreimage keccak256 settlement)

def itemAttestationPreimage (assetId itemDetail : UInt64) : List UInt8 :=
  (keccak256 itemAttestationType).toList ++ leftPaddingFrom (toBeBytes assetId) ++
    leftPaddingFrom (toBeBytes itemDetail)

def computeItemAttestationStructHash (assetId itemDetail : UInt64) : B256 :=
  keccak256 (itemAttestationPreimage keccak256 assetId itemDetail)

def digestPreimage (domainSeparator structHash : B256) : List UInt8 :=
  [0x19, 0x01] ++ domainSeparator.toList ++ structHash.toList

def computeEip712Digest (domainSeparator structHash : B256) : B256 :=
  keccak256 (digestPreimage domainSeparator structHash)

/-- The key of the signer is behind `signHash`. -/
structure OracleSigner where
  signHash : B256 → Except String (List UInt8)
  domainSeparator : B256

def OracleSigner.signSettlement (signer : OracleSigner) (settlement : Settlement) :
    Except String (List UInt8) :=
  (signer.signHash (computeEip712Digest keccak256 signer.domainSeparator
    (computeStructHash keccak256 settlement))).mapError ("Failed to sign settlement: " ++ ·)

def OracleSigner.signItemAttestation (signer : OracleSigner) (assetId itemDetail : UInt64) :
    Except String (List UInt8) :=
  (signer.signHash (computeEip712Digest keccak256 signer.domainSeparator
    (computeItemAttestationStructHash keccak256 assetId itemDetail))).mapError
      ("Failed to sign item attestation: " ++ ·)

/-- The messages that the oracle signs. -/
inductive Message where
  | settlement (settlement : Settlement)
  | itemAttestation (assetId itemDetail : UInt64)
  deriving DecidableEq, Repr

def Message.type : Message → List UInt8
  | .settlement _ => settlementType
  | .itemAttestation _ _ => itemAttestationType

def Message.preimage : Message → List UInt8
  | .settlement decided => settlementPreimage keccak256 decided
  | .itemAttestation assetId itemDetail => itemAttestationPreimage keccak256 assetId itemDetail

def Message.structHash : Message → B256
  | .settlement decided => computeStructHash keccak256 decided
  | .itemAttestation assetId itemDetail =>
      computeItemAttestationStructHash keccak256 assetId itemDetail

def OracleSigner.sign (signer : OracleSigner) : Message → Except String (List UInt8)
  | .settlement decided => signer.signSettlement keccak256 decided
  | .itemAttestation assetId itemDetail => signer.signItemAttestation keccak256 assetId itemDetail

/-- A message for one contract on one chain. -/
structure SigningRequest where
  chainId : UInt64
  contractAddress : Address
  message : Message
  deriving DecidableEq

def SigningRequest.digest (request : SigningRequest) : B256 :=
  computeEip712Digest keccak256 (computeDomainSeparator keccak256 request.chainId
    request.contractAddress) (request.message.structHash keccak256)

/-- The byte strings that are hashed for a request. -/
def SigningRequest.preimages (request : SigningRequest) : List (List UInt8) :=
  [eip712DomainType, domainName, domainVersion,
    domainPreimage keccak256 request.chainId request.contractAddress, request.message.type,
    request.message.preimage keccak256,
    digestPreimage (computeDomainSeparator keccak256 request.chainId request.contractAddress)
      (request.message.structHash keccak256)]

/-- The hash tells the byte strings apart. -/
def Distinguishes (preimages : List (List UInt8)) : Prop :=
  ∀ first ∈ preimages, ∀ second ∈ preimages, keccak256 first = keccak256 second → first = second

instance (preimages : List (List UInt8)) : Decidable (Distinguishes keccak256 preimages) :=
  inferInstanceAs (Decidable (∀ first ∈ preimages, _))

end Hashing

section Encoding

variable {keccak256 : List UInt8 → B256}

theorem toBeBytes_inj {first second : UInt64} (h : toBeBytes first = toBeBytes second) :
    first = second := by
  have hFirst : first.toNat < Nat.pow 256 8 := first.toNat_lt_size
  have hSecond : second.toNat < Nat.pow 256 8 := second.toNat_lt_size
  exact UInt64.toNat_inj.mp (bigEndian_inj hFirst hSecond h)

@[simp] theorem length_toBeBytes (value : UInt64) : (toBeBytes value).length = 8 :=
  length_bigEndian 8 _

theorem leftPaddingFrom_inj {first second : List UInt8} (hLength : first.length = second.length)
    (h : leftPaddingFrom first = leftPaddingFrom second) : first = second :=
  (List.append_inj' h hLength).2

theorem length_leftPaddingFrom {bytes : List UInt8} (h : bytes.length ≤ 32) :
    (leftPaddingFrom bytes).length = 32 :=
  length_leftPad h

/-- A padded `u64` is one word of the ABI. -/
theorem leftPaddingFrom_toBeBytes (value : UInt64) :
    leftPaddingFrom (toBeBytes value) = bigEndian 32 value.toNat :=
  leftPad_bigEndian (by decide) value.toNat_lt_size

theorem leftPaddingFrom_byte (value : UInt8) :
    leftPaddingFrom [value] = bigEndian 32 value.toNat := by
  have hByte : bigEndian 1 value.toNat = [value] := by
    simp [bigEndian, Nat.mod_eq_of_lt value.toNat_lt]
  rw [← hByte]
  exact leftPad_bigEndian (by decide) value.toNat_lt_size

theorem Decision.toU8_inj {first second : Decision} (h : first.toU8 = second.toU8) :
    first = second := by
  cases first <;> cases second <;> first | rfl | cases h

theorem RefundReason.toU8_inj {first second : RefundReason} (h : first.toU8 = second.toU8) :
    first = second := by
  cases first <;> cases second <;> first | rfl | cases h

/-- A padded `u64` determines its value. -/
theorem paddedBytes_inj {first second : UInt64}
    (h : leftPaddingFrom (toBeBytes first) = leftPaddingFrom (toBeBytes second)) : first = second :=
  toBeBytes_inj (leftPaddingFrom_inj (by simp) h)

theorem paddedByte_inj {first second : UInt8}
    (h : leftPaddingFrom [first] = leftPaddingFrom [second]) : first = second :=
  List.singleton_inj.mp (leftPaddingFrom_inj rfl h)

@[simp] theorem length_paddedBytes (value : UInt64) :
    (leftPaddingFrom (toBeBytes value)).length = 32 :=
  length_leftPaddingFrom (by simp)

@[simp] theorem length_paddedByte (value : UInt8) : (leftPaddingFrom [value]).length = 32 :=
  length_leftPaddingFrom (by simp)

@[simp] theorem length_paddedAddress (address : Address) :
    (leftPaddingFrom address.toList).length = 32 :=
  length_leftPaddingFrom (by simp)

theorem domainPreimage_inj {chain chain' : UInt64} {contract contract' : Address}
    (h : domainPreimage keccak256 chain contract = domainPreimage keccak256 chain' contract') :
    chain = chain' ∧ contract = contract' := by
  obtain ⟨hFront, hContract⟩ := List.append_inj' h (by simp)
  obtain ⟨_, hChain⟩ := List.append_inj' hFront (by simp)
  exact ⟨paddedBytes_inj hChain, Vector.toList_inj.mp (leftPaddingFrom_inj (by simp) hContract)⟩

theorem settlementPreimage_inj {first second : Settlement}
    (h : settlementPreimage keccak256 first = settlementPreimage keccak256 second) :
    first = second := by
  obtain ⟨hFront, hReason⟩ := List.append_inj' h (by simp)
  obtain ⟨hFront, hDecision⟩ := List.append_inj' hFront (by simp)
  obtain ⟨hFront, hOffer⟩ := List.append_inj' hFront (by simp)
  obtain ⟨_, hAsset⟩ := List.append_inj' hFront (by simp)
  cases first
  cases second
  simp only [Settlement.mk.injEq]
  exact ⟨paddedBytes_inj hAsset, paddedBytes_inj hOffer,
    Decision.toU8_inj (paddedByte_inj hDecision), RefundReason.toU8_inj (paddedByte_inj hReason)⟩

theorem itemAttestationPreimage_inj {asset asset' detail detail' : UInt64}
    (h : itemAttestationPreimage keccak256 asset detail =
      itemAttestationPreimage keccak256 asset' detail') : asset = asset' ∧ detail = detail' := by
  obtain ⟨hFront, hDetail⟩ := List.append_inj' h (by simp)
  obtain ⟨_, hAsset⟩ := List.append_inj' hFront (by simp)
  exact ⟨paddedBytes_inj hAsset, paddedBytes_inj hDetail⟩

/-- A settlement takes five words and an item attestation three. -/
theorem settlementPreimage_ne_itemAttestationPreimage (settlement : Settlement)
    (assetId itemDetail : UInt64) :
    settlementPreimage keccak256 settlement ≠
      itemAttestationPreimage keccak256 assetId itemDetail := by
  intro h
  have hLength := congrArg List.length h
  simp only [settlementPreimage, itemAttestationPreimage, List.length_append, Vector.length_toList,
    length_paddedBytes, length_paddedByte] at hLength
  omega

theorem Message.preimage_inj {first second : Message}
    (h : first.preimage keccak256 = second.preimage keccak256) : first = second := by
  cases first with
  | settlement decided =>
      cases second with
      | settlement other => rw [settlementPreimage_inj h]
      | itemAttestation assetId itemDetail =>
          exact absurd h (settlementPreimage_ne_itemAttestationPreimage decided assetId itemDetail)
  | itemAttestation assetId itemDetail =>
      cases second with
      | settlement other =>
          exact absurd h.symm
            (settlementPreimage_ne_itemAttestationPreimage other assetId itemDetail)
      | itemAttestation assetId' itemDetail' =>
          obtain ⟨rfl, rfl⟩ := itemAttestationPreimage_inj h
          rfl

theorem Message.structHash_eq (message : Message) :
    message.structHash keccak256 = keccak256 (message.preimage keccak256) := by
  cases message <;> rfl

theorem digestPreimage_inj {domain domain' struct struct' : B256}
    (h : digestPreimage domain struct = digestPreimage domain' struct') :
    domain = domain' ∧ struct = struct' := by
  obtain ⟨hFront, hStruct⟩ := List.append_inj' h (by simp)
  obtain ⟨_, hDomain⟩ := List.append_inj' hFront (by simp)
  exact ⟨Vector.toList_inj.mp hDomain, Vector.toList_inj.mp hStruct⟩

theorem Distinguishes.eq_of_append {firsts seconds : List (List UInt8)} {first second : List UInt8}
    (h : Distinguishes keccak256 (firsts ++ seconds)) (hFirst : first ∈ firsts)
    (hSecond : second ∈ seconds) (hHash : keccak256 first = keccak256 second) : first = second :=
  h first (List.mem_append_left seconds hFirst) second (List.mem_append_right firsts hSecond) hHash

/-- Domain, message and digest of a request are hashed. -/
theorem SigningRequest.mem_preimages (request : SigningRequest) :
    domainPreimage keccak256 request.chainId request.contractAddress ∈ request.preimages keccak256 ∧
      request.message.preimage keccak256 ∈ request.preimages keccak256 ∧
      digestPreimage (computeDomainSeparator keccak256 request.chainId request.contractAddress)
        (request.message.structHash keccak256) ∈ request.preimages keccak256 := by
  simp [SigningRequest.preimages]

/-- Requests with the same digest are the same, if the hash tells apart what is
hashed for the two of them. -/
theorem SigningRequest.digest_inj {first second : SigningRequest}
    (hHash : Distinguishes keccak256 (first.preimages keccak256 ++ second.preimages keccak256))
    (h : first.digest keccak256 = second.digest keccak256) : first = second := by
  obtain ⟨hDomain₁, hMessage₁, hDigest₁⟩ := @SigningRequest.mem_preimages keccak256 first
  obtain ⟨hDomain₂, hMessage₂, hDigest₂⟩ := @SigningRequest.mem_preimages keccak256 second
  -- from the outermost hash inwards
  obtain ⟨hDomain, hStruct⟩ := digestPreimage_inj (hHash.eq_of_append hDigest₁ hDigest₂ h)
  obtain ⟨hChain, hContract⟩ :=
    domainPreimage_inj (hHash.eq_of_append hDomain₁ hDomain₂ hDomain)
  rw [Message.structHash_eq, Message.structHash_eq] at hStruct
  have hMessage := Message.preimage_inj (hHash.eq_of_append hMessage₁ hMessage₂ hStruct)
  cases first
  cases second
  simp only [SigningRequest.mk.injEq]
  exact ⟨hChain, hContract, hMessage⟩

theorem OracleSigner.sign_eq_ok_iff {signer : OracleSigner} {message : Message}
    {signature : List UInt8} :
    signer.sign keccak256 message = .ok signature ↔
      signer.signHash (computeEip712Digest keccak256 signer.domainSeparator
        (message.structHash keccak256)) = .ok signature := by
  cases message <;> exact mapError_eq_ok

/-- The signer of a contract signs the digests of the requests for this contract. -/
theorem OracleSigner.sign_eq_ok_iff_digest {signer : OracleSigner} {request : SigningRequest}
    {signature : List UInt8}
    (hDomain : signer.domainSeparator =
      computeDomainSeparator keccak256 request.chainId request.contractAddress) :
    signer.sign keccak256 request.message = .ok signature ↔
      signer.signHash (request.digest keccak256) = .ok signature := by
  rw [OracleSigner.sign_eq_ok_iff, hDomain]
  rfl

end Encoding

section Faithful

variable {displayAddress : Address → String} {assetId : UInt64} {answers : ChainAnswers}
  {escrow : EscrowSnapshot}

/-- The trade offer of a snapshot was read from a `uint48`. -/
theorem readEscrow_tradeOfferId_lt (h : readEscrow displayAddress assetId answers = .ok escrow) :
    escrow.tradeOfferId.toNat < Nat.pow 2 48 := by
  obtain ⟨purchase, _, _, _, _, _, _, _, _, _, _, _, _, _, _, rfl⟩ := readEscrow_eq_ok h
  have hWord : purchase.tradeOfferId.toNat < Nat.pow 2 48 := purchase.tradeOfferId.isLt
  have hFits : purchase.tradeOfferId.toNat < UInt64.size := Nat.lt_trans hWord (by decide)
  show (UInt64.ofNat purchase.tradeOfferId.toNat).toNat < _
  rwa [UInt64.toNat_ofNat_of_lt' hFits]

theorem decide_tradeOfferId {ext : Externals} {serverName : String} {request response : List UInt8}
    {proofTimestamp : UInt64} {settlement : Settlement}
    (h : Oracle.decide ext serverName request response escrow proofTimestamp = .ok settlement) :
    settlement.tradeOfferId = escrow.tradeOfferId := by
  obtain ⟨evidence, _, hJudge⟩ := (decide_eq_ok_iff ext).mp h
  obtain rfl | ⟨reason, _, rfl⟩ := judge_eq_ok hJudge
  · rfl
  · rfl

variable (keccak256 : List UInt8 → B256)

/-- The struct of a settlement, as the contract declares it. -/
def settlementValues (settlement : Settlement)
    (fits : settlement.tradeOfferId.toNat < Nat.pow 2 48) : List AbiValue :=
  [.bytes32 (keccak256 settlementType), .uint 64 settlement.assetId.toNat settlement.assetId.toNat_lt,
    .uint 48 settlement.tradeOfferId.toNat fits,
    .uint 8 settlement.decision.toU8.toNat settlement.decision.toU8.toNat_lt,
    .uint 8 settlement.refundReason.toU8.toNat settlement.refundReason.toU8.toNat_lt]

theorem settlementPreimage_eq_abiEncode (settlement : Settlement)
    (fits : settlement.tradeOfferId.toNat < Nat.pow 2 48) :
    settlementPreimage keccak256 settlement =
      abiEncode (settlementValues keccak256 settlement fits) := by
  simp only [settlementPreimage, leftPaddingFrom_toBeBytes, leftPaddingFrom_byte, abiEncode,
    settlementValues, AbiValue.encode, List.flatMap_cons, List.flatMap_nil, List.append_nil,
    List.append_assoc]

/-- The settlements that the oracle signs are encoded as the contract encodes
them, and a digest determines the chain, the contract and the message. It is what the
signer of the contract signs. -/
theorem eip712_faithful :
    (∀ (ext : Externals) (displayAddress : Address → String) (assetId : UInt64)
      (answers : ChainAnswers) (escrow : EscrowSnapshot) (serverName : String)
      (request response : List UInt8) (proofTimestamp : UInt64) (settlement : Settlement),
      readEscrow displayAddress assetId answers = .ok escrow →
      Oracle.decide ext serverName request response escrow proofTimestamp = .ok settlement →
      ∃ fits, settlementPreimage keccak256 settlement =
        abiEncode (settlementValues keccak256 settlement fits)) ∧
    (∀ first second : SigningRequest,
      Distinguishes keccak256 (first.preimages keccak256 ++ second.preimages keccak256) →
      first.digest keccak256 = second.digest keccak256 → first = second) ∧
    ∀ (signer : OracleSigner) (request : SigningRequest) (signature : List UInt8),
      signer.domainSeparator =
        computeDomainSeparator keccak256 request.chainId request.contractAddress →
      (signer.sign keccak256 request.message = .ok signature ↔
        signer.signHash (request.digest keccak256) = .ok signature) := by
  refine ⟨?_, fun first second => SigningRequest.digest_inj,
    fun signer request signature => OracleSigner.sign_eq_ok_iff_digest⟩
  intro ext displayAddress assetId answers escrow serverName request response proofTimestamp
    settlement hRead hDecide
  have hFits : settlement.tradeOfferId.toNat < Nat.pow 2 48 := by
    rw [decide_tradeOfferId hDecide]
    exact readEscrow_tradeOfferId_lt hRead
  exact ⟨hFits, settlementPreimage_eq_abiEncode keccak256 settlement hFits⟩

end Faithful

def wordOf (n : Nat) : B256 := ⟨(bigEndian 32 n).toArray, by simp⟩

/-- The marketplace contract on Arbitrum One. -/
def jjskinAddress : Address :=
  ⟨(bigEndian 20 0x966F2BBF404B36d6E30f226838e772AfcbE6Dcf7).toArray, by simp⟩

def settlementRequest : SigningRequest :=
  ⟨42161, jjskinAddress, .settlement sampleEscrow.release⟩

def attestationRequest : SigningRequest :=
  ⟨42161, jjskinAddress, .itemAttestation 40964044588 43980521734112⟩

/-- The Keccak hashes of what is hashed for the two requests, outermost last. -/
def sampleHashes : List (List UInt8 × B256) :=
  let domainType := wordOf 0x8b73c3c69bb8fe3d512ecc4cf759cc79239f7b179b0ffacaa9a75d522b39400f
  let name := wordOf 0x7728fafd860496416c6a5976ae76ad4cf6caf04ef3d035b33174eeb11d3b15f2
  let version := wordOf 0xc89efdaa54c0f20c7adf612882df0950f5a951637e0307cdcb4c672f298b8bc6
  let settled := wordOf 0x834d2df7920fd69ff17f0785b1f1264ab6579c4c7bda6310ccd7aabd25ce55ed
  let attested := wordOf 0xbca207937c2b2262424e5a28b94d32288288f075e0bf9d7a00f024be3cb3ebad
  let domain := wordOf 0x6894d6dd373f0f21c08c6118f62d1a6b63d0832f56c47b276844a4ac42fdea62
  let settlement := wordOf 0x8646706ef210d5323effe2ae20a6a0786c07de3b8148704783ac96f602b99b1d
  let attestation := wordOf 0x4c59456b1059fc4719f37726ab7ad3c606b723a629ea54bc2b248e8aa34e61f4
  [(eip712DomainType, domainType), (domainName, name), (domainVersion, version),
    (settlementType, settled), (itemAttestationType, attested),
    (domainType.toList ++ name.toList ++ version.toList ++ bigEndian 32 42161 ++
      leftPaddingFrom jjskinAddress.toList, domain),
    (settled.toList ++ bigEndian 32 40964044588 ++ bigEndian 32 8653813160 ++ bigEndian 32 0 ++
      bigEndian 32 0, settlement),
    (attested.toList ++ bigEndian 32 40964044588 ++ bigEndian 32 43980521734112, attestation),
    (digestPreimage domain settlement,
      wordOf 0x60b78453a60aa48b548b3666a885dbbde9c015f31a346e0e30c54aeff33176cb),
    (digestPreimage domain attestation,
      wordOf 0x4d9a8400d5adb73d0881dad7b315ea8e03f589901db89022f0b0074dbb2225cd)]

def sampleKeccak (data : List UInt8) : B256 := (sampleHashes.lookup data).getD (wordOf 0)

def activeAnswers : ChainAnswers where
  purchases := .ok ⟨Vector.replicate 20 0x22, 1700000000, 0, 8653813160⟩
  listings := .ok ⟨Vector.replicate 20 0x11, 1000000, true⟩
  abandonedWindow := .ok 86400
  sellerSteamId := fun _ => .ok 76561198366018280
  buyerSteamId := fun _ => .ok 76561198404282737

def settlementSignature : List UInt8 :=
  bigEndian 32 0xdb856346731aeeaeb49fbc34d59d1c87f0ebad166c27e69fa4db4729156dce2d ++
    bigEndian 32 0x2460d0f4b84b5c4252077ab48e21bdaf58ec5041d34d8aab87b220c088e16643 ++ [28]

def attestationSignature : List UInt8 :=
  bigEndian 32 0xfaadc6a2cc9bb08f4c3486160f566714e01b347336ee04da695c326ac45cd788 ++
    bigEndian 32 0x6407a11554c4ec7ae79e19468a3c7db79433168f2de94a53d5abbba189bcf2d3 ++ [28]

/-- The key of the signer's tests, on the digests of the two requests. -/
def sampleSigner : OracleSigner where
  signHash digest :=
    if digest = settlementRequest.digest sampleKeccak then .ok settlementSignature
    else if digest = attestationRequest.digest sampleKeccak then .ok attestationSignature
    else .error "signature not listed"
  domainSeparator := computeDomainSeparator sampleKeccak 42161 jjskinAddress

theorem eip712_faithful_sample :
    (∃ fits, settlementPreimage sampleKeccak sampleEscrow.release =
      abiEncode (settlementValues sampleKeccak sampleEscrow.release fits)) ∧
    settlementRequest.digest sampleKeccak =
      wordOf 0x60b78453a60aa48b548b3666a885dbbde9c015f31a346e0e30c54aeff33176cb ∧
    attestationRequest.digest sampleKeccak ≠ settlementRequest.digest sampleKeccak ∧
    sampleSigner.signSettlement sampleKeccak sampleEscrow.release = .ok settlementSignature := by
  have hHash : Distinguishes sampleKeccak (attestationRequest.preimages sampleKeccak ++
      settlementRequest.preimages sampleKeccak) := by
    decide +kernel
  have hSigned : sampleSigner.signHash (settlementRequest.digest sampleKeccak) =
      .ok settlementSignature := by
    simp [sampleSigner]
  refine ⟨?_, by decide +kernel, fun h => ?_,
    ((eip712_faithful sampleKeccak).2.2 sampleSigner settlementRequest _ rfl).mpr hSigned⟩
  · have hRead : readEscrow (fun _ => "0x1111111111111111111111111111111111111111") 40964044588
        activeAnswers = .ok { sampleEscrow with
          seller := Vector.replicate 20 0x11
          buyer := Vector.replicate 20 0x22 } := by
      decide +kernel
    have hDecide : Oracle.decide (statusExternals completedJson completedTrade) steamApiHost
        statusRequest (okResponse completedJson) { sampleEscrow with
          seller := Vector.replicate 20 0x11
          buyer := Vector.replicate 20 0x22 } sampleNow = .ok sampleEscrow.release := by
      decide +kernel
    exact (eip712_faithful sampleKeccak).1 _ _ _ _ _ _ _ _ _ _ hRead hDecide
  · cases (eip712_faithful sampleKeccak).2.1 _ _ hHash h

end SettlementOracle
