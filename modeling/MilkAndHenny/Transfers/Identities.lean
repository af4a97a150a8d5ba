import MilkAndHenny.Library.Text
import MilkAndHenny.Transfers.Uploads

/-! The ids that uploads get, and the keys under which what is made of them is stored. -/

namespace MilkAndHenny.Transfers
variable {route : Option ProcessingRoute} {transferId mediaId : String} {request : AssetRequest} {keys : AssetKeys}
open Library

section
variable {seenIds : List String} {letter : Char} {fuel : Nat}

def numberedId (base : String) (index : Nat) : String := base ++ "-" ++ toString index

/-- The loop looks at no more than `fuel` numbers. -/
def buildUniqueTransferFileId (fuel : Nat) (filename : String) (seenIds : List String) : Option String :=
  let base := getTransferFileId filename
  if base ∈ seenIds then firstFree (numberedId base) seenIds fuel 2 else some base

def resolveTransferUploadIds (fuel : Nat) : List String → List String → Option (List String)
  | [], _ => some []
  | name :: names, seenIds => do
    let mediaId ← buildUniqueTransferFileId fuel name seenIds
    let mediaIds ← resolveTransferUploadIds fuel names (seenIds ++ [mediaId])
    some (mediaId :: mediaIds)

theorem numberedId_injective (base : String) : Function.Injective (numberedId base) := by
  intro first second same
  have letters := congrArg String.toList same
  simp only [numberedId, String.toList_append, toList_decimal] at letters
  exact decimal_injective (List.append_cancel_left letters)

/-- Free, and the id of the name or a numbered one. -/
structure Fits (filename : String) (seenIds : List String) (mediaId : String) : Prop where
  free : mediaId ∉ seenIds
  made : mediaId = getTransferFileId filename ∨ ∃ index, mediaId = numberedId (getTransferFileId filename) index

theorem buildUniqueTransferFileId_fits (enough : seenIds.length < fuel) (filename : String) :
    ∃ mediaId, buildUniqueTransferFileId fuel filename seenIds = some mediaId ∧ Fits filename seenIds mediaId := by
  unfold buildUniqueTransferFileId
  extract_lets base
  split
  · obtain ⟨mediaId, found⟩ := firstFree_enough (numberedId_injective base) enough 2
    obtain ⟨free, number⟩ := firstFree_some found
    exact ⟨mediaId, found, free, .inr number⟩
  · next free => exact ⟨base, rfl, free, .inl rfl⟩

structure Identified (names seenIds mediaIds : List String) : Prop where
  distinct : mediaIds.Nodup
  free : ∀ mediaId ∈ mediaIds, mediaId ∉ seenIds
  made : Forall₂ (fun name mediaId => ∃ seenIds, Fits name seenIds mediaId) names mediaIds

theorem resolveTransferUploadIds_identified {names seenIds : List String} (enough : seenIds.length + names.length < fuel) :
    ∃ mediaIds, resolveTransferUploadIds fuel names seenIds = some mediaIds ∧ Identified names seenIds mediaIds := by
  induction names generalizing seenIds with
  | nil => exact ⟨[], rfl, nodup_nil, nofun, .nil⟩
  | cons name names ih =>
    obtain ⟨mediaId, built, fits⟩ := buildUniqueTransferFileId_fits (Nat.lt_of_le_of_lt (Nat.le_add_right ..) enough) name
    rw [length_cons] at enough
    obtain ⟨mediaIds, resolved, others⟩ := @ih (seenIds ++ [mediaId]) (by rw [length_append, length_singleton]; omega)
    refine ⟨mediaId :: mediaIds, by simp [resolveTransferUploadIds, built, resolved], ?_, ?_, .cons ⟨seenIds, fits⟩ others.made⟩
    · exact nodup_cons.mpr ⟨fun again => others.free mediaId again (mem_append_right _ mem_cons_self), others.distinct⟩
    · rintro other (_ | ⟨_, mem⟩)
      · exact fits.free
      · exact fun held => others.free other mem (mem_append_left _ held)

theorem intercalate_dropLast {separator : List Char} {parts : List (List Char)}
    (mem : letter ∈ separator.intercalate parts.dropLast) : letter ∈ separator.intercalate parts := by
  induction parts with
  | nil => exact mem
  | cons part parts ih =>
    cases parts with
    | nil => cases mem
    | cons next parts =>
      rw [List.dropLast_cons_cons] at mem
      rw [List.intercalate_cons_cons, mem_append, mem_append]
      cases parts with
      | nil =>
        rw [List.dropLast_singleton, List.intercalate_singleton] at mem
        exact .inl (.inl mem)
      | cons =>
        rw [List.dropLast_cons_cons, List.intercalate_cons_cons, mem_append, mem_append] at mem
        exact mem.imp_right ih

theorem mem_getTransferFileId {filename : String} (mem : letter ∈ (getTransferFileId filename).toList) :
    letter ∈ filename.toList := by
  have stem : letter ∈ (getFilenameStem filename).toList → letter ∈ filename.toList := by
    intro mem
    unfold getFilenameStem at mem
    split at mem
    · exact mem
    · next parts =>
      split at mem
      · exact mem
      · rw [String.toList_ofList] at mem
        have whole := intercalate_dropLast mem
        rwa [dotted, List.intercalate_splitOn] at whole
  unfold getTransferFileId at mem
  split at mem
  · split at mem
    · exact stem mem
    · exact mem
  · exact mem

theorem Fits.plain {filename mediaId : String} (fits : Fits filename seenIds mediaId)
    (plain : '/' ∉ filename.toList) : '/' ∉ mediaId.toList := by
  have base : '/' ∉ (getTransferFileId filename).toList := fun mem => plain (mem_getTransferFileId mem)
  rcases fits.made with rfl | ⟨index, rfl⟩
  · exact base
  · simp only [numberedId, String.toList_append, toList_decimal, mem_append, not_or]
    exact ⟨⟨base, by decide⟩, notMem_decimal rfl index⟩

end

/-! ### Keys -/

inductive ProcessingRoute where
  | localImage | localGif | localVideo | rawTryLocal | workerRaw | workerImage | workerGif | workerVideo
deriving DecidableEq

structure AssetKeys where
  thumbKey : Option String := none
  fullKey : Option String := none

/-- What keys are asked for: a file of a transfer, and a try at processing it. -/
structure AssetRequest where
  route : Option ProcessingRoute
  mediaId : String
  generation : Int
  claimToken : Option String
deriving DecidableEq

def getExpectedTransferAssetKeys (transferId : String) (route : Option ProcessingRoute) (mediaId : String) : AssetKeys :=
  match route with
  | none => {}
  | some .localGif | some .workerGif => { thumbKey := some ("transfers/" ++ transferId ++ "/thumb/" ++ mediaId ++ ".webp") }
  | some _ =>
    { thumbKey := some ("transfers/" ++ transferId ++ "/thumb/" ++ mediaId ++ ".webp")
      fullKey := some ("transfers/" ++ transferId ++ "/full/" ++ mediaId ++ ".webp") }

def isHex (letter : Char) : Bool := letter.isDigit || ('a' ≤ letter && letter ≤ 'f') || ('A' ≤ letter && letter ≤ 'F')

/-- Hexadecimal, with dashes where a UUID has them. -/
def isClaimToken (token : String) : Bool :=
  token.toList.length == 36 &&
    token.toList.zipIdx.all fun (letter, place) => if place ∈ [8, 13, 18, 23] then letter == '-' else isHex letter

def AssetRequest.suffix (request : AssetRequest) : String :=
  match truthy request.claimToken with
  | some claimToken => "g" ++ toString request.generation.toNat ++ "/" ++ claimToken ++ ".webp"
  | none => "g" ++ toString request.generation.toNat ++ ".webp"

def getGenerationTransferAssetKeys (transferId : String) (request : AssetRequest) : Except String AssetKeys :=
  if request.generation < 1 then .error "Invalid transfer processing generation"
  else if (truthy request.claimToken).any (!isClaimToken ·) then .error "Invalid transfer media claim token"
  else
    let expected := getExpectedTransferAssetKeys transferId request.route request.mediaId
    let prefix_ := "transfers/" ++ transferId
    .ok {
      thumbKey := expected.thumbKey.map fun _ => prefix_ ++ "/thumb/" ++ request.mediaId ++ "/" ++ request.suffix
      fullKey := expected.fullKey.map fun _ => prefix_ ++ "/full/" ++ request.mediaId ++ "/" ++ request.suffix }

theorem notMem_claimToken {token : String} (valid : isClaimToken token) {letter : Char} (strange : isHex letter = false ∧ letter ≠ '-') :
    letter ∉ token.toList := by
  intro mem
  obtain ⟨place, inside, rfl⟩ := List.getElem_of_mem mem
  have allowed := all_eq_true.mp (and_eq_true_iff.mp valid).2 _ (List.mk_mem_zipIdx_iff_getElem?.mpr (getElem?_eq_getElem inside))
  simp only at allowed
  split at allowed
  · exact strange.2 (eq_of_beq allowed)
  · exact Bool.false_ne_true (strange.1.symm.trans allowed)

structure AssetRequest.Valid (request : AssetRequest) : Prop where
  counted : 1 ≤ request.generation
  token : ∀ claimToken ∈ truthy request.claimToken, isClaimToken claimToken

/-- What comes after the kind of a key tells the request. -/
theorem suffix_injective {first second : AssetRequest} (valid : first.Valid) (valid' : second.Valid)
    (same : first.mediaId.toList ++ '/' :: first.suffix.toList = second.mediaId.toList ++ '/' :: second.suffix.toList) :
    (first.mediaId, first.generation, truthy first.claimToken) = (second.mediaId, second.generation, truthy second.claimToken) := by
  have numbered {m n : Int} (positive : 1 ≤ m) (positive' : 1 ≤ n) (digits : Nat.toDigits 10 m.toNat = Nat.toDigits 10 n.toNat) : m = n := by
    have numbers := decimal_injective digits
    omega
  have plain (number : Nat) : '/' ∉ 'g' :: (Nat.toDigits 10 number ++ ".webp".toList) := by
    simp only [mem_cons, mem_append, not_or]
    exact ⟨by decide, notMem_decimal rfl number, by decide⟩
  have plainToken {token : String} (valid : isClaimToken token) : '/' ∉ token.toList ++ ".webp".toList := by
    rw [mem_append, not_or]
    exact ⟨notMem_claimToken valid (by decide), by decide⟩
  have apart {token : String} (valid : isClaimToken token) (number : Nat) :
      'g' :: (Nat.toDigits 10 number ++ ".webp".toList) ≠ token.toList ++ ".webp".toList := by
    intro same
    have letters : 'g' :: Nat.toDigits 10 number = token.toList := List.append_cancel_right same
    have strange : isHex 'g' = false ∧ 'g' ≠ '-' := by decide
    exact notMem_claimToken valid strange (letters ▸ mem_cons_self)
  unfold AssetRequest.suffix at same
  cases token : truthy first.claimToken with
  | none =>
    cases token' : truthy second.claimToken with
    | none =>
      simp only [token, token', String.toList_append, toList_decimal] at same
      obtain ⟨ids, suffixes⟩ := lastSplit_unique (plain _) (plain _) (by simpa using same)
      have digits := List.append_cancel_right (List.cons.inj suffixes).2
      rw [String.toList_injective ids, numbered valid.counted valid'.counted digits]
    | some claimToken =>
      have uuid := valid'.token claimToken token'
      simp only [token, token', String.toList_append, toList_decimal] at same
      have split : first.mediaId.toList ++ '/' :: ('g' :: (Nat.toDigits 10 first.generation.toNat ++ ".webp".toList)) =
          (second.mediaId.toList ++ '/' :: 'g' :: Nat.toDigits 10 second.generation.toNat) ++ '/' :: (claimToken.toList ++ ".webp".toList) := by
        simpa using same
      exact absurd (lastSplit_unique (plain _) (plainToken uuid) split).2 (apart uuid _)
  | some claimToken =>
    have uuid := valid.token claimToken token
    cases token' : truthy second.claimToken with
    | none =>
      simp only [token, token', String.toList_append, toList_decimal] at same
      have split : (first.mediaId.toList ++ '/' :: 'g' :: Nat.toDigits 10 first.generation.toNat) ++ '/' :: (claimToken.toList ++ ".webp".toList) =
          second.mediaId.toList ++ '/' :: ('g' :: (Nat.toDigits 10 second.generation.toNat ++ ".webp".toList)) := by
        simpa using same
      exact absurd (lastSplit_unique (plainToken uuid) (plain _) split).2.symm (apart uuid _)
    | some claimToken' =>
      have uuid' := valid'.token claimToken' token'
      simp only [token, token', String.toList_append, toList_decimal] at same
      have split : (first.mediaId.toList ++ '/' :: 'g' :: Nat.toDigits 10 first.generation.toNat) ++ '/' :: (claimToken.toList ++ ".webp".toList) =
          (second.mediaId.toList ++ '/' :: 'g' :: Nat.toDigits 10 second.generation.toNat) ++ '/' :: (claimToken'.toList ++ ".webp".toList) := by
        simpa using same
      obtain ⟨fronts, tokens⟩ := lastSplit_unique (plainToken uuid) (plainToken uuid') split
      have short (number : Nat) : '/' ∉ 'g' :: Nat.toDigits 10 number := fun mem =>
        plain number (mem_append_left ".webp".toList mem)
      obtain ⟨ids, digits⟩ := lastSplit_unique (short _) (short _) fronts
      rw [String.toList_injective ids, numbered valid.counted valid'.counted (List.cons.inj digits).2,
        String.toList_injective (List.append_cancel_right tokens)]

theorem generationKeys {transferId : String}
    (made : getGenerationTransferAssetKeys transferId request = .ok keys) : request.Valid ∧
      (∀ key ∈ keys.thumbKey, key = "transfers/" ++ transferId ++ "/thumb/" ++ request.mediaId ++ "/" ++ request.suffix) ∧
      ∀ key ∈ keys.fullKey, key = "transfers/" ++ transferId ++ "/full/" ++ request.mediaId ++ "/" ++ request.suffix := by
  unfold getGenerationTransferAssetKeys at made
  split at made
  · cases made
  · next counted =>
    split at made
    · cases made
    · next token =>
      cases Except.ok.inj made
      refine ⟨⟨Int.not_lt.mp counted, fun claimToken held => ?_⟩, fun key mem => ?_, fun key mem => ?_⟩
      · rw [held] at token
        simpa using token
      · obtain ⟨_, -, rfl⟩ := map_eq_some_iff.mp mem
        rfl
      · obtain ⟨_, -, rfl⟩ := map_eq_some_iff.mp mem
        rfl

theorem expectedKeys :
    (∀ key ∈ (getExpectedTransferAssetKeys transferId route mediaId).thumbKey, key = "transfers/" ++ transferId ++ "/thumb/" ++ mediaId ++ ".webp") ∧
      ∀ key ∈ (getExpectedTransferAssetKeys transferId route mediaId).fullKey, key = "transfers/" ++ transferId ++ "/full/" ++ mediaId ++ ".webp" := by
  unfold getExpectedTransferAssetKeys
  split
  · exact ⟨nofun, nofun⟩
  all_goals simp

def AssetKeys.Clash (first second : AssetKeys) : Prop :=
  ∃ key, (key ∈ first.thumbKey ∨ key ∈ first.fullKey) ∧ (key ∈ second.thumbKey ∨ key ∈ second.fullKey)

theorem expected_apart (plain : '/' ∉ mediaId.toList) (made : getGenerationTransferAssetKeys transferId request = .ok keys) :
    ¬ (getExpectedTransferAssetKeys transferId route mediaId).Clash keys := by
  rintro ⟨key, expected, generated⟩
  obtain ⟨-, thumb, full⟩ := generationKeys made
  have slash (front : List Char) : mediaId.toList ++ ".webp".toList ≠ front ++ '/' :: request.suffix.toList := by
    intro same
    have mem : '/' ∈ mediaId.toList ++ ".webp".toList := same ▸ mem_append_right front mem_cons_self
    exact (mem_append.mp mem).elim plain (by decide)
  rcases expected.imp (expectedKeys.1 key) (expectedKeys.2 key) with rfl | rfl <;> rcases generated.imp (thumb _) (full _) with same | same <;>
    have letters := congrArg String.toList same
  · exact slash request.mediaId.toList (by simpa [String.toList_append] using letters)
  · simp [String.toList_append] at letters
  · simp [String.toList_append] at letters
  · exact slash request.mediaId.toList (by simpa [String.toList_append] using letters)

/-- With some number of tries every upload gets an id, and no two the same or one that was there; keys of processing tell the file, the
generation and the token, if there is one; and none is expected of a file whose name has no slash. -/
theorem transferIdentities (transferId : String) (names existingIds : List String) :
    (∀ fuel, existingIds.length + names.length < fuel → ∃ mediaIds, resolveTransferUploadIds fuel names existingIds = some mediaIds ∧
      mediaIds.length = names.length ∧ mediaIds.Nodup ∧ (∀ mediaId ∈ mediaIds, mediaId ∉ existingIds) ∧
      Forall₂ (fun name mediaId : String => '/' ∉ name.toList → '/' ∉ mediaId.toList) names mediaIds) ∧
    (∀ first second keys keys', getGenerationTransferAssetKeys transferId first = .ok keys →
      getGenerationTransferAssetKeys transferId second = .ok keys' →
        (∃ key, key ∈ keys.thumbKey ∧ key ∈ keys'.thumbKey ∨ key ∈ keys.fullKey ∧ key ∈ keys'.fullKey) →
          (first.mediaId, first.generation, truthy first.claimToken) = (second.mediaId, second.generation, truthy second.claimToken)) ∧
    ∀ mediaId route request keys, '/' ∉ mediaId.toList → getGenerationTransferAssetKeys transferId request = .ok keys →
      ¬ (getExpectedTransferAssetKeys transferId route mediaId).Clash keys := by
  refine ⟨fun fuel enough => ?_, fun first second keys keys' made made' same => ?_, fun mediaId route request keys => expected_apart⟩
  · obtain ⟨mediaIds, resolved, identified⟩ := resolveTransferUploadIds_identified enough
    exact ⟨mediaIds, resolved, identified.made.length_eq.symm, identified.distinct, identified.free,
      identified.made.imp fun _ _ ⟨_, fits⟩ => fits.plain⟩
  · obtain ⟨valid, thumb, full⟩ := generationKeys made
    obtain ⟨valid', thumb', full'⟩ := generationKeys made'
    obtain ⟨key, ⟨held, held'⟩ | ⟨held, held'⟩⟩ := same
    · have letters := congrArg String.toList ((thumb key held).symm.trans (thumb' key held'))
      exact suffix_injective valid valid' (by simpa [String.toList_append] using letters)
    · have letters := congrArg String.toList ((full key held).symm.trans (full' key held'))
      exact suffix_injective valid valid' (by simpa [String.toList_append] using letters)

theorem transferIdentities_pictures :
    (∃ mediaIds, resolveTransferUploadIds 4 ["a.jpg", "a.png"] ["a"] = some mediaIds ∧ mediaIds.length = 2 ∧ mediaIds.Nodup ∧
      (∀ mediaId ∈ mediaIds, mediaId ∉ ["a"]) ∧ Forall₂ (fun name mediaId : String => '/' ∉ name.toList → '/' ∉ mediaId.toList) ["a.jpg", "a.png"] mediaIds) ∧
    ∀ keys, getGenerationTransferAssetKeys "t" { route := some .localImage, mediaId := "a", generation := 1, claimToken := none } = .ok keys →
      ¬ (getExpectedTransferAssetKeys "t" (some .localImage) "a-2").Clash keys := by
  have identities := transferIdentities "t" ["a.jpg", "a.png"] ["a"]
  exact ⟨identities.1 4 (by decide), fun keys => identities.2.2 "a-2" (some .localImage) _ keys (by decide)⟩

/-- The first generation of one file is stored where another one is expected whose name has a slash, and an empty token is no token. -/
theorem transferIdentities_slash :
    (¬ ∀ names fuel mediaIds, resolveTransferUploadIds fuel names [] = some mediaIds → ∀ mediaId ∈ mediaIds, ∀ request : AssetRequest,
      request.mediaId ∈ mediaIds → ∀ keys, getGenerationTransferAssetKeys "t" request = .ok keys →
        ∀ route, ¬ (getExpectedTransferAssetKeys "t" route mediaId).Clash keys) ∧
    ¬ ∀ first second : AssetRequest, first ≠ second → getGenerationTransferAssetKeys "t" first ≠ getGenerationTransferAssetKeys "t" second := by
  refine ⟨fun apart => ?_, fun apart => ?_⟩
  · refine apart ["a.jpg", "a/g1.jpg"] 3 ["a", "a/g1"] (by decide +kernel) "a/g1" (by decide)
      { route := some .localImage, mediaId := "a", generation := 1, claimToken := none } (by decide) _ rfl (some .localImage)
      ⟨"transfers/t/thumb/a/g1.webp", .inl ?_, .inl ?_⟩
    · decide +kernel
    · decide +kernel
  · exact apart { route := some .localImage, mediaId := "a", generation := 1, claimToken := none }
      { route := some .localImage, mediaId := "a", generation := 1, claimToken := some "" } (by decide) rfl

end MilkAndHenny.Transfers
