import MilkAndHenny.Library.Merge
import Mathlib.Data.Prod.Lex

/-! Pitch documents edited on several devices, and the merge of an incoming version into the server copy. -/

namespace MilkAndHenny.Pitches

open Library

/-- An editor object. Everything but its identity, its clock and its deletion mark is its shape. -/
structure ExcalidrawElement (Shape : Type) where
  id : String
  version : Nat
  updated : Int
  versionNonce : Int
  isDeleted : Bool
  shape : Shape

structure PitchSlide (Shape Clip Ink : Type) where
  id : String
  name : String
  version : Nat
  updatedAt : Int
  durationMs : Nat
  deletedAt : Option Int
  elements : List (ExcalidrawElement Shape)
  assetIds : String → Option String
  mediaClips : List Clip
  inkLayers : Option (List Ink)

variable {Shape Clip Ink : Type}

structure WellFormed (slides : List (PitchSlide Shape Clip Ink)) : Prop where
  slideIds : (slides.map (·.id)).Nodup
  elementIds : ∀ slide ∈ slides, (slide.elements.map (·.id)).Nodup
  deletions : ∀ slide ∈ slides, ∀ time ∈ slide.deletedAt, 0 < time

structure PitchDocument (Shape Clip Ink : Type) where
  slides : List (PitchSlide Shape Clip Ink)
  wellFormed : WellFormed slides

def elementWins (left right : ExcalidrawElement Shape) : ExcalidrawElement Shape :=
  if right.version ≠ left.version then (if right.version > left.version then right else left)
  else if right.updated ≠ left.updated then (if right.updated > left.updated then right else left)
  else if right.versionNonce ≥ left.versionNonce then right else left

def orderIn (elements : List (ExcalidrawElement Shape)) (id : String) : Option Nat :=
  (elements.zipIdx.reverse.find? fun entry => entry.1.id == id).map (·.2)

/-- The comparison that the merged objects are sorted by is not positive. -/
def inMergedOrder (serverElements incomingElements : List (ExcalidrawElement Shape)) (left right : ExcalidrawElement Shape) : Bool :=
  match orderIn incomingElements left.id, orderIn incomingElements right.id with
  | some leftOrder, some rightOrder => leftOrder ≤ rightOrder
  | some _, none => true
  | none, some _ => false
  | none, none => serverElements.findIdx (·.id == left.id) ≤ serverElements.findIdx (·.id == right.id)

/-- One incoming object enters the map of objects by id. -/
def mergeElement (byId : List (ExcalidrawElement Shape)) (element : ExcalidrawElement Shape) : List (ExcalidrawElement Shape) :=
  match byId.find? (·.id == element.id) with
  | some current => setKey (·.id) byId (elementWins current element)
  | none => setKey (·.id) byId element

def mergeElements (serverElements incomingElements : List (ExcalidrawElement Shape)) : List (ExcalidrawElement Shape) :=
  orderBy (inMergedOrder serverElements incomingElements) (incomingElements.foldl mergeElement (serverElements.foldl (setKey (·.id)) []))

/-- A number that is there and not zero. -/
def truthy (value : Option Int) : Bool := value.any (· != 0)

def mergeSlide (serverSlide incomingSlide : PitchSlide Shape Clip Ink) : PitchSlide Shape Clip Ink :=
  let incomingWins : Bool := incomingSlide.version > serverSlide.version ||
    incomingSlide.version == serverSlide.version && incomingSlide.updatedAt ≥ serverSlide.updatedAt
  let winner := if incomingWins then incomingSlide else serverSlide
  { winner with
    version := max serverSlide.version incomingSlide.version
    updatedAt := max serverSlide.updatedAt incomingSlide.updatedAt
    deletedAt :=
      if truthy serverSlide.deletedAt || truthy incomingSlide.deletedAt then
        some (max (serverSlide.deletedAt.getD 0) (incomingSlide.deletedAt.getD 0))
      else none
    elements := mergeElements serverSlide.elements incomingSlide.elements
    assetIds := fun file => (incomingSlide.assetIds file).or (serverSlide.assetIds file)
    durationMs := if incomingWins then incomingSlide.durationMs else serverSlide.durationMs
    mediaClips := if incomingWins then incomingSlide.mediaClips else serverSlide.mediaClips
    inkLayers := if incomingWins then incomingSlide.inkLayers else serverSlide.inkLayers }

def mergeNext (state : List (PitchSlide Shape Clip Ink) × List (PitchSlide Shape Clip Ink)) (slide : PitchSlide Shape Clip Ink) :
    List (PitchSlide Shape Clip Ink) × List (PitchSlide Shape Clip Ink) :=
  let (serverById, merged) := state
  let next := match serverById.find? (·.id == slide.id) with
    | some serverSlide => mergeSlide serverSlide slide
    | none => slide
  (serverById.filter (·.id != slide.id), merged ++ [next])

def mergeSlides (serverSlides incomingSlides : List (PitchSlide Shape Clip Ink)) : List (PitchSlide Shape Clip Ink) :=
  let (serverById, merged) := incomingSlides.foldl mergeNext (serverSlides.foldl (setKey (·.id)) [], [])
  merged ++ serverSlides.filter fun serverOnly => serverById.any (·.id == serverOnly.id)

section

variable {serverElements incomingElements byId : List (ExcalidrawElement Shape)} {left right : ExcalidrawElement Shape} {id : String}

def ExcalidrawElement.clock (element : ExcalidrawElement Shape) : Nat ×ₗ Int ×ₗ Int := toLex (element.version, toLex (element.updated, element.versionNonce))

theorem elementWins_eq : elementWins left right = takeGreater ExcalidrawElement.clock left right := by
  unfold elementWins takeGreater ExcalidrawElement.clock
  simp only [Prod.Lex.toLex_le_toLex]
  split_ifs <;> first | rfl | omega

theorem elementWins_id (same : left.id = right.id) : (elementWins left right).id = right.id := by
  rw [elementWins_eq]
  rcases takeGreater_cases ExcalidrawElement.clock left right with ⟨taken, -⟩ | ⟨taken, -⟩
  · rw [taken]
  · rw [taken, same]

theorem mergeElement_nodup (unique : (byId.map (·.id)).Nodup) : ((mergeElement byId right).map (·.id)).Nodup := by
  unfold mergeElement
  split
  · exact nodup_setKey unique
  · exact nodup_setKey unique

theorem find?_mergeElement : (mergeElement byId right).find? (·.id == id) =
    if right.id = id then (byId.find? (·.id == id)).merge elementWins (some right) else byId.find? (·.id == id) := by
  unfold mergeElement
  split
  · next current found =>
    have same : current.id = right.id := key_of_find? found
    rw [find?_setKey, elementWins_id same]
    by_cases here : right.id = id
    · subst here
      rw [if_pos rfl, if_pos rfl, found]
      rfl
    · rw [if_neg here, if_neg here]
  · next missing =>
    rw [find?_setKey]
    by_cases here : right.id = id
    · subst here
      rw [if_pos rfl, if_pos rfl, missing]
      rfl
    · rw [if_neg here, if_neg here]

theorem foldl_mergeElement (serverIds : (byId.map (·.id)).Nodup) (incomingIds : (incomingElements.map (·.id)).Nodup) :
    ((incomingElements.foldl mergeElement byId).map (·.id)).Nodup ∧
      ∀ id, (incomingElements.foldl mergeElement byId).find? (·.id == id) =
        (byId.find? (·.id == id)).merge elementWins (incomingElements.find? (·.id == id)) := by
  induction incomingElements generalizing byId with
  | nil => exact ⟨serverIds, fun id => by simp⟩
  | cons element incomingElements ih =>
    obtain ⟨new, incomingIds⟩ := nodup_cons.mp incomingIds
    obtain ⟨unique, found⟩ := @ih (mergeElement byId element) (mergeElement_nodup serverIds) incomingIds
    refine ⟨unique, ?_⟩
    intro id
    rw [foldl_cons, found, find?_mergeElement, find?_cons]
    by_cases here : element.id = id
    · subst here
      have missing : incomingElements.find? (·.id == element.id) = none := by
        rw [find?_eq_none]
        exact fun other mem same => new (mem_map.mpr ⟨other, mem, eq_of_beq same⟩)
      rw [if_pos rfl, missing, beq_self_eq_true, Option.merge_none_right]
    · rw [if_neg here, beq_false_of_ne here]

theorem mergeElements_spec (serverIds : (serverElements.map (·.id)).Nodup) (incomingIds : (incomingElements.map (·.id)).Nodup) :
    ((mergeElements serverElements incomingElements).map (·.id)).Nodup ∧
      ∀ id, (mergeElements serverElements incomingElements).find? (·.id == id) =
        (serverElements.find? (·.id == id)).merge elementWins (incomingElements.find? (·.id == id)) := by
  have listed : serverElements.foldl (setKey ExcalidrawElement.id) [] = serverElements := foldl_setKey serverIds
  obtain ⟨unique, found⟩ := foldl_mergeElement serverIds incomingIds
  have perm := perm_insertionSort (fun a b => inMergedOrder serverElements incomingElements a b) (incomingElements.foldl mergeElement serverElements)
  have sorted : mergeElements serverElements incomingElements =
      (incomingElements.foldl mergeElement serverElements).insertionSort (fun a b => inMergedOrder serverElements incomingElements a b) := by
    rw [mergeElements, listed, orderBy]
  have ids := (perm.map (·.id)).nodup_iff.mpr unique
  rw [sorted]
  refine ⟨ids, ?_⟩
  intro id
  rw [← found, find?_perm_key ids perm]

end

section

variable {serverSlides incomingSlides : List (PitchSlide Shape Clip Ink)} {serverSlide incomingSlide : PitchSlide Shape Clip Ink} {id : String}

@[simp] theorem mergeSlide_version : (mergeSlide serverSlide incomingSlide).version = max serverSlide.version incomingSlide.version := rfl

@[simp] theorem mergeSlide_updatedAt : (mergeSlide serverSlide incomingSlide).updatedAt = max serverSlide.updatedAt incomingSlide.updatedAt := rfl

theorem mergeSlide_id (same : serverSlide.id = incomingSlide.id) : (mergeSlide serverSlide incomingSlide).id = incomingSlide.id := by
  unfold mergeSlide
  simp only
  split
  · rfl
  · exact same

def joined (serverSlides : List (PitchSlide Shape Clip Ink)) (slide : PitchSlide Shape Clip Ink) : PitchSlide Shape Clip Ink :=
  match serverSlides.find? (·.id == slide.id) with
  | some serverSlide => mergeSlide serverSlide slide
  | none => slide

theorem joined_id (slide : PitchSlide Shape Clip Ink) : (joined serverSlides slide).id = slide.id := by
  unfold joined
  split
  · next serverSlide found => exact mergeSlide_id (key_of_find? found)
  · rfl

theorem foldl_mergeNext (incomingIds : (incomingSlides.map (·.id)).Nodup) (merged : List (PitchSlide Shape Clip Ink)) :
    incomingSlides.foldl mergeNext (serverSlides, merged) =
      (serverSlides.filter fun slide => decide (slide.id ∉ incomingSlides.map (·.id)), merged ++ incomingSlides.map (joined serverSlides)) := by
  induction incomingSlides generalizing serverSlides merged with
  | nil => simp
  | cons slide incomingSlides ih =>
    obtain ⟨new, incomingIds⟩ := nodup_cons.mp incomingIds
    have step : mergeNext (serverSlides, merged) slide = (serverSlides.filter (·.id != slide.id), merged ++ [joined serverSlides slide]) := rfl
    have later : incomingSlides.map (joined (serverSlides.filter (·.id != slide.id))) = incomingSlides.map (joined serverSlides) := by
      refine map_congr_left fun other mem => ?_
      have apart : other.id ≠ slide.id := fun same => new (mem_map.mpr ⟨other, mem, same⟩)
      have found : (serverSlides.filter (·.id != slide.id)).find? (·.id == other.id) = serverSlides.find? (·.id == other.id) := by
        rw [find?_filter]
        congr 1
        funext held
        by_cases same : held.id = other.id
        · simp [same, apart]
        · simp [same]
      unfold joined
      rw [found]
    rw [foldl_cons, step, ih incomingIds, later, filter_filter]
    simp only [map_cons, append_assoc, singleton_append, mem_cons, not_or, Prod.mk.injEq, and_true]
    congr 1
    funext held
    by_cases same : held.id = slide.id
    · simp [same]
    · simp [same]

theorem mergeSlides_eq (serverIds : (serverSlides.map (·.id)).Nodup) (incomingIds : (incomingSlides.map (·.id)).Nodup) :
    mergeSlides serverSlides incomingSlides =
      incomingSlides.map (joined serverSlides) ++ serverSlides.filter fun slide => decide (slide.id ∉ incomingSlides.map (·.id)) := by
  have listed : serverSlides.foldl (setKey PitchSlide.id) [] = serverSlides := foldl_setKey serverIds
  unfold mergeSlides
  rw [listed, foldl_mergeNext incomingIds]
  simp only [nil_append]
  congr 1
  refine filter_congr fun slide mem => ?_
  rw [Bool.eq_iff_iff, any_eq_true]
  constructor
  · rintro ⟨other, held, same⟩
    rw [← eq_of_beq same]
    exact (mem_filter.mp held).2
  · intro absent
    exact ⟨slide, mem_filter.mpr ⟨mem, absent⟩, beq_self_eq_true _⟩

theorem map_joined_ids : (incomingSlides.map (joined serverSlides)).map (·.id) = incomingSlides.map (·.id) := by
  rw [map_map]
  exact map_congr_left fun slide _ => joined_id slide

theorem find?_mergeSlides (serverIds : (serverSlides.map (·.id)).Nodup) (incomingIds : (incomingSlides.map (·.id)).Nodup) :
    (mergeSlides serverSlides incomingSlides).find? (·.id == id) =
      (serverSlides.find? (·.id == id)).merge mergeSlide (incomingSlides.find? (·.id == id)) := by
  have others : (serverSlides.filter fun slide => decide (slide.id ∉ incomingSlides.map (·.id))).find? (·.id == id) =
      if id ∈ incomingSlides.map (·.id) then none else serverSlides.find? (·.id == id) := by
    rw [find?_filter]
    split
    · next listed =>
      rw [find?_eq_none]
      intro slide _ both
      simp only [decide_eq_true_eq, beq_iff_eq] at both
      exact both.1 (both.2 ▸ listed)
    · next absent =>
      congr 1
      funext slide
      by_cases same : slide.id = id
      · simp [same, absent]
      · simp [same]
  have kept : ((fun slide => slide.id == id) ∘ joined serverSlides) = fun slide : PitchSlide Shape Clip Ink => slide.id == id := by
    funext slide
    simp [joined_id]
  rw [mergeSlides_eq serverIds incomingIds, find?_append, others, find?_map, kept]
  cases found : incomingSlides.find? (·.id == id) with
  | none =>
    have absent : id ∉ incomingSlides.map (·.id) := by
      rintro listed
      obtain ⟨slide, mem, same⟩ := mem_map.mp listed
      exact find?_eq_none.mp found slide mem (beq_iff_eq.mpr same)
    simp [absent]
  | some slide =>
    cases key_of_find? found
    simp only [map_some, some_or, joined]
    cases serverSlides.find? (·.id == slide.id) <;> rfl

theorem mergeSlide_deletedAt (serverTime : ∀ time ∈ serverSlide.deletedAt, 0 < time) (incomingTime : ∀ time ∈ incomingSlide.deletedAt, 0 < time) :
    (mergeSlide serverSlide incomingSlide).deletedAt = serverSlide.deletedAt.merge max incomingSlide.deletedAt := by
  simp only [mergeSlide]
  cases server : serverSlide.deletedAt with
  | none =>
    cases incoming : incomingSlide.deletedAt with
    | none => rfl
    | some time =>
      have positive := incomingTime time incoming
      simp [truthy, positive.ne', positive.le]
  | some earlier =>
    have positive := serverTime earlier server
    cases incoming : incomingSlide.deletedAt with
    | none => simp [truthy, positive.ne', positive.le]
    | some => simp [truthy, positive.ne']

theorem mergeSlides_wellFormed (server : WellFormed serverSlides) (incoming : WellFormed incomingSlides) :
    WellFormed (mergeSlides serverSlides incomingSlides) := by
  rw [mergeSlides_eq server.slideIds incoming.slideIds]
  have parts : ∀ slide ∈ incomingSlides.map (joined serverSlides) ++ serverSlides.filter (fun slide => decide (slide.id ∉ incomingSlides.map (·.id))),
      (slide.elements.map (·.id)).Nodup ∧ ∀ time ∈ slide.deletedAt, 0 < time := by
    intro slide mem
    rcases mem_append.mp mem with mem | mem
    · obtain ⟨source, listed, rfl⟩ := mem_map.mp mem
      unfold joined
      split
      · next serverSlide found =>
        have held := mem_of_find?_eq_some found
        refine ⟨(mergeElements_spec (server.elementIds _ held) (incoming.elementIds _ listed)).1, ?_⟩
        intro time marked
        rw [mergeSlide_deletedAt (server.deletions _ held) (incoming.deletions _ listed)] at marked
        rcases @Option.merge_eq_or_eq _ max (fun a b => by omega) serverSlide.deletedAt source.deletedAt with same | same
        · rw [same] at marked
          exact server.deletions _ held time marked
        · rw [same] at marked
          exact incoming.deletions _ listed time marked
      · exact ⟨incoming.elementIds _ listed, incoming.deletions _ listed⟩
    · have held := (mem_filter.mp mem).1
      exact ⟨server.elementIds _ held, server.deletions _ held⟩
  constructor
  · rw [map_append, map_joined_ids]
    refine nodup_append.mpr ⟨incoming.slideIds, server.slideIds.sublist (filter_sublist.map _), ?_⟩
    rintro id listed other held rfl
    obtain ⟨slide, mem, rfl⟩ := mem_map.mp held
    exact of_decide_eq_true (mem_filter.mp mem).2 listed
  · exact fun slide mem => (parts slide mem).1
  · exact fun slide mem => (parts slide mem).2

end

def mergePitchDocuments (serverDocument incomingDocument : PitchDocument Shape Clip Ink) : PitchDocument Shape Clip Ink :=
  { slides := mergeSlides serverDocument.slides incomingDocument.slides
    wellFormed := mergeSlides_wellFormed serverDocument.wellFormed incomingDocument.wellFormed }

def PitchSlide.elementAt (slide : PitchSlide Shape Clip Ink) (id : String) : Option (ExcalidrawElement Shape) := slide.elements.find? (·.id == id)

def PitchDocument.slideAt (document : PitchDocument Shape Clip Ink) (id : String) : Option (PitchSlide Shape Clip Ink) :=
  document.slides.find? (·.id == id)

def PitchDocument.elementAt (document : PitchDocument Shape Clip Ink) (slide id : String) : Option (ExcalidrawElement Shape) :=
  (document.slideAt slide).bind (·.elementAt id)

end MilkAndHenny.Pitches
