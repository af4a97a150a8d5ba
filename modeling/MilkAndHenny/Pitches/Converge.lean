import MilkAndHenny.Pitches.Merge

/-! What merging the versions of a pitch ends with, and when every order of merges ends alike. -/

namespace MilkAndHenny.Pitches

open Library

variable {Shape Clip Ink : Type} {slide server incoming : PitchSlide Shape Clip Ink}

def mergeAll (server : PitchDocument Shape Clip Ink) (others : List (PitchDocument Shape Clip Ink)) : PitchDocument Shape Clip Ink :=
  others.foldl mergePitchDocuments server

section

variable {server incoming : PitchDocument Shape Clip Ink} {id : String}

theorem slideAt_merge (server incoming : PitchDocument Shape Clip Ink) (id : String) :
    (mergePitchDocuments server incoming).slideAt id = (server.slideAt id).merge mergeSlide (incoming.slideAt id) :=
  find?_mergeSlides server.wellFormed.slideIds incoming.wellFormed.slideIds

theorem slideAt_mem {document : PitchDocument Shape Clip Ink} (found : document.slideAt id = some slide) :
    slide ∈ document.slides := mem_of_find?_eq_some found

theorem bind_merge {γ : Type} {column : PitchSlide Shape Clip Ink → Option γ} {f : γ → γ → γ}
    (merges : ∀ slide ∈ server.slides, ∀ other ∈ incoming.slides, column (mergeSlide slide other) = (column slide).merge f (column other)) :
    ((mergePitchDocuments server incoming).slideAt id).bind column =
      ((server.slideAt id).bind column).merge f ((incoming.slideAt id).bind column) := by
  rw [slideAt_merge]
  cases first : server.slideAt id with
  | none => simp
  | some slide =>
    cases second : incoming.slideAt id with
    | none => simp
    | some other => exact merges slide (slideAt_mem first) other (slideAt_mem second)

def PitchDocument.versionAt (document : PitchDocument Shape Clip Ink) (id : String) : Option Nat := (document.slideAt id).bind fun slide => some slide.version

def PitchDocument.updatedAt (document : PitchDocument Shape Clip Ink) (id : String) : Option Int := (document.slideAt id).bind fun slide => some slide.updatedAt

def PitchDocument.deletedAt (document : PitchDocument Shape Clip Ink) (id : String) : Option Int := (document.slideAt id).bind (·.deletedAt)

def PitchDocument.assetAt (document : PitchDocument Shape Clip Ink) (id file : String) : Option String := (document.slideAt id).bind (·.assetIds file)

theorem versionAt_register (id : String) :
    Register mergePitchDocuments (fun document : PitchDocument Shape Clip Ink => document.versionAt id) fun version => version :=
  fun _ _ => bind_merge fun slide _ other _ => congrArg some (max_def slide.version other.version)

theorem updatedAt_register (id : String) :
    Register mergePitchDocuments (fun document : PitchDocument Shape Clip Ink => document.updatedAt id) fun time => time :=
  fun _ _ => bind_merge fun slide _ other _ => congrArg some (max_def slide.updatedAt other.updatedAt)

theorem deletedAt_register (id : String) :
    Register mergePitchDocuments (fun document : PitchDocument Shape Clip Ink => document.deletedAt id) fun time => time := by
  intro server incoming
  apply bind_merge
  intro slide held other listed
  exact mergeSlide_deletedAt (server.wellFormed.deletions slide held) (incoming.wellFormed.deletions other listed)

theorem elementAt_register (slide id : String) :
    Register mergePitchDocuments (fun document : PitchDocument Shape Clip Ink => document.elementAt slide id) ExcalidrawElement.clock := by
  intro server incoming
  apply bind_merge
  intro held inServer other inIncoming
  have found := (mergeElements_spec (server.wellFormed.elementIds held inServer) (incoming.wellFormed.elementIds other inIncoming)).2 id
  have wins : (elementWins : ExcalidrawElement Shape → ExcalidrawElement Shape → ExcalidrawElement Shape) = takeGreater ExcalidrawElement.clock := by
    funext left right
    exact elementWins_eq
  rw [wins] at found
  exact found

theorem assetAt_register (id file : String) :
    Register mergePitchDocuments (fun document : PitchDocument Shape Clip Ink => document.assetAt id file) fun _ => () := by
  intro server incoming
  apply bind_merge
  intro slide _ other _
  simp only [mergeSlide]
  cases slide.assetIds file with
  | none | some => cases other.assetIds file <;> rfl

end

section

/-- What a slide takes as a whole from one of its versions. -/
def PitchSlide.content (slide : PitchSlide Shape Clip Ink) : String × Nat × List Clip × Option (List Ink) :=
  (slide.name, slide.durationMs, slide.mediaClips, slide.inkLayers)

variable {rows : List (PitchSlide Shape Clip Ink)} {slide : PitchSlide Shape Clip Ink}

def Top (rows : List (PitchSlide Shape Clip Ink)) (slide : PitchSlide Shape Clip Ink) : Prop := Greatest PitchSlide.version rows slide

/-- One of these that no version of the slide is younger than. -/
def Latest (rows : List (PitchSlide Shape Clip Ink)) (slide : PitchSlide Shape Clip Ink) : Prop :=
  Top rows slide ∧ ∀ other ∈ rows, other.updatedAt ≤ slide.updatedAt

/-- What a merged slide is to the versions of it that went in: it has their greatest version number and their greatest time, though not
always of the same version, and the content of one with that number; of one with that time too, where there is one. -/
structure Leads (rows : List (PitchSlide Shape Clip Ink)) (slide : PitchSlide Shape Clip Ink) : Prop where
  versions : ∀ row ∈ rows, row.version ≤ slide.version
  times : ∀ row ∈ rows, row.updatedAt ≤ slide.updatedAt
  time : ∃ row ∈ rows, row.updatedAt = slide.updatedAt
  content : ∃ row ∈ rows, row.version = slide.version ∧ row.content = slide.content ∧
    ∀ other ∈ rows, other.version = slide.version → other.updatedAt = slide.updatedAt → row.updatedAt = slide.updatedAt

theorem leads_single (slide : PitchSlide Shape Clip Ink) : Leads [slide] slide := by
  refine ⟨by simp, by simp, ⟨slide, mem_singleton_self _, rfl⟩, slide, mem_singleton_self _, rfl, rfl, ?_⟩
  intro other _ _ _
  rfl

theorem mergeSlide_wins
    (wins : incoming.version > server.version ∨ incoming.version = server.version ∧ incoming.updatedAt ≥ server.updatedAt) :
    (mergeSlide server incoming).content = incoming.content := by
  have decided : (decide (incoming.version > server.version) || incoming.version == server.version && decide (incoming.updatedAt ≥ server.updatedAt)) = true := by
    simpa using wins
  simp [PitchSlide.content, mergeSlide, decided]

theorem mergeSlide_loses
    (loses : ¬ (incoming.version > server.version ∨ incoming.version = server.version ∧ incoming.updatedAt ≥ server.updatedAt)) :
    (mergeSlide server incoming).content = server.content := by
  have decided : (decide (incoming.version > server.version) || incoming.version == server.version && decide (incoming.updatedAt ≥ server.updatedAt)) = false := by
    simpa using loses
  simp [PitchSlide.content, mergeSlide, decided]

theorem Leads.merge (leads : Leads rows slide) (incoming : PitchSlide Shape Clip Ink) : Leads (rows ++ [incoming]) (mergeSlide slide incoming) := by
  obtain ⟨versions, times, ⟨young, listedYoung, sameTime⟩, row, mem, same, content, latest⟩ := leads
  constructor
  · intro other listed
    rcases mem_append.mp listed with listed | listed
    · exact (versions other listed).trans (le_max_left _ _)
    · rw [mem_singleton.mp listed]
      exact le_max_right _ _
  · intro other listed
    rcases mem_append.mp listed with listed | listed
    · exact (times other listed).trans (le_max_left _ _)
    · rw [mem_singleton.mp listed]
      exact le_max_right _ _
  · rcases le_total slide.updatedAt incoming.updatedAt with order | order
    · exact ⟨incoming, mem_append_right _ (mem_singleton_self _), (max_eq_right order).symm⟩
    · exact ⟨young, mem_append_left _ listedYoung, sameTime.trans (max_eq_left order).symm⟩
  · rw [mergeSlide_version, mergeSlide_updatedAt]
    by_cases wins : incoming.version > slide.version ∨ incoming.version = slide.version ∧ incoming.updatedAt ≥ slide.updatedAt
    · refine ⟨incoming, mem_append_right _ (mem_singleton_self _), by omega, (mergeSlide_wins wins).symm, ?_⟩
      intro other listed number time
      rcases mem_append.mp listed with listed | listed
      · have bound := versions other listed
        omega
      · rw [mem_singleton.mp listed] at time
        exact time
    · refine ⟨row, mem_append_left _ mem, by omega, content.trans (mergeSlide_loses wins).symm, ?_⟩
      intro other listed number time
      rcases mem_append.mp listed with listed | listed
      · have early := times other listed
        have last := latest other listed (by omega) (by omega)
        omega
      · rw [mem_singleton.mp listed] at number time
        omega

theorem combine_leads (merged : combine mergeSlide rows = some slide) : Leads rows slide := by
  cases rows with
  | nil => cases merged
  | cons first rest =>
    cases merged
    have run : ∀ (done : List (PitchSlide Shape Clip Ink)) (held : PitchSlide Shape Clip Ink), Leads done held →
        ∀ rest : List (PitchSlide Shape Clip Ink), Leads (done ++ rest) (rest.foldl mergeSlide held) := by
      intro done held leads rest
      induction rest generalizing done held with
      | nil => simpa using leads
      | cons incoming rest ih => simpa using ih (done ++ [incoming]) (mergeSlide held incoming) (leads.merge incoming)
    exact run [first] first (leads_single first) rest

/-- The versions of a slide settle its content: those with the greatest number agree on it, or some of them are also the latest of all and
these agree. -/
def ContentSettled (rows : List (PitchSlide Shape Clip Ink)) : Prop :=
  (∀ slide other, Top rows slide → Top rows other → slide.content = other.content) ∨
    (∃ slide, Latest rows slide) ∧ ∀ slide other, Latest rows slide → Latest rows other → slide.content = other.content

theorem Leads.of_mem {others : List (PitchSlide Shape Clip Ink)} (leads : Leads rows slide) (same : ∀ row, row ∈ others ↔ row ∈ rows) :
    Leads others slide := by
  obtain ⟨versions, times, ⟨young, listedYoung, sameTime⟩, row, mem, number, content, latest⟩ := leads
  exact ⟨fun row listed => versions row ((same row).mp listed), fun row listed => times row ((same row).mp listed),
    ⟨young, (same young).mpr listedYoung, sameTime⟩, row, (same row).mpr mem, number, content,
    fun other listed => latest other ((same other).mp listed)⟩

theorem Leads.source (leads : Leads rows slide) :
    ∃ row, Top rows row ∧ row.content = slide.content ∧ ∀ last, Latest rows last → Latest rows row := by
  obtain ⟨versions, times, ⟨young, listedYoung, sameTime⟩, row, mem, number, content, latest⟩ := leads
  have top : Top rows row := ⟨mem, fun other listed => (versions other listed).trans number.ge⟩
  refine ⟨row, top, content, ?_⟩
  rintro last ⟨⟨listed, greatest⟩, youngest⟩
  have lastNumber : last.version = slide.version := le_antisymm (versions last listed) (number.ge.trans (greatest row mem))
  have lastTime : last.updatedAt = slide.updatedAt := le_antisymm (times last listed) (sameTime.ge.trans (youngest young listedYoung))
  have time := latest last listed lastNumber lastTime
  exact ⟨top, fun other held => (times other held).trans time.ge⟩

theorem Leads.content_eq {other : PitchSlide Shape Clip Ink} (settled : ContentSettled rows) (leads : Leads rows slide) (leads' : Leads rows other) :
    slide.content = other.content := by
  obtain ⟨row, top, content, latest⟩ := leads.source
  obtain ⟨row', top', content', latest'⟩ := leads'.source
  rw [← content, ← content']
  rcases settled with agree | ⟨⟨last, isLatest⟩, agree⟩
  · exact agree row row' top top'
  · exact agree row row' (latest last isLatest) (latest' last isLatest)

theorem content_holds (rest : List (PitchSlide Shape Clip Ink))
    (older : ∀ row ∈ rest, row.version < slide.version ∨ row.version = slide.version ∧ row.updatedAt < slide.updatedAt) :
    (rest.foldl mergeSlide slide).content = slide.content := by
  induction rest generalizing slide with
  | nil => rfl
  | cons incoming rest ih =>
    have first := older incoming mem_cons_self
    have loses := @mergeSlide_loses _ _ _ slide incoming (by omega)
    rw [foldl_cons, ih ?_, loses]
    intro row listed
    have later := older row (mem_cons_of_mem _ listed)
    rw [mergeSlide_version, mergeSlide_updatedAt]
    omega

end

section

variable {versions others thirds : List (PitchDocument Shape Clip Ink)} {server first : PitchDocument Shape Clip Ink} {id : String} {slide : PitchSlide Shape Clip Ink}

theorem slideAt_mergeAll : (mergeAll server others).slideAt id = combine mergeSlide ((server :: others).filterMap (·.slideAt id)) :=
  @column_foldl _ _ mergePitchDocuments (·.slideAt id) mergeSlide (fun held other => slideAt_merge held other id) server others

def copies (versions : List (PitchDocument Shape Clip Ink)) (id : String) : List (PitchSlide Shape Clip Ink) := versions.filterMap (·.slideAt id)

theorem mergeAll_leads (covers : Covers versions server others) (ends : (mergeAll server others).slideAt id = some slide) :
    Leads (copies versions id) slide := by
  rw [slideAt_mergeAll] at ends
  refine (combine_leads ends).of_mem ?_
  intro row
  simp [copies, covers _]

def PitchDocument.contentAt (document : PitchDocument Shape Clip Ink) (id : String) : Option (String × Nat × List Clip × Option (List Ink)) :=
  (document.slideAt id).map (·.content)

theorem latest_last (latest : Latest (copies versions id) slide) :
    ∃ server others, Covers versions server others ∧ (mergeAll server others).contentAt id = some slide.content := by
  obtain ⟨⟨mem, greatest⟩, youngest⟩ := latest
  obtain ⟨version, listed, found⟩ := mem_filterMap.mp mem
  cases versions with
  | nil => cases listed
  | cons server others =>
    refine ⟨server, others ++ [version], covers_last listed, ?_⟩
    have last : (mergeAll server (others ++ [version])).slideAt id = ((mergeAll server others).slideAt id).merge mergeSlide (some slide) := by
      rw [mergeAll, foldl_append, ← found, ← slideAt_merge]
      rfl
    rw [PitchDocument.contentAt, last]
    cases before : (mergeAll server others).slideAt id with
    | none => rfl
    | some =>
      obtain ⟨-, -, ⟨young, youngListed, sameTime⟩, row, rowListed, number, -⟩ := mergeAll_leads (fun _ => Iff.rfl) before
      have order := greatest row rowListed
      have time := youngest young youngListed
      rw [Option.merge_some_some, map_some, mergeSlide_wins (by omega)]

theorem top_stays {young : PitchSlide Shape Clip Ink} (top : Top (copies versions id) slide) (none_ : ∀ last, ¬ Latest (copies versions id) last)
    (youngest : Greatest PitchSlide.updatedAt (copies versions id) young) :
    ∃ server others, Covers versions server others ∧ (mergeAll server others).contentAt id = some slide.content := by
  obtain ⟨version, listed, found⟩ := mem_filterMap.mp top.1
  obtain ⟨younger, youngListed, youngFound⟩ := mem_filterMap.mp youngest.1
  refine ⟨younger, version :: versions, ?_, ?_⟩
  · intro other
    simp only [mem_cons]
    constructor
    · rintro (rfl | rfl | held)
      · exact youngListed
      · exact listed
      · exact held
    · exact fun held => .inr (.inr held)
  · have older : ∀ row ∈ copies versions id, row.version < slide.version ∨ row.version = slide.version ∧ row.updatedAt < young.updatedAt := by
      intro row held
      have number := top.2 row held
      by_contra late
      apply none_ row
      refine ⟨⟨held, fun other inside => ?_⟩, fun other inside => ?_⟩
      · have bound := top.2 other inside
        omega
      · have bound := youngest.2 other inside
        omega
    have started : young.version < slide.version := by
      rcases older young youngest.1 with lesser | ⟨-, lesser⟩
      · exact lesser
      · exact absurd lesser (lt_irrefl _)
    have rows : (younger :: version :: versions).filterMap (·.slideAt id) = young :: slide :: copies versions id := by
      simp [youngFound, found, copies]
    rw [PitchDocument.contentAt, slideAt_mergeAll, rows]
    simp only [combine, foldl_cons, map_some]
    rw [content_holds, mergeSlide_wins (.inl started)]
    intro row held
    have before := older row held
    rw [mergeSlide_version, mergeSlide_updatedAt]
    omega

theorem content_converges_iff : (∀ server others first thirds, Covers versions server others → Covers versions first thirds →
      (mergeAll server others).contentAt id = (mergeAll first thirds).contentAt id) ↔ ContentSettled (copies versions id) := by
  constructor
  · intro converges
    have agree : ∀ slide other : PitchSlide Shape Clip Ink, Latest (copies versions id) slide → Latest (copies versions id) other →
        slide.content = other.content := by
      intro slide other latest latest'
      obtain ⟨server, others, covers, ends⟩ := latest_last latest
      obtain ⟨first, thirds, covers', ends'⟩ := latest_last latest'
      have same := converges server others first thirds covers covers'
      rw [ends, ends'] at same
      exact some.inj same
    by_cases last : ∃ slide, Latest (copies versions id) slide
    · exact .inr ⟨last, agree⟩
    · left
      intro slide other top top'
      have none_ : ∀ last, ¬ Latest (copies versions id) last := fun slide latest => last ⟨slide, latest⟩
      obtain ⟨young, youngest⟩ : ∃ young, Greatest PitchSlide.updatedAt (copies versions id) young := by
        cases rows : copies versions id with
        | nil =>
          rw [Top, rows] at top
          cases top.1
        | cons first rest => exact ⟨_, foldl_takeGreater PitchSlide.updatedAt first rest⟩
      obtain ⟨server, others, covers, ends⟩ := top_stays top none_ youngest
      obtain ⟨first, thirds, covers', ends'⟩ := top_stays top' none_ youngest
      have same := converges server others first thirds covers covers'
      rw [ends, ends'] at same
      exact some.inj same
  · intro settled server others first thirds covers covers'
    have numbers := column_converges (versionAt_register id) (fun slide other greatest greatest' =>
      le_antisymm (greatest'.2 slide greatest.1) (greatest.2 other greatest'.1)) covers covers'
    rw [PitchDocument.contentAt, PitchDocument.contentAt]
    cases ends : (mergeAll server others).slideAt id with
    | none =>
      cases ends' : (mergeAll first thirds).slideAt id with
      | none => rfl
      | some =>
        have both : (mergeAll server others).versionAt id = (mergeAll first thirds).versionAt id := numbers
        rw [PitchDocument.versionAt, PitchDocument.versionAt, ends, ends'] at both
        cases both
    | some =>
      cases ends' : (mergeAll first thirds).slideAt id with
      | none =>
        have both : (mergeAll server others).versionAt id = (mergeAll first thirds).versionAt id := numbers
        rw [PitchDocument.versionAt, PitchDocument.versionAt, ends, ends'] at both
        cases both
      | some => exact congrArg some ((mergeAll_leads covers ends).content_eq settled (mergeAll_leads covers' ends'))

end

/-- What a slide shows, apart from the order of its objects. -/
structure SameSlide (slide other : PitchSlide Shape Clip Ink) : Prop where
  version : slide.version = other.version
  updatedAt : slide.updatedAt = other.updatedAt
  deletedAt : slide.deletedAt = other.deletedAt
  content : slide.content = other.content
  assetIds : ∀ file, slide.assetIds file = other.assetIds file
  elements : ∀ id, slide.elementAt id = other.elementAt id

/-- Two documents with the same content, up to the order of slides and of objects. -/
def SameDocument (document other : PitchDocument Shape Clip Ink) : Prop :=
  ∀ id, Option.Rel SameSlide (document.slideAt id) (other.slideAt id)

/-- The versions that hold a slide leave nothing of it to the order of the merges. -/
structure Settled (versions : List (PitchDocument Shape Clip Ink)) (id : String) : Prop where
  content : ContentSettled (copies versions id)
  assets : ∀ file, ∀ asset ∈ versions.filterMap (·.assetAt id file), ∀ other ∈ versions.filterMap (·.assetAt id file), asset = other
  elements : ∀ element one other, Greatest ExcalidrawElement.clock (versions.filterMap (·.elementAt id element)) one →
    Greatest ExcalidrawElement.clock (versions.filterMap (·.elementAt id element)) other → one = other

/-- Every two runs of merges through all the versions end with the same content. -/
def Convergent (versions : List (PitchDocument Shape Clip Ink)) : Prop :=
  ∀ server others first thirds, Covers versions server others → Covers versions first thirds →
    SameDocument (mergeAll server others) (mergeAll first thirds)

/-- What every run of merges through the versions ends with. -/
structure Merged (versions : List (PitchDocument Shape Clip Ink)) (document : PitchDocument Shape Clip Ink) : Prop where
  slides : ∀ version ∈ versions, ∀ id, (version.slideAt id).isSome → (document.slideAt id).isSome
  elements : ∀ version ∈ versions, ∀ slide id, (version.elementAt slide id).isSome → (document.elementAt slide id).isSome
  survivor : ∀ slide id element, document.elementAt slide id = some element →
    Greatest ExcalidrawElement.clock (versions.filterMap (·.elementAt slide id)) element
  version : ∀ id number, document.versionAt id = some number → Greatest (fun number => number) (versions.filterMap (·.versionAt id)) number
  updatedAt : ∀ id time, document.updatedAt id = some time → Greatest (fun time => time) (versions.filterMap (·.updatedAt id)) time
  deletedAt : ∀ id time, document.deletedAt id = some time → Greatest (fun time => time) (versions.filterMap (·.deletedAt id)) time
  deleted : ∀ version ∈ versions, ∀ id, (version.deletedAt id).isSome → (document.deletedAt id).isSome
  assets : ∀ id file asset, document.assetAt id file = some asset → asset ∈ versions.filterMap (·.assetAt id file)
  content : ∀ id slide, document.slideAt id = some slide → ∃ row, Top (copies versions id) row ∧ row.content = slide.content

section

variable {versions others : List (PitchDocument Shape Clip Ink)} {server document other : PitchDocument Shape Clip Ink} {id : String}

theorem mergeAll_merged (covers : Covers versions server others) : Merged versions (mergeAll server others) where
  slides version mem id held := by
    have kept := column_kept (versionAt_register id) covers mem (by
      obtain ⟨slide, found⟩ := isSome_iff_exists.mp held
      simp only [PitchDocument.versionAt, found, bind_some, isSome_some])
    have still : ((mergeAll server others).versionAt id).isSome := kept
    cases found : (mergeAll server others).slideAt id with
    | none =>
      rw [PitchDocument.versionAt, found] at still
      cases still
    | some => rfl
  elements _ mem slide id held := column_kept (elementAt_register slide id) covers mem held
  survivor slide id _ ends := column_greatest (elementAt_register slide id) covers ends
  version id _ ends := column_greatest (versionAt_register id) covers ends
  updatedAt id _ ends := column_greatest (updatedAt_register id) covers ends
  deletedAt id _ ends := column_greatest (deletedAt_register id) covers ends
  deleted _ mem id held := column_kept (deletedAt_register id) covers mem held
  assets id file _ ends := (column_greatest (assetAt_register id file) covers ends).1
  content id slide ends := by
    obtain ⟨row, top, content, -⟩ := (mergeAll_leads covers ends).source
    exact ⟨row, top, content⟩

theorem SameDocument.bind_eq {γ : Type} (same : SameDocument document other) {column : PitchSlide Shape Clip Ink → Option γ}
    (reads : ∀ slide other, SameSlide slide other → column slide = column other) : (document.slideAt id).bind column = (other.slideAt id).bind column := by
  have related := same id
  cases first : document.slideAt id with
  | none =>
    rw [first] at related
    cases second : other.slideAt id with
    | none => rfl
    | some =>
      rw [second] at related
      cases related
  | some slide =>
    rw [first] at related
    cases second : other.slideAt id with
    | none =>
      rw [second] at related
      cases related
    | some third =>
      rw [second] at related
      cases related with
      | some alike => exact reads slide third alike

theorem convergent_iff : Convergent versions ↔ ∀ id, Settled versions id := by
  constructor
  · intro converges id
    constructor
    · rw [← content_converges_iff]
      intro server others first thirds covers covers'
      have same := @SameDocument.bind_eq _ _ _ _ _ id _ (converges server others first thirds covers covers') (fun slide => some slide.content)
        fun slide other alike => congrArg some alike.content
      rw [PitchDocument.contentAt, PitchDocument.contentAt, Option.map_eq_bind, Option.map_eq_bind]
      exact same
    · intro file asset held other held'
      obtain ⟨server, others, covers, ends⟩ := column_last (assetAt_register id file) ⟨held, fun _ _ => le_refl ()⟩
      obtain ⟨first, thirds, covers', ends'⟩ := column_last (assetAt_register id file) ⟨held', fun _ _ => le_refl ()⟩
      have same := @SameDocument.bind_eq _ _ _ _ _ id _ (converges server others first thirds covers covers') (·.assetIds file)
        fun slide other alike => alike.assetIds file
      exact some.inj (ends.symm.trans (same.trans ends'))
    · intro element one other greatest greatest'
      obtain ⟨server, others, covers, ends⟩ := column_last (elementAt_register id element) greatest
      obtain ⟨first, thirds, covers', ends'⟩ := column_last (elementAt_register id element) greatest'
      have same := @SameDocument.bind_eq _ _ _ _ _ id _ (converges server others first thirds covers covers') (·.elementAt element)
        fun slide other alike => alike.elements element
      exact some.inj (ends.symm.trans (same.trans ends'))
  · intro settled server others first thirds covers covers' id
    have antisymm : ∀ {ι : Type} [LinearOrder ι] {rows : List ι} (one other : ι), Greatest (fun item => item) rows one →
        Greatest (fun item => item) rows other → one = other :=
      fun one other greatest greatest' => le_antisymm (greatest'.2 one greatest.1) (greatest.2 other greatest'.1)
    have version : (mergeAll server others).versionAt id = (mergeAll first thirds).versionAt id :=
      column_converges (versionAt_register id) antisymm covers covers'
    have updatedAt : (mergeAll server others).updatedAt id = (mergeAll first thirds).updatedAt id :=
      column_converges (updatedAt_register id) antisymm covers covers'
    have deletedAt : (mergeAll server others).deletedAt id = (mergeAll first thirds).deletedAt id :=
      column_converges (deletedAt_register id) antisymm covers covers'
    have assets : ∀ file, (mergeAll server others).assetAt id file = (mergeAll first thirds).assetAt id file := fun file =>
      column_converges (assetAt_register id file) (fun one other held held' => (settled id).assets file one held.1 other held'.1) covers covers'
    have elements : ∀ element, (mergeAll server others).elementAt id element = (mergeAll first thirds).elementAt id element := fun element =>
      column_converges (elementAt_register id element) ((settled id).elements element) covers covers'
    have content := content_converges_iff.mpr (settled id).content server others first thirds covers covers'
    simp only [PitchDocument.versionAt, PitchDocument.updatedAt, PitchDocument.deletedAt, PitchDocument.assetAt, PitchDocument.elementAt,
      PitchDocument.contentAt] at version updatedAt deletedAt assets elements content
    cases ends : (mergeAll server others).slideAt id with
    | none =>
      cases ends' : (mergeAll first thirds).slideAt id with
      | none => exact .none
      | some => simp [ends, ends'] at version
    | some =>
      cases ends' : (mergeAll first thirds).slideAt id with
      | none => simp [ends, ends'] at version
      | some =>
        simp only [ends, ends', bind_some, map_some, some.injEq] at version updatedAt deletedAt assets elements content
        exact .some ⟨version, updatedAt, deletedAt, content, assets, elements⟩

theorem elementAt_keeps {incoming : PitchDocument Shape Clip Ink} {slide : String} {element : ExcalidrawElement Shape}
    (held : server.elementAt slide id = some element)
    (older : ∀ other, incoming.elementAt slide id = some other → other.version < element.version) :
    (mergePitchDocuments server incoming).elementAt slide id = some element := by
  have merged := elementAt_register slide id server incoming
  simp only [held] at merged
  rw [merged]
  cases found : incoming.elementAt slide id with
  | none => rfl
  | some other =>
    have less : ¬ element.clock ≤ other.clock := by
      intro order
      have number := older other found
      rcases (Prod.Lex.toLex_le_toLex).mp order with later | ⟨same, -⟩
      · exact absurd later (by simp only; omega)
      · omega
    rw [Option.merge_some_some, takeGreater, if_neg less]

/-- Merging the versions of a pitch keeps all that was in them with the newest state of each object, and does so alike for every order of
merges exactly where the versions of each slide settle the rest of it. -/
theorem merging_settles (versions : List (PitchDocument Shape Clip Ink)) :
    (∀ server others, Covers versions server others → Merged versions (mergeAll server others)) ∧
      (Convergent versions ↔ ∀ id, Settled versions id) ∧
      ∀ (server incoming : PitchDocument Shape Clip Ink) (slide id : String) (element : ExcalidrawElement Shape),
        server.elementAt slide id = some element →
        (∀ other, incoming.elementAt slide id = some other → other.version < element.version) →
        (mergePitchDocuments server incoming).elementAt slide id = some element :=
  ⟨fun _ _ => mergeAll_merged, convergent_iff, fun _ _ _ _ _ => elementAt_keeps⟩

end

def emptySlide (version : Nat) (updatedAt : Int) (name : String) : PitchSlide Unit Unit Unit where
  id := "slide"
  name := name
  version := version
  updatedAt := updatedAt
  durationMs := 15000
  deletedAt := none
  elements := []
  assetIds _ := none
  mediaClips := []
  inkLayers := none

def edited (version : Nat) (updatedAt : Int) (name : String) : PitchDocument Unit Unit Unit where
  slides := [emptySlide version updatedAt name]
  wellFormed := ⟨nodup_singleton _, by simp [emptySlide], by simp [emptySlide]⟩

/-- The same three versions merged into the same server copy in two orders: the older one's time, taken over by the slide, keeps the third
from winning when it comes before it. -/
theorem orders_differ : ¬ SameDocument (mergeAll (edited 1 1 "draft") [edited 2 10 "laptop", edited 1 100 "tablet", edited 2 50 "phone"])
    (mergeAll (edited 1 1 "draft") [edited 2 10 "laptop", edited 2 50 "phone", edited 1 100 "tablet"]) := by
  intro same
  have read := @SameDocument.bind_eq _ _ _ _ _ "slide" _ same (fun slide => some slide.name) fun slide other alike =>
    congrArg (fun content => some content.1) alike.content
  exact absurd (some.inj read) (by decide)

end MilkAndHenny.Pitches
