import MilkAndHenny.Library.Text
import MilkAndHenny.Zip.RoundTrip

/-! Which names of an archive are the same. A name that is asked for again gets a number, and that
numbered name may be asked for as well, or be what another name gets. -/

namespace MilkAndHenny.Zip
variable {firstSeen secondSeen : Nat} {first second : String} {m n : Nat}
open Library

/-! ### What each file is asked to be called, and how often that was asked before -/

def occurrencesFrom (before : List String) : List String → List (String × Nat)
  | [] => []
  | source :: sources => (source, before.count source) :: occurrencesFrom (before ++ [source]) sources

def occurrences (sources : List String) : List (String × Nat) := occurrencesFrom [] sources

theorem mem_occurrencesFrom {before sources : List String} {source : String} {seen : Nat} :
    (source, seen) ∈ occurrencesFrom before sources ↔ before.count source ≤ seen ∧ seen < before.count source + sources.count source := by
  induction sources generalizing before with
  | nil =>
    simp only [occurrencesFrom, not_mem_nil, List.count_nil, false_iff]
    omega
  | cons first sources ih =>
    rw [occurrencesFrom, mem_cons, ih, List.count_append, List.count_singleton, List.count_cons, Prod.mk.injEq]
    by_cases same : first = source
    · subst same
      simp only [true_and, beq_self_eq_true, if_true]
      omega
    · simp only [beq_eq_false_iff_ne.mpr same, Ne.symm same, false_and, false_or, false_eq_true, if_false]
      rfl

theorem nodup_occurrencesFrom (before sources : List String) : (occurrencesFrom before sources).Nodup := by
  induction sources generalizing before with
  | nil => exact nodup_nil
  | cons first sources ih =>
    refine nodup_cons.mpr ⟨fun again => ?_, ih (before ++ [first])⟩
    have later := (mem_occurrencesFrom.mp again).1
    rw [List.count_append, List.count_singleton_self] at later
    omega

theorem foldl_next_names (files : List ZipSourceFile) {names : Filenames} {before : List String}
    (unique : (names.resolved.map Prod.fst ++ files.map ZipSourceFile.id).Nodup) (counted : ∀ source, names.seen source = before.count source) :
    (files.foldl Filenames.next names).resolved.map Prod.snd =
      names.resolved.map Prod.snd ++ (occurrencesFrom before (files.map ZipSourceFile.source)).map fun row => archiveFilename row.1 row.2 := by
  induction files generalizing names before with
  | nil => exact (append_nil _).symm
  | cons file files ih =>
    have new : file.id ∉ names.resolved.map Prod.fst := fun mem =>
      (nodup_append.mp unique).2.2 file.id mem file.id mem_cons_self rfl
    have resolved : (names.next file).resolved = names.resolved ++ [(file.id, archiveFilename file.source (before.count file.source))] := by
      rw [← counted]
      exact setKey_new new
    have counted' (source : String) : (names.next file).seen source = (before ++ [file.source]).count source := by
      rw [List.count_append, List.count_singleton, ← counted]
      simp only [Filenames.next, Filenames.seen, lookup_setKey]
      by_cases same : file.source = source
      · simp [same]
      · simp [same]
    rw [foldl_cons, ih (by simpa [resolved] using unique) counted', resolved, map_append, append_assoc]
    rfl

theorem archiveNames_eq {files : List ZipSourceFile} (unique : (files.map ZipSourceFile.id).Nodup) :
    archiveNames files = (occurrences (files.map ZipSourceFile.source)).map fun row => archiveFilename row.1 row.2 :=
  foldl_next_names files unique fun _ => rfl

/-! ### Numbered names -/

def mark (number : Nat) : List Char := ' ' :: '(' :: (Nat.toDigits 10 number ++ [')'])

theorem mark_injective {first second : List Char} (same : first ++ mark m = second ++ mark n) : first = second ∧ m = n := by
  have closing (number : Nat) : '(' ∉ Nat.toDigits 10 number ++ [')'] := by
    rw [mem_append, not_or]
    exact ⟨notMem_decimal rfl number, by decide⟩
  have opened (front : List Char) (number : Nat) : front ++ mark number = (front ++ [' ']) ++ '(' :: (Nat.toDigits 10 number ++ [')']) := by
    rw [append_assoc]
    rfl
  rw [opened, opened] at same
  obtain ⟨fronts, digits⟩ := lastSplit_unique (closing m) (closing n) same
  exact ⟨List.append_cancel_right fronts, decimal_injective (List.append_cancel_right digits)⟩

theorem notMem_mark (number : Nat) : '.' ∉ mark number := by
  simp only [mark, mem_cons, mem_append, not_mem_nil, or_false, not_or]
  exact ⟨by decide, by decide, notMem_decimal rfl number, by decide⟩

theorem lastIndexOf_append {front back : List Char} {letter : Char} (absent : letter ∉ back) :
    lastIndexOf (front ++ letter :: back) letter = some front.length := by
  have found (back : List Char) (absent : letter ∉ back) (front : List Char) : (back ++ letter :: front).idxOf? letter = some back.length := by
    induction back with
    | nil => simp [List.idxOf?_cons]
    | cons other back ih =>
      obtain ⟨apart, absent⟩ := not_or.mp (mem_cons.not.mp absent)
      rw [cons_append, List.idxOf?_cons, if_neg (by simpa using Ne.symm apart), ih absent]
      rfl
  rw [lastIndexOf, List.reverse_append, List.reverse_cons, append_assoc, singleton_append,
    found _ (by simpa using absent), map_some, length_append, length_cons, List.length_reverse]
  exact congrArg some (by omega)

/-- A name without an extension: what follows its last dot is nothing, or all there is. -/
def Plain (source : List Char) : Prop := ∀ base tail, '.' ∉ tail → source = base ++ '.' :: tail → base = [] ∨ tail = []

theorem numbered_cases (source : String) :
    (∃ base tail, base ≠ [] ∧ tail ≠ [] ∧ '.' ∉ tail ∧ source.toList = base ++ '.' :: tail ∧
      ∀ seen ≠ 0, (archiveFilename source seen).toList = base ++ mark (seen + 1) ++ '.' :: tail) ∨
    Plain source.toList ∧ ∀ seen ≠ 0, (archiveFilename source seen).toList = source.toList ++ mark (seen + 1) := by
  have written (seen : Nat) (again : seen ≠ 0) : (archiveFilename source seen).toList =
      (splitExtension source).1.toList ++ mark (seen + 1) ++ (splitExtension source).2.toList := by
    simp only [archiveFilename, if_neg again, String.toList_append, toList_decimal]
    simp [mark]
  by_cases dot : '.' ∈ source.toList
  · obtain ⟨base, tail, parts, absent⟩ := exists_lastSplit dot
    have split : splitExtension source = if base ≠ [] ∧ tail ≠ [] then (String.ofList base, String.ofList ('.' :: tail)) else (source, "") := by
      unfold splitExtension
      rw [parts, lastIndexOf_append absent]
      simp only [length_append, length_cons, List.take_left, drop_left, ← List.length_pos_iff]
      congr 1
      exact propext (and_congr_right fun _ => by omega)
    by_cases both : base ≠ [] ∧ tail ≠ []
    · refine .inl ⟨base, tail, both.1, both.2, absent, parts, fun seen again => ?_⟩
      rw [written seen again, split, if_pos both, String.toList_ofList, String.toList_ofList]
    · refine .inr ⟨fun base' tail' absent' parts' => ?_, fun seen again => ?_⟩
      · obtain ⟨rfl, rfl⟩ := lastSplit_unique absent absent' (parts.symm.trans parts')
        simpa only [not_and_or, not_not] using both
      · rw [written seen again, split, if_neg both, String.toList_empty, append_nil]
  · refine .inr ⟨fun base tail _ parts => absurd (parts ▸ mem_append_right base mem_cons_self) dot, fun seen again => ?_⟩
    have none : lastIndexOf source.toList '.' = none := by
      rw [lastIndexOf, map_eq_none_iff, List.idxOf?_eq_none_iff, mem_reverse]
      exact dot
    rw [written seen again, splitExtension, none, String.toList_empty, append_nil]

/-! ### Which names clash -/

/-- Two names whose copies get the same name: one ends in a number and a dot, the other in a dot and a number. -/
def Crossed (first : String) (firstSeen : Nat) (second : String) (secondSeen : Nat) : Prop :=
  ∃ stem ≠ "", first = stem ++ " (" ++ toString (secondSeen + 1) ++ ")." ∧ second = stem ++ ". (" ++ toString (firstSeen + 1) ++ ")"

theorem crossed_iff : Crossed first firstSeen second secondSeen ↔
    ∃ stem ≠ [], first.toList = stem ++ mark (secondSeen + 1) ++ ['.'] ∧ second.toList = stem ++ '.' :: mark (firstSeen + 1) := by
  constructor
  · rintro ⟨stem, proper, rfl, rfl⟩
    exact ⟨stem.toList, fun none => proper (String.toList_eq_nil_iff.mp none), by simp [mark], by simp [mark]⟩
  · rintro ⟨stem, proper, parts, parts'⟩
    refine ⟨String.ofList stem, fun none => proper ?_, String.toList_injective ?_, String.toList_injective ?_⟩
    · rw [← String.toList_ofList (l := stem), none, String.toList_empty]
    · simp [parts, mark]
    · simp [parts', mark]

theorem Crossed.same (crossed : Crossed first firstSeen second secondSeen)
    (again : firstSeen ≠ 0) (again' : secondSeen ≠ 0) : archiveFilename first firstSeen = archiveFilename second secondSeen := by
  obtain ⟨stem, proper, parts, parts'⟩ := crossed_iff.mp crossed
  have left : (archiveFilename first firstSeen).toList = first.toList ++ mark (firstSeen + 1) := by
    obtain ⟨base, tail, -, filled, absent, split, -⟩ | ⟨-, written⟩ := numbered_cases first
    · exact absurd (lastSplit_unique absent not_mem_nil (split.symm.trans parts)).2 filled
    · exact written firstSeen again
  have right : (archiveFilename second secondSeen).toList = stem ++ mark (secondSeen + 1) ++ '.' :: mark (firstSeen + 1) := by
    obtain ⟨base, tail, -, -, absent, split, written⟩ | ⟨plain, -⟩ := numbered_cases second
    · obtain ⟨rfl, rfl⟩ := lastSplit_unique absent (notMem_mark _) (split.symm.trans parts')
      exact written secondSeen again'
    · exact absurd (plain stem _ (notMem_mark _) parts') (by simp [proper, mark])
  apply String.toList_injective
  rw [left, right, parts, append_assoc]
  rfl

theorem crossed_of_plain {base tail other : List Char} (filled : base ≠ []) (absent : '.' ∉ tail) (plain : Plain other)
    (same : base ++ mark m ++ '.' :: tail = other ++ mark n) : other = base ++ mark m ++ ['.'] ∧ tail = mark n := by
  have dot : '.' ∈ other := by
    have listed : '.' ∈ other ++ mark n := same ▸ mem_append_right _ mem_cons_self
    exact (mem_append.mp listed).resolve_right (notMem_mark n)
  obtain ⟨front, back, parts, absent'⟩ := exists_lastSplit dot
  rw [parts, append_assoc front, cons_append] at same
  have absent'' : '.' ∉ back ++ mark n := fun mem => (mem_append.mp mem).elim absent' (notMem_mark n)
  obtain ⟨fronts, backs⟩ := lastSplit_unique absent absent'' same
  obtain none | none := plain front back absent' parts
  · exact absurd (List.append_eq_nil_iff.mp (fronts.trans none)).1 filled
  · subst none
    exact ⟨parts.trans (by rw [fronts]), backs⟩

theorem copies_clash (again : firstSeen ≠ 0) (again' : secondSeen ≠ 0)
    (same : archiveFilename first firstSeen = archiveFilename second secondSeen) :
    (first, firstSeen) = (second, secondSeen) ∨ Crossed first firstSeen second secondSeen ∨ Crossed second secondSeen first firstSeen := by
  have letters := congrArg String.toList same
  obtain ⟨base, tail, filled, -, absent, parts, written⟩ | ⟨plain, written⟩ := numbered_cases first <;>
    obtain ⟨base', tail', filled', -, absent', parts', written'⟩ | ⟨plain', written'⟩ := numbered_cases second <;>
    rw [written firstSeen again, written' secondSeen again'] at letters
  · obtain ⟨fronts, rfl⟩ := lastSplit_unique absent absent' letters
    obtain ⟨rfl, numbers⟩ := mark_injective fronts
    exact .inl (Prod.ext (String.toList_injective (parts.trans parts'.symm)) (Nat.succ.inj numbers))
  · obtain ⟨shape, rfl⟩ := crossed_of_plain filled absent plain' letters
    exact .inr (.inr (crossed_iff.mpr ⟨base, filled, shape, parts⟩))
  · obtain ⟨shape, rfl⟩ := crossed_of_plain filled' absent' plain letters.symm
    exact .inr (.inl (crossed_iff.mpr ⟨base', filled', shape, parts'⟩))
  · obtain ⟨sources, numbers⟩ := mark_injective letters
    exact .inl (Prod.ext (String.toList_injective sources) (Nat.succ.inj numbers))

/-- What the files of an archive may be asked to be called. A name that is asked for `n` times is given
to copies with the numbers up to `n`. -/
structure Apart (sources : List String) : Prop where
  /-- No name is what a copy of another is given. -/
  asked : ∀ source ∈ sources, ∀ copied ∈ sources, ∀ seen, 0 < seen → seen < sources.count copied → archiveFilename copied seen ≠ source
  crossed : ∀ first ∈ sources, ∀ second ∈ sources, ∀ firstSeen secondSeen, 0 < firstSeen → firstSeen < sources.count first →
    0 < secondSeen → secondSeen < sources.count second → ¬ Crossed first firstSeen second secondSeen

theorem nodup_names_iff (sources : List String) :
    ((occurrences sources).map fun row => archiveFilename row.1 row.2).Nodup ↔ Apart sources := by
  have listed {source : String} {seen : Nat} : (source, seen) ∈ occurrences sources ↔ seen < sources.count source := by
    rw [occurrences, mem_occurrencesFrom, List.count_nil]
    omega
  have distinct : (occurrences sources).Nodup := nodup_occurrencesFrom [] sources
  rw [List.nodup_map_iff_inj_on distinct]
  constructor
  · refine fun distinct => ⟨fun source asks copied _ seen again fits same => ?_, fun first _ second _ m n m0 fits n0 fits' crossed => ?_⟩
    · have one := distinct (copied, seen) (listed.mpr fits) (source, 0) (listed.mpr (List.count_pos_iff.mpr asks)) same
      exact again.ne' (Prod.mk.inj one).2
    · have one := distinct (first, m) (listed.mpr fits) (second, n) (listed.mpr fits') (crossed.same m0.ne' n0.ne')
      obtain ⟨stem, -, parts, parts'⟩ := crossed_iff.mp crossed
      rw [(Prod.mk.inj one).1, parts'] at parts
      exact cons_ne_nil _ _ (lastSplit_unique (notMem_mark _) not_mem_nil parts).2
  · rintro apart ⟨first, m⟩ mem ⟨second, n⟩ member' same
    rw [listed] at mem member'
    have asks : first ∈ sources := List.count_pos_iff.mp (Nat.zero_lt_of_lt mem)
    have asks' : second ∈ sources := List.count_pos_iff.mp (Nat.zero_lt_of_lt member')
    rcases m.eq_zero_or_pos with rfl | again <;> rcases n.eq_zero_or_pos with rfl | again'
    · exact Prod.ext same rfl
    · exact absurd same.symm (apart.asked first asks second asks' n again' member')
    · exact absurd same (apart.asked second asks' first asks m again mem)
    · obtain one | crossed | crossed := copies_clash again.ne' again'.ne' same
      · exact one
      · exact absurd crossed (apart.crossed first asks second asks' m n again mem again' member')
      · exact absurd crossed (apart.crossed second asks' first asks n m again' member' again mem)

/-- Every file gets a name, and no two files of the archive have the same exactly where what they are asked to be called is apart. -/
theorem archiveNames_apart (files : List ZipSourceFile) (unique : (files.map ZipSourceFile.id).Nodup) :
    (resolveArchiveFilenames files).map Prod.fst = files.map ZipSourceFile.id ∧
      (((named files).map Prod.fst).Nodup ↔ Apart (files.map ZipSourceFile.source)) := by
  refine ⟨resolveArchiveFilenames_ids unique, ?_⟩
  rw [named_names unique, archiveNames_eq unique]
  exact nodup_names_iff _

def filesNamed (filenames : List String) : List ZipSourceFile :=
  filenames.mapIdx fun index filename => { id := toString index, filename, chunks := [], now := ⟨2024, 0, 1, 0, 0, 0⟩ }

theorem archiveNames_apart_twice : ((named (filesNamed ["a.txt", "a.txt"])).map Prod.fst).Nodup ↔ Apart ["a.txt", "a.txt"] :=
  (archiveNames_apart (filesNamed ["a.txt", "a.txt"]) (by decide +kernel)).2

/-- The copy of one file gets the name of the third. -/
theorem archiveNames_clash : ¬ ∀ files : List ZipSourceFile, (files.map ZipSourceFile.id).Nodup → ((named files).map Prod.fst).Nodup := by
  intro apart
  have clash := apart (filesNamed ["a.txt", "a.txt", "a (2).txt"]) (by decide +kernel)
  revert clash
  decide +kernel

end MilkAndHenny.Zip
