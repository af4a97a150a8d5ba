import Mathlib.Algebra.Order.BigOperators.Group.List
import Mathlib.Algebra.Order.Ring.Nat
import Mathlib.Data.List.Chain
import MilkAndHenny.Library.Double
import MilkAndHenny.Zip.Archive

/-! How a download is split into archives that fit in memory: files are taken in order, and a part is
closed when the next file no longer fits. -/

namespace MilkAndHenny.Zip
open Library
variable {files : List SizedFile} {packing : Packing} {file : SizedFile}

/-- A file whose size may be known before it arrives. -/
structure SizedFile extends ZipSourceFile where
  size : Option Nat
deriving DecidableEq

/-- `none` where it is not known. -/
abbrev ZipPlanTotalBytes : Type := Option Nat

structure ZipPlanPart where
  files : List SizedFile
  total : ZipPlanTotalBytes
deriving DecidableEq

inductive ZipPlan where
  | streamingSingle (total : ZipPlanTotalBytes)
  | blobSingle (bytes : Nat)
  | blobMultipart (total : ZipPlanTotalBytes) (partCount : Nat) (partBytes : List ZipPlanTotalBytes) (parts : List ZipPlanPart)
  | oversizeFile (filename : String) (bytes : Nat)
deriving DecidableEq

def getKnownTotalBytes (files : List SizedFile) : Nat := files.foldl (fun sum file => addDouble sum (file.size.getD 0)) 0

def getTotalBytes (files : List SizedFile) : ZipPlanTotalBytes := if files.all (·.size.isSome) then some (getKnownTotalBytes files) else none

structure Packing where
  parts : List ZipPlanPart := []
  currentFiles : List SizedFile := []
  currentBytes : Nat := 0

def Packing.pushCurrent (packing : Packing) : Packing :=
  if packing.currentFiles.isEmpty then packing
  else { parts := packing.parts ++ [{ files := packing.currentFiles, total := some packing.currentBytes }] }

def Packing.place (maxPartBytes : Nat) (packing : Packing) (file : SizedFile) : Packing :=
  match file.size with
  | none =>
    let pushed := packing.pushCurrent
    { pushed with parts := pushed.parts ++ [{ files := [file], total := none }] }
  | some size =>
    let current := if !packing.currentFiles.isEmpty && maxPartBytes < addDouble packing.currentBytes size then packing.pushCurrent else packing
    { current with currentFiles := current.currentFiles ++ [file], currentBytes := addDouble current.currentBytes size }

def partitionFilesBySize (files : List SizedFile) (maxPartBytes : Nat) : List ZipPlanPart :=
  (files.foldl (Packing.place maxPartBytes) {}).pushCurrent.parts

def planZipDownload (files : List SizedFile) (pickerAvailable : Bool) (maxPartBytes : Nat) : ZipPlan :=
  let total := getTotalBytes files
  let multipart :=
    let parts := partitionFilesBySize files maxPartBytes
    ZipPlan.blobMultipart total parts.length (parts.map (·.total)) parts
  if pickerAvailable then .streamingSingle total
  else
    match files.find? (·.size.any (maxPartBytes < ·)) with
    | some { filename, size := some bytes, .. } => .oversizeFile filename bytes
    | _ =>
      match total with
      | none => multipart
      | some bytes => if maxPartBytes < bytes then multipart else .blobSingle bytes

/-! ### What a part holds -/

variable {limit : Nat}

def knownBytes (files : List SizedFile) : Nat := (files.map (·.size.getD 0)).sum

/-- Files of known sizes that fit together, or one of which the size is not known. -/
def ZipPlanPart.Holds (limit : Nat) (part : ZipPlanPart) : Prop :=
  match part.total with
  | some bytes => part.files ≠ [] ∧ (∀ file ∈ part.files, file.size.isSome) ∧ knownBytes part.files = bytes ∧ bytes ≤ limit
  | none => ∃ file, part.files = [file] ∧ file.size = none

def ZipPlanPart.Closed (limit : Nat) (part next : ZipPlanPart) : Prop :=
  ∀ bytes ∈ part.total, ∀ file ∈ next.files.head?, ∀ size ∈ file.size, limit < bytes + size

structure Packs (limit : Nat) (files : List SizedFile) (parts : List ZipPlanPart) : Prop where
  whole : parts.flatMap (·.files) = files
  holds : ∀ part ∈ parts, part.Holds limit
  closed : parts.IsChain (ZipPlanPart.Closed limit)

theorem Packs.append {files : List SizedFile} {parts : List ZipPlanPart} {part : ZipPlanPart} (packs : Packs limit files parts)
    (holds : part.Holds limit) (closed : ∀ last ∈ parts.getLast?, last.Closed limit part) : Packs limit (files ++ part.files) (parts ++ [part]) where
  whole := by rw [flatMap_append, packs.whole, List.flatMap_singleton]
  holds other mem := by
    obtain old | new := mem_append.mp mem
    · exact packs.holds other old
    · exact mem_singleton.mp new ▸ holds
  closed := by
    refine List.isChain_append.mpr ⟨packs.closed, .singleton part, fun last mem first head => ?_⟩
    cases head
    exact closed last mem

structure Packed (limit : Nat) (files : List SizedFile) (packing : Packing) : Prop where
  done : ∃ before, Packs limit before packing.parts ∧ before ++ packing.currentFiles = files
  known : ∀ file ∈ packing.currentFiles, file.size.isSome
  bytes : knownBytes packing.currentFiles = packing.currentBytes
  fits : packing.currentBytes ≤ limit
  /-- A part of known size was closed by the first file of the current one. -/
  closed : ∀ last ∈ packing.parts.getLast?, ∀ bytes ∈ last.total,
    ∃ file ∈ packing.currentFiles.head?, ∃ size ∈ file.size, limit < bytes + size

theorem Packed.push (packed : Packed limit files packing) :
    Packs limit files packing.pushCurrent.parts ∧ packing.pushCurrent.currentFiles = [] ∧ packing.pushCurrent.currentBytes = 0 ∧
      ∀ last ∈ packing.pushCurrent.parts.getLast?, ∀ bytes ∈ last.total, packing.currentFiles ≠ [] ∧ bytes = packing.currentBytes := by
  obtain ⟨before, packs, rfl⟩ := packed.done
  by_cases current : packing.currentFiles = []
  · have bytes := packed.bytes
    have closed := packed.closed
    rw [current] at bytes closed
    rw [Packing.pushCurrent, if_pos (List.isEmpty_iff.mpr current)]
    refine ⟨by simpa [current] using packs, current, bytes.symm, fun last mem bytes known => ?_⟩
    obtain ⟨_, none, _⟩ := closed last mem bytes known
    cases none
  · rw [Packing.pushCurrent, if_neg (fun none => current (List.isEmpty_iff.mp none))]
    have holds : ZipPlanPart.Holds limit { files := packing.currentFiles, total := some packing.currentBytes } :=
      ⟨current, packed.known, packed.bytes, packed.fits⟩
    refine ⟨packs.append holds fun last mem bytes known file head size sized => ?_, rfl, rfl, fun last mem bytes known => ?_⟩
    · obtain ⟨other, head', size', sized', beyond⟩ := packed.closed last mem bytes known
      cases some.inj (head.symm.trans head')
      cases some.inj (sized.symm.trans sized')
      exact beyond
    · rw [List.getLast?_concat] at mem
      cases mem
      exact ⟨current, (some.inj known).symm⟩

theorem Packed.counted {size : Nat} (packed : Packed limit files packing) (sized : file.size = some size)
    (exact : limit < 2 ^ 53 ∨ knownBytes (files ++ [file]) ≤ 2 ^ 53) : limit < 2 ^ 53 ∨ packing.currentBytes + size ≤ 2 ^ 53 := by
  obtain ⟨before, -, rfl⟩ := packed.done
  have bytes := packed.bytes
  simp only [knownBytes, map_append, sum_append, map_cons, map_nil, sum_singleton, sized,
    getD_some] at exact bytes
  omega

theorem Packed.place (packed : Packed limit files packing)
    (exact : limit < 2 ^ 53 ∨ knownBytes (files ++ [file]) ≤ 2 ^ 53) (small : ∀ size ∈ file.size, size ≤ limit) :
    Packed limit (files ++ [file]) (packing.place limit file) := by
  obtain ⟨pushed, empty, zero, last⟩ := packed.push
  unfold Packing.place
  cases sized : file.size with
  | none =>
    have alone : ZipPlanPart.Holds limit { files := [file], total := none } := ⟨file, rfl, sized⟩
    have packs := pushed.append alone fun last _ bytes _ other head size sized' => by
      cases head
      cases sized.symm.trans sized'
    refine ⟨⟨_, packs, by rw [empty, append_nil]⟩, by simp [empty], by simp [empty, zero, knownBytes], by simp [zero], ?_⟩
    intro last mem bytes known
    rw [List.getLast?_concat] at mem
    cases mem
    cases known
  | some size =>
    have fits := small size sized
    have counted := packed.counted sized exact
    obtain ⟨exceeds, sum⟩ := addDouble_limit counted
    have alone : addDouble 0 size = size := by
      have first : limit < 2 ^ 53 ∨ 0 + size ≤ 2 ^ 53 := by omega
      rw [(addDouble_limit first).2 (by omega), Nat.zero_add]
    simp only [exceeds]
    by_cases full : (!packing.currentFiles.isEmpty && decide (limit < packing.currentBytes + size)) = true
    · rw [if_pos full]
      rw [and_eq_true, decide_eq_true_eq] at full
      refine ⟨⟨_, pushed, by rw [empty]; rfl⟩, by simp [empty, sized], by simp [empty, zero, knownBytes, sized, alone], by simpa [zero, alone] using fits, ?_⟩
      intro other mem bytes known
      obtain ⟨-, rfl⟩ := last other mem bytes known
      exact ⟨file, by simp [empty], size, sized, full.2⟩
    · rw [if_neg full]
      obtain ⟨before, packs, rfl⟩ := packed.done
      have under : packing.currentBytes + size ≤ limit := by
        cases current : packing.currentFiles with
        | nil =>
          have none := packed.bytes
          rw [current] at none
          simpa [← none, knownBytes] using fits
        | cons => simpa [current] using full
      rw [sum under]
      refine ⟨⟨before, packs, (append_assoc ..).symm⟩, ?_, ?_, under, fun other mem bytes known => ?_⟩
      · intro other mem
        obtain old | new := mem_append.mp mem
        · exact packed.known other old
        · rw [mem_singleton.mp new, sized]
          rfl
      · simp [knownBytes, sized, ← packed.bytes]
      · obtain ⟨first, head, size', sized', beyond⟩ := packed.closed other mem bytes known
        exact ⟨first, by simp [List.head?_append, mem_def.mp head], size', sized', beyond⟩

theorem partitionFilesBySize_packs (exact : limit < 2 ^ 53 ∨ knownBytes files ≤ 2 ^ 53)
    (small : ∀ file ∈ files, ∀ size ∈ file.size, size ≤ limit) : Packs limit files (partitionFilesBySize files limit) := by
  have packed : Packed limit files (files.foldl (Packing.place limit) {}) := by
    induction files using List.reverseRecOn with
    | nil => exact ⟨⟨[], ⟨rfl, nofun, .nil⟩, rfl⟩, nofun, rfl, Nat.zero_le limit, nofun⟩
    | append_singleton files file ih =>
      rw [foldl_append]
      have before : limit < 2 ^ 53 ∨ knownBytes files ≤ 2 ^ 53 := exact.imp_right fun few => by
        simp only [knownBytes, map_append, sum_append] at few ⊢
        omega
      exact (ih before fun other mem => small other (mem_append_left _ mem)).place exact
        (small file (mem_append_right _ mem_cons_self))
  exact packed.push.1

theorem getKnownTotalBytes_counts (files : List SizedFile) :
    getKnownTotalBytes files = knownBytes files ∨ 2 ^ 53 ≤ getKnownTotalBytes files ∧ 2 ^ 53 < knownBytes files := by
  induction files using List.reverseRecOn with
  | nil => exact .inl rfl
  | append_singleton files file =>
    have total : getKnownTotalBytes (files ++ [file]) = addDouble (getKnownTotalBytes files) (file.size.getD 0) := by
      simp [getKnownTotalBytes]
    have known : knownBytes (files ++ [file]) = knownBytes files + file.size.getD 0 := by simp [knownBytes]
    rw [total, known]
    by_cases small : getKnownTotalBytes files + file.size.getD 0 ≤ 2 ^ 53
    · rw [addDouble_exact small]
      omega
    · have large := addDouble_ge (Nat.le_of_not_le small)
      omega

def ZipPlan.Keeps (limit : Nat) (files : List SizedFile) : ZipPlan → Prop
  | .streamingSingle _ => False
  | .oversizeFile filename bytes => ∃ file ∈ files, file.filename = filename ∧ file.size = some bytes ∧ limit < bytes
  | .blobSingle bytes => (∀ file ∈ files, file.size.isSome) ∧ knownBytes files = bytes ∧ bytes ≤ limit
  | .blobMultipart total partCount partBytes parts =>
    total = getTotalBytes files ∧ partCount = parts.length ∧ partBytes = parts.map (·.total) ∧ Packs limit files parts

/-- Where there is no picker, and the limit or the sum is within 2^53, a file is reported exactly when one is too large, everything else
is packed as promised, and one archive is made exactly when all sizes are known and fit together. -/
theorem planZipDownload_keeps (files : List SizedFile) (maxPartBytes : Nat)
    (exact : maxPartBytes < 2 ^ 53 ∨ knownBytes files ≤ 2 ^ 53) :
    (planZipDownload files false maxPartBytes).Keeps maxPartBytes files ∧
      ((∃ filename bytes, planZipDownload files false maxPartBytes = .oversizeFile filename bytes) ↔
        ∃ file ∈ files, ∃ size ∈ file.size, maxPartBytes < size) ∧
      ((∃ bytes, planZipDownload files false maxPartBytes = .blobSingle bytes) ↔
        (∀ file ∈ files, file.size.isSome) ∧ knownBytes files ≤ maxPartBytes) := by
  unfold planZipDownload
  extract_lets total parts multipart
  rw [if_neg Bool.false_ne_true]
  cases found : files.find? (·.size.any (maxPartBytes < ·)) with
  | some file =>
    have large := find?_some found
    obtain ⟨source, size⟩ := file
    cases size with
    | none => cases large
    | some bytes =>
      have large : maxPartBytes < bytes := by simpa using large
      have mem := mem_of_find?_eq_some found
      have counted : bytes ≤ knownBytes files := List.single_le_sum (fun _ _ => Nat.zero_le _) _ (mem_map.mpr ⟨_, mem, rfl⟩)
      refine ⟨⟨_, mem, rfl, rfl, large⟩, ⟨fun _ => ⟨_, mem, bytes, rfl, large⟩, fun _ => ⟨_, _, rfl⟩⟩, ?_⟩
      exact ⟨fun ⟨_, single⟩ => (nomatch single), fun ⟨_, fits⟩ => absurd (Nat.le_trans counted fits) (Nat.not_le.mpr large)⟩
  | none =>
    have small : ∀ file ∈ files, ∀ size ∈ file.size, size ≤ maxPartBytes := fun file mem size sized => by
      have fits := find?_eq_none.mp found file mem
      rw [mem_def.mp sized] at fits
      simpa using fits
    have none : ¬ ∃ file ∈ files, ∃ size ∈ file.size, maxPartBytes < size :=
      fun ⟨file, mem, size, sized, large⟩ => Nat.not_lt.mpr (small file mem size sized) large
    have packs : multipart.Keeps maxPartBytes files := ⟨rfl, rfl, rfl, partitionFilesBySize_packs exact small⟩
    have counts := getKnownTotalBytes_counts files
    cases totalled : total with
    | none =>
      refine ⟨packs, ⟨fun ⟨_, _, oversize⟩ => (nomatch oversize), fun large => absurd large none⟩, fun ⟨_, single⟩ => (nomatch single), fun ⟨known, _⟩ => ?_⟩
      rw [show total = _ from if_pos (all_eq_true.mpr known)] at totalled
      cases totalled
    | some =>
      simp only [total, getTotalBytes, Option.ite_none_right_eq_some, all_eq_true, some.injEq] at totalled
      obtain ⟨known, rfl⟩ := totalled
      simp only
      split
      · next exceeds =>
        refine ⟨packs, ⟨fun ⟨_, _, oversize⟩ => (nomatch oversize), fun large => absurd large none⟩, fun ⟨_, single⟩ => (nomatch single), fun ⟨_, fits⟩ => ?_⟩
        omega
      · next fits =>
        have same : knownBytes files = getKnownTotalBytes files := by omega
        have fits := Nat.not_lt.mp fits
        exact ⟨⟨known, same, fits⟩, ⟨fun ⟨_, _, oversize⟩ => (nomatch oversize), fun large => absurd large none⟩, fun _ => ⟨known, same ▸ fits⟩,
          fun _ => ⟨_, rfl⟩⟩

def SizedFile.plain (size : Nat) : SizedFile where
  id := ""
  filename := ""
  chunks := []
  now := { year := 2024, month := 0, day := 1, hours := 0, minutes := 0, seconds := 0 }
  size := some size

/-- 2^53 bytes, one byte, and a file of which the size is not known. -/
def roundedFiles : List SizedFile := [.plain (2 ^ 53), .plain 1, { SizedFile.plain 0 with size := none }]

/-- In the numbers of the source the first two add up to 2^53, and their part is one byte over the limit. -/
theorem roundedFiles_overfull :
    let part : ZipPlanPart := ⟨[.plain (2 ^ 53), .plain 1], some (2 ^ 53)⟩
    (∃ total partBytes last, planZipDownload roundedFiles false (2 ^ 53) = .blobMultipart total 2 partBytes [part, last]) ∧
      ¬ part.Holds (2 ^ 53) ∧ ¬ (planZipDownload roundedFiles false (2 ^ 53)).Keeps (2 ^ 53) roundedFiles := by
  intro part
  have overfull : ¬ part.Holds (2 ^ 53) := fun ⟨_, _, sum, _⟩ => absurd sum (by decide +kernel)
  have parts : planZipDownload roundedFiles false (2 ^ 53) =
      .blobMultipart none 2 [some (2 ^ 53), none] [part, ⟨[{ SizedFile.plain 0 with size := none }], none⟩] := by decide +kernel
  refine ⟨⟨_, _, _, parts⟩, overfull, ?_⟩
  exact fun ⟨_, _, _, packs⟩ => overfull (packs.holds part mem_cons_self)

theorem planZipDownload_keeps_split :
    let files : List SizedFile := [3, 4, 5].map .plain
    let parts : List ZipPlanPart := [⟨[3, 4].map .plain, some 7⟩, ⟨[5].map .plain, some 5⟩]
    (planZipDownload files false 8).Keeps 8 files ∧
      planZipDownload files false 8 = .blobMultipart (some 12) 2 [some 7, some 5] parts := by
  intro files parts
  exact ⟨(planZipDownload_keeps files 8 (.inl (by decide))).1, by decide +kernel⟩

end MilkAndHenny.Zip
