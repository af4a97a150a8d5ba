import Mathlib.Data.List.Perm.Basic

/-! A request that the first candidate with something to say decides, and what it takes for
the order of the candidates to be of no account. -/

namespace MilkAndHenny.Library

variable {α : Type} {grants : α → Prop} {candidates : List α} {same other : α → α → Prop}

/-- What became of a request: carried out, turned away for want of authority, or turned away
for a reason that has nothing to do with who asked. -/
inductive Ruling where
  | granted | denied | declined
deriving DecidableEq

def firstRuling {α : Type} (rule : α → Option Ruling) (candidates : List α) : Ruling :=
  (candidates.findSome? rule).getD .denied

/-- In whatever order the candidates stand, a request goes through only if one of them grants
it by itself, is not denied if one of them does, and always ends the same way. -/
structure Fair {α : Type} (grants : α → Prop) (candidates : List α) (decide : List α → Ruling) : Prop where
  sound : ∀ order, order.Perm candidates → decide order = .granted → ∃ candidate ∈ candidates, grants candidate
  complete : ∀ order, order.Perm candidates → decide order = .denied → ∀ candidate ∈ candidates, ¬ grants candidate
  orderFree : ∀ order, order.Perm candidates → decide order = decide candidates

section
variable {rule : α → Option Ruling} {ruling : Ruling}

theorem firstRuling_cons_some {first : α} (ruled : rule first = some ruling) :
    firstRuling rule (first :: candidates) = ruling := by
  simp [firstRuling, ruled]

theorem firstRuling_silent (silent : ∀ candidate ∈ candidates, rule candidate = none) :
    firstRuling rule candidates = .denied := by
  simp [firstRuling, List.findSome?_eq_none_iff.mpr silent]

theorem firstRuling_cases (rule : α → Option Ruling) (candidates : List α) :
    (∃ candidate ∈ candidates, rule candidate = some (firstRuling rule candidates)) ∨
      ∀ candidate ∈ candidates, rule candidate = none := by
  cases found : candidates.findSome? rule with
  | none => exact .inr (List.findSome?_eq_none_iff.mp found)
  | some =>
    obtain ⟨candidate, mem, ruled⟩ := List.exists_of_findSome?_eq_some found
    exact .inl ⟨candidate, mem, by simp [firstRuling, found, ruled]⟩

theorem firstRuling_reaches {candidate : α} (mem : candidate ∈ candidates) (ruled : rule candidate = some ruling) :
    ∃ order, order.Perm candidates ∧ firstRuling rule order = ruling := by
  obtain ⟨before, after, rfl⟩ := List.append_of_mem mem
  exact ⟨candidate :: (before ++ after), List.perm_middle.symm, firstRuling_cons_some ruled⟩

theorem firstRuling_fair_iff (heard : ∀ candidate ∈ candidates, grants candidate → rule candidate ≠ none) :
    Fair grants candidates (firstRuling rule) ↔
      (∀ first ∈ candidates, ∀ second ∈ candidates, ∀ ruling other,
        rule first = some ruling → rule second = some other → ruling = other) ∧
      (∀ candidate ∈ candidates, rule candidate = some .granted → ∃ granting ∈ candidates, grants granting) ∧
      (∀ candidate ∈ candidates, rule candidate = some .denied → ∀ other ∈ candidates, ¬ grants other) := by
  constructor
  · intro fair
    refine ⟨fun first firstIn second secondIn ruling other ruled otherRuled => ?_, fun candidate mem ruled => ?_,
      fun candidate mem ruled => ?_⟩
    · obtain ⟨order, perm, reached⟩ := firstRuling_reaches firstIn ruled
      obtain ⟨order', perm', reached'⟩ := firstRuling_reaches secondIn otherRuled
      rw [← reached, ← reached', fair.orderFree order perm, fair.orderFree order' perm']
    · obtain ⟨order, perm, reached⟩ := firstRuling_reaches mem ruled
      exact fair.sound order perm reached
    · obtain ⟨order, perm, reached⟩ := firstRuling_reaches mem ruled
      exact fair.complete order perm reached
  · rintro ⟨agree, sound, complete⟩
    refine ⟨fun order perm granted => ?_, fun order perm denied => ?_, fun order perm => ?_⟩
    · rcases firstRuling_cases rule order with ⟨candidate, mem, ruled⟩ | silent
      · exact sound candidate (perm.mem_iff.mp mem) (granted ▸ ruled)
      · rw [firstRuling_silent silent] at granted
        cases granted
    · rcases firstRuling_cases rule order with ⟨candidate, mem, ruled⟩ | silent
      · exact complete candidate (perm.mem_iff.mp mem) (denied ▸ ruled)
      · intro candidate mem granting
        exact heard candidate mem granting (silent candidate (perm.mem_iff.mpr mem))
    · rcases firstRuling_cases rule order with ⟨candidate, mem, ruled⟩ | silent
      · rcases firstRuling_cases rule candidates with ⟨other, otherIn, otherRuled⟩ | silent
        · exact agree candidate (perm.mem_iff.mp mem) other otherIn _ _ ruled otherRuled
        · rw [silent candidate (perm.mem_iff.mp mem)] at ruled
          cases ruled
      · rw [firstRuling_silent silent,
          firstRuling_silent fun candidate mem => silent candidate (perm.mem_iff.mpr mem)]

end

theorem Ruling.eq_iff {ruling other : Ruling} :
    ruling = other ↔ (ruling = .denied ↔ other = .denied) ∧ (ruling = .granted ↔ other = .granted) := by
  cases ruling <;> cases other <;> decide

section
variable {qualifies : α → Bool} {answer : α → Ruling}

/-- Any two of the candidates that qualify are related. -/
def Alike (candidates : List α) (qualifies : α → Bool) (same : α → α → Prop) : Prop :=
  ∀ first ∈ candidates, ∀ second ∈ candidates, qualifies first = true → qualifies second = true → same first second

theorem alike_congr_of
    (agree : ∀ first second, qualifies first = true → qualifies second = true → (same first second ↔ other first second)) :
    Alike candidates qualifies same ↔ Alike candidates qualifies other :=
  forall₂_congr fun first _ => forall₂_congr fun second _ => forall₂_congr (agree first second)

theorem alike_congr (agree : ∀ first second, same first second ↔ other first second) :
    Alike candidates qualifies same ↔ Alike candidates qualifies other :=
  alike_congr_of fun first second _ _ => agree first second

def firstQualified (qualifies : α → Bool) (answer : α → Ruling) : List α → Ruling :=
  firstRuling fun candidate => if qualifies candidate then some (answer candidate) else none

theorem firstQualified_eq (candidates : List α) :
    firstQualified qualifies answer candidates = ((candidates.find? qualifies).map answer).getD .denied := by
  induction candidates with
  | nil => rfl
  | cons candidate rest ih =>
    simp only [firstQualified, firstRuling, List.findSome?_cons, List.find?_cons] at ih ⊢
    cases qualifies candidate with
    | true => rfl
    | false => exact ih

/-- Where a candidate that grants the request qualifies and does not deny it, it is enough
that the answers agree, and that one of them going through means that one is granted. -/
theorem firstQualified_fair_iff
    (heard : ∀ candidate ∈ candidates, grants candidate → qualifies candidate = true ∧ answer candidate ≠ .denied) :
    Fair grants candidates (firstQualified qualifies answer) ↔
      Alike candidates qualifies (fun first second => answer first = answer second) ∧
      (∀ candidate ∈ candidates, qualifies candidate = true → answer candidate = .granted →
        ∃ granting ∈ candidates, grants granting) := by
  rw [firstQualified, firstRuling_fair_iff fun candidate mem granting => by simp [(heard candidate mem granting).1]]
  simp only [Option.ite_none_right_eq_some, Option.some.injEq]
  constructor
  · rintro ⟨agree, sound, -⟩
    exact ⟨fun first firstIn second secondIn able able' => agree first firstIn second secondIn _ _ ⟨able, rfl⟩ ⟨able', rfl⟩,
      fun candidate mem able granted => sound candidate mem ⟨able, granted⟩⟩
  · rintro ⟨agree, sound⟩
    refine ⟨fun first firstIn second secondIn _ _ ruled ruled' => ?_, fun candidate mem ruled => ?_,
      fun candidate mem ruled other otherIn granting => ?_⟩
    · rw [← ruled.2, ← ruled'.2]
      exact agree first firstIn second secondIn ruled.1 ruled'.1
    · exact sound candidate mem ruled.1 ruled.2
    · obtain ⟨able, kept⟩ := heard other otherIn granting
      exact kept ((agree other otherIn candidate mem able ruled.1).trans ruled.2)

theorem firstQualified_fair_iff_agree
    (heard : ∀ candidate ∈ candidates, grants candidate → qualifies candidate = true ∧ answer candidate ≠ .denied)
    (meant : ∀ candidate ∈ candidates, qualifies candidate = true → answer candidate = .granted → grants candidate) :
    Fair grants candidates (firstQualified qualifies answer) ↔
      Alike candidates qualifies fun first second => answer first = answer second := by
  rw [firstQualified_fair_iff heard]
  exact and_iff_left fun candidate mem able granted => ⟨candidate, mem, meant candidate mem able granted⟩

end

theorem fair_declined {α : Type} {grants : α → Prop} {candidates : List α} :
    Fair grants candidates fun _ => .declined :=
  ⟨fun _ _ granted => (nomatch granted), fun _ _ denied => (nomatch denied), fun _ _ => rfl⟩

end MilkAndHenny.Library
