import MilkAndHenny.Library.Table
import Mathlib.Data.List.ReduceOption

/-! Keyed rows merged from several copies, and registers that keep the greatest. -/

namespace MilkAndHenny.Library

variable {α β κ : Type}

section
variable [DecidableEq β] {k : α → β} {rows others : List α} {row : α} {key : β}

/-- `Map.set`, on a map listed in insertion order. -/
def setKey (k : α → β) (rows : List α) (row : α) : List α :=
  if rows.any (k · == k row) then update rows (k · == k row) fun _ => row else rows ++ [row]

theorem key_of_find? (found : rows.find? (k · == key) = some row) : k row = key := eq_of_beq (find?_some (p := (k · == key)) found)

theorem map_setKey : (setKey k rows row).map k = if k row ∈ rows.map k then rows.map k else rows.map k ++ [k row] := by
  have listed : rows.any (k · == k row) = true ↔ k row ∈ rows.map k := by simp [any_eq_true]
  unfold setKey
  by_cases held : k row ∈ rows.map k
  · rw [if_pos (listed.mpr held), if_pos held, update, map_map]
    refine map_congr_left fun other _ => ?_
    simp only [Function.comp_apply]
    split
    · next same => exact (eq_of_beq same).symm
    · rfl
  · rw [if_neg (fun any => held (listed.mp any)), if_neg held, map_append]
    rfl

theorem nodup_setKey (unique : (rows.map k).Nodup) : ((setKey k rows row).map k).Nodup := by
  rw [map_setKey]
  split
  · exact unique
  · next new =>
    rw [nodup_append_comm]
    exact nodup_cons.mpr ⟨new, unique⟩

theorem find?_setKey : (setKey k rows row).find? (k · == key) = if k row = key then some row else rows.find? (k · == key) := by
  unfold setKey
  by_cases held : rows.any (k · == k row) = true
  · have kept : ∀ other, (k other == k row) = true → (k row == key) = (k other == key) := fun other same => by rw [eq_of_beq same]
    rw [if_pos held, find?_update kept]
    cases found : rows.find? (k · == key) with
    | none =>
      obtain ⟨other, mem, same⟩ := any_eq_true.mp held
      have apart := find?_eq_none.mp found other mem
      rw [eq_of_beq same] at apart
      rw [if_neg (fun equal => apart (beq_iff_eq.mpr equal))]
      rfl
    | some other =>
      cases key_of_find? found
      rw [map_some]
      by_cases same : k row = k other
      · rw [if_pos same, if_pos (beq_iff_eq.mpr same.symm)]
      · rw [if_neg same, if_neg (fun equal => same (eq_of_beq equal).symm)]
  · rw [if_neg held, find?_append]
    by_cases same : k row = key
    · subst same
      have missing : rows.find? (k · == k row) = none := by
        rw [find?_eq_none]
        exact fun other mem equal => held (any_eq_true.mpr ⟨other, mem, equal⟩)
      simp [missing]
    · simp [same]

theorem lookup_setKey {κ ν : Type} [DecidableEq κ] {rows : List (κ × ν)} {row : κ × ν} {key : κ} :
    (setKey Prod.fst rows row).lookup key = if row.1 = key then some row.2 else rows.lookup key := by
  have finds (rows : List (κ × ν)) : rows.lookup key = (rows.find? (·.1 == key)).map Prod.snd := by
    induction rows with
    | nil => rfl
    | cons row rows ih =>
      rw [lookup_cons, find?_cons, ih, Bool.beq_comm]
      cases row.1 == key <;> rfl
  rw [finds, finds, find?_setKey]
  split <;> rfl

theorem setKey_new (new : k row ∉ rows.map k) : setKey k rows row = rows ++ [row] :=
  if_neg fun held =>
    have ⟨_, mem, same⟩ := any_eq_true.mp held
    new (eq_of_beq same ▸ mem_map_of_mem mem)

theorem foldl_setKey (unique : ((rows ++ others).map k).Nodup) : others.foldl (setKey k) rows = rows ++ others := by
  induction others generalizing rows with
  | nil => exact (append_nil rows).symm
  | cons row others ih =>
    have new : k row ∉ rows.map k := by
      intro mem
      rw [map_append, nodup_append] at unique
      exact unique.2.2 _ mem _ (mem_map_of_mem mem_cons_self) rfl
    rw [foldl_cons, setKey_new new, ih (by simpa using unique), append_assoc]
    rfl

theorem find?_perm_key (unique : (rows.map k).Nodup) (perm : rows.Perm others) : rows.find? (k · == key) = others.find? (k · == key) := by
  cases found : others.find? (k · == key) with
  | none =>
    rw [find?_eq_none] at found ⊢
    exact fun row mem => found row (perm.mem_iff.mp mem)
  | some =>
    cases key_of_find? found
    exact find?_key unique (perm.mem_iff.mpr (mem_of_find?_eq_some found))

end

section
variable {f : α → α → α}

def combine (f : α → α → α) : List α → Option α
  | [] => none
  | first :: rest => some (rest.foldl f first)

theorem foldl_merge_some (copies : List (Option α)) (held : α) :
    copies.foldl (Option.merge f) (some held) = some (copies.reduceOption.foldl f held) := by
  induction copies generalizing held with
  | nil => rfl
  | cons copy copies ih =>
    cases copy with
    | none => exact ih held
    | some other => exact ih (f held other)

theorem foldl_merge (copies : List (Option α)) : copies.foldl (Option.merge f) none = combine f copies.reduceOption := by
  induction copies with
  | nil => rfl
  | cons copy copies ih =>
    cases copy with
    | none => exact ih
    | some first => exact foldl_merge_some copies first

end

section
variable [LinearOrder κ] {key : α → κ} {held : α} {others : List α} {rows : List α} {item : α}

def takeGreater (key : α → κ) (held other : α) : α := if key held ≤ key other then other else held

theorem takeGreater_cases (key : α → κ) (held other : α) :
    (takeGreater key held other = other ∧ key held ≤ key other) ∨ (takeGreater key held other = held ∧ key other < key held) := by
  unfold takeGreater
  split
  · next order => exact .inl ⟨rfl, order⟩
  · next order => exact .inr ⟨rfl, not_le.mp order⟩

theorem foldl_takeGreater (key : α → κ) (held : α) (others : List α) :
    others.foldl (takeGreater key) held ∈ held :: others ∧ ∀ item ∈ held :: others, key item ≤ key (others.foldl (takeGreater key) held) := by
  induction others generalizing held with
  | nil => simp
  | cons other others ih =>
    rw [foldl_cons]
    obtain ⟨mem, greatest⟩ := ih (takeGreater key held other)
    have first := greatest _ mem_cons_self
    have kept : ∀ item ∈ others, key item ≤ key (others.foldl (takeGreater key) (takeGreater key held other)) :=
      fun item listed => greatest item (mem_cons_of_mem _ listed)
    rcases takeGreater_cases key held other with ⟨taken, order⟩ | ⟨taken, order⟩
    · rw [taken] at mem first kept ⊢
      refine ⟨mem_cons_of_mem _ mem, ?_⟩
      rintro item (_ | ⟨_, _ | ⟨_, listed⟩⟩)
      · exact order.trans first
      · exact first
      · exact kept item listed
    · rw [taken] at mem first kept ⊢
      refine ⟨List.cons_subset_cons _ (List.subset_cons_self _ _) mem, ?_⟩
      rintro item (_ | ⟨_, _ | ⟨_, listed⟩⟩)
      · exact first
      · exact order.le.trans first
      · exact kept item listed

def Greatest (key : α → κ) (rows : List α) (item : α) : Prop := item ∈ rows ∧ ∀ other ∈ rows, key other ≤ key item

theorem combine_takeGreater (combined : combine (takeGreater key) rows = some item) : Greatest key rows item := by
  cases rows with
  | nil => cases combined
  | cons first rest =>
    cases combined
    exact foldl_takeGreater key first rest

theorem combine_takeGreater_last (greatest : Greatest key rows item) :
    combine (takeGreater key) (rows ++ [item]) = some item := by
  cases rows with
  | nil => rfl
  | cons first rest =>
    have order := greatest.2 _ (foldl_takeGreater key first rest).1
    simp only [cons_append, combine, foldl_append, foldl_cons, foldl_nil]
    rw [takeGreater, if_pos order]

end

section

variable {σ : Type} {merge : σ → σ → σ} {column : σ → Option α} {f : α → α → α} {versions others thirds : List σ} {server first : σ} {item : α} {version : σ}

/-- A run of merges: it starts with one of the versions, and merges in the others in some order, each as often as it likes. -/
def Covers (versions : List σ) (server : σ) (others : List σ) : Prop := ∀ version, version ∈ server :: others ↔ version ∈ versions

theorem column_foldl (merges : ∀ held other, column (merge held other) = (column held).merge f (column other)) (server : σ) (others : List σ) :
    column (others.foldl merge server) = combine f ((server :: others).filterMap column) := by
  have split : (server :: others).filterMap column = ((server :: others).map column).reduceOption := by
    rw [List.reduceOption, List.filterMap_map]
    rfl
  rw [split, ← foldl_merge, map_cons, foldl_cons, Option.merge_none_left]
  induction others generalizing server with
  | nil => rfl
  | cons other others ih =>
    rw [foldl_cons, ih (merge server other) (by rw [List.reduceOption, List.filterMap_map]; rfl), merges]
    rfl

variable [LinearOrder κ] {key : α → κ}

def Register (merge : σ → σ → σ) (column : σ → Option α) (key : α → κ) : Prop :=
  ∀ held other, column (merge held other) = (column held).merge (takeGreater key) (column other)

theorem covers_last (mem : version ∈ server :: others) : Covers (server :: others) server (others ++ [version]) := by
  intro other
  rw [← cons_append, mem_append, mem_singleton]
  constructor
  · rintro (listed | rfl)
    · exact listed
    · exact mem
  · exact .inl

theorem Covers.greatest (covers : Covers versions server others) :
    Greatest key ((server :: others).filterMap column) item ↔ Greatest key (versions.filterMap column) item := by
  have members : ∀ other, other ∈ (server :: others).filterMap column ↔ other ∈ versions.filterMap column := by
    intro other
    simp [covers _]
  simp [Greatest, members]

variable (register : Register merge column key)
include register

theorem column_greatest (covers : Covers versions server others) (ends : column (others.foldl merge server) = some item) :
    Greatest key (versions.filterMap column) item := by
  rw [column_foldl register] at ends
  exact covers.greatest.mp (combine_takeGreater ends)

theorem column_kept (covers : Covers versions server others) (mem : version ∈ versions) (held : (column version).isSome) :
    (column (others.foldl merge server)).isSome := by
  obtain ⟨item, found⟩ := isSome_iff_exists.mp held
  have listed : item ∈ (server :: others).filterMap column := mem_filterMap.mpr ⟨version, (covers version).mpr mem, found⟩
  rw [column_foldl register]
  generalize (server :: others).filterMap column = rows at listed
  cases rows with
  | nil => cases listed
  | cons => rfl

theorem column_converges (agree : ∀ item other, Greatest key (versions.filterMap column) item → Greatest key (versions.filterMap column) other → item = other)
    (covers : Covers versions server others) (covers' : Covers versions first thirds) :
    column (others.foldl merge server) = column (thirds.foldl merge first) := by
  cases ends : column (others.foldl merge server) with
  | none =>
    cases ends' : column (thirds.foldl merge first) with
    | none => rfl
    | some =>
      obtain ⟨version, mem, held⟩ := mem_filterMap.mp (column_greatest register covers' ends').1
      have kept := column_kept register covers mem (by rw [held]; rfl)
      rw [ends] at kept
      cases kept
  | some item =>
    have greatest := column_greatest register covers ends
    obtain ⟨version, mem, held⟩ := mem_filterMap.mp greatest.1
    obtain ⟨other, ends'⟩ := isSome_iff_exists.mp (column_kept register covers' mem (by rw [held]; rfl))
    rw [ends', agree item other greatest (column_greatest register covers' ends')]

theorem column_last (greatest : Greatest key (versions.filterMap column) item) :
    ∃ server others, Covers versions server others ∧ column (others.foldl merge server) = some item := by
  obtain ⟨version, mem, held⟩ := mem_filterMap.mp greatest.1
  cases versions with
  | nil => cases mem
  | cons server others =>
    refine ⟨server, others ++ [version], covers_last mem, ?_⟩
    rw [column_foldl register, ← cons_append, List.filterMap_append]
    have last : [version].filterMap column = [item] := by simp [held]
    rw [last]
    exact combine_takeGreater_last greatest

end

end MilkAndHenny.Library
