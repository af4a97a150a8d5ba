import Mathlib.Data.List.Induction
import MilkAndHenny.Library.Machine
import MilkAndHenny.Liars.Actions

/-! Who a vote ejects. Ballots outlive the people they name, so the player with the most
votes may already be dead when they are counted. -/

namespace MilkAndHenny.Liars
variable {tally : List (Nat × Nat)} {entry : Nat × Nat} {target id : Nat}
open Library

/-! ### What the plurality is -/

def votesFor (tally : List (Nat × Nat)) (id : Nat) : Nat := ((tally.filter (·.1 == id)).map Prod.snd).sum

@[simp] theorem votesFor_nil {id : Nat} : votesFor [] id = 0 := rfl

@[simp] theorem votesFor_cons {id : Nat} :
    votesFor (entry :: tally) id = (if entry.1 = id then entry.2 else 0) + votesFor tally id := by
  by_cases same : entry.1 = id <;> simp [votesFor, same]

theorem votesFor_addVote : votesFor (addVote target tally) id = votesFor tally id + if target = id then 1 else 0 := by
  induction tally with
  | nil => simp [addVote]
  | cons entry tally ih =>
    obtain ⟨candidate, count⟩ := entry
    by_cases same : candidate = target
    · subst same
      simp only [addVote, ↓reduceIte, votesFor_cons]
      split <;> omega
    · simp [addVote, if_neg same, ih, Nat.add_assoc]

theorem mem_keys_addVote : id ∈ (addVote target tally).map Prod.fst ↔ id = target ∨ id ∈ tally.map Prod.fst := by
  induction tally with
  | nil => simp [addVote]
  | cons entry tally ih =>
    obtain ⟨candidate, count⟩ := entry
    by_cases same : candidate = target
    · subst same
      simp [addVote]
    · simp only [addVote, if_neg same, map_cons, mem_cons, ih]
      exact or_left_comm

structure Tallied (tally : List (Nat × Nat)) : Prop where
  once : (tally.map Prod.fst).Nodup
  voted : ∀ entry ∈ tally, 0 < entry.2

theorem Tallied.addVote {target : Nat} (tallied : Tallied tally) : Tallied (addVote target tally) := by
  induction tally with
  | nil => exact ⟨by simp [Liars.addVote], by simp [Liars.addVote]⟩
  | cons entry tally ih =>
    obtain ⟨fresh, once⟩ := nodup_cons.mp tallied.once
    have others := ih ⟨once, fun entry mem => tallied.voted entry (mem_cons_of_mem _ mem)⟩
    simp only [Liars.addVote]
    split
    · refine ⟨tallied.once, fun listed mem => ?_⟩
      rcases mem_cons.mp mem with rfl | later
      · exact Nat.succ_pos _
      · exact tallied.voted listed (mem_cons_of_mem _ later)
    · next different =>
      refine ⟨nodup_cons.mpr ⟨fun listed => ?_, others.once⟩, fun listed mem => ?_⟩
      · rcases mem_keys_addVote.mp listed with same | mem
        · exact different same
        · exact fresh mem
      · rcases mem_cons.mp mem with rfl | later
        · exact tallied.voted _ (mem_cons_self ..)
        · exact others.voted listed later

theorem Tallied.votesFor (tallied : Tallied tally) {id count : Nat} (listed : (id, count) ∈ tally) :
    votesFor tally id = count := by
  induction tally with
  | nil => simp at listed
  | cons entry tally ih =>
    obtain ⟨fresh, once⟩ := nodup_cons.mp tallied.once
    have others : Tallied tally := ⟨once, fun entry mem => tallied.voted entry (mem_cons_of_mem _ mem)⟩
    rcases mem_cons.mp listed with rfl | later
    · have absent : Liars.votesFor tally id = 0 := by
        have none : tally.filter (·.1 == id) = [] := filter_eq_nil_iff.mpr fun entry mem same =>
          fresh (mem_map.mpr ⟨entry, mem, eq_of_beq same⟩)
        simp [Liars.votesFor, none]
      simp [absent]
    · have different : entry.1 ≠ id := fun same => fresh (same ▸ mem_map_of_mem (f := Prod.fst) later)
      simp [different, ih others later]

theorem tallyVotes_tallied (votes : List (Option Nat)) : Tallied (tallyVotes votes) := by
  have go (tally : List (Nat × Nat)) (tallied : Tallied tally) :
      Tallied (votes.foldl (fun tally vote => vote.elim tally (addVote · tally)) tally) := by
    induction votes generalizing tally with
    | nil => exact tallied
    | cons vote votes ih =>
      cases vote with
      | none => exact ih tally tallied
      | some => exact ih _ tallied.addVote
  exact go [] ⟨nodup_nil, by simp⟩

theorem votesFor_tallyVotes (votes : List (Option Nat)) (id : Nat) : votesFor (tallyVotes votes) id = votes.count (some id) := by
  have go (tally : List (Nat × Nat)) :
      votesFor (votes.foldl (fun tally vote => vote.elim tally (addVote · tally)) tally) id =
        votesFor tally id + votes.count (some id) := by
    induction votes generalizing tally with
    | nil => rfl
    | cons vote votes ih =>
      rw [foldl_cons, ih, List.count_cons]
      cases vote with
      | none => simp
      | some =>
        simp only [elim_some, votesFor_addVote, beq_iff_eq, some.injEq]
        omega
  have counted := go []
  rwa [votesFor_nil, Nat.zero_add] at counted

/-- What a standing says of the entries that have been read. -/
structure Standing.Reads (standing : Standing) (entries : List (Nat × Nat)) : Prop where
  most : ∀ entry ∈ entries, entry.2 ≤ standing.best
  leads : ∀ leader, standing.leader = some leader → (leader, standing.best) ∈ entries
  nobody : standing.leader = none → entries = [] ∧ standing.best = 0 ∧ standing.tied = false
  alone : standing.tied = false → ∀ entry ∈ entries, some entry.1 ≠ standing.leader → entry.2 < standing.best
  level : standing.tied → ∃ entry ∈ entries, some entry.1 ≠ standing.leader ∧ entry.2 = standing.best

theorem Standing.Reads.next {standing : Standing} {entries : List (Nat × Nat)} (reads : standing.Reads entries)
    (fresh : entry.1 ∉ entries.map Prod.fst) (voted : 0 < entry.2) :
    (standing.next entry).Reads (entries ++ [entry]) := by
  have leading (leader : Nat) (leads : standing.leader = some leader) : entry.1 ≠ leader := fun same =>
    fresh (same ▸ mem_map_of_mem (f := Prod.fst) (reads.leads leader leads))
  have members {p : Nat × Nat → Prop} (old : ∀ listed ∈ entries, p listed) (new : p entry) :
      ∀ listed ∈ entries ++ [entry], p listed := fun listed mem =>
    (mem_append.mp mem).elim (old listed) fun last => mem_singleton.mp last ▸ new
  unfold Standing.next
  split
  · next ahead =>
    exact {
      most := members (fun listed mem => (reads.most listed mem).trans ahead.le) le_rfl
      leads := fun leader same => by
        cases same
        simp
      nobody := by simp
      alone := fun _ => members (fun listed mem _ => (reads.most listed mem).trans_lt ahead) (by simp)
      level := by simp }
  · split
    · next same =>
      exact {
        most := members reads.most same.le
        leads := fun leader leads => mem_append_left _ (reads.leads leader leads)
        nobody := fun none => by have := (reads.nobody none).2.1; omega
        alone := by simp
        level := fun _ => ⟨entry, by simp, fun leads => leading entry.1 leads.symm rfl, same⟩ }
    · next behind different =>
      have less : entry.2 < standing.best := by omega
      exact {
        most := members reads.most less.le
        leads := fun leader leads => mem_append_left _ (reads.leads leader leads)
        nobody := fun none => by have := (reads.nobody none).2.1; omega
        alone := fun single => members (reads.alone single) fun _ => less
        level := fun tied => (reads.level tied).imp fun listed found => ⟨mem_append_left _ found.1, found.2⟩ }

theorem Standing.reads_tally (tallied : Tallied tally) : (tally.foldl Standing.next {}).Reads tally := by
  induction tally using List.reverseRecOn with
  | nil =>
    exact { most := by simp, leads := by simp, nobody := fun _ => ⟨rfl, rfl, rfl⟩, alone := by simp, level := by simp }
  | append_singleton entries entry ih =>
    have once := nodup_append.mp (map_append ▸ tallied.once)
    have earlier : Tallied entries :=
      ⟨once.1, fun listed mem => tallied.voted listed (mem_append_left _ mem)⟩
    rw [foldl_append]
    refine (ih earlier).next (fun listed => ?_) (tallied.voted entry (by simp))
    exact once.2.2 _ listed _ (by simp) rfl

/-- The plurality is the candidate with more votes than anybody else. -/
theorem liarsPlurality_eq_some {votes : List (Option Nat)} {leader : Nat} :
    liarsPlurality votes = some leader ↔ ∀ other, other ≠ leader → votes.count (some other) < votes.count (some leader) := by
  have tallied := tallyVotes_tallied votes
  have reads := Standing.reads_tally tallied
  have counts {entry : Nat × Nat} (listed : entry ∈ tallyVotes votes) : votes.count (some entry.1) = entry.2 := by
    rw [← votesFor_tallyVotes, tallied.votesFor listed]
  have listed {id : Nat} (voted : 0 < votes.count (some id)) : ∃ entry ∈ tallyVotes votes, entry.1 = id := by
    by_contra absent
    have none : (tallyVotes votes).filter (·.1 == id) = [] := filter_eq_nil_iff.mpr fun entry mem same =>
      absent ⟨entry, mem, eq_of_beq same⟩
    rw [← votesFor_tallyVotes, votesFor, none] at voted
    exact absurd voted (lt_irrefl 0)
  simp only [liarsPlurality]
  generalize (tallyVotes votes).foldl Standing.next {} = standing at reads
  constructor
  · intro elected other different
    have single : standing.tied = false := by
      cases tied : standing.tied with
      | false => rfl
      | true => simp [tied] at elected
    have leads : standing.leader = some leader := by simpa [single] using elected
    have best : votes.count (some leader) = standing.best := counts (reads.leads leader leads)
    rw [best]
    rcases Nat.eq_zero_or_pos (votes.count (some other)) with none | voted
    · rw [none]
      exact tallied.voted _ (reads.leads leader leads)
    · obtain ⟨entry, found, rfl⟩ := listed voted
      rw [counts found]
      exact reads.alone single entry found fun same => different (some.inj (same.trans leads))
  · intro most
    obtain ⟨own, found, rfl⟩ := listed ((Nat.zero_le _).trans_lt (most (leader + 1) (by omega)))
    have leads : standing.leader = some own.1 := by
      cases known : standing.leader with
      | none => simp [(reads.nobody known).1] at found
      | some first =>
        by_contra different
        have behind := most first fun same => different (by rw [same])
        rw [counts (reads.leads first known), counts found] at behind
        exact absurd (reads.most own found) (by simpa using behind)
    have best : own.2 = standing.best := (counts found).symm.trans (counts (reads.leads own.1 leads))
    cases tied : standing.tied with
    | false => simpa using leads
    | true =>
      obtain ⟨entry, level, different, same⟩ := reads.level tied
      have behind := most entry.1 fun equal => different (by rw [equal, leads])
      rw [counts level, counts found] at behind
      omega

/-! ### What a vote does -/

namespace LiarsRoom
variable {ctx : GameContext} {room : LiarsRoom} {now : Int}

/-- Whoever was dead stays dead, of the same cause. -/
def DeathsKept (before after : List PlayerState) : Prop :=
  Forall₂ (fun old new : PlayerState => old.alive = false →
    new.alive = false ∧ new.deathCause = old.deathCause ∧ new.deathRound = old.deathRound) before after

/-- Counting the votes ejects nobody or one player who is alive, and counts it once. -/
structure EjectsLiving (before after : LiarsRoom) : Prop where
  oneFlag : after.living.length + (if after.lastEjectedName.isSome then 1 else 0) = before.living.length
  deathsKept : DeathsKept before.players after.players
  counted : before.mode = .imposter →
    after.crewEjections + after.imposterEjections + after.living.length =
      before.crewEjections + before.imposterEjections + before.living.length
  jester : ∀ id ∈ after.ejectedJesterId, ∃ player ∈ before.players, player.id = id ∧ player.alive ∧ player.role = some .jester

/-- Nobody dead has more votes on the ballots than everybody else. -/
def NoDeadLeads (room : LiarsRoom) : Prop :=
  ∀ id, ∀ player ∈ room.player id, player.alive = false →
    ∃ other, other ≠ id ∧ room.ballots.count (some id) ≤ room.ballots.count (some other)

theorem noDeadLeads_iff : room.NoDeadLeads ↔ ∀ player ∈ room.votedOut, player.alive := by
  constructor
  · intro none player voted
    obtain ⟨id, leads, seated⟩ := bind_eq_some_iff.mp voted
    cases alive : player.alive with
    | true => rfl
    | false =>
      obtain ⟨other, different, ahead⟩ := none id player seated alive
      exact absurd (liarsPlurality_eq_some.mp leads other different) (not_lt.mpr ahead)
  · intro living id player seated dead
    by_contra alone
    push Not at alone
    have voted : player ∈ room.votedOut := bind_eq_some_iff.mpr ⟨id, liarsPlurality_eq_some.mpr alone, seated⟩
    exact absurd (living player voted) (by simp [dead])

def fate (player : PlayerState) : Bool × Option LiarsDeathCause × Option Nat :=
  (player.alive, player.deathCause, player.deathRound)

theorem resolveTie_keeps (room : LiarsRoom) : (room.resolveTie ctx now).players.map fate = room.players.map fate ∧
    (room.resolveTie ctx now).lastEjectedName = room.lastEjectedName ∧
    (room.resolveTie ctx now).ejectedJesterId = room.ejectedJesterId ∧
    (room.resolveTie ctx now).crewEjections = room.crewEjections ∧
    (room.resolveTie ctx now).imposterEjections = room.imposterEjections := by
  rcases tells : room.narrate ctx .tie {} with ⟨line, told⟩
  obtain ⟨ids, rfl⟩ := narrate_keeps tells
  simp only [resolveTie, tells]
  split
  · refine ⟨?_, rfl, rfl, rfl, rfl⟩
    exact (map_map ..).trans rfl
  · exact ⟨rfl, rfl, rfl, rfl, rfl⟩

theorem countEjection_keeps (room : LiarsRoom) (role : LiarsRole) : ∃ crew imposter, crew + imposter =
      room.crewEjections + room.imposterEjections + (if room.mode = .imposter then 1 else 0) ∧
      room.countEjection role = { room with crewEjections := crew, imposterEjections := imposter } := by
  unfold countEjection
  by_cases imposter : room.mode = .imposter
  · simp only [imposter, ↓reduceIte]
    split
    · exact ⟨room.crewEjections, room.imposterEjections + 1, by omega, by rw [← imposter]⟩
    · exact ⟨room.crewEjections + 1, room.imposterEjections, by omega, by rw [← imposter]⟩
  · exact ⟨room.crewEjections, room.imposterEjections, by simp [imposter], by simp [imposter]⟩

theorem eject_does (room : LiarsRoom) {ejected : PlayerState} : (room.eject ctx ejected now).players = (room.kill ejected.id .ejected).players ∧
    (room.eject ctx ejected now).lastEjectedName = room.lastEjectedName ∧
    (room.eject ctx ejected now).ejectedJesterId = (if ejected.played = .jester then some ejected.id else room.ejectedJesterId) ∧
    (room.eject ctx ejected now).crewEjections + (room.eject ctx ejected now).imposterEjections =
      room.crewEjections + room.imposterEjections + if room.mode = .imposter then 1 else 0 := by
  unfold eject
  simp only
  generalize named : LiarsRoom.mk .. = dead
  obtain ⟨crew, imposter, counted, same⟩ := dead.countEjection_keeps ejected.played
  rw [same]
  rcases tells : narrate ctx _ _ _ with ⟨line, told⟩
  obtain ⟨ids, rfl⟩ := narrate_keeps tells
  subst named
  exact ⟨rfl, rfl, rfl, counted⟩

theorem fates_living {after : LiarsRoom} (kept : after.players.map fate = room.players.map fate) :
    after.living.length = room.living.length := by
  have counted (players : List PlayerState) :
      (players.filter (·.alive)).length = ((players.map fate).filter (·.1)).length := by
    rw [filter_map, length_map]
    rfl
  rw [living, counted, kept, ← counted, living]

theorem fates_deaths {before after : List PlayerState} (kept : before.map fate = after.map fate) : DeathsKept before after := by
  have equal : Forall₂ Eq (before.map fate) (after.map fate) := by
    rw [kept, List.forall₂_eq_eq_eq]
  refine (forall₂_map_right_iff.mp (List.forall₂_map_left_iff.mp equal)).imp fun old new same dead => ?_
  simp only [fate, Prod.mk.injEq] at same
  exact ⟨same.1 ▸ dead, same.2.1.symm, same.2.2.symm⟩

theorem resolveVote_nobody (voted : room.votedOut = none) : EjectsLiving room (room.resolveVote ctx now) := by
  have resolved : room.resolveVote ctx now = (room.declare none).resolveTie ctx now := by simp [resolveVote, voted]
  obtain ⟨fates, name, jester, crew, imposter⟩ := @resolveTie_keeps ctx now (room.declare none)
  have living := fates_living fates
  rw [resolved]
  exact {
    oneFlag := by
      rw [living, name]
      rfl
    deathsKept := fates_deaths fates.symm
    counted := fun _ => by
      rw [crew, imposter, living]
      rfl
    jester := fun id named => by
      rw [jester] at named
      cases named }

theorem eraseP_found {rows : List PlayerState} {which : PlayerState → Bool} {player : PlayerState}
    (found : rows.find? which = some player) (alive : player.alive) :
    ((rows.filter (·.alive)).eraseP which).length + 1 = (rows.filter (·.alive)).length := by
  have listed : player ∈ rows.filter (·.alive) := mem_filter.mpr ⟨mem_of_find?_eq_some found, alive⟩
  rw [List.length_eraseP_of_mem listed (find?_some found)]
  have := List.length_pos_of_mem listed
  omega

theorem living_kill_dead {id : Nat} {cause : LiarsDeathCause} {target : PlayerState} (found : room.player id = some target)
    (dead : target.alive = false) : (room.kill id cause).living = room.living :=
  filter_updateFirst_dropped (p := fun player : PlayerState => player.alive) (fun _ => rfl) found dead

theorem resolveVote_somebody {ejected : PlayerState} (voted : room.votedOut = some ejected) :
    EjectsLiving room (room.resolveVote ctx now) ↔ ejected.alive := by
  have resolved : room.resolveVote ctx now = (room.declare ejected).eject ctx ejected now := by simp [resolveVote, voted]
  obtain ⟨players, name, jester, counts⟩ := @eject_does ctx now (room.declare ejected) ejected
  obtain ⟨id, leads, seated⟩ := bind_eq_some_iff.mp voted
  cases player_id seated
  have survivors : ((room.declare ejected).eject ctx ejected now).living = (room.kill ejected.id .ejected).living :=
    congrArg (List.filter fun player : PlayerState => player.alive) players
  rw [resolved]
  constructor
  · intro ejects
    cases alive : ejected.alive with
    | true => rfl
    | false =>
      have flags := ejects.oneFlag
      rw [survivors, living_kill_dead seated alive, name] at flags
      simp [declare] at flags
  · intro alive
    have fewer : ((room.declare ejected).eject ctx ejected now).living.length + 1 = room.living.length := by
      rw [survivors, living_kill seated alive]
      exact eraseP_found seated alive
    exact {
      oneFlag := by
        rw [name]
        exact fewer
      deathsKept := by
        rw [players]
        exact forall₂_updateFirst (fun row dead => ⟨dead, rfl, rfl⟩) fun row found dead => by
          obtain rfl : row = ejected := some.inj (found.symm.trans seated)
          exact absurd (alive.symm.trans dead) (by simp)
      counted := fun imposter => by
        have mode : (room.declare ejected).mode = .imposter := imposter
        rw [counts, if_pos mode, ← fewer]
        change room.crewEjections + room.imposterEjections + 1 + _ = _
        omega
      jester := fun id named => by
        rw [jester] at named
        split at named
        · next role =>
          cases named
          refine ⟨ejected, mem_of_find?_eq_some seated, rfl, alive, ?_⟩
          cases dealt : ejected.role <;> simp_all [PlayerState.played]
        · cases named }

/-- Every vote ejects a living player or nobody, exactly when nobody dead has the most votes. -/
theorem resolveVote_ejectsLiving : EjectsLiving room (room.resolveVote ctx now) ↔ room.NoDeadLeads := by
  rw [noDeadLeads_iff]
  cases voted : room.votedOut with
  | none => exact iff_of_true (resolveVote_nobody voted) (by simp)
  | some => simpa using resolveVote_somebody voted

end LiarsRoom

def votedForLeaver : LiarsRoom :=
  let reads := (List.range 8).map fun tick => .read (.plain (20000 * (tick + 1))) (.token 0) none
  runFrom Command.apply (lobbyOf .mafia {} ["Ada", "Bo", "Cy", "Di", "Em"])
    (.byHost 2 1 (.start []) :: reads ++
      [.by 2 160001 2 (.castVote (some 6)), .by 4 160001 3 (.castVote (some 6)), .by 6 160002 4 .leave,
        .by 2 160003 5 .lockVote, .by 4 160003 6 .lockVote, .by 8 160003 7 .lockVote])

/-- The vote ejects the player who has left: nobody's flag is flipped, and how they died is
written over when the last ballot locks. -/
theorem leaverEjected_diesTwice :
    ¬ LiarsRoom.EjectsLiving votedForLeaver (votedForLeaver.resolveVote (.plain 160004) 160004) ∧
    (votedForLeaver.player 6).map (·.deathCause) = some (some .left) ∧
    (((Command.by 10 160004 8 .lockVote).apply votedForLeaver).player 6).map (·.deathCause) = some (some .ejected) :=
  ⟨fun ejects => absurd ejects.oneFlag (by decide +kernel), by decide +kernel, by decide +kernel⟩

end MilkAndHenny.Liars
